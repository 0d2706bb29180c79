import RelayTunnel.Http.ChunkReader

/-!
# The steps of a reader of chunks

`ChunkReader.Step` lists what an octet of framing can lead to, one constructor for each kind of octet, and
`octet_eq_ok_iff` says that these are all the steps a reader takes. What a step keeps is then proved by
cases on the kind of octet.
-/

set_option autoImplicit false

namespace RelayTunnel.Http

/-- The octet that introduces a chunk extension. -/
def semicolon : UInt8 := 0x3B

namespace ChunkReader

open Ascii (cr lf)

/-- The places of a size line at which the digits may be over. -/
def EndsDigits (place : ChunkPlace) : Prop := place = .size ∨ place = .sizeBlank

/-- The steps of a reader in framing. -/
inductive Step : ChunkReader → UInt8 → ChunkReader → Prop where
  | digit {size digit : Nat} {b : UInt8} : Ascii.hexValue? b = some digit →
      size * 16 + digit < chunkSizeBound → Step ⟨.size, size⟩ b ⟨.size, size * 16 + digit⟩
  | blank {place : ChunkPlace} {size : Nat} {b : UInt8} : EndsDigits place →
      Ascii.isBlank b = true → Step ⟨place, size⟩ b ⟨.sizeBlank, size⟩
  | semicolon {place : ChunkPlace} {size : Nat} : EndsDigits place →
      Step ⟨place, size⟩ semicolon ⟨.extension, size⟩
  | extension {size : Nat} {b : UInt8} : b ≠ cr → b ≠ lf →
      Step ⟨.extension, size⟩ b ⟨.extension, size⟩
  | sizeCr {place : ChunkPlace} {size : Nat} : EndsDigits place ∨ place = .extension →
      Step ⟨place, size⟩ cr ⟨.sizeLf, size⟩
  | sizeLf {size : Nat} :
      Step ⟨.sizeLf, size⟩ lf ⟨if size = 0 then .trailerStart else .data, size⟩
  | dataCr {size : Nat} : Step ⟨.dataCr, size⟩ cr ⟨.dataLf, size⟩
  | dataLf {size : Nat} : Step ⟨.dataLf, size⟩ lf ⟨.size, size⟩
  | trailer {place : ChunkPlace} {size : Nat} {b : UInt8} :
      place = .trailerStart ∨ place = .trailer → b ≠ cr → Step ⟨place, size⟩ b ⟨.trailer, size⟩
  | trailerCr {size : Nat} : Step ⟨.trailer, size⟩ cr ⟨.trailerLf, size⟩
  | trailerLf {size : Nat} : Step ⟨.trailerLf, size⟩ lf ⟨.trailerStart, size⟩
  | endCr {size : Nat} : Step ⟨.trailerStart, size⟩ cr ⟨.endLf, size⟩
  | endLf {size : Nat} : Step ⟨.endLf, size⟩ lf ⟨.done, size⟩

/-- A blank is no digit. -/
theorem hexValue?_of_isBlank {b : UInt8} (h : Ascii.isBlank b = true) :
    Ascii.hexValue? b = none := by
  simp only [Ascii.isBlank, Bool.or_eq_true, beq_iff_eq] at h
  rcases h with rfl | rfl
  · decide
  · decide

/-- What a size line goes on with when its digits are over. -/
theorem step_of_size {r r' : ChunkReader} {b : UInt8} (hplace : EndsDigits r.place)
    (h : (if Ascii.isBlank b then .ok (r.moveTo .sizeBlank)
      else if b == 0x3B then .ok (r.moveTo .extension)
      else if b == cr then .ok (r.moveTo .sizeLf)
      else .error (.unexpected b r.place) : Except ChunkFault ChunkReader) = .ok r') :
    Step r b r' := by
  obtain ⟨place, size⟩ := r
  split at h
  · next hblank =>
    obtain rfl := Except.ok.inj h
    exact .blank hplace hblank
  · split at h
    · next hsemicolon =>
      obtain rfl : b = semicolon := by simpa [semicolon] using hsemicolon
      obtain rfl := Except.ok.inj h
      exact .semicolon hplace
    · split at h
      · next hcr =>
        obtain rfl : b = cr := by simpa using hcr
        obtain rfl := Except.ok.inj h
        exact .sizeCr (.inl hplace)
      · cases h

/-- What a place goes on with where only one octet is acceptable. -/
theorem eq_of_only {r' next : ChunkReader} {b expected : UInt8} {fault : ChunkFault}
    (h : (if b == expected then .ok next else .error fault : Except ChunkFault ChunkReader) = .ok r') :
    b = expected ∧ next = r' := by
  split at h
  · next heq => exact ⟨by simpa using heq, Except.ok.inj h⟩
  · cases h

/-- What a reader accepts is a step. -/
theorem step_of_octet {r r' : ChunkReader} {b : UInt8} (h : r.octet b = .ok r') : Step r b r' := by
  obtain ⟨place, size⟩ := r
  cases place with
  | size =>
    simp only [octet] at h
    split at h
    · next digit hdigit =>
      split at h
      · next hfits =>
        obtain rfl := Except.ok.inj h
        exact .digit hdigit hfits
      · cases h
    · exact step_of_size (.inl rfl) h
  | sizeBlank =>
    simp only [octet] at h
    exact step_of_size (.inr rfl) h
  | extension =>
    simp only [octet] at h
    split at h
    · next hcr =>
      obtain rfl : b = cr := by simpa using hcr
      obtain rfl := Except.ok.inj h
      exact .sizeCr (.inr rfl)
    · next hcr =>
      split at h
      · cases h
      · next hlf =>
        obtain rfl := Except.ok.inj h
        exact .extension (by simpa using hcr) (by simpa using hlf)
  | sizeLf => obtain ⟨rfl, rfl⟩ := eq_of_only h; exact .sizeLf
  | dataCr => obtain ⟨rfl, rfl⟩ := eq_of_only h; exact .dataCr
  | dataLf => obtain ⟨rfl, rfl⟩ := eq_of_only h; exact .dataLf
  | trailerStart =>
    simp only [octet] at h
    split at h
    · next hcr =>
      obtain rfl : b = cr := by simpa using hcr
      obtain rfl := Except.ok.inj h
      exact .endCr
    · next hcr =>
      obtain rfl := Except.ok.inj h
      exact .trailer (.inl rfl) (by simpa using hcr)
  | trailer =>
    simp only [octet] at h
    split at h
    · next hcr =>
      obtain rfl : b = cr := by simpa using hcr
      obtain rfl := Except.ok.inj h
      exact .trailerCr
    · next hcr =>
      obtain rfl := Except.ok.inj h
      exact .trailer (.inr rfl) (by simpa using hcr)
  | trailerLf => obtain ⟨rfl, rfl⟩ := eq_of_only h; exact .trailerLf
  | endLf => obtain ⟨rfl, rfl⟩ := eq_of_only h; exact .endLf
  | data => cases h
  | done => cases h

/-- A step is accepted. -/
theorem octet_of_step {r r' : ChunkReader} {b : UInt8} (h : Step r b r') : r.octet b = .ok r' := by
  cases h with
  | digit hdigit hfits => simp [octet, hdigit, hfits]
  | blank hplace hblank =>
    rcases hplace with rfl | rfl
    · simp [octet, hexValue?_of_isBlank hblank, hblank, moveTo]
    · simp [octet, hblank]
  | semicolon hplace => rcases hplace with rfl | rfl <;> rfl
  | extension hcr hlf => simp [octet, hcr, hlf]
  | sizeCr hplace => rcases hplace with (rfl | rfl) | rfl <;> rfl
  | trailer hplace hcr => rcases hplace with rfl | rfl <;> simp [octet, hcr, moveTo]
  | sizeLf | dataCr | dataLf | trailerCr | trailerLf | endCr | endLf => rfl

/-- A reader accepts an octet of framing exactly if there is a step for it. -/
theorem octet_eq_ok_iff {r r' : ChunkReader} {b : UInt8} : r.octet b = .ok r' ↔ Step r b r' :=
  ⟨step_of_octet, octet_of_step⟩

/-- Framing leads into a chunk only behind a size that is not zero. -/
theorem remaining_pos_of_octet {r r' : ChunkReader} {b : UInt8} (h : r.octet b = .ok r')
    (hdata : r'.place = .data) : 0 < r'.remaining := by
  cases step_of_octet h with
  | @sizeLf size =>
    -- a size of zero announces the trailer
    refine Nat.pos_of_ne_zero fun hzero => ?_
    simp only at hzero hdata
    rw [if_pos hzero] at hdata
    cases hdata
  | _ => cases hdata

end ChunkReader

end RelayTunnel.Http
