import RelayTunnel.Proofs.Http.ChunkGrammar

/-!
# Reading the lines of a chunked body

What a reader makes of one line of framing, whatever stands behind it. The digits of a size line add up
to the size they spell, and blanks and an extension behind them change nothing, so every size line that
states a size leads to the same place (`skipFraming_sizeLine`). Trailer lines lead back to where they
began (`skipFraming_trailers`).

Each lemma takes the octets of the line off the front of a buffer. They compose by rewriting, from left to
right, in the order in which a body is written.
-/

set_option autoImplicit false

namespace RelayTunnel.Http

open Ascii (cr lf crlf)

/-! ## Digits -/

/-- Digits may be read in two parts. -/
theorem sizeFrom_append (size : Nat) (front behind : Bytes) :
    sizeFrom size (front ++ behind) = sizeFrom (sizeFrom size front) behind :=
  List.foldl_append

/-- Digits never make a size smaller. -/
theorem le_sizeFrom (size : Nat) (digits : Bytes) : size ≤ sizeFrom size digits := by
  induction digits generalizing size with
  | nil => exact Nat.le_refl size
  | cons b digits ih =>
    have hmore := ih (size * 16 + (Ascii.hexValue? b).getD 0)
    calc size ≤ size * 16 + (Ascii.hexValue? b).getD 0 := by omega
      _ ≤ sizeFrom size (b :: digits) := hmore

namespace ChunkReader

/-- An octet that is accepted is skipped. -/
theorem skipFraming_of_step {r r' : ChunkReader} {b : UInt8} (h : Step r b r') (behind : Bytes) :
    r.skipFraming (b :: behind) = r'.skipFraming behind := by
  have hoctet := octet_of_step h
  have hplace : ¬ (r.place = .data ∨ r.place = .done) := by
    rintro (hdata | hdone)
    · simp [octet, hdata] at hoctet
    · simp [octet, hdone] at hoctet
  exact BodyReader.skipFraming_of_ok hplace hoctet behind

/-- The digits of a size are read one by one, as long as they state a size below the bound. -/
theorem skipFraming_digits {size : Nat} {digits : Bytes} (hhex : ∀ b ∈ digits, isHexDigit b = true)
    (hfits : sizeFrom size digits < chunkSizeBound) (behind : Bytes) :
    skipFraming ⟨.size, size⟩ (digits ++ behind) =
      skipFraming ⟨.size, sizeFrom size digits⟩ behind := by
  induction digits generalizing size with
  | nil => rfl
  | cons b digits ih =>
    have hb : isHexDigit b = true := hhex b (by simp)
    obtain ⟨digit, hdigit⟩ := Option.isSome_iff_exists.mp hb
    rw [sizeFrom_cons hdigit] at hfits ⊢
    have hsize : size * 16 + digit < chunkSizeBound := by
      have hle := le_sizeFrom (size * 16 + digit) digits
      omega
    have hmore : ∀ c ∈ digits, isHexDigit c = true := fun c hc => hhex c (by simp [hc])
    rw [List.cons_append, skipFraming_of_step (.digit hdigit hsize)]
    exact ih hmore hfits

/-! ## Size lines -/

/-- Octets that a reader stays in place for are skipped. -/
theorem skipFraming_staying {r : ChunkReader} {octets : Bytes} (hstay : ∀ b ∈ octets, Step r b r)
    (behind : Bytes) : r.skipFraming (octets ++ behind) = r.skipFraming behind := by
  induction octets with
  | nil => rfl
  | cons b octets ih =>
    have hmore : ∀ c ∈ octets, Step r c r := fun c hc => hstay c (by simp [hc])
    rw [List.cons_append, skipFraming_of_step (hstay b (by simp)), ih hmore]

/-- Blanks may lead on to another place, but the digits are over at either. -/
theorem skipFraming_blanks {blanks : Bytes} (hblanks : ∀ b ∈ blanks, Ascii.isBlank b = true)
    (size : Nat) :
    ∃ place, EndsDigits place ∧ ∀ behind,
      skipFraming ⟨.size, size⟩ (blanks ++ behind) = skipFraming ⟨place, size⟩ behind := by
  cases blanks with
  | nil => exact ⟨.size, .inl rfl, fun _ => rfl⟩
  | cons b blanks =>
    have hmore : ∀ c ∈ blanks, Step ⟨.sizeBlank, size⟩ c ⟨.sizeBlank, size⟩ :=
      fun c hc => .blank (.inr rfl) (hblanks c (by simp [hc]))
    refine ⟨.sizeBlank, .inr rfl, fun behind => ?_⟩
    rw [List.cons_append, skipFraming_of_step (.blank (.inl rfl) (hblanks b (by simp))),
      skipFraming_staying hmore]

/-- The end of a size line leads to the payload, or to the trailer if the size is zero. -/
theorem skipFraming_lineEnd {place : ChunkPlace} {size : Nat}
    (hplace : EndsDigits place ∨ place = .extension) (behind : Bytes) :
    skipFraming ⟨place, size⟩ (crlf ++ behind) =
      skipFraming ⟨if size = 0 then .trailerStart else .data, size⟩ behind := by
  have hline : crlf ++ behind = cr :: lf :: behind := rfl
  rw [hline, skipFraming_of_step (.sizeCr hplace), skipFraming_of_step .sizeLf]

/-- Whatever stands between the digits and the line end changes nothing. -/
theorem skipFraming_tail (tail : LineTail) (size : Nat) (behind : Bytes) :
    skipFraming ⟨.size, size⟩ (tail.octets ++ (crlf ++ behind)) =
      skipFraming ⟨if size = 0 then .trailerStart else .data, size⟩ behind := by
  obtain ⟨place, hplace, hskip⟩ := skipFraming_blanks tail.blanks_blank size
  rw [LineTail.octets, List.append_assoc, hskip]
  cases hextension : tail.extension with
  | none => exact skipFraming_lineEnd (.inl hplace) behind
  | some text =>
    have hstay : ∀ b ∈ text, Step ⟨.extension, size⟩ b ⟨.extension, size⟩ := by
      intro b hb
      obtain ⟨hcr, hlf⟩ := tail.extension_plain text (by simp [hextension]) b hb
      exact .extension hcr hlf
    rw [Option.map_some, Option.getD_some, List.cons_append,
      skipFraming_of_step (.semicolon hplace), skipFraming_staying hstay,
      skipFraming_lineEnd (.inr rfl)]

/-- A size line leads into a chunk of the size it states, or to the trailer. -/
theorem skipFraming_sizeLine (line : SizeLine) (behind : Bytes) :
    start.skipFraming (line.octets ++ behind) =
      skipFraming ⟨if line.size = 0 then .trailerStart else .data, line.size⟩ behind := by
  have hline : line.octets ++ behind = line.digits ++ (line.tail.octets ++ (crlf ++ behind)) := by
    simp [SizeLine.octets]
  rw [hline, start, skipFraming_digits line.digits_hex line.fits, skipFraming_tail]
  rfl

/-- The line end behind chunk data leads back to where the chunk began. -/
theorem skipFraming_dataEnd (behind : Bytes) :
    skipFraming ⟨.dataCr, 0⟩ (crlf ++ behind) = start.skipFraming behind := by
  have hline : crlf ++ behind = cr :: lf :: behind := rfl
  rw [hline, skipFraming_of_step .dataCr, skipFraming_of_step .dataLf, start]

/-! ## Behind the last chunk -/

/-- A line of the trailer is skipped. -/
theorem skipFraming_trailerLine (line : TrailerLine) (size : Nat) (behind : Bytes) :
    skipFraming ⟨.trailerStart, size⟩ (line.octets ++ behind) =
      skipFraming ⟨.trailerStart, size⟩ behind := by
  obtain ⟨text, htext, hplain⟩ := line
  obtain ⟨b, text, rfl⟩ := List.exists_cons_of_ne_nil htext
  have hstay : ∀ c ∈ text, Step ⟨.trailer, size⟩ c ⟨.trailer, size⟩ :=
    fun c hc => .trailer (.inr rfl) (hplain c (by simp [hc]))
  have hline : TrailerLine.octets ⟨b :: text, htext, hplain⟩ ++ behind =
      b :: (text ++ (cr :: lf :: behind)) := by
    simp [TrailerLine.octets, crlf]
  rw [hline, skipFraming_of_step (.trailer (.inl rfl) (hplain b (by simp))),
    skipFraming_staying hstay, skipFraming_of_step .trailerCr, skipFraming_of_step .trailerLf]

/-- So are all lines of the trailer. -/
theorem skipFraming_trailers (lines : List TrailerLine) (size : Nat) (behind : Bytes) :
    skipFraming ⟨.trailerStart, size⟩ (lines.flatMap TrailerLine.octets ++ behind) =
      skipFraming ⟨.trailerStart, size⟩ behind := by
  induction lines with
  | nil => rfl
  | cons line lines ih =>
    rw [List.flatMap_cons, List.append_assoc, skipFraming_trailerLine, ih]

/-- An empty line ends the body. -/
theorem skipFraming_bodyEnd (size : Nat) (behind : Bytes) :
    skipFraming ⟨.trailerStart, size⟩ (crlf ++ behind) = ⟨⟨.done, size⟩, behind, none⟩ := by
  have hline : crlf ++ behind = cr :: lf :: behind := rfl
  have hdone : (ChunkReader.mk .done size).place = .done := rfl
  rw [hline, skipFraming_of_step .endCr, skipFraming_of_step .endLf,
    BodyReader.skipFraming_of_stop (.inr hdone)]

end ChunkReader

end RelayTunnel.Http
