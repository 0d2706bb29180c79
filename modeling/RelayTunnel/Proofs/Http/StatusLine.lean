import RelayTunnel.Proofs.Http.HeadRoundTrip

/-!
# How a response head begins

What a scanner has found says what stood in the buffer: an octet, a literal, three digits. A response head
without blank lines in front thus begins with its version and the three digits of its status, and with a
space or a line end behind them (`takeResponse_statusLine`).
-/

set_option autoImplicit false

namespace RelayTunnel.Http

namespace Scan

variable {ε : Type}

/-- An expected octet stood in front. -/
theorem expect_eq_found {p : UInt8 → Bool} {fault : ε} {input rest : Bytes} {b : UInt8}
    (h : expect p fault input = .found b rest) : input = b :: rest ∧ p b = true := by
  obtain ⟨c, between, hoctet, hread⟩ := bind_eq_found h
  cases input with
  | nil => cases hoctet
  | cons c' input =>
    obtain ⟨rfl, rfl⟩ := Scanned.found.inj hoctet
    split at hread
    · next hc =>
      obtain ⟨rfl, rfl⟩ := Scanned.found.inj hread
      exact ⟨rfl, hc⟩
    · cases hread

end Scan

namespace HeadSyntax

open Ascii (cr lf space)

variable {input rest : Bytes}

/-- A given octet stood in front. -/
theorem exactly_eq_found {b : UInt8} {f : HeadFault} (h : exactly b f input = .found () rest) :
    input = b :: rest := by
  obtain ⟨c, between, hread, hend⟩ := Scan.bind_eq_found h
  obtain ⟨-, rfl⟩ := Scanned.found.inj hend
  obtain ⟨rfl, hc⟩ := Scan.expect_eq_found hread
  rw [eq_of_beq hc]

/-- A given text stood in front. -/
theorem literal_eq_found {f : HeadFault} {bs : Bytes} (h : literal f bs input = .found () rest) :
    input = bs ++ rest := by
  induction bs generalizing input with
  | nil =>
    obtain ⟨-, rfl⟩ := Scanned.found.inj h
    rfl
  | cons b bs ih =>
    obtain ⟨_, between, hfirst, hmore⟩ := Scan.bind_eq_found h
    rw [exactly_eq_found hfirst, ih hmore, List.cons_append]

/-- A version stood in front, with the digit found. -/
theorem version_eq_found {minor : Nat} (h : version input = .found minor rest) :
    ∃ digit, (digit = 0x30 ∨ digit = 0x31) ∧ minor = digit.toNat - 0x30 ∧
      input = Ascii.bytes "HTTP/1." ++ digit :: rest := by
  obtain ⟨_, between, hliteral, hmore⟩ := Scan.bind_eq_found h
  obtain ⟨digit, behind, hdigit, hend⟩ := Scan.bind_eq_found hmore
  obtain ⟨hminor, rfl⟩ := Scanned.found.inj hend
  obtain ⟨rfl, hone⟩ := Scan.expect_eq_found hdigit
  exact ⟨digit, by simpa using hone, hminor.symm, literal_eq_found hliteral⟩

/-- A digit of the status stood in front. -/
theorem statusDigit_eq_found {digit : Nat} (h : statusDigit input = .found digit rest) :
    digit < 10 ∧ input = Text.hexDigit digit :: rest := by
  obtain ⟨b, between, hread, hend⟩ := Scan.bind_eq_found h
  obtain ⟨rfl, rfl⟩ := Scanned.found.inj hend
  obtain ⟨rfl, hdigit⟩ := Scan.expect_eq_found hread
  have hbounds : 0x30 ≤ b.toNat ∧ b.toNat ≤ 0x39 := by
    simpa [Ascii.isDigit, UInt8.le_iff_toNat_le] using hdigit
  have hsmall : b.toNat - 0x30 < 10 := by omega
  have hoctet : b = Text.hexDigit (b.toNat - 0x30) := by
    apply UInt8.toNat_inj.mp
    rw [Text.toNat_hexDigit hsmall]
    omega
  exact ⟨hsmall, congrArg (· :: between) hoctet⟩

/-- A status is written as three digits, whatever the first of them is. -/
theorem statusCode_eq_found {code : Nat} (h : statusCode input = .found code rest) :
    input = [Text.hexDigit (code / 100), Text.hexDigit (code / 10 % 10), Text.hexDigit (code % 10)]
      ++ rest := by
  obtain ⟨hundreds, input₁, hread₁, hmore₁⟩ := Scan.bind_eq_found h
  obtain ⟨tens, input₂, hread₂, hmore₂⟩ := Scan.bind_eq_found hmore₁
  obtain ⟨ones, input₃, hread₃, hend⟩ := Scan.bind_eq_found hmore₂
  obtain ⟨rfl, rfl⟩ := Scanned.found.inj hend
  obtain ⟨hhundreds, rfl⟩ := statusDigit_eq_found hread₁
  obtain ⟨htens, rfl⟩ := statusDigit_eq_found hread₂
  obtain ⟨hones, rfl⟩ := statusDigit_eq_found hread₃
  have h₁ : (hundreds * 100 + tens * 10 + ones) / 100 = hundreds := by omega
  have h₂ : (hundreds * 100 + tens * 10 + ones) / 10 % 10 = tens := by omega
  have h₃ : (hundreds * 100 + tens * 10 + ones) % 10 = ones := by omega
  rw [h₁, h₂, h₃]
  rfl

/-- Behind a status stands a space or a line end. -/
theorem reasonPhrase_eq_found {phrase : Bytes} (h : reasonPhrase input = .found phrase rest) :
    ∃ ending more, input = ending :: more ∧ (ending = space ∨ ending = cr ∨ ending = lf) := by
  obtain ⟨b, more, hoctet, hread⟩ := Scan.bind_eq_found h
  cases input with
  | nil => cases hoctet
  | cons c input =>
    obtain ⟨rfl, rfl⟩ := Scanned.found.inj hoctet
    refine ⟨c, input, rfl, ?_⟩
    split at hread
    · next hspace => exact Or.inl (eq_of_beq hspace)
    split at hread
    · next hcr => exact Or.inr (Or.inl (eq_of_beq hcr))
    split at hread
    · next hlf => exact Or.inr (Or.inr (eq_of_beq hlf))
    · cases hread

end HeadSyntax

open Ascii (cr lf space)

/-- A status has the code it was made from. -/
theorem Status.code_of_ofNat? {code : Nat} {status : Status} (h : Status.ofNat? code = some status) :
    status.code = code := by
  rw [ofNat?] at h
  split at h
  · rw [← Option.some.inj h]
  · cases h

/-- A response head has the code that was read. -/
theorem ResponseHead.code_of_ofParts {parts : HeadSyntax.ResponseParts} {head : ResponseHead}
    (h : ofParts parts = .ok head) : head.status.code = parts.code := by
  rw [ofParts] at h
  cases hstatus : Status.ofNat? parts.code with
  | none => rw [hstatus] at h; cases h
  | some status =>
    rw [hstatus] at h
    rw [← Except.ok.inj h]
    exact Status.code_of_ofNat? hstatus

/-- How a head begins that has no blank lines in front: with its version, its status and a space or a line
end. -/
theorem takeResponse_statusLine {head : Bytes} {taken : Taken ResponseHead}
    (h : takeResponse head = .ok (some taken)) (hmark : Ascii.bytes "HTTP/" <+: head) :
    ∃ digit ending more, (digit = 0x30 ∨ digit = 0x31) ∧
      (ending = space ∨ ending = cr ∨ ending = lf) ∧
      head = Ascii.bytes "HTTP/1." ++ [digit] ++ space ::
        (Text.decimalBytes taken.head.status.code ++ ending :: more) := by
  obtain ⟨parts, hscan, hbuild, -⟩ := takeHead_eq_some h
  have hcode := ResponseHead.code_of_ofParts hbuild
  obtain ⟨_, input₁, hblank, hmore₁⟩ := Scan.bind_eq_found hscan
  obtain ⟨minor, input₂, hversion, hmore₂⟩ := Scan.bind_eq_found hmore₁
  obtain ⟨_, input₃, hspace, hmore₃⟩ := Scan.bind_eq_found hmore₂
  obtain ⟨code, input₄, hstatus, hmore₄⟩ := Scan.bind_eq_found hmore₃
  obtain ⟨phrase, input₅, hphrase, hmore₅⟩ := Scan.bind_eq_found hmore₄
  obtain ⟨fields, input₆, -, hend⟩ := Scan.bind_eq_found hmore₅
  obtain ⟨hparts, -⟩ := Scanned.found.inj hend
  have hinput : input₁ = head := by
    obtain ⟨behind, rfl⟩ := hmark
    exact (Scanned.found.inj hblank).2.symm
  obtain ⟨digit, hdigit, -, rfl⟩ := HeadSyntax.version_eq_found hversion
  obtain ⟨ending, more, rfl, hending⟩ := HeadSyntax.reasonPhrase_eq_found hphrase
  refine ⟨digit, ending, more, hdigit, hending, ?_⟩
  rw [← hinput, HeadSyntax.exactly_eq_found hspace, HeadSyntax.statusCode_eq_found hstatus,
    HeadSyntax.decimalBytes_code taken.head.status.three_digits, hcode, ← hparts]
  simp

end RelayTunnel.Http
