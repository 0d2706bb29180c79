import RelayTunnel.Json.Writer
import RelayTunnel.Proofs.Text.Numerals
import RelayTunnel.Proofs.Text.Utf8

/-!
# Reading back written JSON: strings

`Reads` says what a reader takes off the front of its input. A string is read octet by octet: what is written
for one octet, escaped or not, is read as that octet, with anything behind it (`reads_escaped`).
-/

set_option autoImplicit false

namespace RelayTunnel.Json

variable {α β : Type}

/-- The reader gives the value and leaves the rest. -/
def Reads (reader : Reader α) (input : Bytes) (value : α) (rest : Bytes) : Prop :=
  ∃ h, reader input = .ok ⟨value, rest, h⟩

namespace Reads

variable {input rest : Bytes}

/-- A reader that takes nothing leaves everything. -/
theorem pure (value : α) (input : Bytes) : Reads (Pure.pure value : Reader α) input value input :=
  ⟨Nat.le_refl _, rfl⟩

/-- Two readers read one after the other. -/
theorem bind {first : Reader α} {next : α → Reader β} {value : α} {result : β} {middle : Bytes}
    (hfirst : Reads first input value middle) (hnext : Reads (next value) middle result rest) :
    Reads (first >>= next) input result rest := by
  obtain ⟨h, hfirst⟩ := hfirst
  obtain ⟨h', hnext⟩ := hnext
  refine ⟨Nat.le_trans h' h, ?_⟩
  change Reader.bind first next input = _
  simp only [Reader.bind, hfirst, hnext]

/-- Where a condition holds, its reader reads. -/
theorem of_if {c : Prop} [Decidable c] {yes no : Reader α} {value : α} (hc : c)
    (h : Reads yes input value rest) : Reads (if c then yes else no) input value rest := by
  rwa [if_pos hc]

/-- Where it does not hold, the other one reads. -/
theorem of_else {c : Prop} [Decidable c] {yes no : Reader α} {value : α} (hc : ¬ c)
    (h : Reads no input value rest) : Reads (if c then yes else no) input value rest := by
  rwa [if_neg hc]

/-- To look at an octet leaves it there. -/
theorem peek (b : UInt8) (more : Bytes) : Reads Reader.peek (b :: more) (some b) (b :: more) :=
  ⟨Nat.le_refl _, rfl⟩

/-- An octet is taken. -/
theorem advance (b : UInt8) (more : Bytes) : Reads (Reader.advance 1) (b :: more) () more :=
  ⟨Nat.le_succ _, rfl⟩

/-- An octet that is not blank is the next token. -/
theorem token {b : UInt8} (h : Reader.isBlank b = false) (more : Bytes) :
    Reads Reader.token (b :: more) (some b) (b :: more) := by
  have hblank : Reads (Reader.takeWhile Reader.isBlank) (b :: more) [] (b :: more) :=
    ⟨Nat.le_refl _, by simp [Reader.takeWhile, h]⟩
  exact .bind hblank (.peek b more)

/-- A given octet is taken. -/
theorem exactly (b : UInt8) (more : Bytes) : Reads (Json.exactly b) (b :: more) () more :=
  .bind (.peek b more) (.of_if (beq_self_eq_true b) (.advance b more))

/-- A given text is taken. -/
theorem literal (bs more : Bytes) : Reads (Json.literal bs) (bs ++ more) () more := by
  induction bs with
  | nil => exact .pure () more
  | cons b bs ih => exact .bind (.exactly b _) ih

/-- A repetition whose step gives a result is over. -/
theorem repeat_over {σ : Type} {step : σ → Reader (σ ⊕ α)} {state : σ} {result : α}
    (h : Reads (step state) input (.inr result) rest) :
    Reads (Reader.repeatUntil step state) input result rest := by
  obtain ⟨hless, h⟩ := h
  refine ⟨hless, ?_⟩
  rw [Reader.repeatUntil, h]

/-- A reader that is repeated goes on from the state of its last step. -/
theorem repeat_on {σ : Type} {step : σ → Reader (σ ⊕ α)} {state next : σ} {result : α} {middle : Bytes}
    (h : Reads (step state) input (.inl next) middle) (hshorter : middle.length < input.length)
    (hmore : Reads (Reader.repeatUntil step next) middle result rest) :
    Reads (Reader.repeatUntil step state) input result rest := by
  obtain ⟨_, h⟩ := h
  obtain ⟨hless, hmore⟩ := hmore
  refine ⟨Nat.le_trans hless (Nat.le_of_lt hshorter), ?_⟩
  rw [Reader.repeatUntil, h]
  simp only [hmore, dif_pos hshorter]

end Reads

/-! ## Escapes -/

/-- The letter of a short escape stands for the octet that is written with it. -/
theorem lookup_of_escapeLetter? {b letter : UInt8} (h : escapeLetter? b = some letter) :
    shortEscapes.lookup letter = some b := by
  unfold escapeLetter? at h
  split at h
  · next hmark =>
    cases h
    rcases Bool.or_eq_true_iff.mp hmark with hb | hb
    · rw [eq_of_beq hb]
      decide
    · rw [eq_of_beq hb]
      decide
  split at h
  · have hall : (shortEscapes.all fun e => shortEscapes.lookup e.1 == some e.2) = true := by decide
    obtain ⟨e, he, rfl⟩ := Option.map_eq_some_iff.mp h
    have hb : e.2 = b := by simpa using List.find?_some he
    rw [← hb]
    exact eq_of_beq (List.all_eq_true.mp hall e (List.mem_of_find?_eq_some he))
  · cases h

/-- Four digits spell an octet. -/
theorem reads_hex4 (b : UInt8) (more : Bytes) :
    Reads hex4 (0x30 :: 0x30 :: Text.hexDigit (b.toNat / 16) :: Text.hexDigit (b.toNat % 16) :: more)
      b.toNat more := by
  have hb : b.toNat < 256 := b.toNat_lt
  have hzero : Ascii.hexValue? 0x30 = some 0 := by decide
  have hvalue : ((0 * 16 + 0) * 16 + b.toNat / 16) * 16 + b.toNat % 16 = b.toNat := by omega
  refine ⟨by simp; omega, ?_⟩
  simp only [hex4, hzero, Text.hexValue?_hexDigit (show b.toNat / 16 < 16 by omega),
    Text.hexValue?_hexDigit (show b.toNat % 16 < 16 by omega), hvalue]

/-- A short escape is read as its octet. -/
theorem reads_shortEscape {b letter : UInt8} (h : shortEscapes.lookup letter = some b) (more : Bytes) :
    Reads (escape false) (letter :: more) [b] more := by
  refine .bind (.peek letter more) (.bind (.advance letter more) ?_)
  rw [h]
  exact .pure [b] more

/-- An escape by number is read as its octet. -/
theorem reads_numberEscape {b : UInt8} (h : b < 0x20) (more : Bytes) :
    Reads (escape false) (0x75 :: 0x30 :: 0x30 :: Text.hexDigit (b.toNat / 16)
      :: Text.hexDigit (b.toNat % 16) :: more) [b] more := by
  have hsmall : b.toNat < 0x20 := UInt8.lt_iff_toNat_lt.mp h
  have hletter : shortEscapes.lookup 0x75 = none := by decide
  have hvalue : Text.Utf8.encode [Char.ofNat b.toNat] = [b] := by
    have hvalue : (Char.ofNat b.toNat).toNat = b.toNat := Text.Utf8.toNat_charOf (.inl (by omega))
    rw [Text.Utf8.encode_of_ascii (by simp [hvalue]; omega)]
    simp [hvalue]
  refine .bind (.peek 0x75 _) (.bind (.advance 0x75 _) ?_)
  rw [hletter]
  refine .of_if (by decide) (.of_else (by decide) (.bind (reads_hex4 b more) ?_))
  refine .of_else (by omega) (.of_if (by omega) ?_)
  rw [hvalue]
  exact .pure [b] more

/-! ## Strings -/

section

variable {input middle octets value rest : Bytes}

/-- A quote ends a string. -/
theorem reads_end (rest : Bytes) : Reads (stringOctets false) (quote :: rest) [] rest := by
  refine ⟨Nat.le_succ _, ?_⟩
  rw [stringOctets, if_pos (beq_self_eq_true quote)]

/-- An escape stands in front of the rest of a string. -/
theorem reads_behind_escape (hescape : Reads (escape false) input octets middle)
    (h : Reads (stringOctets false) middle value rest) :
    Reads (stringOctets false) (backslash :: input) (octets ++ value) rest := by
  obtain ⟨hless, hescape⟩ := hescape
  obtain ⟨hless', h⟩ := h
  refine ⟨Nat.le_succ_of_le (Nat.le_trans hless' hless), ?_⟩
  rw [stringOctets, if_neg (by decide), if_pos (by decide)]
  simp only [hescape, h]

/-- Any other octet stands for itself. -/
theorem reads_behind_plain {b : UInt8} (hquote : b ≠ quote) (hbackslash : b ≠ backslash)
    (hcontrol : ¬ b < 0x20) (h : Reads (stringOctets false) input value rest) :
    Reads (stringOctets false) (b :: input) (b :: value) rest := by
  obtain ⟨hless, h⟩ := h
  refine ⟨Nat.le_succ_of_le hless, ?_⟩
  rw [stringOctets, if_neg (by simpa using hquote), if_neg (by simpa using hbackslash), if_neg hcontrol]
  simp only [h]

/-- What is written for an octet of a string is read as that octet. -/
theorem reads_escaped (b : UInt8) (h : Reads (stringOctets false) input value rest) :
    Reads (stringOctets false) (escaped b ++ input) (b :: value) rest := by
  unfold escaped
  split
  · next letter hletter =>
    exact reads_behind_escape (reads_shortEscape (lookup_of_escapeLetter? hletter) input) h
  split
  · next hcontrol => exact reads_behind_escape (reads_numberEscape hcontrol input) h
  · next hplain hcontrol =>
    refine reads_behind_plain ?_ ?_ hcontrol h
    · rintro rfl
      exact absurd hplain (by decide)
    · rintro rfl
      exact absurd hplain (by decide)

/-- Octets that were escaped are read again. -/
theorem reads_escapedOctets (octets rest : Bytes) :
    Reads (stringOctets false) (octets.flatMap escaped ++ quote :: rest) octets rest := by
  induction octets with
  | nil => exact reads_end rest
  | cons b octets ih =>
    rw [List.flatMap_cons, List.append_assoc]
    exact reads_escaped b ih

end

/-- The rest of a string, behind its quote, is read again. -/
theorem reads_stringTail (s : String) (rest : Bytes) :
    Reads stringTail ((Text.Utf8.ofString s).flatMap escaped ++ quote :: rest) s rest := by
  refine .bind (reads_escapedOctets _ rest) ?_
  rw [Text.Utf8.toString?_ofString]
  exact .pure s rest

/-- A string that was written begins with a quote. -/
theorem writeString_append (s : String) (rest : Bytes) :
    writeString s ++ rest = quote :: ((Text.Utf8.ofString s).flatMap escaped ++ quote :: rest) := by
  simp [writeString]

/-- A string that was written is read again. -/
theorem reads_string (s : String) (rest : Bytes) : Reads string (writeString s ++ rest) s rest := by
  rw [writeString_append]
  exact .bind (.token (by decide) _) (.of_if (by decide) (.bind (.advance quote _) (reads_stringTail s rest)))

end RelayTunnel.Json
