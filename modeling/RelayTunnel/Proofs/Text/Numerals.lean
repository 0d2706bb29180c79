import RelayTunnel.Text.Numeral
import RelayTunnel.Text.Blank
import RelayTunnel.Proofs.Text.Utf8

/-!
# Decimal numerals

A numeral is written digit by digit, the last digit last (`decimalBytes_of_ge`). It holds digits only, its
first digit is not zero unless it is the only one, and it has no more digits than it needs. What is written
is read again as the same number (`unsigned?_decimalChars`); text with anything else in it behind a digit is
no numeral.
-/

set_option autoImplicit false

namespace RelayTunnel

/-- What stands in front is kept when nothing in it is to be dropped. -/
theorem trimBoth_append {α : Type} {p : α → Bool} {front : List α} (hne : front ≠ [])
    (hfront : ∀ a ∈ front, p a = false) (behind : List α) :
    trimBoth p (front ++ behind) = front ++ (behind.reverse.dropWhile p).reverse := by
  obtain ⟨a, front', rfl⟩ := List.exists_cons_of_ne_nil hne
  have hstart : (a :: front' ++ behind).dropWhile p = a :: front' ++ behind := by
    rw [List.cons_append, List.dropWhile_cons_of_neg (by simp [hfront a])]
  have hend : (a :: front').reverse.dropWhile p = (a :: front').reverse := by
    obtain ⟨z, others, hcons⟩ := List.exists_cons_of_ne_nil (List.reverse_ne_nil_iff.mpr hne)
    have hz : z ∈ a :: front' := List.mem_reverse.mp (by rw [hcons]; exact List.mem_cons_self)
    rw [hcons, List.dropWhile_cons_of_neg (by simp [hfront z hz])]
  rw [trimBoth, hstart, List.reverse_append, List.dropWhile_append]
  split
  · next hnothing =>
    rw [hend, List.reverse_reverse, List.isEmpty_iff.mp hnothing, List.reverse_nil, List.append_nil]
  · rw [List.reverse_append, List.reverse_reverse]

namespace Text

/-- The digit of a number has its value. -/
theorem hexValue?_hexDigit {digit : Nat} (h : digit < 16) :
    Ascii.hexValue? (hexDigit digit) = some digit := by
  have hall : ∀ d : Fin 16, Ascii.hexValue? (hexDigit d) = some d.val := by decide
  exact hall ⟨digit, h⟩

/-- A digit below ten is a decimal one. -/
theorem isDigit_hexDigit {digit : Nat} (h : digit < 10) : Ascii.isDigit (hexDigit digit) = true := by
  have hall : ∀ d : Fin 10, Ascii.isDigit (hexDigit d) = true := by decide
  exact hall ⟨digit, h⟩

/-- A decimal digit stands so far behind the digit zero. -/
theorem toNat_hexDigit {digit : Nat} (h : digit < 10) : (hexDigit digit).toNat = 0x30 + digit := by
  have hall : ∀ d : Fin 10, (hexDigit d).toNat = 0x30 + d.val := by decide
  exact hall ⟨digit, h⟩

/-- A digit is the same as a character and as an octet. -/
theorem octet_of_digit {digit : Nat} (h : digit < 10) :
    (Char.ofNat (0x30 + digit)).toNat.toUInt8 = hexDigit digit := by
  have hall : ∀ d : Fin 10, (Char.ofNat (0x30 + d)).toNat.toUInt8 = hexDigit d := by decide
  exact hall ⟨digit, h⟩

/-- A number below ten is its digit. -/
theorem decimalBytes_of_lt {n : Nat} (h : n < 10) : decimalBytes n = [hexDigit n] := by
  rw [decimalBytes, decimalChars, if_pos h, List.map_singleton, octet_of_digit h]

/-- Any other number is its tenth and then its last digit. -/
theorem decimalBytes_of_ge {n : Nat} (h : 10 ≤ n) :
    decimalBytes n = decimalBytes (n / 10) ++ [hexDigit (n % 10)] := by
  have hdigit : n % 10 < 10 := Nat.mod_lt n (by decide)
  rw [decimalBytes, decimalChars, if_neg (by omega), List.map_append, List.map_singleton,
    octet_of_digit hdigit, decimalBytes]

/-- A numeral has decimal digits only. -/
theorem isDigit_of_mem_decimalBytes (n : Nat) : ∀ b ∈ decimalBytes n, Ascii.isDigit b = true := by
  induction n using decimalChars.induct with
  | case1 n h =>
    rw [decimalBytes_of_lt h]
    simp [isDigit_hexDigit h]
  | case2 n h ih =>
    rw [decimalBytes_of_ge (by omega)]
    intro b hb
    rcases List.mem_append.mp hb with hb | hb
    · exact ih b hb
    · rw [List.mem_singleton.mp hb]
      exact isDigit_hexDigit (by omega)

/-- A numeral has at least one digit. -/
theorem decimalBytes_ne_nil (n : Nat) : decimalBytes n ≠ [] := by
  rcases Nat.lt_or_ge n 10 with h | h
  · simp [decimalBytes_of_lt h]
  · simp [decimalBytes_of_ge h]

/-- A numeral does not begin with a zero unless it is one. -/
theorem head?_decimalBytes {n : Nat} (h : 0 < n) : (decimalBytes n).head? ≠ some 0x30 := by
  induction n using decimalChars.induct with
  | case1 n hsmall =>
    have hall : ∀ d : Fin 10, 0 < d.val → hexDigit d ≠ 0x30 := by decide
    simpa [decimalBytes_of_lt hsmall] using hall ⟨n, hsmall⟩ h
  | case2 n hlarge ih =>
    have hfront := ih (by omega)
    obtain ⟨first, others, hcons⟩ := List.exists_cons_of_ne_nil (decimalBytes_ne_nil (n / 10))
    rw [hcons] at hfront
    rw [decimalBytes_of_ge (by omega), hcons]
    simpa using hfront

/-- A number has no more digits than the power of ten it is below. -/
theorem length_decimalChars_le {n k : Nat} (h : n < Nat.pow 10 (k + 1)) :
    (decimalChars n).length ≤ k + 1 := by
  induction k generalizing n with
  | zero =>
    rw [decimalChars, if_pos (by simpa using h)]
    simp
  | succ k ih =>
    rw [decimalChars]
    split
    · simp
    · have hfront : n / 10 < Nat.pow 10 (k + 1) := by
        have hpower : Nat.pow 10 (k + 1 + 1) = Nat.pow 10 (k + 1) * 10 := rfl
        omega
      have hshorter := ih hfront
      rw [List.length_append, List.length_singleton]
      omega

/-! ## Reading -/

/-- A digit is read as its value. -/
theorem digitValue?_digit {digit : Nat} (h : digit < 10) :
    digitValue? (Char.ofNat (0x30 + digit)) = some digit := by
  have hall : ∀ d : Fin 10, digitValue? (Char.ofNat (0x30 + d)) = some d.val := by decide
  exact hall ⟨digit, h⟩

/-- Digits may be read in two parts. -/
theorem decimalFrom?_append (value : Nat) (front behind : List Char) :
    decimalFrom? value (front ++ behind) = (decimalFrom? value front).bind (decimalFrom? · behind) := by
  induction front generalizing value with
  | nil => rfl
  | cons c front ih =>
    rw [List.cons_append, decimalFrom?, decimalFrom?]
    cases digitValue? c with
    | none => rfl
    | some digit => exact ih (value * 10 + digit)

/-- Anything but a digit in a text keeps it from being a numeral. -/
theorem decimalFrom?_eq_none {cs : List Char} {c : Char} (hc : c ∈ cs) (h : digitValue? c = none)
    (value : Nat) : decimalFrom? value cs = none := by
  obtain ⟨front, behind, rfl⟩ := List.append_of_mem hc
  rw [decimalFrom?_append]
  cases decimalFrom? value front with
  | none => rfl
  | some value' => rw [Option.bind_some, decimalFrom?, h, Option.bind_none]

/-- A numeral is read as the number it was made from. -/
theorem decimalFrom?_decimalChars (n : Nat) : decimalFrom? 0 (decimalChars n) = some n := by
  induction n using decimalChars.induct with
  | case1 n h =>
    rw [decimalChars, if_pos h, decimalFrom?, digitValue?_digit h, Option.bind_some, decimalFrom?]
    simp
  | case2 n h ih =>
    have hvalue : n / 10 * 10 + n % 10 = n := Nat.div_add_mod' n 10
    rw [decimalChars, if_neg h, decimalFrom?_append, ih, Option.bind_some, decimalFrom?,
      digitValue?_digit (Nat.mod_lt n (by decide)), Option.bind_some, decimalFrom?, hvalue]

/-- Every character of a numeral is a digit. -/
theorem isSome_digitValue?_of_mem {n : Nat} : ∀ c ∈ decimalChars n, (digitValue? c).isSome = true := by
  intro c hc
  cases h : digitValue? c with
  | some digit => rfl
  | none =>
    have hnone := decimalFrom?_eq_none hc h 0
    rw [decimalFrom?_decimalChars] at hnone
    cases hnone

/-- A numeral has at least one character. -/
theorem decimalChars_ne_nil (n : Nat) : decimalChars n ≠ [] := by
  intro h
  refine decimalBytes_ne_nil n ?_
  rw [decimalBytes, h, List.map_nil]

/-- A text that begins with a digit has no sign in front. -/
theorem unsigned?_of_digit {c : Char} (h : (digitValue? c).isSome = true) (cs : List Char) (bound : Nat) :
    unsigned? bound (c :: cs) = (decimalFrom? 0 (c :: cs)).filter (· < bound) := by
  have hc : c ≠ '+' := by
    rintro rfl
    cases h
  rw [unsigned?, decimal?]
  · exact nofun
  · rintro rest ⟨rfl, -⟩
    exact hc rfl

/-- A numeral is read as the number, if it is below the bound. -/
theorem unsigned?_decimalChars {n bound : Nat} (h : n < bound) :
    unsigned? bound (decimalChars n) = some n := by
  obtain ⟨c, cs, hcons⟩ := List.exists_cons_of_ne_nil (decimalChars_ne_nil n)
  have hc := isSome_digitValue?_of_mem c (by rw [hcons]; exact List.mem_cons_self)
  rw [hcons, unsigned?_of_digit hc, ← hcons, decimalFrom?_decimalChars]
  simp [h]

/-- Digits with something else behind them are no numeral. -/
theorem unsigned?_decimalChars_append {n bound : Nat} {c : Char} (hc : digitValue? c = none)
    (cs : List Char) : unsigned? bound (decimalChars n ++ c :: cs) = none := by
  obtain ⟨digit, digits, hcons⟩ := List.exists_cons_of_ne_nil (decimalChars_ne_nil n)
  have hdigit := isSome_digitValue?_of_mem digit (by rw [hcons]; exact List.mem_cons_self)
  rw [hcons, List.cons_append, unsigned?_of_digit hdigit, decimalFrom?_eq_none (by simp) hc]
  rfl

/-! ## Numerals in a text -/

/-- Digits are characters of ASCII and no white space. -/
theorem bounds_of_digitValue? {c : Char} (h : (digitValue? c).isSome = true) :
    0x30 ≤ c.toNat ∧ c.toNat ≤ 0x39 := by
  rw [digitValue?] at h
  split at h
  · next hbounds => simpa [Char.le_def, UInt32.le_iff_toNat_le] using hbounds
  · cases h

/-- A digit is not blank. -/
theorem isBlank_of_digitValue? {c : Char} (h : (digitValue? c).isSome = true) : isBlank c = false := by
  have hbounds := bounds_of_digitValue? h
  simp only [isBlank, Bool.or_eq_false_iff, Bool.and_eq_false_iff, decide_eq_false_iff_not,
    beq_eq_false_iff_ne]
  omega

/-- A numeral has one octet for each of its digits. -/
theorem encode_decimalChars (n : Nat) : Utf8.encode (decimalChars n) = decimalBytes n := by
  refine Utf8.encode_of_ascii fun c hc => ?_
  have hbounds := bounds_of_digitValue? (isSome_digitValue?_of_mem c hc)
  omega

/-- A numeral in front of a text stays when the text is trimmed. -/
theorem trim_decimalChars_append (n : Nat) (more : List Char) :
    trim (decimalChars n ++ more) = decimalChars n ++ (more.reverse.dropWhile isBlank).reverse :=
  trimBoth_append (decimalChars_ne_nil n)
    (fun c hc => isBlank_of_digitValue? (isSome_digitValue?_of_mem c hc)) more

end Text

end RelayTunnel
