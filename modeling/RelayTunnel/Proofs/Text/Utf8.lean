import RelayTunnel.Text.Utf8

/-!
# Reading back what is written in UTF-8

The octets of a character are read as that character, with anything behind them (`next_encodeChar`), and so
a text is read back from its octets (`decode?_encode`). A character of ASCII is a single octet.
-/

set_option autoImplicit false

namespace RelayTunnel.Text.Utf8

/-- A character has the number it was made from. -/
theorem toNat_charOf {n : Nat} (h : n.isValidChar) : (Char.ofNat n).toNat = n := by
  rw [Char.ofNat, dif_pos h]
  rfl

/-- The octets of two texts stand one behind the other. -/
theorem encode_append (front behind : List Char) :
    encode (front ++ behind) = encode front ++ encode behind := List.flatMap_append

/-- So do those of two strings. -/
theorem ofString_append (front behind : String) :
    ofString (front ++ behind) = ofString front ++ ofString behind := by
  rw [ofString, String.toList_append, encode_append, ofString, ofString]

/-- A character of ASCII has one octet, its number. -/
theorem encodeChar_of_ascii {c : Char} (h : c.toNat < 0x80) :
    String.utf8EncodeChar c = [c.toNat.toUInt8] := by
  have hsmall : c.val.toNat ≤ 127 := by
    rw [Char.toNat_val]
    omega
  unfold String.utf8EncodeChar
  rw [if_pos hsmall]
  rfl

/-- So has every character of a text that is ASCII. -/
theorem encode_of_ascii {cs : List Char} (h : ∀ c ∈ cs, c.toNat < 0x80) :
    encode cs = cs.map fun c => c.toNat.toUInt8 := by
  induction cs with
  | nil => rfl
  | cons c cs ih =>
    obtain ⟨hc, hcs⟩ := List.forall_mem_cons.mp h
    have hmore := ih hcs
    simp only [encode] at hmore
    simp [encode, encodeChar_of_ascii hc, hmore]

/-- One continuation octet more. -/
theorem tails_cons {value read more : Nat} {low high b : UInt8} (rest : Bytes)
    (hlow : low.toNat ≤ b.toNat) (hhigh : b.toNat ≤ high.toNat) :
    tails value read (more + 1) low high (b :: rest) =
      tails (value * 64 + b.toNat % 64) (read + 1) more 0x80 0xBF rest := by
  rw [tails, if_pos]
  simp [UInt8.le_iff_toNat_le, hlow, hhigh]

/-- A first octet that announces more, with the bounds of the second. -/
theorem next_of_lead {b : UInt8} {more : Nat} {low high : UInt8} (rest : Bytes)
    (h : lead? b = some (more, low, high)) :
    next b rest = tails (leadBits b more) 1 more low high rest := by
  have hb : ¬ b < 0x80 := by
    intro hsmall
    have hnone : b < 0xC2 := UInt8.lt_of_lt_of_le hsmall (by decide)
    rw [lead?, if_pos hnone] at h
    cases h
  rw [next, if_neg hb, h]

/-- The first of two octets holds five bits of a character. -/
theorem leadBits_one (b : UInt8) : leadBits b 1 = b.toNat % 32 := rfl

/-- The first of three holds four. -/
theorem leadBits_two (b : UInt8) : leadBits b 2 = b.toNat % 16 := rfl

/-- The first of four holds three. -/
theorem leadBits_three (b : UInt8) : leadBits b 3 = b.toNat % 8 := rfl

/-- Octets from 0xC2 to 0xDF announce one more. -/
theorem lead?_of_two {b : UInt8} (hlow : 0xC2 ≤ b.toNat) (hhigh : b.toNat < 0xE0) :
    lead? b = some (1, 0x80, 0xBF) := by
  rw [lead?, if_neg (by simp [UInt8.lt_iff_toNat_lt]; omega),
    if_pos (by simp [UInt8.lt_iff_toNat_lt]; omega)]

/-- From 0xE0 to 0xEF they announce two more, within bounds that leave out surrogates and what is written
shorter. -/
theorem lead?_of_three {b : UInt8} (hlow : 0xE0 ≤ b.toNat) (hhigh : b.toNat < 0xF0) :
    lead? b = some (2, if b.toNat = 0xE0 then 0xA0 else 0x80, if b.toNat = 0xED then 0x9F else 0xBF) := by
  have hall : ∀ d : Fin 16, lead? (UInt8.ofNat (0xE0 + d)) = some (2,
      if (UInt8.ofNat (0xE0 + d)).toNat = 0xE0 then 0xA0 else 0x80,
      if (UInt8.ofNat (0xE0 + d)).toNat = 0xED then 0x9F else 0xBF) := by decide
  have hb := hall ⟨b.toNat - 0xE0, by omega⟩
  rwa [Nat.add_sub_cancel' hlow, UInt8.ofNat_toNat] at hb

/-- From 0xF0 to 0xF4 they announce three more, within bounds that leave out what is too large or written
shorter. -/
theorem lead?_of_four {b : UInt8} (hlow : 0xF0 ≤ b.toNat) (hhigh : b.toNat ≤ 0xF4) :
    lead? b = some (3, if b.toNat = 0xF0 then 0x90 else 0x80, if b.toNat = 0xF4 then 0x8F else 0xBF) := by
  have hall : ∀ d : Fin 5, lead? (UInt8.ofNat (0xF0 + d)) = some (3,
      if (UInt8.ofNat (0xF0 + d)).toNat = 0xF0 then 0x90 else 0x80,
      if (UInt8.ofNat (0xF0 + d)).toNat = 0xF4 then 0x8F else 0xBF) := by decide
  have hb := hall ⟨b.toNat - 0xF0, by omega⟩
  rwa [Nat.add_sub_cancel' hlow, UInt8.ofNat_toNat] at hb

/-- The octets of a character are read as that character. -/
theorem next_encodeChar (c : Char) (rest : Bytes) : ∃ b more, String.utf8EncodeChar c = b :: more ∧
    next b (more ++ rest) = .char c (more.length + 1) := by
  have hvalid : c.toNat < 0xD800 ∨ 0xDFFF < c.toNat ∧ c.toNat < 0x110000 := c.valid
  have hc : Char.ofNat c.toNat = c := Char.ofNat_toNat c
  have hoctet : ∀ n, n < 256 → (UInt8.ofNat n).toNat = n := fun n => UInt8.toNat_ofNat_of_lt'
  -- an octet that goes on holds six bits of the character
  have hlast : ∀ n, (UInt8.ofNat (n % 64 + 128)).toNat = n % 64 + 128 := fun n => hoctet _ (by omega)
  unfold String.utf8EncodeChar
  rw [Char.toNat_val]
  generalize c.toNat = v at hvalid hc ⊢
  dsimp only
  split
  · next hone =>
    refine ⟨_, _, rfl, ?_⟩
    have hb := hoctet v (by omega)
    rw [next, if_pos (by simp [UInt8.lt_iff_toNat_lt, hb]; omega), hb, hc]
    rfl
  split
  · next hone htwo =>
    have hb := hoctet (v / 64 % 32 + 192) (by omega)
    have hvalue : (v / 64 % 32 + 192) % 32 * 64 + (v % 64 + 128) % 64 = v := by omega
    refine ⟨_, _, rfl, ?_⟩
    rw [next_of_lead _ (lead?_of_two (by omega) (by omega)), leadBits_one, hb, List.singleton_append,
      tails_cons _ (by simp; omega) (by simp; omega), hlast, hvalue, tails, hc]
    rfl
  split
  · next hone htwo hthree =>
    have hb := hoctet (v / 4096 % 16 + 224) (by omega)
    have hvalue : ((v / 4096 % 16 + 224) % 16 * 64 + (v / 64 % 64 + 128) % 64) * 64
        + (v % 64 + 128) % 64 = v := by omega
    refine ⟨_, _, rfl, ?_⟩
    rw [next_of_lead _ (lead?_of_three (by omega) (by omega)), leadBits_two, hb, List.cons_append,
      List.singleton_append, tails_cons _ (by simp; split <;> simp <;> omega)
        (by simp; split <;> simp <;> omega),
      tails_cons _ (by simp; omega) (by simp; omega), hlast, hlast, hvalue, tails, hc]
    rfl
  · next hone htwo hthree =>
    have hb := hoctet (v / 262144 % 8 + 240) (by omega)
    have hvalue : (((v / 262144 % 8 + 240) % 8 * 64 + (v / 4096 % 64 + 128) % 64) * 64
        + (v / 64 % 64 + 128) % 64) * 64 + (v % 64 + 128) % 64 = v := by omega
    refine ⟨_, _, rfl, ?_⟩
    rw [next_of_lead _ (lead?_of_four (by omega) (by omega)), leadBits_three, hb, List.cons_append,
      List.cons_append, List.singleton_append,
      tails_cons _ (by simp; split <;> simp <;> omega)
        (by simp; split <;> simp <;> omega),
      tails_cons _ (by simp; omega) (by simp; omega),
      tails_cons _ (by simp; omega) (by simp; omega), hlast, hlast, hlast, hvalue, tails, hc]
    rfl

/-- A text is read off the front of any octets as it was written. -/
theorem decode?_encode_append (cs : List Char) (rest : Bytes) :
    decode? (encode cs ++ rest) = (decode? rest).map (cs ++ ·) := by
  induction cs with
  | nil => rw [encode, List.flatMap_nil, List.nil_append]; exact Option.map_id_apply.symm
  | cons c cs ih =>
    obtain ⟨b, more, hoctets, hnext⟩ := next_encodeChar c (encode cs ++ rest)
    have hencode : encode (c :: cs) ++ rest = b :: (more ++ (encode cs ++ rest)) := by
      simp [encode, List.flatMap_cons, hoctets]
    have hmore : (more ++ (encode cs ++ rest)).drop (more.length + 1 - 1) = encode cs ++ rest :=
      List.drop_left
    rw [hencode, decode?, hnext]
    dsimp only
    rw [hmore, ih, Option.map_map]
    rfl

/-- A text is read back from its octets. -/
theorem decode?_encode (cs : List Char) : decode? (encode cs) = some cs := by
  have h := decode?_encode_append cs []
  rwa [List.append_nil, decode?, Option.map_some, List.append_nil] at h

/-- The octets of a string are read as that string. -/
theorem toString?_ofString (s : String) : toString? (ofString s) = some s := by
  simp [toString?, ofString, decode?_encode]

end RelayTunnel.Text.Utf8
