import RelayTunnel.Proofs.Text.Utf8
import RelayTunnel.Url.Host

/-!
# What hosts are made of

A host in normal form is written with visible characters of ASCII only, whatever the url held. For a
domain name this comes from two places: what stands for itself in it passed the check for forbidden
characters (`visible_ofLabels?`), and Punycode adds letters, digits and hyphens (`visible_encode`). A label
that arrives in Punycode is read and written again, which brings no new character of ASCII (`mem_decode?`).
-/

set_option autoImplicit false

namespace RelayTunnel.Url

/-- The characters of ASCII that are neither controls nor spaces. -/
def IsVisible (c : Char) : Prop := 0x20 < c.toNat ∧ c.toNat < 0x7F

instance (c : Char) : Decidable (IsVisible c) := inferInstanceAs (Decidable (_ ∧ _))

/-- A text of visible characters. -/
def Visible (cs : List Char) : Prop := ∀ c ∈ cs, IsVisible c

instance (cs : List Char) : Decidable (Visible cs) := List.decidableBAll IsVisible cs

namespace Visible

/-- An empty text is visible. -/
theorem nil : Visible [] := by
  intro c hc
  cases hc

/-- Two visible texts make one. -/
theorem append {front behind : List Char} (hfront : Visible front) (hbehind : Visible behind) :
    Visible (front ++ behind) := List.forall_mem_append.mpr ⟨hfront, hbehind⟩

/-- So do a character and a text. -/
theorem cons {c : Char} {cs : List Char} (hc : IsVisible c) (hcs : Visible cs) : Visible (c :: cs) :=
  List.forall_mem_cons.mpr ⟨hc, hcs⟩

/-- One visible character is a visible text. -/
theorem singleton {c : Char} (hc : IsVisible c) : Visible [c] := cons hc nil

/-- Visible parts with a visible separator between them are visible. -/
theorem intercalate {separator : List Char} {parts : List (List Char)} (hseparator : Visible separator)
    (hparts : ∀ part ∈ parts, Visible part) : Visible (List.intercalate separator parts) := by
  induction parts with
  | nil => exact nil
  | cons part parts ih =>
    obtain ⟨hpart, hmore⟩ := List.forall_mem_cons.mp hparts
    cases parts with
    | nil => rwa [List.intercalate_singleton]
    | cons next more =>
      rw [List.intercalate_cons_cons]
      exact (hpart.append hseparator).append (ih hmore)

end Visible

/-! ## Addresses -/

/-- A decimal digit is visible. -/
theorem isVisible_decimalDigit {digit : Nat} (h : digit < 10) : IsVisible (Char.ofNat (0x30 + digit)) :=
  (by decide : ∀ d : Fin 10, IsVisible (Char.ofNat (0x30 + d))) ⟨digit, h⟩

/-- A decimal numeral is visible. -/
theorem visible_decimalChars (n : Nat) : Visible (Text.decimalChars n) := by
  fun_induction Text.decimalChars n with
  | case1 n h => exact .singleton (isVisible_decimalDigit h)
  | case2 n _ ih => exact ih.append (.singleton (isVisible_decimalDigit (Nat.mod_lt n (by decide))))

/-- An address of four numbers is visible. -/
theorem visible_ipv4Chars (value : Nat) : Visible (ipv4Chars value) := by
  have hpart (i : Nat) := visible_decimalChars (value / Nat.pow 256 i % 256)
  have hdot : Visible ['.'] := .singleton (by decide)
  exact ((((((hpart 3).append hdot).append (hpart 2)).append hdot).append (hpart 1)).append hdot).append
    (hpart 0)

/-- A hexadecimal digit is visible. -/
theorem isVisible_hexDigit {digit : Nat} (h : digit < 16) :
    IsVisible (Char.ofNat (Text.hexDigit digit).toNat) :=
  (by decide : ∀ d : Fin 16, IsVisible (Char.ofNat (Text.hexDigit d).toNat)) ⟨digit, h⟩

/-- A hexadecimal numeral is visible. -/
theorem visible_hexBytes (n : Nat) : Visible ((Text.hexBytes n).map fun b => Char.ofNat b.toNat) := by
  fun_induction Text.hexBytes n with
  | case1 n h => exact .singleton (isVisible_hexDigit h)
  | case2 n _ ih =>
    rw [List.map_append]
    exact ih.append (.singleton (isVisible_hexDigit (Nat.mod_lt n (by decide))))

/-- Pieces with colons between them are visible. -/
theorem visible_joinPieces (pieces : List Nat) : Visible (joinPieces pieces) :=
  .intercalate (.singleton (by decide)) (List.forall_mem_map.mpr fun n _ => visible_hexBytes n)

/-- An address of eight pieces is visible. -/
theorem visible_ipv6Chars (pieces : List Nat) : Visible (ipv6Chars pieces) := by
  unfold ipv6Chars
  dsimp only
  split
  · exact visible_joinPieces _
  · exact ((visible_joinPieces _).append (.cons (by decide) (.singleton (by decide)))).append
      (visible_joinPieces _)

/-- A host in brackets is visible. -/
theorem visible_bracketedHost {text host : List Char} (h : bracketedHost text = .ok host) :
    Visible host := by
  unfold bracketedHost at h
  split at h
  · cases hpieces : ipv6? (text.drop 1).dropLast with
    | error fault => rw [hpieces] at h; cases h
    | ok pieces =>
      rw [hpieces] at h
      cases h
      exact (((Visible.singleton (by decide)).append (visible_ipv6Chars pieces)).append
        (.singleton (by decide)))
  · cases h

/-! ## Punycode -/

namespace Punycode

/-- A digit of an encoded label is visible. -/
theorem isVisible_digitChar {digit : Nat} (h : digit < 36) : IsVisible (digitChar digit) :=
  (by decide : ∀ d : Fin 36, IsVisible (digitChar d)) ⟨digit, h⟩

/-- The digits of a difference are visible. -/
theorem visible_digits (q k bias : Nat) : Visible (digits q k bias) := by
  fun_induction digits q k bias with
  | case1 q k h =>
    have hle := threshold_le k bias
    exact .singleton (isVisible_digitChar (by omega))
  | case2 q k h t ih =>
    have hle : t ≤ 26 := threshold_le k bias
    have hmod : (q - t) % (base - t) < base - t := Nat.mod_lt _ (by unfold base; omega)
    unfold base at hmod
    exact .cons (isVisible_digitChar (by unfold base; omega)) ih

/-- Passing a character leaves what was written visible. -/
theorem visible_pass {s : Encoder} (h : Visible s.out) (n : Nat) (c : Char) :
    Visible (s.pass n c).out := by
  unfold Encoder.pass
  split
  · exact h
  split
  · exact h.append (visible_digits _ _ _)
  · exact h

/-- So does passing a whole label. -/
theorem visible_foldl_pass {s : Encoder} (h : Visible s.out) (n : Nat) (label : List Char) :
    Visible (label.foldl (Encoder.pass n) s).out := by
  induction label generalizing s with
  | nil => exact h
  | cons c label ih => exact ih (visible_pass h n c)

/-- So do all rounds. -/
theorem visible_rounds {label : List Char} {s : Encoder} (h : Visible s.out) (n : Nat)
    (points : List Nat) : Visible (rounds label s n points).out := by
  induction points generalizing s n with
  | nil => exact h
  | cons m more ih =>
    rw [rounds]
    refine ih ?_ (m + 1)
    exact visible_foldl_pass (s := { s with delta := s.delta + (m - n) * (s.handled + 1) }) h m label

/-- A label in Punycode is visible if what it holds of ASCII is. -/
theorem visible_encode {label : List Char} (h : ∀ c ∈ label, c.toNat < 0x80 → IsVisible c) :
    Visible (encode label) := by
  have hbasic : Visible (label.filter fun c => c.toNat < initialCodePoint) := by
    intro c hc
    obtain ⟨hmem, hsmall⟩ := List.mem_filter.mp hc
    exact h c hmem (of_decide_eq_true hsmall)
  refine visible_rounds ?_ _ _
  dsimp only
  split
  · exact .nil
  · exact hbasic.append (.singleton (by decide))

/-- What is inserted into a text lies beyond ASCII. -/
theorem mem_insertions {output plain cs : List Char} {n i bias : Nat} (hn : 0x80 ≤ n)
    (h : insertions output n i bias cs = some plain) :
    ∀ c ∈ plain, c ∈ output ∨ 0x80 ≤ c.toNat := by
  fun_induction insertions output n i bias cs with
  | case1 => cases h; exact fun c hc => .inl hc
  | case2 => cases h
  | case3 output n i bias cs _ j rest hread points bias' n' position hvalid ih =>
    have hn' : 0x80 ≤ n' := Nat.le_trans hn (Nat.le_add_right _ _)
    intro c hc
    rcases ih hn' h c hc with hc | hc
    · simp only [List.mem_append, List.mem_singleton] at hc
      rcases hc with (hc | rfl) | hc
      · exact .inl (List.mem_of_mem_take hc)
      · right
        rwa [Text.Utf8.toNat_charOf hvalid]
      · exact .inl (List.mem_of_mem_drop hc)
    · exact .inr hc
  | case4 => cases h

/-- What a label holds of ASCII stands in its Punycode as well. -/
theorem mem_decode? {code plain : List Char} (h : decode? code = some plain) :
    ∀ c ∈ plain, c ∈ code ∨ 0x80 ≤ c.toNat := by
  rw [decode?] at h
  dsimp only at h
  split at h
  next k _ =>
    split at h
    · exact fun c hc => (mem_insertions (Nat.le_refl _) h c hc).imp_left List.mem_of_mem_take
    · cases h
  next =>
    split at h
    · exact fun c hc => (mem_insertions (Nat.le_refl _) h c hc).imp_left List.not_mem_nil.elim
    · cases h

end Punycode

/-! ## Domain names -/

/-- Whatever `mapM` gives, it gives for an element of the list. -/
theorem mem_of_mapM {α β : Type} {f : α → Option β} {xs : List α} {ys : List β}
    (h : xs.mapM f = some ys) : ∀ y ∈ ys, ∃ x ∈ xs, f x = some y := by
  induction xs generalizing ys with
  | nil =>
    cases h
    exact fun y hy => absurd hy List.not_mem_nil
  | cons x xs ih =>
    simp only [List.mapM_cons, Option.bind_eq_bind, Option.bind_eq_some_iff, Option.pure_def,
      Option.some.injEq] at h
    obtain ⟨first, hfirst, more, hmore, rfl⟩ := h
    intro y hy
    rcases List.mem_cons.mp hy with rfl | hy
    · exact ⟨x, List.mem_cons_self, hfirst⟩
    · obtain ⟨x', hx', hy'⟩ := ih hmore y hy
      exact ⟨x', List.mem_cons_of_mem _ hx', hy'⟩

/-- What is in a part is in the parts together. -/
theorem mem_intercalate_of_mem {separator part : List Char} {parts : List (List Char)}
    (hpart : part ∈ parts) {c : Char} (hc : c ∈ part) : c ∈ List.intercalate separator parts := by
  induction parts with
  | nil => cases hpart
  | cons first parts ih =>
    cases parts with
    | nil => rwa [List.intercalate_singleton, ← List.mem_singleton.mp hpart]
    | cons next more =>
      rw [List.intercalate_cons_cons, List.mem_append, List.mem_append]
      rcases List.mem_cons.mp hpart with rfl | hmore
      · exact .inl (.inl hc)
      · exact .inr (ih hmore)

/-- What is in a part of a cut text is in the text. -/
theorem mem_of_mem_splitOn {separator c : Char} {cs part : List Char} (hpart : part ∈ cs.splitOn separator)
    (hc : c ∈ part) : c ∈ cs := by
  have hmem : c ∈ List.intercalate [separator] (cs.splitOn separator) := mem_intercalate_of_mem hpart hc
  rwa [List.intercalate_splitOn] at hmem

namespace Domain

/-- A character that is allowed in a host is visible, if it is ASCII. -/
theorem isVisible_of_not_isForbidden {c : Char} (h : isForbidden c = false) (hascii : c.toNat < 0x80) :
    IsVisible c := by
  simp only [isForbidden, Bool.or_eq_false_iff, decide_eq_false_iff_not, beq_eq_false_iff_ne] at h
  unfold IsVisible
  omega

/-- What a plain label holds of ASCII stands in the label it was read from. -/
theorem mem_plainLabel? {label plain : List Char} (h : plainLabel? label = some plain) :
    ∀ c ∈ plain, c.toNat < 0x80 → c ∈ label := by
  intro c hc hascii
  unfold plainLabel? at h
  split at h
  · dsimp only at h
    split at h
    · cases h
    cases hread : Punycode.decode? (label.drop 4) with
    | none => rw [hread] at h; cases h
    | some read =>
      rw [hread] at h
      dsimp only at h
      split at h
      · cases h
        rcases Punycode.mem_decode? hread c hc with hmem | hlarge
        · exact List.mem_of_mem_drop hmem
        · omega
      · cases h
  · split at h
    · cases h
      exact hc
    · cases h

/-- A label that was written is visible, if its characters of ASCII were. -/
theorem visible_asciiLabel? {label written : List Char} (h : asciiLabel? label = some written)
    (hlabel : ∀ c ∈ label, c.toNat < 0x80 → IsVisible c) : Visible written := by
  unfold asciiLabel? at h
  split at h
  · next hascii =>
    cases h
    exact fun c hc => hlabel c hc (of_decide_eq_true (List.all_eq_true.mp hascii c hc))
  split at h
  · cases h
  · cases h
    have hmark : Visible acePrefix := by decide
    exact hmark.append (Punycode.visible_encode hlabel)

/-- So is a name, if its labels have only what is allowed in a host. -/
theorem visible_ofLabels? {labels : List (List Char)} {name : List Char} (h : ofLabels? labels = some name)
    (hlabels : ∀ label ∈ labels, ∀ c ∈ label, isForbidden c = false) : Visible name := by
  simp only [ofLabels?, Option.bind_eq_bind, Option.bind_eq_some_iff] at h
  obtain ⟨plain, hplain, h⟩ := h
  split at h
  · cases h
  simp only [Option.bind_eq_some_iff, Option.pure_def, Option.some.injEq] at h
  obtain ⟨ascii, hascii, rfl⟩ := h
  refine .intercalate (.singleton (by decide)) fun written hwritten => ?_
  -- a label is written from a plain one, and that was read from a label of the name
  obtain ⟨label, hlabel, hwrite⟩ := mem_of_mapM hascii written hwritten
  obtain ⟨source, hsource, hread⟩ := mem_of_mapM hplain label hlabel
  refine visible_asciiLabel? hwrite fun c hc hsmall => ?_
  exact isVisible_of_not_isForbidden (hlabels source hsource c (mem_plainLabel? hread c hc hsmall)) hsmall

/-- A host name that was accepted is visible. -/
theorem visible_toAscii {octets : Bytes} {name : List Char} (h : toAscii octets = .ok name) :
    Visible name := by
  unfold toAscii at h
  dsimp only at h
  split at h
  next hname =>
    cases h
    simp only [Option.bind_eq_bind, Option.bind_eq_some_iff] at hname
    obtain ⟨cs, _, mapped, _, hname⟩ := hname
    split at hname
    · cases hname
    next hallowed =>
      refine visible_ofLabels? hname fun label hlabel c hc => ?_
      have hmem := mem_of_mem_splitOn hlabel hc
      simpa using fun hforbidden => hallowed (List.any_eq_true.mpr ⟨c, hmem, hforbidden⟩)
  next => cases h

end Domain

/-! ## Hosts -/

/-- Steps that succeed together succeed one by one. -/
theorem exists_of_bind {α β : Type} {first : Except UrlFault α} {next : α → Except UrlFault β} {result : β}
    (h : first >>= next = .ok result) : ∃ value, first = .ok value ∧ next value = .ok result := by
  cases first with
  | error fault => cases h
  | ok value => exact ⟨value, rfl, h⟩

/-- The host of a url of a known scheme is visible. -/
theorem visible_knownHost {text host : List Char} (h : knownHost text = .ok host) : Visible host := by
  unfold knownHost at h
  split at h
  · exact visible_bracketedHost h
  obtain ⟨name, hname, h⟩ := exists_of_bind h
  split at h
  · cases h
  split at h
  · cases hvalue : ipv4? name with
    | error fault => rw [hvalue] at h; cases h
    | ok value =>
      rw [hvalue] at h
      cases h
      exact visible_ipv4Chars value
  · cases h
    exact Domain.visible_toAscii hname

end RelayTunnel.Url
