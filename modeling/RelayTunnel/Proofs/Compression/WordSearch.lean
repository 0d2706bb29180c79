import RelayTunnel.Compression.ContentCoding

/-!
# Searching for a coding as a whole word

`ContentCoding.select?` cuts a text into words and asks each of them whether it names a coding. What it finds
is said here without words: `OccursAt` says that a name stands at a position of the text, in any casing, and
that the characters next to it, if there are any, are no part of it. At most one coding occurs at a position,
because the name is then the whole run of word characters there (`occursAt_iff`). A word in front of a
separator answers for the positions up to the separator, and what is behind the separator is searched by
itself (`occursAt_append_cons`). Going from word to word thus comes to the same as going from position to
position (`select?_eq_leftmost`).
-/

set_option autoImplicit false

namespace RelayTunnel.Compression.ContentCoding

/-- An ASCII letter of either case, a digit or an underscore. -/
def IsOfWord (c : Char) : Prop :=
  ('a' ≤ c ∧ c ≤ 'z') ∨ ('A' ≤ c ∧ c ≤ 'Z') ∨ ('0' ≤ c ∧ c ≤ '9') ∨ c = '_'

/-- The name of a coding stands behind the first `start` characters of a text, in any casing, and no
character next to it belongs to the same word. -/
def OccursAt (coding : ContentCoding) (text : List Char) (start : Nat) : Prop :=
  ∃ front name behind, text = front ++ name ++ behind ∧ front.length = start ∧
    name.map Char.toLower = coding.token.toList ∧
    (∀ c ∈ front.getLast?, ¬ IsOfWord c) ∧ (∀ c ∈ behind.head?, ¬ IsOfWord c)

/-- A name occurs here, and no name occurs in front of it. -/
def IsLeftmost (coding : ContentCoding) (text : List Char) (start : Nat) : Prop :=
  OccursAt coding text start ∧ ∀ earlier < start, ∀ other, ¬ OccursAt other text earlier

/-! ## Words -/

/-- The characters of words are the ASCII letters, digits and the underscore. -/
theorem isWordChar_iff {c : Char} : isWordChar c = true ↔ IsOfWord c := by
  have hclasses : isWordChar c = ((decide ('A' ≤ c ∧ c ≤ 'Z') ||
      (decide ('a' ≤ c) && decide (c ≤ 'z')) || (decide ('0' ≤ c) && decide (c ≤ '9'))) || c == '_') := rfl
  simp only [hclasses, IsOfWord, Bool.or_eq_true, Bool.and_eq_true, decide_eq_true_eq, beq_iff_eq]
  grind

/-- All other characters stand between words. -/
theorem isWordChar_eq_false_iff {c : Char} : isWordChar c = false ↔ ¬ IsOfWord c := by
  rw [← isWordChar_iff, Bool.not_eq_true]

/-- A word names a coding if it is its token, in any casing. -/
theorem ofWord?_eq_some_iff {word : List Char} {coding : ContentCoding} :
    ofWord? word = some coding ↔ word.map Char.toLower = coding.token.toList := by
  have hdistinct : ContentCoding.gzip.token.toList ≠ ContentCoding.deflate.token.toList := by decide
  simp only [ofWord?, beq_iff_eq]
  cases coding <;> grind

/-- What is a lower-case letter in lower case is a letter. -/
theorem isWordChar_of_toLower {c : Char} (h : 'a' ≤ c.toLower ∧ c.toLower ≤ 'z') :
    isWordChar c = true := by
  rw [isWordChar_iff]
  by_cases hupper : 'A' ≤ c ∧ c ≤ 'Z'
  · exact .inr (.inl hupper)
  · have hsame : c.toLower = c := dif_neg hupper
    rw [hsame] at h
    exact .inl h

/-- The name of a coding consists of word characters, and there are some. -/
theorem isWordChar_of_name {coding : ContentCoding} {name : List Char}
    (h : name.map Char.toLower = coding.token.toList) :
    (∀ c ∈ name, isWordChar c = true) ∧ name ≠ [] := by
  have hletters : coding.token.toList.all (fun c => 'a' ≤ c ∧ c ≤ 'z') = true := by
    cases coding <;> decide
  have hsome : coding.token.toList ≠ [] := by cases coding <;> decide
  refine ⟨fun c hc => isWordChar_of_toLower ?_, ?_⟩
  · rw [← h] at hletters
    exact of_decide_eq_true (List.all_eq_true.mp hletters _ (List.mem_map_of_mem hc))
  · rintro rfl
    exact hsome h.symm

/-- A text is a word, or a word in front of a separator and a shorter text. -/
theorem words_induction {P : List Char → Prop}
    (last : ∀ word, (∀ c ∈ word, isWordChar c = true) → P word)
    (cons : ∀ word sep rest, (∀ c ∈ word, isWordChar c = true) → isWordChar sep = false → P rest →
      P (word ++ sep :: rest)) (text : List Char) : P text := by
  -- over the characters of the text, with the part of the first word that has been passed in front
  have hpassed : ∀ word, (∀ c ∈ word, isWordChar c = true) → P (word ++ text) := by
    induction text with
    | nil =>
      intro word hword
      rw [List.append_nil]
      exact last word hword
    | cons c text ih =>
      intro word hword
      cases hc : isWordChar c with
      | true =>
        have hlonger := ih (word ++ [c]) (by simpa [or_imp, forall_and] using ⟨hword, hc⟩)
        rwa [List.append_assoc] at hlonger
      | false => exact cons word c text hword hc (ih [] (by simp))
  exact hpassed [] (by simp)

/-! ## Occurrences -/

section Occurrences

variable {coding other : ContentCoding} {text front word behind rest : List Char} {sep : Char}
variable {start n : Nat}

/-- A run of word characters with none behind it. -/
theorem takeWhile_word (hword : ∀ c ∈ word, isWordChar c = true)
    (hbehind : ∀ c ∈ behind.head?, isWordChar c = false) :
    (word ++ behind).takeWhile isWordChar = word := by
  rw [List.takeWhile_append_of_pos hword]
  cases behind with
  | nil => simp
  | cons c behind => simp [hbehind c rfl]

/-- A name that is no part of a longer word is all the word that begins at its position. -/
theorem occursAt_iff : OccursAt coding text start ↔
    (∀ c ∈ (text.take start).getLast?, isWordChar c = false) ∧
      ofWord? ((text.drop start).takeWhile isWordChar) = some coding := by
  constructor
  · rintro ⟨front, name, behind, rfl, rfl, hname, hfront, hbehind⟩
    have hword := takeWhile_word (isWordChar_of_name hname).1
      fun c hc => isWordChar_eq_false_iff.mpr (hbehind c hc)
    rw [List.append_assoc, List.take_left, List.drop_left, hword]
    exact ⟨fun c hc => isWordChar_eq_false_iff.mpr (hfront c hc), ofWord?_eq_some_iff.mpr hname⟩
  · rintro ⟨hfront, hword⟩
    have hname := ofWord?_eq_some_iff.mp hword
    refine ⟨text.take start, (text.drop start).takeWhile isWordChar,
      (text.drop start).dropWhile isWordChar, ?_, ?_, hname, ?_, ?_⟩
    · rw [List.append_assoc, List.takeWhile_append_dropWhile, List.take_append_drop]
    · have hsome := (isWordChar_of_name hname).2
      rw [List.length_take, Nat.min_eq_left]
      refine Nat.le_of_not_lt fun hpast => hsome ?_
      rw [List.drop_eq_nil_of_le (Nat.le_of_lt hpast)]
      rfl
    · exact fun c hc => isWordChar_eq_false_iff.mp (hfront c hc)
    · intro c hc
      have hstop := List.head?_dropWhile_not isWordChar (text.drop start)
      rw [Option.mem_def.mp hc] at hstop
      exact isWordChar_eq_false_iff.mp (by simpa using hstop)

instance (coding : ContentCoding) (text : List Char) (start : Nat) :
    Decidable (OccursAt coding text start) :=
  decidable_of_iff ((text.take start).getLast?.all (!isWordChar ·) = true ∧
    ofWord? ((text.drop start).takeWhile isWordChar) = some coding) (by simp [occursAt_iff, Option.all_eq_true])

/-- A name begins within the text. -/
theorem OccursAt.lt_length (h : OccursAt coding text start) : start < text.length := by
  obtain ⟨front, name, behind, rfl, rfl, hname, -, -⟩ := h
  have hsome := List.length_pos_iff.mpr (isWordChar_of_name hname).2
  simp only [List.length_append]
  omega

/-- Two names do not begin at the same position. -/
theorem OccursAt.unique (h : OccursAt coding text start) (hother : OccursAt other text start) :
    coding = other :=
  Option.some.inj ((occursAt_iff.mp h).2.symm.trans (occursAt_iff.mp hother).2)

/-- There is one leftmost name at most. -/
theorem IsLeftmost.unique (h : IsLeftmost coding text start) (hother : IsLeftmost other text n) :
    coding = other := by
  have hsame : start = n :=
    Nat.le_antisymm (Nat.le_of_not_lt fun hearlier => h.2 n hearlier other hother.1)
      (Nat.le_of_not_lt fun hearlier => hother.2 start hearlier coding h.1)
  subst hsame
  exact h.1.unique hother.1

/-- Within a word, a name can only occur at its beginning, and then it is the word. -/
theorem occursAt_append (hword : ∀ c ∈ word, isWordChar c = true)
    (hbehind : ∀ c ∈ behind.head?, isWordChar c = false) (hstart : start ≤ word.length) :
    OccursAt coding (word ++ behind) start ↔ start = 0 ∧ ofWord? word = some coding := by
  rw [occursAt_iff]
  cases start with
  | zero => simp [takeWhile_word hword hbehind]
  | succ start =>
    have hlast : ((word ++ behind).take (start + 1)).getLast? = some word[start] := by
      rw [List.take_append_of_le_length hstart, List.getLast?_take]
      simp
    have hinside := hword word[start] (List.getElem_mem _)
    rw [hlast]
    simp [hinside]

/-- What is in front of a separator has no part in what occurs behind it. -/
theorem occursAt_append_cons (hsep : isWordChar sep = false) :
    OccursAt coding (front ++ sep :: rest) (front.length + 1 + n) ↔ OccursAt coding rest n := by
  rw [occursAt_iff, occursAt_iff]
  have hdrop : (front ++ sep :: rest).drop (front.length + 1 + n) = rest.drop n := by
    rw [Nat.add_assoc, Nat.add_comm 1 n, List.drop_length_add_append, List.drop_succ_cons]
  have htake : (front ++ sep :: rest).take (front.length + 1 + n) = front ++ sep :: rest.take n := by
    rw [Nat.add_assoc, Nat.add_comm 1 n, List.take_length_add_append, List.take_succ_cons]
  rw [hdrop, htake]
  refine and_congr_left fun _ => ?_
  cases hlast : (rest.take n).getLast? with
  | none => simp [List.getLast?_append, List.getLast?_cons, hlast, hsep]
  | some c => simp [List.getLast?_append, List.getLast?_cons, hlast]

/-- If the first word names a coding, no name occurs in front of it. -/
theorem isLeftmost_word (hword : ∀ c ∈ word, isWordChar c = true)
    (hbehind : ∀ c ∈ behind.head?, isWordChar c = false) (hnamed : ofWord? word = some coding) :
    IsLeftmost coding (word ++ behind) 0 :=
  ⟨(occursAt_append hword hbehind (Nat.zero_le _)).mpr ⟨rfl, hnamed⟩, by simp⟩

/-- If the first word names no coding, all that occurs in the text occurs behind the word. -/
theorem occursAt_behind_word (hword : ∀ c ∈ word, isWordChar c = true) (hsep : isWordChar sep = false)
    (hnone : ofWord? word = none) :
    OccursAt coding (word ++ sep :: rest) start ↔
      ∃ n, start = word.length + 1 + n ∧ OccursAt coding rest n := by
  constructor
  · intro hoccurs
    have hpast : word.length + 1 ≤ start := by
      refine Nat.lt_of_not_le fun hstart => ?_
      rw [occursAt_append hword (by simpa using hsep) hstart, hnone] at hoccurs
      cases hoccurs.2
    obtain ⟨n, rfl⟩ := Nat.exists_eq_add_of_le hpast
    exact ⟨n, rfl, (occursAt_append_cons hsep).mp hoccurs⟩
  · rintro ⟨n, rfl, hoccurs⟩
    exact (occursAt_append_cons hsep).mpr hoccurs

/-- The leftmost name is still so behind a word that names nothing. -/
theorem IsLeftmost.behind_word (h : IsLeftmost coding rest n) (hword : ∀ c ∈ word, isWordChar c = true)
    (hsep : isWordChar sep = false) (hnone : ofWord? word = none) :
    IsLeftmost coding (word ++ sep :: rest) (word.length + 1 + n) := by
  refine ⟨(occursAt_append_cons hsep).mpr h.1, fun start hstart other hother => ?_⟩
  obtain ⟨earlier, rfl, hoccurs⟩ := (occursAt_behind_word hword hsep hnone).mp hother
  exact h.2 earlier (by omega) other hoccurs

end Occurrences

/-! ## The search -/

section Search

variable {coding : ContentCoding} {text : List Char} {start : Nat}

/-- The coding of the first word that names one. -/
def ofWords? (text : List Char) : Option ContentCoding :=
  (text.splitOnP (!isWordChar ·)).findSome? ofWord?

/-- A text that is one word names what the word names. -/
theorem ofWords?_word {word : List Char} (hword : ∀ c ∈ word, isWordChar c = true) :
    ofWords? word = ofWord? word := by
  rw [ofWords?, List.splitOnP_eq_singleton (by simpa using hword), List.findSome?_singleton]

/-- The first word counts, and then the rest of the text. -/
theorem ofWords?_append_cons {word rest : List Char} {sep : Char}
    (hword : ∀ c ∈ word, isWordChar c = true) (hsep : isWordChar sep = false) :
    ofWords? (word ++ sep :: rest) = (ofWord? word).or (ofWords? rest) := by
  rw [ofWords?, List.splitOnP_append_cons_of_forall_mem (by simpa using hword) sep (by simpa using hsep),
    List.findSome?_cons]
  cases ofWord? word <;> rfl

/-- What the first word that names a coding says about the positions of the text. -/
def Locates (text : List Char) : Option ContentCoding → Prop
  | some coding => ∃ start, IsLeftmost coding text start
  | none => ∀ coding start, ¬ OccursAt coding text start

/-- The words of a text tell where its leftmost name is. -/
theorem locates_ofWords? (text : List Char) : Locates text (ofWords? text) := by
  induction text using words_induction with
  | last word hword =>
    rw [ofWords?_word hword]
    cases hnamed : ofWord? word with
    | some coding =>
      have hleftmost : IsLeftmost coding (word ++ []) 0 := isLeftmost_word hword (by simp) hnamed
      rw [List.append_nil] at hleftmost
      exact ⟨0, hleftmost⟩
    | none =>
      intro coding start hoccurs
      have hstart := Nat.le_of_lt hoccurs.lt_length
      rw [← List.append_nil word, occursAt_append hword (by simp) hstart, hnamed] at hoccurs
      cases hoccurs.2
  | cons word sep rest hword hsep ih =>
    rw [ofWords?_append_cons hword hsep]
    cases hnamed : ofWord? word with
    | some coding => exact ⟨0, isLeftmost_word hword (by simpa using hsep) hnamed⟩
    | none =>
      rw [Option.none_or]
      cases hmore : ofWords? rest with
      | some coding =>
        rw [hmore] at ih
        obtain ⟨n, hleftmost⟩ := ih
        exact ⟨_, hleftmost.behind_word hword hsep hnamed⟩
      | none =>
        rw [hmore] at ih
        intro coding start hoccurs
        obtain ⟨n, -, hrest⟩ := (occursAt_behind_word hword hsep hnamed).mp hoccurs
        exact ih coding n hrest

/-- The words name a coding exactly if it is the leftmost that occurs. -/
theorem ofWords?_eq_some_iff : ofWords? text = some coding ↔ ∃ start, IsLeftmost coding text start := by
  have hlocates := locates_ofWords? text
  constructor
  · intro h
    rwa [h] at hlocates
  · rintro ⟨start, hleftmost⟩
    cases hfound : ofWords? text with
    | some other =>
      rw [hfound] at hlocates
      obtain ⟨n, hother⟩ := hlocates
      rw [hother.unique hleftmost]
    | none =>
      rw [hfound] at hlocates
      exact absurd hleftmost.1 (hlocates coding start)

/-- They name none exactly if none occurs. -/
theorem ofWords?_eq_none_iff : ofWords? text = none ↔ ∀ coding start, ¬ OccursAt coding text start := by
  have hlocates := locates_ofWords? text
  constructor
  · intro h
    rwa [h] at hlocates
  · intro hnowhere
    cases hfound : ofWords? text with
    | some coding =>
      rw [hfound] at hlocates
      obtain ⟨start, hleftmost⟩ := hlocates
      exact absurd hleftmost.1 (hnowhere coding start)
    | none => rfl

/-- The coding whose name occurs at a position. -/
def codingAt? (text : List Char) (start : Nat) : Option ContentCoding :=
  [ContentCoding.gzip, .deflate].find? fun coding => OccursAt coding text start

/-- The coding at a position is the one whose name occurs there. -/
theorem codingAt?_eq_some_iff : codingAt? text start = some coding ↔ OccursAt coding text start := by
  constructor
  · intro h
    simpa using List.find?_some h
  · intro h
    cases hfound : codingAt? text start with
    | some other =>
      have hother : OccursAt other text start := by simpa using List.find?_some hfound
      rw [hother.unique h]
    | none =>
      have hnone := List.find?_eq_none.mp hfound coding (by cases coding <;> simp)
      exact absurd h (by simpa using hnone)

/-- A search from position to position, from the left: the coding at the first position with any. -/
def search? (text : List Char) : Option ContentCoding :=
  ((List.range text.length).find? fun start => (codingAt? text start).isSome).bind (codingAt? text)

/-- The search from position to position finds the leftmost coding. -/
theorem search?_eq_some_iff : search? text = some coding ↔ ∃ start, IsLeftmost coding text start := by
  rw [search?, Option.bind_eq_some_iff]
  refine exists_congr fun start => ?_
  rw [List.find?_range_eq_some, codingAt?_eq_some_iff]
  constructor
  · rintro ⟨⟨-, -, hnone⟩, hoccurs⟩
    refine ⟨hoccurs, fun earlier hearlier other hother => ?_⟩
    have hnothing := hnone earlier hearlier
    rw [codingAt?_eq_some_iff.mpr hother] at hnothing
    cases hnothing
  · rintro ⟨hoccurs, hnone⟩
    refine ⟨⟨?_, List.mem_range.mpr hoccurs.lt_length, fun earlier hearlier => ?_⟩, hoccurs⟩
    · rw [codingAt?_eq_some_iff.mpr hoccurs]
      rfl
    · cases hfound : codingAt? text earlier with
      | some other => exact absurd (codingAt?_eq_some_iff.mp hfound) (hnone earlier hearlier other)
      | none => rfl

end Search

/-- What is selected is the coding whose name stands leftmost in the text as a whole word, in any casing, and
nothing is selected if there is no such name. Cutting the text into words comes to the same as searching it
from position to position. -/
theorem select?_eq_leftmost (value : String) :
    (∀ coding, select? value = some coding ↔ ∃ start, IsLeftmost coding value.toList start) ∧
      (select? value = none ↔ ∀ coding start, ¬ OccursAt coding value.toList start) ∧
      select? value = search? value.toList := by
  have hwords : select? value = ofWords? value.toList := rfl
  refine ⟨fun coding => ?_, ?_, ?_⟩
  · rw [hwords]
    exact ofWords?_eq_some_iff
  · rw [hwords]
    exact ofWords?_eq_none_iff
  · apply Option.ext
    intro coding
    rw [hwords, ofWords?_eq_some_iff, search?_eq_some_iff]

/-- A letter beyond ASCII is no part of a word, an underscore is. -/
example : search? "gzip_2, éDeFlaTeé;q=0, gzip".toList = some .deflate := by decide +kernel

end RelayTunnel.Compression.ContentCoding
