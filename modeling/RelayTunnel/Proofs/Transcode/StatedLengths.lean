import Mathlib.Data.Nat.Digits.Defs
import Mathlib.Tactic.Ring
import RelayTunnel.Proofs.Text.Numerals
import RelayTunnel.Proofs.Transcode.Codings
import RelayTunnel.Proofs.Transcode.EligibleResponses

/-!
# The length that a response states

A body that ends behind a number of octets ends in the same place for everybody only if all
`Content-Length` fields of its head state the same number, in digits alone. `Unambiguous` asks just that, and
that anything else is refused. A head is read by its first field, which may have a plus sign in front of
its digits, and the other fields are not looked at. `framing_of_lengths` says which length is taken,
and that `Unambiguous` holds unless the first field has a sign or a later one states something else. What is
refused goes to the relay as it came.
-/

set_option autoImplicit false

namespace RelayTunnel

/-! ## What digits spell -/

namespace Text

/-- The text is made of digits, one or more, and they spell the number. -/
def Spells (cs : List Char) (n : Nat) : Prop :=
  ∃ digits : List Nat, digits ≠ [] ∧ (∀ digit ∈ digits, digit < 10) ∧
    cs = digits.map (fun digit => Char.ofNat (0x30 + digit)) ∧ n = Nat.ofDigits 10 digits.reverse

/-- The digits are the ten characters from zero on. -/
theorem digitValue?_eq_some_iff {c : Char} {digit : Nat} :
    digitValue? c = some digit ↔ digit < 10 ∧ c = Char.ofNat (0x30 + digit) := by
  constructor
  · intro h
    have hbounds := bounds_of_digitValue? (Option.isSome_of_eq_some h)
    rw [digitValue?] at h
    split at h
    · obtain rfl := Option.some.inj h
      have hzero : '0'.toNat = 0x30 := rfl
      have hsum : 0x30 + (c.toNat - '0'.toNat) = c.toNat := by omega
      exact ⟨by omega, by rw [hsum, Char.ofNat_toNat]⟩
    · cases h
  · rintro ⟨hsmall, rfl⟩
    exact digitValue?_digit hsmall

/-- A digit in front counts as often as the digits behind it have room for. -/
theorem ofDigits_cons_reverse (value digit : Nat) (digits : List Nat) :
    value * 10 ^ (digit :: digits).length + Nat.ofDigits 10 (digit :: digits).reverse =
      (value * 10 + digit) * 10 ^ digits.length + Nat.ofDigits 10 digits.reverse := by
  rw [List.reverse_cons, Nat.ofDigits_append, Nat.ofDigits_singleton, List.length_reverse,
    List.length_cons]
  ring

/-- Digits are read from the front, each worth ten times the one behind it. -/
theorem decimalFrom?_eq_some_iff {value n : Nat} {cs : List Char} :
    decimalFrom? value cs = some n ↔ ∃ digits : List Nat, (∀ digit ∈ digits, digit < 10) ∧
      cs = digits.map (fun digit => Char.ofNat (0x30 + digit)) ∧
      n = value * 10 ^ digits.length + Nat.ofDigits 10 digits.reverse := by
  induction cs generalizing value with
  | nil =>
    constructor
    · intro h
      obtain rfl := Option.some.inj h
      exact ⟨[], by simp, rfl, by simp⟩
    · rintro ⟨digits, -, hcs, rfl⟩
      obtain rfl := List.map_eq_nil_iff.mp hcs.symm
      simp [decimalFrom?]
  | cons c cs ih =>
    rw [decimalFrom?, Option.bind_eq_some_iff]
    constructor
    · rintro ⟨digit, hdigit, hmore⟩
      obtain ⟨hsmall, rfl⟩ := digitValue?_eq_some_iff.mp hdigit
      obtain ⟨digits, hdigits, rfl, rfl⟩ := ih.mp hmore
      refine ⟨digit :: digits, List.forall_mem_cons.mpr ⟨hsmall, hdigits⟩, rfl, ?_⟩
      exact (ofDigits_cons_reverse value digit digits).symm
    · rintro ⟨digits, hdigits, hcs, rfl⟩
      cases digits with
      | nil => cases hcs
      | cons digit digits =>
        obtain ⟨hsmall, hmore⟩ := List.forall_mem_cons.mp hdigits
        obtain ⟨rfl, rfl⟩ := List.cons.inj hcs
        refine ⟨digit, digitValue?_digit hsmall, ih.mpr ⟨digits, hmore, rfl, ?_⟩⟩
        exact ofDigits_cons_reverse value digit digits

/-- A text is read as a number exactly if it spells that number. -/
theorem decimal?_eq_some_iff {cs : List Char} {n : Nat} : decimal? cs = some n ↔ Spells cs n := by
  cases cs with
  | nil =>
    constructor
    · intro h
      cases h
    · rintro ⟨digits, hne, -, hcs, -⟩
      exact absurd (List.map_eq_nil_iff.mp hcs.symm) hne
  | cons c cs =>
    rw [decimal?, decimalFrom?_eq_some_iff]
    · constructor
      · rintro ⟨digits, hdigits, hcs, hn⟩
        refine ⟨digits, ?_, hdigits, hcs, by simpa using hn⟩
        rintro rfl
        cases hcs
      · rintro ⟨digits, -, hdigits, hcs, hn⟩
        exact ⟨digits, hdigits, hcs, by simpa using hn⟩
    · intro hnil
      cases hnil

/-- Digits do not begin with a sign. -/
theorem not_spells_plus (cs : List Char) (n : Nat) : ¬ Spells ('+' :: cs) n := by
  rintro ⟨digits, -, hdigits, hcs, -⟩
  cases digits with
  | nil => cases hcs
  | cons digit digits =>
    have hplus : '+' = Char.ofNat (0x30 + digit) := (List.cons.inj hcs).1
    have hvalue := digitValue?_digit (hdigits digit List.mem_cons_self)
    rw [← hplus] at hvalue
    cases hvalue

/-- A numeral is made of digits; one plus sign may stand in front. -/
theorem unsigned?_eq_some_iff {bound n : Nat} {cs : List Char} :
    unsigned? bound cs = some n ↔
      n < bound ∧ (Spells cs n ∨ ∃ digits, cs = '+' :: digits ∧ Spells digits n) := by
  by_cases hplus : ∃ digits, cs = '+' :: digits
  · obtain ⟨digits, rfl⟩ := hplus
    have hread : unsigned? bound ('+' :: digits) = (decimal? digits).filter (· < bound) := rfl
    simp [hread, Option.filter_eq_some_iff, decimal?_eq_some_iff, not_spells_plus, and_comm]
  · have hread : unsigned? bound cs = (decimal? cs).filter (· < bound) := by
      rw [unsigned?]
      exact fun digits hcs => hplus ⟨digits, hcs⟩
    have hnone : ¬ ∃ digits, cs = '+' :: digits ∧ Spells digits n := by
      rintro ⟨digits, rfl, -⟩
      exact hplus ⟨digits, rfl⟩
    simp [hread, Option.filter_eq_some_iff, decimal?_eq_some_iff, hnone, and_comm]

end Text

/-! ## Lengths -/

namespace Http

/-- The value states the length: white space around it aside, it is made of digits that spell a number
below the bound. -/
def StatesLength (value : Bytes) (n : Nat) : Prop :=
  n < lengthBound ∧ ∃ text, Text.Utf8.decode? value = some text ∧ Text.Spells (Text.trim text) n

/-- The value states the length with a plus sign in front of the digits. -/
def StatesSignedLength (value : Bytes) (n : Nat) : Prop :=
  n < lengthBound ∧ ∃ text digits, Text.Utf8.decode? value = some text ∧
    Text.trim text = '+' :: digits ∧ Text.Spells digits n

/-- A length without a sign has no sign. -/
theorem StatesLength.not_signed {value : Bytes} {n m : Nat} (h : StatesLength value n) :
    ¬ StatesSignedLength value m := by
  rintro ⟨-, text, digits, htext, hplus, -⟩
  obtain ⟨-, text', htext', hspells⟩ := h
  obtain rfl := Option.some.inj (htext.symm.trans htext')
  rw [hplus] at hspells
  exact Text.not_spells_plus digits n hspells

/-- A field is read as the length it states, with a sign or without. -/
theorem statedLength_eq_ok_iff {value : Bytes} {n : Nat} :
    statedLength value = .ok n ↔ StatesLength value n ∨ StatesSignedLength value n := by
  have hread : statedLength value = .ok n ↔ ∃ text, Text.Utf8.decode? value = some text ∧
      Text.unsigned? lengthBound (Text.trim text) = some n := by
    rw [statedLength]
    cases Text.Utf8.decode? value with
    | none => simp
    | some text =>
      simp only [Option.some.injEq, exists_eq_left']
      cases Text.unsigned? lengthBound (Text.trim text) <;> simp
  rw [hread]
  simp only [Text.unsigned?_eq_some_iff]
  constructor
  · rintro ⟨text, htext, hbound, hplain | ⟨digits, hplus, hdigits⟩⟩
    · exact Or.inl ⟨hbound, text, htext, hplain⟩
    · exact Or.inr ⟨hbound, text, digits, htext, hplus, hdigits⟩
  · rintro (⟨hbound, text, htext, hplain⟩ | ⟨hbound, text, digits, htext, hplus, hdigits⟩)
    · exact ⟨text, htext, hbound, Or.inl hplain⟩
    · exact ⟨text, htext, hbound, Or.inr ⟨digits, hplus, hdigits⟩⟩

/-- No value states two lengths. -/
theorem StatesLength.unique {value : Bytes} {n m : Nat} (h : StatesLength value n)
    (h' : StatesLength value m) : n = m := by
  have hread := statedLength_eq_ok_iff.mpr (Or.inl h)
  rw [statedLength_eq_ok_iff.mpr (Or.inl h')] at hread
  exact (Except.ok.inj hread).symm

/-- What is refused is refused as a length. -/
theorem error_of_statedLength {value : Bytes} {error : MessageError}
    (h : statedLength value = .error error) : ∃ reason, error = .badContentLength reason := by
  rw [statedLength] at h
  split at h
  · exact ⟨_, (Except.error.inj h).symm⟩
  · split at h
    · cases h
    · exact ⟨_, (Except.error.inj h).symm⟩

section Framing

variable {head : ResponseHead}

/-- Where no transfer coding is stated, the first length field counts. -/
theorem framing_of_uncoded (hbody : head.hasBody = true)
    (hcodings : head.fields.values FieldName.transferEncoding = []) :
    head.framing = match (head.fields.values FieldName.contentLength).head? with
      | some value => (statedLength value).map .length
      | none => .ok .untilClose := by
  rw [ResponseHead.framing, if_neg (by simp [hbody]), Fields.get?_eq_head?, hcodings,
    Fields.get?_eq_head?]
  rfl

/-- A length is taken only if every length field states it, in digits alone, and where there is no such
length the head is refused. -/
structure Unambiguous (head : ResponseHead) : Prop where
  stated : ∀ n, head.framing = .ok (.length n) →
    ∀ value ∈ head.fields.values FieldName.contentLength, StatesLength value n
  refused : head.fields.values FieldName.contentLength ≠ [] →
    (∀ n, ¬ ∀ value ∈ head.fields.values FieldName.contentLength, StatesLength value n) →
    ∃ reason, head.framing = .error (.badContentLength reason)

variable {first : Bytes} {others : List Bytes}

/-- The first field decides on the length, with a sign or without. -/
theorem framing_eq_length_iff (hbody : head.hasBody = true)
    (hcodings : head.fields.values FieldName.transferEncoding = [])
    (hlengths : head.fields.values FieldName.contentLength = first :: others) (n : Nat) :
    head.framing = .ok (.length n) ↔ StatesLength first n ∨ StatesSignedLength first n := by
  rw [framing_of_uncoded hbody hcodings, hlengths, ← statedLength_eq_ok_iff]
  dsimp only [List.head?_cons]
  cases statedLength first <;> simp [Except.map]

/-- What is not taken as a length is refused. -/
theorem framing_length_or_error (hbody : head.hasBody = true)
    (hcodings : head.fields.values FieldName.transferEncoding = [])
    (hlengths : head.fields.values FieldName.contentLength = first :: others) :
    (∃ n, head.framing = .ok (.length n)) ∨
      ∃ reason, head.framing = .error (.badContentLength reason) := by
  rw [framing_of_uncoded hbody hcodings, hlengths]
  dsimp only [List.head?_cons]
  cases hstated : statedLength first with
  | ok n => exact Or.inl ⟨n, rfl⟩
  | error error =>
    obtain ⟨reason, rfl⟩ := error_of_statedLength hstated
    exact Or.inr ⟨reason, rfl⟩

/-- The fields behind the first one are not looked at, and neither is a sign in it. -/
theorem unambiguous_iff (hbody : head.hasBody = true)
    (hcodings : head.fields.values FieldName.transferEncoding = [])
    (hlengths : head.fields.values FieldName.contentLength = first :: others) :
    Unambiguous head ↔ ∀ n, ¬ StatesSignedLength first n ∧
      (StatesLength first n → ∀ value ∈ others, StatesLength value n) := by
  have hframing := framing_eq_length_iff hbody hcodings hlengths
  constructor
  · intro h n
    have hstated := h.stated n
    rw [hframing, hlengths, List.forall_mem_cons] at hstated
    refine ⟨fun hsigned => ?_, fun hplain => (hstated (Or.inl hplain)).2⟩
    exact (hstated (Or.inr hsigned)).1.not_signed hsigned
  · intro h
    have hstated : ∀ n, head.framing = .ok (.length n) →
        ∀ value ∈ head.fields.values FieldName.contentLength, StatesLength value n := by
      intro n hlength
      have hplain := ((hframing n).mp hlength).resolve_right (h n).1
      rw [hlengths, List.forall_mem_cons]
      exact ⟨hplain, (h n).2 hplain⟩
    refine ⟨hstated, fun _ hnone => ?_⟩
    rcases framing_length_or_error hbody hcodings hlengths with ⟨n, hlength⟩ | hrefused
    · exact absurd (hstated n hlength) (hnone n)
    · exact hrefused

end Framing

end Http

namespace Transcode

open Compression (BodyCompressor ContentCoding)
open Http

variable {C : Type} [BodyCompressor C]

/-- A response whose length is refused goes out as it came. -/
theorem transform_of_refused {held chunk : Bytes} {taken : Taken ResponseHead}
    (htake : takeResponse (held ++ chunk) = .ok (some taken)) {error : MessageError}
    (herror : taken.head.framing = .error error) (coding : ContentCoding) :
    (ResponseTranscoder.inspecting held : ResponseTranscoder C).transform (some coding) chunk =
      (held ++ chunk, .passthrough) := by
  have hplan : ResponseTranscoder.plan? taken.head = none := by
    refine Option.eq_none_iff_forall_ne_some.mpr fun reader hsome => ?_
    obtain ⟨framing, hframing⟩ := ((exists_plan_iff _).mp ⟨reader, hsome⟩).framing
    rw [herror] at hframing
    cases hframing
  exact ResponseTranscoder.transform_of_ineligible htake hplan

/-- Which length is taken of a response with a body and without transfer codings: the one that its first
`Content-Length` field states, whether with a plus sign in front or without, and whatever the other fields
state. If that field states none, the length is refused, and the response goes out as it came. So no length
is taken ambiguously exactly if the first field has no sign and the others state the same length as it
does. -/
theorem framing_of_lengths {head : ResponseHead} (hbody : head.hasBody = true)
    (hcodings : head.fields.values FieldName.transferEncoding = []) :
    (head.fields.values FieldName.contentLength = [] → head.framing = .ok .untilClose) ∧
    ∀ first others, head.fields.values FieldName.contentLength = first :: others →
      (∀ n, head.framing = .ok (.length n) ↔ StatesLength first n ∨ StatesSignedLength first n) ∧
      ((∀ n, head.framing ≠ .ok (.length n)) →
        (∃ reason, head.framing = .error (.badContentLength reason)) ∧
        ∀ coding held chunk rest, takeResponse (held ++ chunk) = .ok (some ⟨head, rest⟩) →
          (ResponseTranscoder.inspecting held : ResponseTranscoder C).transform (some coding) chunk =
            (held ++ chunk, .passthrough)) ∧
      (Unambiguous head ↔ ∀ n, ¬ StatesSignedLength first n ∧
        (StatesLength first n → ∀ value ∈ others, StatesLength value n)) := by
  constructor
  · intro hnone
    rw [framing_of_uncoded hbody hcodings, hnone]
    rfl
  · intro first others hlengths
    refine ⟨framing_eq_length_iff hbody hcodings hlengths, fun hnone => ?_,
      unambiguous_iff hbody hcodings hlengths⟩
    rcases framing_length_or_error hbody hcodings hlengths with ⟨n, hlength⟩ | ⟨reason, hrefused⟩
    · exact absurd hlength (hnone n)
    · refine ⟨⟨reason, hrefused⟩, fun coding held chunk rest htake => ?_⟩
      exact transform_of_refused htake hrefused coding

/-- A response of plain text with the given `Content-Length` fields. -/
def sizedResponse (lengths : List String) : ResponseHead :=
  { textResponse [] with
    fields := ⟨(textResponse []).fields.toList ++
      lengths.map fun value => ⟨FieldName.contentLength, Ascii.bytes value⟩⟩ }

/-- Zeros in front and white space around the digits are no ambiguity. -/
theorem padded_lengths_agree :
    (sizedResponse ["007", " 7\t"]).framing = .ok (.length 7) ∧
      Unambiguous (sizedResponse ["007", " 7\t"]) := by
  have hfirst : StatesLength (Ascii.bytes "007") 7 := by
    refine ⟨by decide +kernel, "007".toList, by decide +kernel, [0, 0, 7], by simp, by simp, ?_, ?_⟩
    · decide +kernel
    · rfl
  have hsecond : StatesLength (Ascii.bytes " 7\t") 7 := by
    refine ⟨by decide +kernel, " 7\t".toList, by decide +kernel, [7], by simp, by simp, ?_, ?_⟩
    · decide +kernel
    · rfl
  have hbody : (sizedResponse ["007", " 7\t"]).hasBody = true := by decide +kernel
  have hlengths : (sizedResponse ["007", " 7\t"]).fields.values FieldName.contentLength =
      [Ascii.bytes "007", Ascii.bytes " 7\t"] := by
    decide +kernel
  obtain ⟨hlength, -, hagree⟩ := (framing_of_lengths (C := Compression.Compressor) hbody
    (by decide +kernel)).2 _ _ hlengths
  refine ⟨(hlength 7).mpr (Or.inl hfirst), hagree.mpr fun n => ⟨hfirst.not_signed, fun hn => ?_⟩⟩
  rw [hn.unique hfirst]
  simpa using hsecond

/-- Of two lengths that differ the first is taken. -/
theorem lengths_disagree :
    (sizedResponse ["5", "11"]).framing = .ok (.length 5) ∧
      ¬ Unambiguous (sizedResponse ["5", "11"]) := by
  have hfirst : StatesLength (Ascii.bytes "5") 5 :=
    ⟨by decide +kernel, "5".toList, by decide +kernel, [5], by simp, by simp, by decide +kernel, rfl⟩
  have hsecond : StatesLength (Ascii.bytes "11") 11 := by
    refine ⟨by decide +kernel, "11".toList, by decide +kernel, [1, 1], by simp, by simp, ?_, ?_⟩
    · decide +kernel
    · rfl
  have hlengths : (sizedResponse ["5", "11"]).fields.values FieldName.contentLength =
      [Ascii.bytes "5", Ascii.bytes "11"] := by
    decide +kernel
  have htaken : (sizedResponse ["5", "11"]).framing = .ok (.length 5) :=
    (framing_eq_length_iff (by decide +kernel) (by decide +kernel) hlengths 5).mpr (Or.inl hfirst)
  refine ⟨htaken, fun hunambiguous => ?_⟩
  have hboth := hunambiguous.stated 5 htaken (Ascii.bytes "11") (by simp [hlengths])
  cases hboth.unique hsecond

end Transcode

end RelayTunnel
