import RelayTunnel.Proofs.Http.HeadCuts

/-!
# What a head that has been read holds

`Yields` says that whatever a scanner finds has a property; it goes through the steps of the head reader
as the scanner is put together. Behind a whole head stand a version, a reason phrase and fields that could
be written out and read again: names are tokens, values are text without blanks at either end, and there
are no more fields than allowed (`wellFormed_of_takeResponse`).
-/

set_option autoImplicit false

namespace RelayTunnel.Http

namespace Scan

variable {ε α β : Type}

/-- Whatever the scanner finds has the property. -/
def Yields (scan : Scan ε α) (good : α → Prop) : Prop :=
  ∀ input value rest, scan input = .found value rest → good value

/-- What a run took, and that it stopped in front of an octet of another kind. -/
theorem run_eq_found {p : UInt8 → Bool} {input bs rest : Bytes}
    (h : (run p input : Scanned ε Bytes) = .found bs rest) :
    (∀ b ∈ bs, p b = true) ∧ ∃ c more, rest = c :: more ∧ p c = false := by
  induction input generalizing bs rest with
  | nil => cases h
  | cons b input ih =>
    rw [run] at h
    split at h
    · next hb =>
      cases hrun : (run p input : Scanned ε Bytes) with
      | more => rw [hrun] at h; cases h
      | refused fault => rw [hrun] at h; cases h
      | found others rest' =>
        rw [hrun] at h
        obtain ⟨rfl, rfl⟩ := Scanned.found.inj h
        obtain ⟨hothers, hstop⟩ := ih hrun
        exact ⟨by simpa using ⟨hb, hothers⟩, hstop⟩
    · next hb =>
      obtain ⟨rfl, rfl⟩ := Scanned.found.inj h
      exact ⟨by simp, b, input, rfl, by simpa using hb⟩

/-- Where the first octet is none of the run, the run is empty, and it begins with the first octet
otherwise. -/
theorem head?_run {p : UInt8 → Bool} {c : UInt8} {more bs rest : Bytes}
    (h : (run p (c :: more) : Scanned ε Bytes) = .found bs rest) : ∀ b ∈ bs.head?, b = c := by
  rw [run] at h
  split at h
  · cases hrun : (run p more : Scanned ε Bytes) with
    | more => rw [hrun] at h; cases h
    | refused fault => rw [hrun] at h; cases h
    | found others rest' =>
      rw [hrun] at h
      obtain ⟨rfl, rfl⟩ := Scanned.found.inj h
      simp
  · obtain ⟨rfl, rfl⟩ := Scanned.found.inj h
    simp

namespace Yields

/-- A scanner that takes nothing yields its value. -/
theorem pure {good : α → Prop} {value : α} (h : good value) :
    Yields (Pure.pure value : Scan ε α) good := by
  intro input found rest hfound
  obtain ⟨rfl, rfl⟩ := Scanned.found.inj hfound
  exact h

/-- A scanner that refuses yields nothing. -/
theorem refuse {good : α → Prop} (fault : ε) : Yields (Scan.refuse fault : Scan ε α) good := by
  intro input found rest hfound
  cases hfound

/-- What the first scanner yields may be relied on by the next. -/
theorem bind {first : Scan ε α} {next : α → Scan ε β} {good : α → Prop} {better : β → Prop}
    (hfirst : Yields first good) (hnext : ∀ value, good value → Yields (next value) better) :
    Yields (first >>= next) better := by
  intro input value rest h
  obtain ⟨v, between, hread, hmore⟩ := bind_eq_found h
  exact hnext v (hfirst input v between hread) between value rest hmore

/-- What is found behind something that does not matter. -/
theorem behind (first : Scan ε α) {next : α → Scan ε β} {good : β → Prop}
    (hnext : ∀ value, Yields (next value) good) : Yields (first >>= next) good := by
  intro input value rest h
  obtain ⟨v, between, _, hmore⟩ := bind_eq_found h
  exact hnext v between value rest hmore

/-- A scanner that depends on a condition may rely on it. -/
theorem ite {c : Prop} [Decidable c] {s t : Scan ε α} {good : α → Prop}
    (hs : c → Yields s good) (ht : ¬ c → Yields t good) : Yields (if c then s else t) good := by
  split
  · next hc => exact hs hc
  · next hc => exact ht hc

/-- An expected octet is of the kind expected. -/
theorem expect (p : UInt8 → Bool) (fault : ε) :
    Yields (Scan.expect p fault) fun b => p b = true := by
  refine behind Scan.octet fun b => ite (fun hb => ?_) fun _ => refuse _
  exact pure hb

/-- A run has octets of its kind only. -/
theorem run (p : UInt8 → Bool) : Yields (Scan.run p : Scan ε Bytes) fun bs => ∀ b ∈ bs, p b = true :=
  fun _ _ _ h => (run_eq_found h).1

end Yields

end Scan

/-- What a value that has been read may be: text without blanks at either end. -/
structure IsFieldValue (value : Bytes) : Prop where
  text : ∀ b ∈ value, HeadSyntax.isTextChar b = true
  head : ∀ b ∈ value.head?, Ascii.isBlank b = false
  last : ∀ b ∈ value.getLast?, Ascii.isBlank b = false

/-- A field that can be written out and read again. -/
structure Field.WellFormed (field : Field) : Prop where
  name_ne_nil : field.name ≠ []
  name_token : ∀ b ∈ field.name, HeadSyntax.isTokenChar b = true
  value : IsFieldValue field.value

/-- What a reason phrase that has been read may be. -/
def IsReason (phrase : Bytes) : Prop := ∀ b ∈ phrase, HeadSyntax.isTextChar b = true ∧ b < 0x80

/-- A response head that can be written out and, if it is not too long, read again. -/
structure ResponseHead.WellFormed (head : ResponseHead) : Prop where
  version : head.version = .http10 ∨ head.version = .http11
  reason : IsReason head.reason
  size : head.fields.toList.length ≤ maxFields
  fields : ∀ field ∈ head.fields.toList, field.WellFormed

namespace HeadSyntax

open Scan (Yields)

/-- A reason phrase that is read is one that can be written. -/
theorem yields_reasonPhrase : Yields reasonPhrase IsReason := by
  have hempty : IsReason [] := by simp [IsReason]
  refine Yields.behind Scan.octet fun b => ?_
  refine Yields.ite (fun _ => ?_) fun _ => Yields.ite (fun _ => ?_) fun _ =>
    Yields.ite (fun _ => .pure hempty) fun _ => .refuse _
  · refine (Yields.run isTextChar).bind fun phrase hphrase => ?_
    refine Yields.behind (lineEnd .status) fun _ => .pure ?_
    -- a phrase beyond ASCII is dropped as a whole
    split
    · exact hempty
    · next hascii =>
      intro b hb
      refine ⟨hphrase b hb, ?_⟩
      have hlow : ¬ 0x80 ≤ b := fun hhigh => hascii (List.any_eq_true.mpr ⟨b, hb, by simpa using hhigh⟩)
      exact UInt8.not_le.mp hlow
  · exact Yields.behind (exactly Ascii.lf .status) fun _ => .pure hempty

/-- A field name is not empty and has characters of tokens only. -/
theorem yields_fieldName {first : UInt8} (h : isTokenChar first = true) :
    Yields (fieldName first) fun name => name ≠ [] ∧ ∀ b ∈ name, isTokenChar b = true := by
  refine (Yields.run isTokenChar).bind fun others hothers => ?_
  refine Yields.behind (exactly Ascii.colon .fieldName) fun _ => .pure ?_
  exact ⟨by simp, by simpa using ⟨h, hothers⟩⟩

/-- Dropping blanks from the end of text that begins with none leaves a field value. -/
theorem isFieldValue_trimmed {octets : Bytes} (htext : ∀ b ∈ octets, isTextChar b = true)
    (hhead : ∀ b ∈ octets.head?, Ascii.isBlank b = false) :
    IsFieldValue (octets.reverse.dropWhile Ascii.isBlank).reverse := by
  have hfront : (octets.reverse.dropWhile Ascii.isBlank).reverse <+: octets := by
    rw [← List.reverse_suffix, List.reverse_reverse]
    exact List.dropWhile_suffix _
  refine ⟨fun b hb => htext b (hfront.subset hb), ?_, ?_⟩
  · obtain ⟨dropped, hdropped⟩ := hfront
    intro b hb
    refine hhead b ?_
    rw [← hdropped]
    simp only [Option.mem_def] at hb
    simp [List.head?_append, hb]
  · intro b hb
    rw [List.getLast?_reverse] at hb
    have hstop := List.head?_dropWhile_not Ascii.isBlank octets.reverse
    rw [Option.mem_def.mp hb] at hstop
    simpa using hstop

/-- A field value that is read is one that can be written. -/
theorem yields_fieldValue : Yields fieldValue IsFieldValue := by
  intro input value rest h
  obtain ⟨blanks, between, hblanks, hmore⟩ := Scan.bind_eq_found h
  obtain ⟨octets, behind, hoctets, hend⟩ := Scan.bind_eq_found hmore
  obtain ⟨_, after, _, hvalue⟩ := Scan.bind_eq_found hend
  obtain ⟨rfl, _⟩ := Scanned.found.inj hvalue
  -- the blanks in front have been read, so the text begins with none
  obtain ⟨_, c, more, rfl, hc⟩ := Scan.run_eq_found hblanks
  have hfirst := Scan.head?_run hoctets
  refine isFieldValue_trimmed (Scan.run_eq_found hoctets).1 ?_
  intro b hb
  rw [hfirst b hb]
  exact hc

/-- A field line is a field that can be written. -/
theorem yields_fieldLine? : Yields fieldLine? fun field? => ∀ field ∈ field?, field.WellFormed := by
  have hend : ∀ field ∈ (none : Option Field), field.WellFormed := by simp
  refine Yields.behind Scan.octet fun b => ?_
  refine Yields.ite (fun _ => ?_) fun _ => Yields.ite (fun _ => .pure hend) fun _ =>
    Yields.ite (fun hb => ?_) fun _ => .refuse _
  · exact Yields.behind (exactly Ascii.lf .lineEnd) fun _ => .pure hend
  · refine (yields_fieldName hb).bind fun name hname => ?_
    refine yields_fieldValue.bind fun value hvalue => .pure ?_
    rintro field ⟨⟩
    exact ⟨hname.1, hname.2, hvalue⟩

/-- There are no more fields than allowed, and each can be written. -/
theorem yields_fieldLines (limit : Nat) : Yields (fieldLines limit) fun fields =>
    fields.length ≤ limit ∧ ∀ field ∈ fields, field.WellFormed := by
  induction limit with
  | zero =>
    refine yields_fieldLine?.bind fun field? _ => ?_
    cases field? with
    | none => exact .pure (by simp)
    | some field => exact .refuse _
  | succ limit ih =>
    refine yields_fieldLine?.bind fun field? hfield => ?_
    cases field? with
    | none => exact .pure (by simp)
    | some field =>
      refine ih.bind fun others hothers => .pure ?_
      refine ⟨by simpa using hothers.1, ?_⟩
      simpa using ⟨hfield field rfl, hothers.2⟩

/-- A response head has a reason and fields that can be written. -/
theorem yields_responseHead (limit : Nat) : Yields (responseHead limit) fun parts =>
    IsReason parts.reason ∧ parts.fields.toList.length ≤ limit ∧
      ∀ field ∈ parts.fields.toList, field.WellFormed := by
  refine Yields.behind blankLines fun _ => ?_
  refine Yields.behind version fun minor => ?_
  refine Yields.behind (exactly Ascii.space .version) fun _ => ?_
  refine Yields.behind statusCode fun code => ?_
  refine yields_reasonPhrase.bind fun reason hreason => ?_
  refine (yields_fieldLines limit).bind fun fields hfields => .pure ?_
  exact ⟨hreason, hfields⟩

end HeadSyntax

/-- A response head that has been taken off a buffer is well-formed. -/
theorem wellFormed_of_takeResponse {buffer : Bytes} {taken : Taken ResponseHead}
    (h : takeResponse buffer = .ok (some taken)) : taken.head.WellFormed := by
  obtain ⟨parts, hscan, hbuild, _⟩ := takeHead_eq_some h
  obtain ⟨hreason, hsize, hfields⟩ := HeadSyntax.yields_responseHead maxFields _ _ _ hscan
  have hversion := version_of_takeResponse h
  rw [ResponseHead.ofParts] at hbuild
  split at hbuild
  · cases hbuild
  · have hhead := Except.ok.inj hbuild
    refine ⟨hversion, ?_, ?_, ?_⟩ <;> rw [← hhead]
    · exact hreason
    · exact hsize
    · exact hfields

end RelayTunnel.Http
