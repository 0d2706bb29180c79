import RelayTunnel.Http.HeadBuffer

/-!
# Scanners do not take an answer back

A head arrives in pieces, and it is scanned again from the start whenever more of it is there. `Stable`
says that this does no harm: a value or a fault that a scanner finds is also found when there is more
behind the input. A value that is only found with more input ends in what was added. Every scanner of
a head is put together from stable ones (`stable_responseHead`), and so a head that is taken off a
whole stream is not there, or is there already, in each front piece of it (`takeResponse_front`).
-/

set_option autoImplicit false

namespace RelayTunnel.Http

/-- How the answers of a scanner to an input and to the same input with more behind it may be
related. -/
inductive Scanned.Grown {ε α : Type} (input added : Bytes) : Scanned ε α → Scanned ε α → Prop where
  | found (value : α) (rest : Bytes) : rest.length ≤ input.length →
      Grown input added (.found value rest) (.found value (rest ++ added))
  | refused (fault : ε) : Grown input added (.refused fault) (.refused fault)
  | more (later : Scanned ε α) :
      (∀ value rest, later = .found value rest → rest.length ≤ added.length) →
      Grown input added .more later

/-- Answers that are related for a shorter input are so for a longer one. -/
theorem Scanned.Grown.of_length_le {ε α : Type} {input input' added : Bytes}
    {before later : Scanned ε α} (h : Grown input added before later)
    (hle : input.length ≤ input'.length) : Grown input' added before later := by
  cases h with
  | found value rest hrest => exact .found value rest (Nat.le_trans hrest hle)
  | refused fault => exact .refused fault
  | more later hlater => exact .more later hlater

namespace Scan

open Scanned (Grown)

variable {ε α β : Type}

/-- More input behind what a scanner was given changes neither a value nor a fault. -/
def Stable (scan : Scan ε α) : Prop :=
  ∀ input added, Grown input added (scan input) (scan (input ++ added))

/-- A run leaves no more than there was. -/
theorem length_rest_run_le (p : UInt8 → Bool) {input bs rest : Bytes}
    (h : (run p input : Scanned ε Bytes) = .found bs rest) : rest.length ≤ input.length := by
  induction input generalizing bs rest with
  | nil => cases h
  | cons b input ih =>
    rw [run] at h
    split at h
    · cases hrun : (run p input : Scanned ε Bytes) with
      | found bs' rest' =>
        rw [hrun] at h
        obtain ⟨rfl, rfl⟩ := Scanned.found.inj h
        exact Nat.le_succ_of_le (ih hrun)
      | more => rw [hrun] at h; cases h
      | refused fault => rw [hrun] at h; cases h
    · obtain ⟨rfl, rfl⟩ := Scanned.found.inj h
      exact Nat.le_refl _

namespace Stable

/-- No scanner leaves more than there was. -/
theorem length_rest_le {scan : Scan ε α} (h : Stable scan) {input rest : Bytes} {value : α}
    (hfound : scan input = .found value rest) : rest.length ≤ input.length := by
  have hgrown := h input []
  rw [hfound] at hgrown
  generalize scan (input ++ []) = later at hgrown
  cases hgrown with
  | found _ _ hle => exact hle

/-- To take nothing is stable. -/
theorem pure (value : α) : Stable (Pure.pure value : Scan ε α) :=
  fun input _ => .found value input (Nat.le_refl _)

/-- To refuse is stable. -/
theorem refuse (fault : ε) : Stable (Scan.refuse fault : Scan ε α) :=
  fun _ _ => .refused fault

/-- To read an octet is stable. -/
theorem octet : Stable (Scan.octet : Scan ε UInt8) := by
  intro input added
  cases input with
  | nil =>
    refine .more _ fun value rest hfound => ?_
    cases added with
    | nil => cases hfound
    | cons b added =>
      obtain ⟨rfl, rfl⟩ := Scanned.found.inj hfound
      exact Nat.le_succ _
  | cons b input => exact .found b input (Nat.le_succ _)

/-- Reading one thing after another is stable if both are. -/
theorem bind {first : Scan ε α} {next : α → Scan ε β} (hfirst : Stable first)
    (hnext : ∀ value, Stable (next value)) : Stable (first >>= next) := by
  intro input added
  show Grown input added (Scan.bind first next input) (Scan.bind first next (input ++ added))
  rw [Scan.bind, Scan.bind]
  have hgrown := hfirst input added
  generalize first input = before at hgrown ⊢
  generalize first (input ++ added) = later at hgrown ⊢
  cases hgrown with
  | found value rest hle => exact (hnext value rest added).of_length_le hle
  | refused fault => exact .refused fault
  | more later hle =>
    refine .more _ fun value rest hfound => ?_
    cases later with
    | found value' rest' =>
      exact Nat.le_trans ((hnext value').length_rest_le hfound) (hle value' rest' rfl)
    | more => cases hfound
    | refused fault => cases hfound

/-- A choice between stable scanners is stable. -/
theorem ite {c : Prop} [Decidable c] {s t : Scan ε α} (hs : Stable s) (ht : Stable t) :
    Stable (if c then s else t) := by
  split
  · exact hs
  · exact ht

/-- To expect an octet is stable. -/
theorem expect (p : UInt8 → Bool) (fault : ε) : Stable (Scan.expect p fault) :=
  octet.bind fun _ => ite (pure _) (refuse _)

/-- A run is stable, as it waits for an octet of another kind. -/
theorem run (p : UInt8 → Bool) : Stable (Scan.run p : Scan ε Bytes) := by
  intro input added
  induction input with
  | nil => exact .more _ fun bs rest hfound => length_rest_run_le p hfound
  | cons b input ih =>
    rw [List.cons_append, Scan.run, Scan.run]
    split
    · generalize (Scan.run p input : Scanned ε Bytes) = before at ih ⊢
      generalize (Scan.run p (input ++ added) : Scanned ε Bytes) = later at ih ⊢
      cases ih with
      | found bs rest hle => exact .found (b :: bs) rest (Nat.le_succ_of_le hle)
      | refused fault => exact .refused fault
      | more later hle =>
        refine .more _ fun value rest hfound => ?_
        cases later with
        | found bs rest' =>
          obtain ⟨rfl, rfl⟩ := Scanned.found.inj hfound
          exact hle bs _ rfl
        | more => cases hfound
        | refused fault => cases hfound
    · exact .found [] (b :: input) (Nat.le_refl _)

end Stable

end Scan

namespace HeadSyntax

open Scan (Stable)
open Ascii (cr lf)

/-- A given octet is stable. -/
theorem stable_exactly (b : UInt8) (f : HeadFault) : Stable (exactly b f) :=
  (Stable.expect _ _).bind fun _ => .pure _

/-- A line end is stable. -/
theorem stable_lineEnd (f : HeadFault) : Stable (lineEnd f) :=
  Stable.octet.bind fun _ => .ite (stable_exactly _ _) (.ite (.pure _) (.refuse _))

section BlankLines

variable {b : UInt8}

/-- A bare LF is a blank line. -/
theorem blankLines_lf (hlf : (b == lf) = true) (rest : Bytes) :
    blankLines (b :: rest) = blankLines rest := by
  rw [blankLines.eq_def]
  simp [hlf]

/-- Behind a CR, more has to come. -/
theorem blankLines_cr (hlf : ¬ (b == lf) = true) (hcr : (b == cr) = true) :
    blankLines [b] = .more := by
  rw [blankLines.eq_def]
  simp [hlf, hcr]

/-- A CR needs an LF behind it. -/
theorem blankLines_cr_cons (hlf : ¬ (b == lf) = true) (hcr : (b == cr) = true) (c : UInt8)
    (rest : Bytes) :
    blankLines (b :: c :: rest) =
      if c == lf then blankLines rest else .refused (.syntaxFault .lineEnd) := by
  rw [blankLines.eq_def]
  simp [hlf, hcr]

/-- Anything else is behind the blank lines. -/
theorem blankLines_other (hlf : ¬ (b == lf) = true) (hcr : ¬ (b == cr) = true) (rest : Bytes) :
    blankLines (b :: rest) = .found () (b :: rest) := by
  rw [blankLines.eq_def]
  simp [hlf, hcr]

end BlankLines

/-- Blank lines are taken off the front. -/
theorem length_rest_blankLines_le {input rest : Bytes} (h : blankLines input = .found () rest) :
    rest.length ≤ input.length := by
  induction input using blankLines.induct with
  | case1 => cases h
  | case2 b rest' hlf ih =>
    rw [blankLines_lf hlf] at h
    exact Nat.le_succ_of_le (ih h)
  | case3 b hlf hcr =>
    rw [blankLines_cr hlf hcr] at h
    cases h
  | case4 b hlf hcr c rest' hc ih =>
    rw [blankLines_cr_cons hlf hcr, if_pos hc] at h
    exact Nat.le_succ_of_le (Nat.le_succ_of_le (ih h))
  | case5 b hlf hcr c rest' hc =>
    rw [blankLines_cr_cons hlf hcr, if_neg hc] at h
    cases h
  | case6 b rest' hlf hcr =>
    rw [blankLines_other hlf hcr] at h
    obtain ⟨_, rfl⟩ := Scanned.found.inj h
    exact Nat.le_refl _

/-- Blank lines are stable. -/
theorem stable_blankLines : Stable blankLines := by
  intro input added
  induction input using blankLines.induct with
  | case1 => exact .more _ fun _ rest hfound => length_rest_blankLines_le hfound
  | case2 b rest hlf ih =>
    rw [List.cons_append, blankLines_lf hlf, blankLines_lf hlf]
    exact ih.of_length_le (Nat.le_succ _)
  | case3 b hlf hcr =>
    rw [blankLines_cr hlf hcr]
    refine .more _ fun value rest hfound => ?_
    -- the LF may be the first of the octets added
    cases added with
    | nil => rw [List.append_nil, blankLines_cr hlf hcr] at hfound; cases hfound
    | cons c added =>
      rw [List.singleton_append, blankLines_cr_cons hlf hcr] at hfound
      split at hfound
      · exact Nat.le_succ_of_le (length_rest_blankLines_le hfound)
      · cases hfound
  | case4 b hlf hcr c rest hc ih =>
    rw [List.cons_append, List.cons_append, blankLines_cr_cons hlf hcr,
      blankLines_cr_cons hlf hcr, if_pos hc, if_pos hc]
    exact ih.of_length_le (Nat.le_succ_of_le (Nat.le_succ _))
  | case5 b hlf hcr c rest hc =>
    rw [List.cons_append, List.cons_append, blankLines_cr_cons hlf hcr,
      blankLines_cr_cons hlf hcr, if_neg hc, if_neg hc]
    exact .refused _
  | case6 b rest hlf hcr =>
    rw [List.cons_append, blankLines_other hlf hcr, blankLines_other hlf hcr]
    exact .found () (b :: rest) (Nat.le_refl _)

/-- A method is stable. -/
theorem stable_method : Stable method :=
  (Stable.expect _ _).bind fun _ => (Stable.run _).bind fun _ =>
    (stable_exactly _ _).bind fun _ => .pure _

/-- A target is stable. -/
theorem stable_target : Stable target :=
  (Stable.run _).bind fun _ => (stable_exactly _ _).bind fun _ => .ite (.refuse _) (.pure _)

/-- A given text is stable. -/
theorem stable_literal (f : HeadFault) (bs : Bytes) : Stable (literal f bs) := by
  induction bs with
  | nil => exact .pure _
  | cons b bs ih => exact (stable_exactly b f).bind fun _ => ih

/-- A version is stable. -/
theorem stable_version : Stable version :=
  (stable_literal _ _).bind fun _ => (Stable.expect _ _).bind fun _ => .pure _

/-- A digit of the status is stable. -/
theorem stable_statusDigit : Stable statusDigit := (Stable.expect _ _).bind fun _ => .pure _

/-- The status is stable. -/
theorem stable_statusCode : Stable statusCode :=
  stable_statusDigit.bind fun _ => stable_statusDigit.bind fun _ =>
    stable_statusDigit.bind fun _ => .pure _

/-- A reason phrase is stable. -/
theorem stable_reasonPhrase : Stable reasonPhrase := by
  refine Stable.octet.bind fun b => .ite ?_ (.ite ?_ (.ite ?_ ?_))
  · exact (Stable.run _).bind fun _ => (stable_lineEnd _).bind fun _ => .pure _
  · exact (stable_exactly _ _).bind fun _ => .pure _
  · exact .pure _
  · exact .refuse _

/-- A field name is stable. -/
theorem stable_fieldName (first : UInt8) : Stable (fieldName first) :=
  (Stable.run _).bind fun _ => (stable_exactly _ _).bind fun _ => .pure _

/-- A field value is stable. -/
theorem stable_fieldValue : Stable fieldValue :=
  (Stable.run _).bind fun _ => (Stable.run _).bind fun _ =>
    (stable_lineEnd _).bind fun _ => .pure _

/-- A field line is stable. -/
theorem stable_fieldLine? : Stable fieldLine? := by
  refine Stable.octet.bind fun b => .ite ?_ (.ite ?_ (.ite ?_ ?_))
  · exact (stable_exactly _ _).bind fun _ => .pure _
  · exact .pure _
  · exact (stable_fieldName b).bind fun _ => stable_fieldValue.bind fun _ => .pure _
  · exact .refuse _

/-- All field lines are stable. -/
theorem stable_fieldLines (limit : Nat) : Stable (fieldLines limit) := by
  induction limit with
  | zero =>
    refine stable_fieldLine?.bind fun field => ?_
    cases field with
    | none => exact .pure _
    | some field => exact .refuse _
  | succ limit ih =>
    refine stable_fieldLine?.bind fun field => ?_
    cases field with
    | none => exact .pure _
    | some field => exact ih.bind fun _ => .pure _

/-- A request head is stable. -/
theorem stable_requestHead (limit : Nat) : Stable (requestHead limit) :=
  stable_blankLines.bind fun _ => stable_method.bind fun _ => stable_target.bind fun _ =>
    stable_version.bind fun _ => (stable_lineEnd _).bind fun _ =>
      (stable_fieldLines limit).bind fun _ => .pure _

/-- So is a response head. -/
theorem stable_responseHead (limit : Nat) : Stable (responseHead limit) :=
  stable_blankLines.bind fun _ => stable_version.bind fun _ => (stable_exactly _ _).bind fun _ =>
    stable_statusCode.bind fun _ => stable_reasonPhrase.bind fun _ =>
      (stable_fieldLines limit).bind fun _ => .pure _

end HeadSyntax

/-! ## Heads out of front pieces -/

section TakeHead

variable {parts α : Type} {scan : HeadScan parts} {build : parts → Except MessageError α}

/-- A buffer without a head that is not refused holds no more octets than a head may have. -/
theorem length_le_of_takeHead_none {buffer : Bytes}
    (h : takeHead scan build buffer = .ok none) : buffer.length ≤ maxHeadSize := by
  rw [takeHead] at h
  split at h
  · next hempty =>
    rw [List.isEmpty_iff.mp hempty]
    exact Nat.zero_le _
  · split at h
    · cases h
    · cases h
    · split at h
      · next hle => exact hle
      · cases h
    · dsimp only at h
      split at h
      · generalize build _ = built at h
        cases built with
        | error error => cases h
        | ok head => cases h
      · cases h

/-- What it takes for a head to be taken off a buffer. -/
theorem takeHead_eq_some {buffer : Bytes} {taken : Taken α}
    (h : takeHead scan build buffer = .ok (some taken)) :
    ∃ found, scan buffer = .found found taken.rest ∧ build found = .ok taken.head ∧
      buffer.length - taken.rest.length ≤ maxHeadSize := by
  rw [takeHead] at h
  split at h
  · cases h
  · split at h
    · cases h
    · cases h
    · split at h
      · cases h
      · cases h
    · next found rest hscan =>
      dsimp only at h
      split at h
      · next hsize =>
        cases hbuild : build found with
        | error error => rw [hbuild] at h; cases h
        | ok head =>
          rw [hbuild] at h
          cases h
          exact ⟨found, hscan, hbuild, hsize⟩
      · cases h

/-- If a head is taken off a whole stream, then nothing is taken off a front piece of the stream, or
the same head is. -/
theorem takeHead_front (hstable : Scan.Stable scan) {front behind : Bytes} {taken : Taken α}
    (h : takeHead scan build (front ++ behind) = .ok (some taken)) :
    takeHead scan build front = .ok none ∨
      ∃ rest, taken.rest = rest ++ behind ∧
        takeHead scan build front = .ok (some ⟨taken.head, rest⟩) := by
  obtain ⟨found, hscan, hbuild, hsize⟩ := takeHead_eq_some h
  have hgrown := hstable front behind
  rw [hscan] at hgrown
  rw [takeHead]
  split
  · exact Or.inl rfl
  · generalize scan front = before at hgrown
    generalize hlater : Scanned.found found taken.rest = later at hgrown
    cases hgrown with
    | found value rest hle =>
      obtain ⟨rfl, hrest⟩ := Scanned.found.inj hlater
      refine Or.inr ⟨rest, hrest, ?_⟩
      have hfront : front.length - rest.length ≤ maxHeadSize := by
        rw [hrest, List.length_append, List.length_append] at hsize
        omega
      dsimp only
      rw [if_pos hfront, hbuild]
      rfl
    | refused fault => cases hlater
    | more later hle =>
      -- the whole head reaches beyond the front piece, so the front piece is within the limit
      have hbehind := hle found taken.rest hlater.symm
      have hfront : front.length ≤ maxHeadSize := by
        rw [List.length_append] at hsize
        omega
      dsimp only
      rw [if_pos hfront]
      exact Or.inl rfl

/-- A buffer off which something is taken, or that is refused, is not empty. -/
theorem isEmpty_append_of_takeHead_ne {front : Bytes} (h : takeHead scan build front ≠ .ok none)
    (behind : Bytes) : (front ++ behind).isEmpty = false := by
  cases front with
  | nil => exact absurd rfl h
  | cons b front => rfl

/-- A head that is taken off a buffer is the one that is taken when there is more behind it. -/
theorem takeHead_append (hstable : Scan.Stable scan) {front : Bytes} {taken : Taken α}
    (h : takeHead scan build front = .ok (some taken)) (behind : Bytes) :
    takeHead scan build (front ++ behind) = .ok (some ⟨taken.head, taken.rest ++ behind⟩) := by
  obtain ⟨found, hscan, hbuild, hsize⟩ := takeHead_eq_some h
  have hlonger : scan (front ++ behind) = .found found (taken.rest ++ behind) := by
    have hgrown := hstable front behind
    rw [hscan] at hgrown
    generalize scan (front ++ behind) = later at hgrown ⊢
    cases hgrown
    rfl
  have hsize' : (front ++ behind).length - (taken.rest ++ behind).length ≤ maxHeadSize := by
    rw [List.length_append, List.length_append]
    omega
  have hempty := isEmpty_append_of_takeHead_ne (by rw [h]; exact nofun) behind
  rw [takeHead, hempty, if_neg Bool.false_ne_true, hlonger]
  dsimp only
  rw [if_pos hsize', hbuild]
  rfl

/-- A buffer that is refused is refused when there is more behind it, and for the same reason unless
the reason was its size. -/
theorem takeHead_append_error (hstable : Scan.Stable scan) {front : Bytes} {error : MessageError}
    (h : takeHead scan build front = .error error) (behind : Bytes) :
    ∃ later, takeHead scan build (front ++ behind) = .error later ∧
      (later = error ∨ ∃ size, error = .headTooLarge size maxHeadSize) := by
  have hgrown := hstable front behind
  have hempty := isEmpty_append_of_takeHead_ne (by rw [h]; exact nofun) behind
  rw [takeHead] at h
  rw [takeHead, hempty, if_neg Bool.false_ne_true]
  split at h
  · cases h
  · generalize scan front = before at h hgrown
    generalize scan (front ++ behind) = later at hgrown ⊢
    cases hgrown with
    | refused fault => cases fault <;> exact ⟨error, h, Or.inl rfl⟩
    | found value rest hle =>
      have hsize : (front ++ behind).length - (rest ++ behind).length
          = front.length - rest.length := by
        rw [List.length_append, List.length_append]
        omega
      dsimp only at h ⊢
      rw [hsize]
      split at h
      · next hfits =>
        rw [if_pos hfits]
        cases hbuild : build value with
        | error fault =>
          rw [hbuild] at h
          exact ⟨error, h, Or.inl rfl⟩
        | ok head => rw [hbuild] at h; cases h
      · next hlarge =>
        rw [if_neg hlarge]
        exact ⟨error, h, Or.inl rfl⟩
    | more later hle =>
      -- what is too large without a complete head stays too large
      dsimp only at h
      split at h
      · cases h
      · next hlarge =>
        refine Exists.imp (fun _ hlater => ⟨hlater, Or.inr ⟨front.length, (Except.error.inj h).symm⟩⟩) ?_
        cases later with
        | refused fault => cases fault <;> exact ⟨_, rfl⟩
        | more =>
          rw [if_neg (by rw [List.length_append]; omega)]
          exact ⟨_, rfl⟩
        | found value rest =>
          have hrest := hle value rest rfl
          dsimp only
          rw [if_neg (by rw [List.length_append]; omega)]
          exact ⟨_, rfl⟩

end TakeHead

/-- A response head that is taken off a buffer is the one that is taken when there is more behind
it. -/
theorem takeResponse_append {front : Bytes} {taken : Taken ResponseHead}
    (h : takeResponse front = .ok (some taken)) (behind : Bytes) :
    takeResponse (front ++ behind) = .ok (some ⟨taken.head, taken.rest ++ behind⟩) :=
  takeHead_append (HeadSyntax.stable_responseHead maxFields) h behind

/-- A buffer that is refused as a response is refused when there is more behind it, and for the same
reason unless the reason was its size. -/
theorem takeResponse_append_error {front : Bytes} {error : MessageError}
    (h : takeResponse front = .error error) (behind : Bytes) :
    ∃ later, takeResponse (front ++ behind) = .error later ∧
      (later = error ∨ ∃ size, error = .headTooLarge size maxHeadSize) :=
  takeHead_append_error (HeadSyntax.stable_responseHead maxFields) h behind

/-- If a response head is taken off a whole stream, then nothing is taken off a front piece of the
stream, or the same head is. -/
theorem takeResponse_front {front behind : Bytes} {taken : Taken ResponseHead}
    (h : takeResponse (front ++ behind) = .ok (some taken)) :
    takeResponse front = .ok none ∨
      ∃ rest, taken.rest = rest ++ behind ∧ takeResponse front = .ok (some ⟨taken.head, rest⟩) :=
  takeHead_front (HeadSyntax.stable_responseHead maxFields) h

/-- Whether a head is taken that passes a test can be computed. -/
theorem exists_taken_of_any {buffer : Bytes} {test : Taken ResponseHead → Bool}
    (h : (takeResponse buffer).toOption.any (·.any test) = true) :
    ∃ taken, takeResponse buffer = .ok (some taken) ∧ test taken = true := by
  cases htake : takeResponse buffer with
  | error error => rw [htake] at h; cases h
  | ok found =>
    cases found with
    | none => rw [htake] at h; cases h
    | some taken => exact ⟨taken, rfl, by rwa [htake] at h⟩

/-- A response head that has been taken is of one of the two versions that can be written. -/
theorem version_of_takeResponse {buffer : Bytes} {taken : Taken ResponseHead}
    (h : takeResponse buffer = .ok (some taken)) :
    taken.head.version = .http10 ∨ taken.head.version = .http11 := by
  obtain ⟨parts, _, hbuild, _⟩ := takeHead_eq_some h
  rw [ResponseHead.ofParts] at hbuild
  split at hbuild
  · cases hbuild
  · rw [← Except.ok.inj hbuild]
    show Version.ofMinor parts.minor = _ ∨ Version.ofMinor parts.minor = _
    rw [Version.ofMinor.eq_def]
    split
    · exact Or.inl rfl
    · exact Or.inr rfl

end RelayTunnel.Http
