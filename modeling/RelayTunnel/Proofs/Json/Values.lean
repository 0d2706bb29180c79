import RelayTunnel.Proofs.Json.Strings
import RelayTunnel.Proofs.Text.Numerals

/-!
# Reading back written JSON: numbers and objects

A value in an object is followed by a comma or by the closing brace, which is what ends a number
(`reads_natural`). The members of an object are read one after the other, each from the state the one
before it left (`Members`).
-/

set_option autoImplicit false

namespace RelayTunnel.Json

variable {β : Type}

/-- The octets that stand behind a value in an object. -/
def EndsValue (mark : UInt8) : Prop := mark = Ascii.comma ∨ mark = closeBrace

/-! ## Numbers and truth values -/

/-- The value of digits may be taken in two parts. -/
theorem digitsValue_append (front behind : Bytes) : digitsValue (front ++ behind)
    = behind.foldl (fun n b => n * 10 + (b.toNat - 0x30)) (digitsValue front) := List.foldl_append

/-- A numeral has the value it was made from. -/
theorem digitsValue_decimalBytes (n : Nat) : digitsValue (Text.decimalBytes n) = n := by
  induction n using Text.decimalChars.induct with
  | case1 n h =>
    rw [Text.decimalBytes_of_lt h]
    simp [digitsValue, Text.toNat_hexDigit h]
  | case2 n h ih =>
    have hdigit : n % 10 < 10 := Nat.mod_lt n (by decide)
    rw [Text.decimalBytes_of_ge (by omega), digitsValue_append, ih]
    simp only [List.foldl_cons, List.foldl_nil, Text.toNat_hexDigit hdigit]
    omega

/-- A count has too few digits to be too large a number. -/
theorem not_reachesFloatBound {n : Nat} (h : n < naturalBound) : reachesFloatBound n 0 = false := by
  have hlength : (Text.decimalChars n).length ≤ 19 + 1 :=
    Text.length_decimalChars_le (Nat.lt_trans h (by decide))
  unfold reachesFloatBound
  dsimp only
  rw [if_pos (.inr (by omega))]

/-- Digits are read up to the first other octet. -/
theorem reads_digits1 {digits : Bytes} (hdigits : ∀ b ∈ digits, Ascii.isDigit b = true) (hne : digits ≠ [])
    {mark : UInt8} (hmark : Ascii.isDigit mark = false) (more : Bytes) :
    Reads (digits1 false) (digits ++ mark :: more) digits (mark :: more) := by
  have htake : Reads (Reader.takeWhile Ascii.isDigit) (digits ++ mark :: more) digits (mark :: more) := by
    refine ⟨by simp, ?_⟩
    simp [Reader.takeWhile, List.takeWhile_append_of_pos hdigits, List.dropWhile_append_of_pos hdigits, hmark]
  exact .bind htake (.of_else (by simpa using hne) (.pure digits _))

/-- A count that was written is read as digits only. -/
theorem reads_numberParts (n : Nat) {mark : UInt8} (hmark : EndsValue mark) (more : Bytes) :
    Reads (numberParts false) (Text.decimalBytes n ++ mark :: more) ⟨Text.decimalBytes n, none, none⟩
      (mark :: more) := by
  have hfraction : Reads (fractionPart false) (mark :: more) none (mark :: more) := by
    refine .bind (.peek mark more) (.of_else ?_ (.pure none _))
    rcases hmark with rfl | rfl <;> decide
  have hexponent : Reads (exponentPart false) (mark :: more) none (mark :: more) := by
    refine .bind (.peek mark more) (.of_else ?_ (.pure none _))
    rcases hmark with rfl | rfl <;> decide
  have hlead : ¬ (1 < (Text.decimalBytes n).length ∧ (Text.decimalBytes n).head? = some 0x30) := by
    rintro ⟨hlong, hzero⟩
    rcases Nat.eq_zero_or_pos n with rfl | hpos
    · simp [Text.decimalBytes_of_lt] at hlong
    · exact Text.head?_decimalBytes hpos hzero
  refine .bind (reads_digits1 (Text.isDigit_of_mem_decimalBytes n) (Text.decimalBytes_ne_nil n) ?_ more) ?_
  · rcases hmark with rfl | rfl <;> decide
  · exact .of_else hlead (.bind hfraction (.bind hexponent (.pure _ _)))

/-- A count is read back from its numeral. -/
theorem reads_natural {n bound : Nat} (hn : n < bound) (hbound : bound ≤ naturalBound) {mark : UInt8}
    (hmark : EndsValue mark) (more : Bytes) :
    Reads (natural bound) (Text.decimalBytes n ++ mark :: more) n (mark :: more) := by
  have hsmall : n < naturalBound := Nat.lt_of_lt_of_le hn hbound
  have hnumber : Reads (unsignedNumber false) (Text.decimalBytes n ++ mark :: more) (.natural n)
      (mark :: more) := by
    refine .bind (reads_numberParts n hmark more) ?_
    simp only [Option.getD_none, List.append_nil, List.length_nil, digitsValue_decimalBytes]
    refine .of_else ?_ (.of_else ?_ (.pure _ _))
    · simpa using not_reachesFloatBound hsmall
    · simpa using hsmall
  obtain ⟨first, others, hcons⟩ := List.exists_cons_of_ne_nil (Text.decimalBytes_ne_nil n)
  have hdigit : Ascii.isDigit first = true :=
    Text.isDigit_of_mem_decimalBytes n first (hcons ▸ List.mem_cons_self)
  have hblank : Reader.isBlank first = false := by
    refine Bool.eq_false_iff.mpr fun hspace => ?_
    simp only [Reader.isBlank, Bool.or_eq_true, beq_iff_eq] at hspace
    rcases hspace with ((rfl | rfl) | rfl) | rfl <;> exact absurd hdigit (by decide)
  have hminus : ¬ (first == 0x2D) = true := by
    intro hsign
    rw [eq_of_beq hsign] at hdigit
    exact absurd hdigit (by decide)
  rw [hcons, List.cons_append] at hnumber ⊢
  have hread : Reads number? (first :: (others ++ mark :: more)) (some (.natural n)) (mark :: more) :=
    .bind (.peek first _) (.of_else hminus (.of_if hdigit (.bind hnumber (.pure _ _))))
  exact .bind (.token hblank _) (.bind hread (.of_if hn (.pure n _)))

/-- A truth value that was written is read again. -/
theorem reads_bool (value : Bool) (more : Bytes) : Reads bool (writeBool value ++ more) value more := by
  cases value with
  | true => exact .bind (.token (by decide) _) (.bind (.literal (Ascii.bytes "true") more) (.pure true more))
  | false =>
    exact .bind (.token (by decide) _) (.bind (.literal (Ascii.bytes "false") more) (.pure false more))

/-! ## Objects -/

/-- A colon is read. -/
theorem reads_colon (more : Bytes) : Reads colon (Ascii.colon :: more) () more :=
  .bind (.token (by decide) _) (.of_if (by decide) (.advance _ more))

/-- The mark that closes an object or a list is read. -/
theorem reads_close (mark : UInt8) (h : Reader.isBlank mark = false) (more : Bytes) :
    Reads (close mark) (mark :: more) () more :=
  .bind (.token h _) (.of_if (beq_self_eq_true mark) (.advance mark more))

/-- Members of an object, as keys and written values, that lead from one state to another when they are
read one after the other. -/
inductive Members {σ : Type} (member : String → σ → Reader σ) : σ → List (String × Bytes) → σ → Prop where
  | nil (state : σ) : Members member state [] state
  | cons {state next last : σ} {key : String} {value : Bytes} {entries : List (String × Bytes)}
      (hmember : ∀ mark more, EndsValue mark →
        Reads (member key state) (Ascii.colon :: value ++ mark :: more) next (mark :: more))
      (hentries : Members member next entries last) : Members member state ((key, value) :: entries) last

/-- Parts with a separator between them are the first part and then each other one behind a separator. -/
theorem intercalate_cons_eq_flatMap (separator first : Bytes) (others : List Bytes) :
    List.intercalate separator (first :: others) = first ++ others.flatMap (separator ++ ·) := by
  induction others generalizing first with
  | nil => simp
  | cons next others ih => simp [List.intercalate_cons_cons, ih]

/-- A member that was written begins with its key in quotes. -/
theorem writeMember_append (key : String) (value rest : Bytes) : writeMember key value ++ rest
    = quote :: ((Text.Utf8.ofString key).flatMap escaped ++ quote :: (Ascii.colon :: value ++ rest)) := by
  rw [writeMember, List.append_assoc, writeString_append]

/-- A key is read up to its colon; the comma before it, if it is not the first, is read with it. -/
theorem reads_nextKey? (first : Bool) (key : String) (value rest : Bytes) :
    Reads (nextKey? first) ((if first then [] else [Ascii.comma]) ++ (writeMember key value ++ rest))
      (some key) (Ascii.colon :: value ++ rest) := by
  rw [writeMember_append]
  have hkey : ∀ more : Bytes, Reads stringTail ((Text.Utf8.ofString key).flatMap escaped ++ quote :: more)
      key more := reads_stringTail key
  cases first with
  | true =>
    refine .bind (.token (by decide) _) (.of_else (by decide) ?_)
    refine .bind (.token (by decide) _) (.of_if (by decide) ?_)
    exact .bind (.advance quote _) (.bind (hkey _) (.pure _ _))
  | false =>
    refine .bind (.token (by decide) _) (.of_else (by decide) (.of_if (by decide) (.bind (.advance _ _) ?_)))
    refine .bind (.token (by decide) _) (.of_if (by decide) ?_)
    exact .bind (.advance quote _) (.bind (hkey _) (.pure _ _))

/-- At the closing brace there is no further key. -/
theorem reads_noKey (first : Bool) (rest : Bytes) :
    Reads (nextKey? first) (closeBrace :: rest) none (closeBrace :: rest) :=
  .bind (.token (by decide) rest) (.of_if (by decide) (.pure none _))

section

variable {σ : Type} {member : String → σ → Reader σ}

/-- One round of `foldMembers`: a member, or the end. -/
def memberStep (member : String → σ → Reader σ) (progress : Bool × σ) : Reader ((Bool × σ) ⊕ σ) := do
  match ← nextKey? progress.1 with
  | none => return .inr progress.2
  | some key => return .inl (false, ← member key progress.2)

/-- To read the members is to read one after the other. -/
theorem foldMembers_eq (start : σ) :
    foldMembers member start = Reader.repeatUntil (memberStep member) (true, start) := rfl

/-- A member that was written is read, with the comma in front of it unless it is the first. -/
theorem reads_member {state next : σ} {key : String} {value : Bytes} {mark : UInt8} {more : Bytes}
    (hmember : Reads (member key state) (Ascii.colon :: value ++ mark :: more) next (mark :: more))
    (first : Bool) :
    Reads (memberStep member (first, state))
      ((if first then [] else [Ascii.comma]) ++ (writeMember key value ++ mark :: more))
      (.inl (false, next)) (mark :: more) :=
  .bind (reads_nextKey? first key value _) (.bind hmember (.pure _ _))

/-- At the closing brace, the members end. -/
theorem reads_noMember (first : Bool) (state : σ) (rest : Bytes) :
    Reads (memberStep member (first, state)) (closeBrace :: rest) (.inr state) (closeBrace :: rest) :=
  .bind (reads_noKey first rest) (.pure _ _)

/-- Behind a member stands a comma or the closing brace. -/
theorem exists_mark (members : List Bytes) (rest : Bytes) : ∃ mark more, EndsValue mark ∧
    members.flatMap ([Ascii.comma] ++ ·) ++ closeBrace :: rest = mark :: more := by
  cases members with
  | nil => exact ⟨closeBrace, rest, .inr rfl, rfl⟩
  | cons first others => exact ⟨Ascii.comma, _, .inl rfl, rfl⟩

/-- Members that were written behind the first are read again. -/
theorem reads_laterMembers {state last : σ} {entries : List (String × Bytes)}
    (h : Members member state entries last) (rest : Bytes) :
    Reads (Reader.repeatUntil (memberStep member) (false, state))
      ((entries.map fun e => writeMember e.1 e.2).flatMap ([Ascii.comma] ++ ·) ++ closeBrace :: rest)
      last (closeBrace :: rest) := by
  induction h with
  | nil state => exact .repeat_over (reads_noMember false state rest)
  | @cons state next last key value entries hmember _ ih =>
    obtain ⟨mark, more, hmark, hrest⟩ := exists_mark (entries.map fun e => writeMember e.1 e.2) rest
    -- what stands behind the member ends its value, whether it is the last or not
    rw [hrest] at ih
    rw [List.map_cons, List.flatMap_cons, List.append_assoc, hrest, List.append_assoc]
    refine .repeat_on (reads_member (hmember mark more hmark) false) ?_ ih
    simp only [List.length_append, List.length_cons]
    omega

/-- The members of an object are read one after the other. -/
theorem reads_foldMembers {start last : σ} {entries : List (String × Bytes)}
    (h : Members member start entries last) (rest : Bytes) :
    Reads (foldMembers member start)
      (List.intercalate [Ascii.comma] (entries.map fun e => writeMember e.1 e.2) ++ closeBrace :: rest)
      last (closeBrace :: rest) := by
  rw [foldMembers_eq]
  cases h with
  | nil => exact .repeat_over (reads_noMember true start rest)
  | @cons _ next _ key value entries hmember hentries =>
    obtain ⟨mark, more, hmark, hrest⟩ := exists_mark (entries.map fun e => writeMember e.1 e.2) rest
    have hlater := reads_laterMembers hentries rest
    rw [hrest] at hlater
    rw [List.map_cons, intercalate_cons_eq_flatMap, List.append_assoc, hrest]
    refine .repeat_on (reads_member (hmember mark more hmark) true) ?_ hlater
    simp only [writeMember, writeString, List.length_append, List.length_cons]
    omega

/-- An object is read back behind its opening brace. -/
theorem reads_object {start last : σ} {entries : List (String × Bytes)}
    (h : Members member start entries last) (finish : σ → β) (rest : Bytes) :
    Reads (do
        Reader.advance 1
        let state ← foldMembers member start
        close closeBrace
        return finish state)
      (writeObject (entries.map fun e => writeMember e.1 e.2) ++ rest) (finish last) rest := by
  have hobject : writeObject (entries.map fun e => writeMember e.1 e.2) ++ rest = openBrace
      :: (List.intercalate [Ascii.comma] (entries.map fun e => writeMember e.1 e.2)
        ++ closeBrace :: rest) := by
    simp [writeObject]
  rw [hobject]
  exact .bind (.advance openBrace _) (.bind (reads_foldMembers h rest)
    (.bind (reads_close closeBrace (by decide) rest) (.pure _ rest)))

end

end RelayTunnel.Json
