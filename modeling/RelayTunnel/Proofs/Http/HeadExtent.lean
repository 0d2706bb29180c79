import Mathlib.Data.List.Forall2
import Mathlib.Data.List.TakeWhile
import RelayTunnel.Proofs.Http.StatusLine

/-!
# How far a head reaches

`Takes` says what a scanner takes off the front of its input, next to the value it finds; it goes
through the steps of the head reader as the scanner is put together. A head that has been read is thus a
start line, the lines of its fields and a blank line, and nothing behind the blank line is touched
(`IsHead`). Several checks may fail on the way; `decode` goes through them on a buffer that keeps what a
step has done to it before it failed, and still nothing is lost (`decode_atomic`). Over a whole stream
the heads stand one behind another (`takePieces_laidOut`).
-/

set_option autoImplicit false

namespace RelayTunnel.Http

namespace Scan

variable {ε α β : Type}

/-- What the scanner takes off the front of its input is good for the value it finds. -/
def Takes (scan : Scan ε α) (good : α → Bytes → Prop) : Prop :=
  ∀ input value rest, scan input = .found value rest →
    ∃ front, input = front ++ rest ∧ good value front

namespace Takes

variable {scan : Scan ε α} {good : α → Bytes → Prop}

/-- What is good is good in a weaker sense, too. -/
theorem mono {better : α → Bytes → Prop} (h : Takes scan good)
    (himp : ∀ value front, good value front → better value front) : Takes scan better := by
  intro input value rest hfound
  obtain ⟨front, hinput, hgood⟩ := h input value rest hfound
  exact ⟨front, hinput, himp value front hgood⟩

/-- What a scanner takes and what it finds may be told together. -/
theorem and_yields {fine : α → Prop} (h : Takes scan good) (hyields : Yields scan fine) :
    Takes scan fun value front => good value front ∧ fine value := by
  intro input value rest hfound
  obtain ⟨front, hinput, hgood⟩ := h input value rest hfound
  exact ⟨front, hinput, hgood, hyields input value rest hfound⟩

/-- What takes at least one octet takes something. -/
theorem ne_nil (h : Takes scan good) (hconsuming : Consuming scan) :
    Takes scan fun value front => front ≠ [] ∧ good value front := by
  intro input value rest hfound
  have hless := hconsuming input value rest hfound
  obtain ⟨front, rfl, hgood⟩ := h input value rest hfound
  refine ⟨front, rfl, ?_, hgood⟩
  rintro rfl
  exact absurd hless (Nat.lt_irrefl _)

/-- A scanner that reads nothing takes nothing. -/
theorem pure {value : α} (h : good value []) : Takes (Pure.pure value : Scan ε α) good := by
  intro input found rest hfound
  obtain ⟨rfl, rfl⟩ := Scanned.found.inj hfound
  exact ⟨[], rfl, h⟩

/-- A scanner that refuses takes nothing that matters. -/
theorem refuse (fault : ε) : Takes (Scan.refuse fault : Scan ε α) good := by
  intro input found rest hfound
  cases hfound

/-- What is taken by one scanner after another is good if it is good behind whatever the first took. -/
theorem bind {first : Scan ε α} {next : α → Scan ε β} {better : β → Bytes → Prop}
    (hfirst : Takes first good)
    (hnext : ∀ value front, good value front →
      Takes (next value) fun found behind => better found (front ++ behind)) :
    Takes (first >>= next) better := by
  intro input value rest h
  obtain ⟨v, between, hread, hmore⟩ := bind_eq_found h
  obtain ⟨front, hinput, hgood⟩ := hfirst input v between hread
  obtain ⟨behind, hbetween, hbetter⟩ := hnext v front hgood between value rest hmore
  exact ⟨front ++ behind, by rw [hinput, hbetween, List.append_assoc], hbetter⟩

/-- A scanner that depends on a condition may rely on it. -/
theorem ite {c : Prop} [Decidable c] {s t : Scan ε α} (hs : c → Takes s good)
    (ht : ¬ c → Takes t good) : Takes (if c then s else t) good := by
  split
  · next hc => exact hs hc
  · next hc => exact ht hc

/-- An octet that is read is what is taken. -/
theorem octet : Takes (Scan.octet : Scan ε UInt8) fun b front => front = [b] := by
  intro input b rest h
  cases input with
  | nil => cases h
  | cons c input =>
    obtain ⟨rfl, rfl⟩ := Scanned.found.inj h
    exact ⟨[c], rfl, rfl⟩

/-- So is one that is expected. -/
theorem expect (p : UInt8 → Bool) (fault : ε) :
    Takes (Scan.expect p fault) fun b front => front = [b] ∧ p b = true := by
  intro input b rest h
  obtain ⟨hinput, hb⟩ := expect_eq_found h
  exact ⟨[b], hinput, rfl, hb⟩

/-- A run takes what it finds. -/
theorem run (p : UInt8 → Bool) :
    Takes (Scan.run p : Scan ε Bytes) fun bs front => front = bs ∧ ∀ b ∈ bs, p b = true := by
  intro input bs rest h
  refine ⟨bs, ?_, rfl, (run_eq_found h).1⟩
  induction input generalizing bs rest with
  | nil => cases h
  | cons b input ih =>
    rw [Scan.run] at h
    split at h
    · cases hrun : (Scan.run p input : Scanned ε Bytes) with
      | more => rw [hrun] at h; cases h
      | refused fault => rw [hrun] at h; cases h
      | found others rest' =>
        rw [hrun] at h
        obtain ⟨rfl, rfl⟩ := Scanned.found.inj h
        rw [List.cons_append, ← ih _ _ hrun]
    · obtain ⟨rfl, rfl⟩ := Scanned.found.inj h
      rfl

end Takes

end Scan

/-! ## The parts of a head -/

open Ascii (cr lf)

/-- A line ends in CR LF or in a bare LF. -/
def IsLineEnd (octets : Bytes) : Prop := octets = Ascii.crlf ∨ octets = [lf]

/-- Octets none of which ends a line. -/
def IsLineText (octets : Bytes) : Prop := ∀ b ∈ octets, b ≠ cr ∧ b ≠ lf

/-- What stands behind a status, and the reason that is kept of it: nothing, or a space and a phrase. A
phrase with octets beyond ASCII is not kept. -/
def IsReasonText (reason text : Bytes) : Prop :=
  (text = [] ∧ reason = []) ∨
    ∃ phrase, text = Ascii.space :: phrase ∧ reason = if phrase.any (0x80 ≤ ·) then [] else phrase

/-- A start line: text that is not empty, up to a line end, with blank lines in front. -/
def IsStartLine (octets : Bytes) : Prop :=
  ∃ (blanks : List Bytes) (text ending : Bytes), (∀ blank ∈ blanks, IsLineEnd blank) ∧ text ≠ [] ∧ IsLineText text ∧
    IsLineEnd ending ∧ octets = blanks.flatten ++ text ++ ending

/-- The line of a field: its name, a colon, and its value between blanks. -/
def IsFieldLine (field : Field) (line : Bytes) : Prop :=
  ∃ before after ending, (∀ b ∈ before ++ after, Ascii.isBlank b = true) ∧ IsLineEnd ending ∧
    line = field.name ++ [Ascii.colon] ++ before ++ field.value ++ after ++ ending

/-- The lines of the fields in their order, and the blank line behind them. -/
def IsFieldBlock (fields : List Field) (octets : Bytes) : Prop :=
  ∃ (lines : List Bytes) (blank : Bytes), List.Forall₂ IsFieldLine fields lines ∧ IsLineEnd blank ∧
    octets = lines.flatten ++ blank

/-- A whole head with these fields. -/
def HeadText (fields : List Field) (octets : Bytes) : Prop :=
  ∃ start block, IsStartLine start ∧ IsFieldBlock fields block ∧ octets = start ++ block

/-- A whole head with these fields, of which there are no more than allowed. -/
structure IsHead (limit : Nat) (fields : List Field) (octets : Bytes) : Prop where
  text : HeadText fields octets
  count : fields.length ≤ limit
  wellFormed : ∀ field ∈ fields, field.WellFormed

instance : DecidablePred IsLineText := fun octets =>
  List.decidableBAll (fun b => b ≠ cr ∧ b ≠ lf) octets

/-- A line end ends with LF. -/
theorem IsLineEnd.getLast? {ending : Bytes} (h : IsLineEnd ending) : ending.getLast? = some lf := by
  rcases h with rfl | rfl <;> rfl

/-- Two parts of a line make one. -/
theorem IsLineText.append {front behind : Bytes} (hfront : IsLineText front)
    (hbehind : IsLineText behind) : IsLineText (front ++ behind) := by
  intro b hb
  rcases List.mem_append.mp hb with hb | hb
  · exact hfront b hb
  · exact hbehind b hb

/-- Octets of a kind that ends no line. -/
theorem IsLineText.of_forall {p : UInt8 → Bool} (hcr : p cr = false) (hlf : p lf = false)
    {octets : Bytes} (h : ∀ b ∈ octets, p b = true) : IsLineText octets := by
  intro b hb
  have hp := h b hb
  constructor <;> rintro rfl <;> simp_all

namespace HeadSyntax

open Scan (Takes)

/-! ### Text within a line -/

section LineText

variable {ε α β : Type}

/-- What is taken is part of one line. -/
abbrev TakesText (scan : Scan ε α) : Prop := Takes scan fun _ front => IsLineText front

/-- To read nothing stays on the line. -/
theorem TakesText.pure (value : α) : TakesText (Pure.pure value : Scan ε α) :=
  Takes.pure (by simp [IsLineText])

/-- Two scanners that stay on the line do so one after the other. -/
theorem TakesText.bind {first : Scan ε α} {next : α → Scan ε β} (hfirst : TakesText first)
    (hnext : ∀ value, TakesText (next value)) : TakesText (first >>= next) :=
  Takes.bind hfirst fun value _ hfront => (hnext value).mono fun _ _ => hfront.append

/-- An expected octet that is no line end stays on the line. -/
theorem TakesText.expect {p : UInt8 → Bool} (hcr : p cr = false) (hlf : p lf = false) (fault : ε) :
    TakesText (Scan.expect p fault) := by
  refine (Takes.expect p fault).mono ?_
  rintro b _ ⟨rfl, hb⟩
  have hends : b ≠ cr ∧ b ≠ lf := by constructor <;> rintro rfl <;> simp_all
  simpa [IsLineText] using hends

/-- So does a run of such octets. -/
theorem TakesText.run {p : UInt8 → Bool} (hcr : p cr = false) (hlf : p lf = false) :
    TakesText (Scan.run p : Scan ε Bytes) := by
  refine (Takes.run p).mono ?_
  rintro bs _ ⟨rfl, hbs⟩
  exact .of_forall hcr hlf hbs

end LineText

/-- So does a text that is given. -/
theorem takesText_literal {bs : Bytes} (h : IsLineText bs) (f : HeadFault) :
    TakesText (literal f bs) :=
  fun _ _ _ hfound => ⟨bs, literal_eq_found hfound, h⟩

/-- So does a space. -/
theorem takesText_space (f : HeadFault) : TakesText (exactly Ascii.space f) :=
  (TakesText.expect rfl rfl _).bind fun _ => .pure _

/-- So does the method. -/
theorem takesText_method : TakesText method :=
  (TakesText.expect rfl rfl _).bind fun _ => (TakesText.run rfl rfl).bind fun _ =>
    (takesText_space _).bind fun _ => .pure _

/-- So does the target. -/
theorem takesText_target : TakesText target :=
  (TakesText.run rfl rfl).bind fun _ => (takesText_space _).bind fun _ =>
    .ite (fun _ => .refuse _) fun _ => TakesText.pure _

/-- So does the version. -/
theorem takesText_version : TakesText version := by
  have hmark : IsLineText (Ascii.bytes "HTTP/1.") := by decide
  exact (takesText_literal hmark _).bind fun _ => (TakesText.expect rfl rfl _).bind fun _ => .pure _

/-- So does the status. -/
theorem takesText_statusCode : TakesText statusCode := by
  have hdigit : TakesText statusDigit := (TakesText.expect rfl rfl _).bind fun _ => .pure _
  exact hdigit.bind fun _ => hdigit.bind fun _ => hdigit.bind fun _ => .pure _

/-! ### Lines -/

/-- A given octet is taken. -/
theorem takes_exactly (b : UInt8) (f : HeadFault) : Takes (exactly b f) fun _ front => front = [b] :=
  fun _ _ _ h => ⟨[b], exactly_eq_found h, rfl⟩

/-- A line end is taken as it stands. -/
theorem takes_lineEnd (f : HeadFault) : Takes (lineEnd f) fun _ front => IsLineEnd front := by
  refine Takes.octet.bind ?_
  rintro b _ rfl
  refine Takes.ite (fun hcr => ?_) fun _ => Takes.ite (fun hlf => .pure ?_) fun _ => .refuse _
  · refine (takes_exactly lf f).mono ?_
    rintro _ _ rfl
    rw [eq_of_beq hcr]
    exact Or.inl rfl
  · rw [eq_of_beq hlf]
    exact Or.inr rfl

/-- Blank lines are taken as they stand. -/
theorem takes_blankLines : Takes blankLines fun _ front =>
    ∃ blanks : List Bytes, (∀ blank ∈ blanks, IsLineEnd blank) ∧ front = blanks.flatten := by
  intro input value rest h
  induction input using blankLines.induct with
  | case1 => cases h
  | case2 b input hlf ih =>
    rw [blankLines_lf hlf] at h
    obtain ⟨_, rfl, blanks, hblanks, rfl⟩ := ih h
    refine ⟨([lf] :: blanks).flatten, by rw [eq_of_beq hlf]; rfl, [lf] :: blanks, ?_, rfl⟩
    simpa [IsLineEnd] using hblanks
  | case3 b hlf hcr =>
    rw [blankLines_cr hlf hcr] at h
    cases h
  | case4 b hlf hcr c input hc ih =>
    rw [blankLines_cr_cons hlf hcr, if_pos hc] at h
    obtain ⟨_, rfl, blanks, hblanks, rfl⟩ := ih h
    refine ⟨(Ascii.crlf :: blanks).flatten, ?_, Ascii.crlf :: blanks, ?_, rfl⟩
    · rw [eq_of_beq hcr, eq_of_beq hc]
      rfl
    · simpa [IsLineEnd] using hblanks
  | case5 b hlf hcr c input hc =>
    rw [blankLines_cr_cons hlf hcr, if_neg hc] at h
    cases h
  | case6 b input hlf hcr =>
    rw [blankLines_other hlf hcr] at h
    obtain ⟨_, rfl⟩ := Scanned.found.inj h
    exact ⟨[], rfl, [], by simp, rfl⟩

/-- Behind the status stand the reason phrase and the end of the line. -/
theorem takes_reasonPhrase : Takes reasonPhrase fun reason front =>
    ∃ text ending, IsReasonText reason text ∧ IsLineText text ∧ IsLineEnd ending ∧
      front = text ++ ending := by
  refine Takes.octet.bind ?_
  rintro b _ rfl
  refine Takes.ite (fun hspace => ?_) fun _ => Takes.ite (fun hcr => ?_) fun _ =>
    Takes.ite (fun hlf => .pure ?_) fun _ => .refuse _
  · refine (Takes.run isTextChar).bind ?_
    rintro _ phrase ⟨rfl, hphrase⟩
    refine (takes_lineEnd .status).bind fun _ ending hending => .pure ?_
    have hb : IsLineText [b] := by rw [eq_of_beq hspace]; decide
    have htext : IsLineText phrase := .of_forall (p := isTextChar) rfl rfl hphrase
    refine ⟨[b] ++ phrase, ending, .inr ⟨phrase, ?_, rfl⟩, hb.append htext, hending, by simp⟩
    rw [eq_of_beq hspace]
    rfl
  · refine (takes_exactly lf .status).bind ?_
    rintro _ _ rfl
    refine .pure ⟨[], Ascii.crlf, .inl ⟨rfl, rfl⟩, by decide, Or.inl rfl, ?_⟩
    rw [eq_of_beq hcr]
    rfl
  · rw [eq_of_beq hlf]
    exact ⟨[], [lf], .inl ⟨rfl, rfl⟩, by decide, Or.inr rfl, rfl⟩

/-! ### Fields -/

/-- A field name is taken with the colon behind it. -/
theorem takes_fieldName (first : UInt8) : Takes (fieldName first) fun name behind =>
    [first] ++ behind = name ++ [Ascii.colon] := by
  refine (Takes.run isTokenChar).bind ?_
  rintro others _ ⟨rfl, -⟩
  refine (takes_exactly Ascii.colon .fieldName).bind ?_
  rintro _ _ rfl
  exact .pure (by simp)

/-- A field value is taken with the blanks around it and its line end. -/
theorem takes_fieldValue : Takes fieldValue fun value front =>
    ∃ before after ending, (∀ b ∈ before ++ after, Ascii.isBlank b = true) ∧ IsLineEnd ending ∧
      front = before ++ value ++ after ++ ending := by
  refine (Takes.run Ascii.isBlank).bind ?_
  rintro _ before ⟨rfl, hbefore⟩
  refine (Takes.run isTextChar).bind ?_
  rintro _ octets ⟨rfl, -⟩
  refine (takes_lineEnd .fieldValue).bind fun _ ending hending => .pure ?_
  -- the blanks behind the value are what is dropped from the end of the text
  let dropped := (octets.reverse.takeWhile Ascii.isBlank).reverse
  have hsplit : (octets.reverse.dropWhile Ascii.isBlank).reverse ++ dropped = octets := by
    rw [← List.reverse_append, List.takeWhile_append_dropWhile, List.reverse_reverse]
  have hdropped : ∀ b ∈ dropped, Ascii.isBlank b = true := by
    intro b hb
    exact List.mem_takeWhile_imp (List.mem_reverse.mp hb)
  refine ⟨before, dropped, ending, ?_, hending, ?_⟩
  · exact List.forall_mem_append.mpr ⟨hbefore, hdropped⟩
  · rw [List.append_assoc before, hsplit]
    simp

/-- A header line is the line of a field, and the line that is none is blank. -/
theorem takes_fieldLine? : Takes fieldLine? fun field? front =>
    match field? with
    | none => IsLineEnd front
    | some field => IsFieldLine field front := by
  refine Takes.octet.bind ?_
  rintro b _ rfl
  refine Takes.ite (fun hcr => ?_) fun _ => Takes.ite (fun hlf => .pure ?_) fun _ =>
    Takes.ite (fun _ => ?_) fun _ => .refuse _
  · refine (takes_exactly lf .lineEnd).bind ?_
    rintro _ _ rfl
    rw [eq_of_beq hcr]
    exact .pure (Or.inl rfl)
  · rw [eq_of_beq hlf]
    exact Or.inr rfl
  · refine (takes_fieldName b).bind fun name front hname => takes_fieldValue.bind ?_
    rintro value _ ⟨before, after, ending, hblanks, hending, rfl⟩
    refine .pure ⟨before, after, ending, hblanks, hending, ?_⟩
    rw [List.append_nil, ← List.append_assoc, hname]
    simp

/-- All field lines are taken with the blank line behind them. -/
theorem takes_fieldLines (limit : Nat) : Takes (fieldLines limit) IsFieldBlock := by
  induction limit with
  | zero =>
    refine takes_fieldLine?.bind fun field? front hline => ?_
    cases field? with
    | none => exact .pure ⟨[], front, .nil, hline, by simp⟩
    | some field => exact .refuse _
  | succ limit ih =>
    refine takes_fieldLine?.bind fun field? line hline => ?_
    cases field? with
    | none => exact .pure ⟨[], line, .nil, hline, by simp⟩
    | some field =>
      refine ih.bind ?_
      rintro others _ ⟨lines, blank, hlines, hblank, rfl⟩
      exact .pure ⟨line :: lines, blank, .cons hline hlines, hblank, by simp⟩

/-! ### Whole heads -/

/-- A head is put together from blank lines, the text of the start line and its end, and the fields. -/
theorem isHead_append {limit : Nat} {blanks : List Bytes} {text ending block : Bytes}
    {fields : List Field} (hblanks : ∀ blank ∈ blanks, IsLineEnd blank) (hne : text ≠ [])
    (htext : IsLineText text) (hending : IsLineEnd ending)
    (hblock : IsFieldBlock fields block ∧ fields.length ≤ limit ∧ ∀ field ∈ fields, field.WellFormed) :
    IsHead limit fields (blanks.flatten ++ (text ++ (ending ++ block))) := by
  refine ⟨⟨blanks.flatten ++ text ++ ending, block, ?_, hblock.1, by simp⟩, hblock.2.1, hblock.2.2⟩
  exact ⟨blanks, text, ending, hblanks, hne, htext, hending, rfl⟩

/-- A request head is taken whole. -/
theorem takes_requestHead (limit : Nat) : Takes (requestHead limit) fun parts front =>
    IsHead limit parts.fields.toList front := by
  have hfields := (takes_fieldLines limit).and_yields (yields_fieldLines limit)
  refine takes_blankLines.bind ?_
  rintro _ _ ⟨blanks, hblanks, rfl⟩
  refine (Takes.ne_nil takesText_method consuming_method).bind ?_
  rintro method text ⟨hne, htext⟩
  refine Takes.bind takesText_target fun target text₁ htext₁ => ?_
  refine Takes.bind takesText_version fun minor text₂ htext₂ => ?_
  refine (takes_lineEnd .lineEnd).bind fun _ ending hending => ?_
  refine hfields.bind fun fields block hblock => .pure ?_
  have hline : IsLineText (text ++ text₁ ++ text₂) := (htext.append htext₁).append htext₂
  simpa using isHead_append hblanks (by simp [hne]) hline hending hblock

/-- So is a response head. -/
theorem takes_responseHead (limit : Nat) : Takes (responseHead limit) fun parts front =>
    IsHead limit parts.fields.toList front := by
  have hfields := (takes_fieldLines limit).and_yields (yields_fieldLines limit)
  refine takes_blankLines.bind ?_
  rintro _ _ ⟨blanks, hblanks, rfl⟩
  refine (Takes.ne_nil takesText_version consuming_version).bind ?_
  rintro minor text ⟨hne, htext⟩
  refine Takes.bind (takesText_space .version) fun _ text₁ htext₁ => ?_
  refine Takes.bind takesText_statusCode fun code text₂ htext₂ => ?_
  refine takes_reasonPhrase.bind ?_
  rintro reason _ ⟨text₃, ending, -, htext₃, hending, rfl⟩
  refine hfields.bind fun fields block hblock => .pure ?_
  have hline : IsLineText (text ++ text₁ ++ text₂ ++ text₃) :=
    ((htext.append htext₁).append htext₂).append htext₃
  simpa using isHead_append hblanks (by simp [hne]) hline hending hblock

end HeadSyntax

/-! ## Names and values within a head -/

/-- The pieces stand in the octets one behind another. -/
def StandsIn : List Bytes → Bytes → Prop
  | [], _ => True
  | piece :: pieces, octets =>
      ∃ before after, octets = before ++ piece ++ after ∧ StandsIn pieces after

namespace StandsIn

/-- What stands in some octets stands in more of them. -/
theorem append_left {pieces : List Bytes} {octets : Bytes} (h : StandsIn pieces octets)
    (front : Bytes) : StandsIn pieces (front ++ octets) := by
  cases pieces with
  | nil => trivial
  | cons piece pieces =>
    obtain ⟨before, after, rfl, hafter⟩ := h
    exact ⟨front ++ before, after, by simp, hafter⟩

/-- What stands in two parts stands in the whole, in that order. -/
theorem append {first second : List Bytes} {front behind : Bytes} (hfirst : StandsIn first front)
    (hsecond : StandsIn second behind) : StandsIn (first ++ second) (front ++ behind) := by
  induction first generalizing front with
  | nil => exact hsecond.append_left front
  | cons piece pieces ih =>
    obtain ⟨before, after, rfl, hafter⟩ := hfirst
    exact ⟨before, after ++ behind, by simp, ih hafter⟩

end StandsIn

/-- The name and the value of a field stand in its line. -/
theorem IsFieldLine.standsIn {field : Field} {line : Bytes} (h : IsFieldLine field line) :
    StandsIn [field.name, field.value] line := by
  obtain ⟨before, after, ending, _, _, rfl⟩ := h
  refine ⟨[], [Ascii.colon] ++ before ++ field.value ++ after ++ ending, by simp, ?_⟩
  exact ⟨[Ascii.colon] ++ before, after ++ ending, by simp, trivial⟩

/-- The names and the values of the fields, as they stand in a head. -/
def namesAndValues (fields : List Field) : List Bytes :=
  fields.flatMap fun field => [field.name, field.value]

/-- The names and values of fields stand in their lines, in that order. -/
theorem standsIn_lines {fields : List Field} {lines : List Bytes}
    (h : List.Forall₂ IsFieldLine fields lines) : StandsIn (namesAndValues fields) lines.flatten := by
  induction h with
  | nil => trivial
  | cons hline _ ih => exact hline.standsIn.append ih

/-- So they do in the head. -/
theorem HeadText.standsIn {fields : List Field} {octets : Bytes} (h : HeadText fields octets) :
    StandsIn (namesAndValues fields) octets := by
  obtain ⟨start, _, _, ⟨lines, blank, hlines, _, rfl⟩, rfl⟩ := h
  have hblock : StandsIn (namesAndValues fields ++ []) (lines.flatten ++ blank) :=
    (standsIn_lines hlines).append trivial
  rw [List.append_nil] at hblock
  exact hblock.append_left start

/-- The line end of the blank line is the last octet of a head. -/
theorem HeadText.getLast? {fields : List Field} {octets : Bytes} (h : HeadText fields octets) :
    octets.getLast? = some lf := by
  obtain ⟨start, _, _, ⟨lines, blank, _, hblank, rfl⟩, rfl⟩ := h
  rw [← List.append_assoc, List.getLast?_append, hblank.getLast?]
  rfl

/-! ## Taking a head off a buffer -/

/-- What may be taken off a buffer as a head with these fields. -/
structure IsTakenHead (fields : List Field) (octets : Bytes) : Prop where
  size : octets.length ≤ maxHeadSize
  head : IsHead maxFields fields octets
  last : octets.getLast? = some lf
  pieces : StandsIn (namesAndValues fields) octets

section Decode

variable {parts α : Type}

/-- The answer of a step on a buffer, and what is in the buffer afterwards. -/
def outcome {β : Type} (step : OnBuffer β) (buffer : Bytes) : Except MessageError β × Bytes :=
  StateT.run (ExceptT.run step) buffer

section Outcome

variable {β γ : Type} {buffer : Bytes}

/-- A step that looks at the buffer leaves it as it is. -/
theorem outcome_get (next : Bytes → OnBuffer β) :
    outcome (get >>= next) buffer = outcome (next buffer) buffer := rfl

/-- A step that changes the buffer leaves what it makes of it. -/
theorem outcome_modify (change : Bytes → Bytes) (next : PUnit → OnBuffer β) :
    outcome (modify change >>= next) buffer = outcome (next ⟨⟩) (change buffer) := rfl

/-- An answer that is there is given, or ends the step with its error. -/
theorem outcome_liftExcept (answer : Except MessageError γ) (next : γ → OnBuffer β) :
    outcome (liftExcept answer >>= next) buffer =
      match answer with
      | .ok value => outcome (next value) buffer
      | .error error => (.error error, buffer) := by
  cases answer <;> rfl

/-- A check that fails ends the step with its error. -/
theorem outcome_ensure (check : Prop) [Decidable check] (error : MessageError)
    (next : Unit → OnBuffer β) :
    outcome (ensure check error >>= next) buffer =
      if check then outcome (next ()) buffer else (.error error, buffer) := by
  unfold ensure
  split <;> rfl

end Outcome

/-- An answer about a buffer, and what is in the buffer afterwards. -/
def settled (buffer : Bytes) :
    Except MessageError (Option (Taken α)) → Except MessageError (Option α) × Bytes
  | .ok (some taken) => (.ok (some taken.head), taken.rest)
  | .ok none => (.ok none, buffer)
  | .error error => (.error error, buffer)

/-- Decoding, step by step, comes to the same as taking a head off the buffer. -/
theorem outcome_decode {scan : HeadScan parts} {good : parts → Bytes → Prop}
    (hscan : Scan.Takes scan good) (build : parts → Except MessageError α) (buffer : Bytes) :
    outcome (decode scan build) buffer = settled buffer (takeHead scan build buffer) := by
  rw [decode, takeHead, outcome_get]
  split
  · rfl
  · cases hread : scan buffer with
    | refused fault => cases fault <;> rfl
    | more =>
      dsimp only
      rw [outcome_ensure]
      split <;> rfl
    | found found rest =>
      obtain ⟨front, rfl, -⟩ := hscan buffer found rest hread
      dsimp only
      rw [outcome_ensure]
      split
      · rw [outcome_liftExcept]
        cases build found with
        | error error => rfl
        | ok head =>
          have hdrop : (front ++ rest).drop ((front ++ rest).length - rest.length) = rest := by simp
          dsimp only
          rw [outcome_modify, hdrop]
          rfl
      · rfl

/-- What is taken off a buffer as a head, and what happens to the buffer. -/
structure IsAtomic (fieldsOf : α → Fields) (buffer : Bytes)
    (after : Except MessageError (Option α) × Bytes) : Prop where
  error : ∀ error, after.1 = .error error → after.2 = buffer
  none : after.1 = .ok none → after.2 = buffer ∧ buffer.length ≤ maxHeadSize
  some : ∀ head, after.1 = .ok (some head) →
    ∃ front, buffer = front ++ after.2 ∧ IsTakenHead (fieldsOf head).toList front

variable {scan : HeadScan parts} {build : parts → Except MessageError α} {buffer : Bytes}
  {partsOf : parts → Fields} {fieldsOf : α → Fields}

/-- A head is taken off the front of a buffer with all its octets and none behind them. -/
theorem isTakenHead_of_takeHead
    (hscan : Scan.Takes scan fun found front => IsHead maxFields (partsOf found).toList front)
    (hbuild : ∀ found head, build found = .ok head → fieldsOf head = partsOf found)
    {taken : Taken α} (h : takeHead scan build buffer = .ok (some taken)) :
    ∃ front, buffer = front ++ taken.rest ∧ IsTakenHead (fieldsOf taken.head).toList front := by
  obtain ⟨found, hread, hhead, hsize⟩ := takeHead_eq_some h
  obtain ⟨front, rfl, hfront⟩ := hscan buffer found taken.rest hread
  rw [hbuild found taken.head hhead]
  have hsize' : front.length ≤ maxHeadSize := by
    rw [List.length_append] at hsize
    omega
  exact ⟨front, rfl, hsize', hfront, hfront.text.getLast?, hfront.text.standsIn⟩

/-- A buffer is left without the head that was taken, and untouched otherwise. -/
theorem isAtomic_settled
    (hscan : Scan.Takes scan fun found front => IsHead maxFields (partsOf found).toList front)
    (hbuild : ∀ found head, build found = .ok head → fieldsOf head = partsOf found)
    (buffer : Bytes) : IsAtomic fieldsOf buffer (settled buffer (takeHead scan build buffer)) := by
  cases htake : takeHead scan build buffer with
  | error error => exact ⟨fun _ _ => rfl, nofun, nofun⟩
  | ok taken? =>
    cases taken? with
    | none => exact ⟨nofun, fun _ => ⟨rfl, length_le_of_takeHead_none htake⟩, nofun⟩
    | some taken =>
      refine ⟨nofun, nofun, ?_⟩
      rintro head ⟨⟩
      exact isTakenHead_of_takeHead hscan hbuild htake

end Decode

/-- A request head has the fields that were read. -/
theorem RequestHead.fields_of_ofParts (parts : HeadSyntax.RequestParts) (head : RequestHead)
    (h : ofParts parts = .ok head) : head.fields = parts.fields := by
  rw [ofParts] at h
  split at h
  · cases h
  · rw [← Except.ok.inj h]

/-- So has a response head. -/
theorem ResponseHead.fields_of_ofParts (parts : HeadSyntax.ResponseParts) (head : ResponseHead)
    (h : ofParts parts = .ok head) : head.fields = parts.fields := by
  rw [ofParts] at h
  split at h
  · cases h
  · rw [← Except.ok.inj h]

/-- Taking a head off a buffer is all or nothing, for requests and for responses: an error and a "not
yet" leave the buffer as it is, and it is no longer than a head may be where more is waited for; a head
is taken with its own octets only, which are no more than allowed, end with its blank line and hold the
names and the values of its fields, of which there are no more than allowed, one behind another. -/
theorem decode_atomic (buffer : Bytes) :
    (outcome decodeRequest buffer = settled buffer (takeRequest buffer) ∧
      IsAtomic RequestHead.fields buffer (outcome decodeRequest buffer)) ∧
    outcome decodeResponse buffer = settled buffer (takeResponse buffer) ∧
      IsAtomic ResponseHead.fields buffer (outcome decodeResponse buffer) := by
  have hrequest : outcome decodeRequest buffer = settled buffer (takeRequest buffer) :=
    outcome_decode (HeadSyntax.takes_requestHead maxFields) RequestHead.ofParts buffer
  have hresponse : outcome decodeResponse buffer = settled buffer (takeResponse buffer) :=
    outcome_decode (HeadSyntax.takes_responseHead maxFields) ResponseHead.ofParts buffer
  refine ⟨⟨hrequest, ?_⟩, hresponse, ?_⟩
  · rw [hrequest]
    exact isAtomic_settled (HeadSyntax.takes_requestHead maxFields) RequestHead.fields_of_ofParts buffer
  · rw [hresponse]
    exact isAtomic_settled (HeadSyntax.takes_responseHead maxFields) ResponseHead.fields_of_ofParts buffer

/-! ## Heads one behind another -/

/-- The octets are the heads that were taken, one behind another, and what is left. -/
def IsLaidOut {α : Type} (fieldsOf : α → Fields) (run : HeadRun α) (octets : Bytes) : Prop :=
  ∃ fronts : List Bytes,
    List.Forall₂ (fun head front => IsTakenHead (fieldsOf head).toList front) run.heads fronts ∧
      octets = fronts.flatten ++ run.rest

/-- Heads that were taken before stand in front. -/
theorem IsLaidOut.after {α : Type} {fieldsOf : α → Fields} {run : HeadRun α} {octets : Bytes}
    (h : IsLaidOut fieldsOf run octets) {first : HeadRun α} {whole : Bytes} (added : Bytes)
    (hfirst : IsLaidOut fieldsOf first whole) (hrest : octets = first.rest ++ added) :
    IsLaidOut fieldsOf (run.after first.heads) (whole ++ added) := by
  obtain ⟨behind, hbehind, hoctets⟩ := h
  obtain ⟨fronts, hfronts, rfl⟩ := hfirst
  refine ⟨fronts ++ behind, List.rel_append hfronts hbehind, ?_⟩
  rw [List.append_assoc, ← hrest, hoctets]
  simp [HeadRun.after]

section Run

variable {parts α : Type} {scan : HeadScan parts} {build : parts → Except MessageError α}
  {hconsuming : Scan.Consuming scan} {partsOf : parts → Fields} {fieldsOf : α → Fields}

/-- The heads that are taken off a buffer stand in it one behind the other. -/
theorem isLaidOut_takeHeads
    (hscan : Scan.Takes scan fun found front => IsHead maxFields (partsOf found).toList front)
    (hbuild : ∀ found head, build found = .ok head → fieldsOf head = partsOf found)
    (buffer : Bytes) : IsLaidOut fieldsOf (takeHeads build hconsuming buffer) buffer := by
  fun_induction takeHeads build hconsuming buffer with
  | case1 buffer taken htake ih =>
    obtain ⟨front, hbuffer, hfront⟩ := isTakenHead_of_takeHead hscan hbuild htake
    have hfirst : IsLaidOut fieldsOf ⟨[taken.head], taken.rest, none⟩ buffer :=
      ⟨[front], .cons hfront .nil, by simpa using hbuffer⟩
    simpa using ih.after [] hfirst (by simp)
  | case2 buffer htake => exact ⟨[], .nil, rfl⟩
  | case3 buffer error htake => exact ⟨[], .nil, rfl⟩

/-- No octet is lost however the octets arrive, as far as they have been looked at. -/
theorem isLaidOut_takePieces
    (hscan : Scan.Takes scan fun found front => IsHead maxFields (partsOf found).toList front)
    (hbuild : ∀ found head, build found = .ok head → fieldsOf head = partsOf found)
    (buffer : Bytes) (pieces : List Bytes) :
    ∃ seen unseen, pieces = seen ++ unseen ∧
      IsLaidOut fieldsOf (takePieces build hconsuming buffer pieces) (buffer ++ seen.flatten) ∧
      ((takePieces build hconsuming buffer pieces).error = none → unseen = []) := by
  induction pieces generalizing buffer with
  | nil => exact ⟨[], [], rfl, ⟨[], .nil, by simp [takePieces]⟩, fun _ => rfl⟩
  | cons piece pieces ih =>
    have hpiece : IsLaidOut fieldsOf (takeHeads build hconsuming (buffer ++ piece)) (buffer ++ piece) :=
      isLaidOut_takeHeads hscan hbuild (buffer ++ piece)
    rw [takePieces]
    cases herror : (takeHeads build hconsuming (buffer ++ piece)).error with
    | some error =>
      refine ⟨[piece], pieces, rfl, by simpa using hpiece, fun hnone => ?_⟩
      dsimp only at hnone
      rw [herror] at hnone
      cases hnone
    | none =>
      obtain ⟨seen, unseen, rfl, hlaid, hall⟩ := ih (takeHeads build hconsuming (buffer ++ piece)).rest
      refine ⟨piece :: seen, unseen, rfl, ?_, hall⟩
      simpa using hlaid.after seen.flatten hpiece rfl

end Run

/-- Heads that arrive in pieces stand one behind another in what has been looked at, with what is left
in the buffer behind them; without an error that is all of the pieces. -/
theorem takePieces_laidOut (pieces : List Bytes) :
    (∃ seen unseen, pieces = seen ++ unseen ∧
      IsLaidOut RequestHead.fields (takeRequests pieces) seen.flatten ∧
      ((takeRequests pieces).error = none → unseen = [])) ∧
    ∃ seen unseen, pieces = seen ++ unseen ∧
      IsLaidOut ResponseHead.fields (takeResponses pieces) seen.flatten ∧
      ((takeResponses pieces).error = none → unseen = []) := by
  constructor
  · exact isLaidOut_takePieces (HeadSyntax.takes_requestHead maxFields)
      RequestHead.fields_of_ofParts [] pieces
  · exact isLaidOut_takePieces (HeadSyntax.takes_responseHead maxFields)
      ResponseHead.fields_of_ofParts [] pieces

end RelayTunnel.Http
