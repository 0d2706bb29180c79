import RelayTunnel.Proofs.Http.HeadContents
import RelayTunnel.Proofs.Text.Numerals

/-!
# Heads that are written and read again

`Reads` says that a scanner takes given octets off the front of any buffer as a value and leaves the rest.
Each part of a well-formed head is read off what it is written as, and so is the head (`reads_written`). A
head that has been read is well-formed, whatever spelling it came in: blank lines in front, bare line
feeds, blanks around values and a phrase left out are gone, and what is left is written and read without
change (`rendered_reads_back`).
-/

set_option autoImplicit false

namespace RelayTunnel.Http

namespace Scan

variable {ε α β : Type}

/-- The scanner takes the octets off any buffer that begins with them, and finds the value. -/
def Reads (scan : Scan ε α) (octets : Bytes) (value : α) : Prop :=
  ∀ rest, scan (octets ++ rest) = .found value rest

namespace Reads

/-- A scanner that takes nothing reads no octets. -/
theorem pure (value : α) : Reads (Pure.pure value : Scan ε α) [] value := fun _ => rfl

/-- An octet is read. -/
theorem octet (b : UInt8) : Reads (Scan.octet : Scan ε UInt8) [b] b := fun _ => rfl

/-- Two scanners read one after the other. -/
theorem bind {first : Scan ε α} {next : α → Scan ε β} {front behind : Bytes} {value : α} {result : β}
    (hfirst : Reads first front value) (hnext : Reads (next value) behind result) :
    Reads (first >>= next) (front ++ behind) result := by
  intro rest
  show Scan.bind first next (front ++ behind ++ rest) = _
  rw [Scan.bind, List.append_assoc, hfirst]
  exact hnext rest

/-- What is made of the value after the last octet. -/
theorem map {first : Scan ε α} {octets : Bytes} {value : α} (h : Reads first octets value)
    (f : α → β) : Reads (first >>= fun v => Pure.pure (f v)) octets (f value) := by
  intro rest
  show Scan.bind first _ (octets ++ rest) = _
  rw [Scan.bind, h]
  rfl

/-- Where a condition holds, its scanner reads. -/
theorem of_if {c : Prop} [Decidable c] {s t : Scan ε α} {octets : Bytes} {value : α} (hc : c)
    (h : Reads s octets value) : Reads (if c then s else t) octets value := by
  rwa [if_pos hc]

/-- Where it does not hold, the other one reads. -/
theorem of_else {c : Prop} [Decidable c] {s t : Scan ε α} {octets : Bytes} {value : α} (hc : ¬ c)
    (h : Reads t octets value) : Reads (if c then s else t) octets value := by
  rwa [if_neg hc]

/-- An octet of the kind expected is read. -/
theorem expect {p : UInt8 → Bool} {b : UInt8} (h : p b = true) (fault : ε) :
    Reads (Scan.expect p fault) [b] b := by
  refine (octet b).bind ?_
  exact of_if h (pure b)

end Reads

/-- A run ends at the first octet of another kind. -/
theorem run_append_cons {p : UInt8 → Bool} {bs : Bytes} (hbs : ∀ b ∈ bs, p b = true) {c : UInt8}
    (hc : p c = false) (rest : Bytes) :
    (run p (bs ++ c :: rest) : Scanned ε Bytes) = .found bs (c :: rest) := by
  induction bs with
  | nil => simp [run, hc]
  | cons b bs ih =>
    have hmore := ih fun b' hb' => hbs b' (List.mem_cons_of_mem b hb')
    rw [List.cons_append, run, if_pos (hbs b List.mem_cons_self), hmore]

/-- A run and an octet that ends it, which the next scanner reads. -/
theorem Reads.run_bind {p : UInt8 → Bool} {next : Bytes → Scan ε β} {bs behind : Bytes} {c : UInt8}
    {result : β} (hbs : ∀ b ∈ bs, p b = true) (hc : p c = false)
    (hnext : Reads (next bs) (c :: behind) result) :
    Reads (run p >>= next) (bs ++ c :: behind) result := by
  intro rest
  show Scan.bind (run p) next (bs ++ c :: behind ++ rest) = _
  rw [Scan.bind, List.append_assoc, List.cons_append, run_append_cons hbs hc]
  exact hnext rest

end Scan

namespace HeadSyntax

open Scan (Reads)
open Ascii (cr lf crlf space colon)

/-- A given octet is read. -/
theorem reads_exactly (b : UInt8) (f : HeadFault) : Reads (exactly b f) [b] () :=
  (Reads.expect (beq_self_eq_true b) _).map fun _ => ()

/-- A given text is read. -/
theorem reads_literal (f : HeadFault) (bs : Bytes) : Reads (literal f bs) bs () := by
  induction bs with
  | nil => exact Reads.pure ()
  | cons b bs ih => exact (reads_exactly b f).bind ih

/-- A line end is read. -/
theorem reads_lineEnd (f : HeadFault) : Reads (lineEnd f) crlf () :=
  (Reads.octet cr).bind (reads_exactly lf f)

/-- In front of a head without blank lines there is nothing to skip. -/
theorem reads_behind_blankLines {α : Type} {next : Unit → HeadScan α} {b : UInt8} {more : Bytes}
    {result : α} (hb : b ≠ cr ∧ b ≠ lf) (h : Reads (next ()) (b :: more) result) :
    Reads (blankLines >>= next) (b :: more) result := by
  intro rest
  show Scan.bind blankLines next (b :: more ++ rest) = _
  rw [Scan.bind, List.cons_append, blankLines_other (by simpa using hb.2) (by simpa using hb.1)]
  exact h rest

/-- Either version is read. -/
theorem reads_version {digit : UInt8} (h : digit = 0x30 ∨ digit = 0x31) :
    Reads version (Ascii.bytes "HTTP/1." ++ [digit]) (digit.toNat - 0x30) := by
  have hdigit : (digit == 0x30 || digit == 0x31) = true := by simpa using h
  refine (reads_literal _ _).bind ?_
  exact (Reads.expect hdigit _).map fun b => b.toNat - 0x30

/-- A digit of the status is read. -/
theorem reads_statusDigit {digit : Nat} (h : digit < 10) :
    Reads statusDigit [Text.hexDigit digit] digit := by
  have hread : Reads statusDigit [Text.hexDigit digit] ((Text.hexDigit digit).toNat - 0x30) :=
    (Reads.expect (Text.isDigit_hexDigit h) _).map fun b => b.toNat - 0x30
  rwa [Text.toNat_hexDigit h, Nat.add_sub_cancel_left] at hread

/-- A code of three digits is written with three digits. -/
theorem decimalBytes_code {code : Nat} (h : 100 ≤ code ∧ code ≤ 999) :
    Text.decimalBytes code =
      [Text.hexDigit (code / 100), Text.hexDigit (code / 10 % 10), Text.hexDigit (code % 10)] := by
  have hhundreds : code / 10 / 10 = code / 100 := Nat.div_div_eq_div_mul code 10 10
  rw [Text.decimalBytes_of_ge (by omega), Text.decimalBytes_of_ge (by omega), hhundreds,
    Text.decimalBytes_of_lt (by omega)]
  rfl

/-- A status that was written is read. -/
theorem reads_statusCode (status : Status) :
    Reads statusCode (Text.decimalBytes status.code) status.code := by
  obtain ⟨code, hcode⟩ := status
  have hread : Reads statusCode
      [Text.hexDigit (code / 100), Text.hexDigit (code / 10 % 10), Text.hexDigit (code % 10)]
      (code / 100 * 100 + code / 10 % 10 * 10 + code % 10) := by
    refine Reads.bind (reads_statusDigit (by omega)) ?_
    refine Reads.bind (reads_statusDigit (by omega)) ?_
    exact (reads_statusDigit (by omega)).map fun ones => code / 100 * 100 + code / 10 % 10 * 10 + ones
  have hvalue : code / 100 * 100 + code / 10 % 10 * 10 + code % 10 = code := by omega
  rw [hvalue] at hread
  rw [decimalBytes_code hcode]
  exact hread

/-- A reason phrase that was written is read. -/
theorem reads_reasonPhrase {phrase : Bytes} (h : IsReason phrase) :
    Reads reasonPhrase (space :: phrase ++ crlf) phrase := by
  have hascii : phrase.any (0x80 ≤ ·) = false := by
    rw [List.any_eq_false]
    intro b hb hhigh
    exact UInt8.not_le.mpr (h b hb).2 (by simpa using hhigh)
  have hread : Reads reasonPhrase ([space] ++ (phrase ++ crlf))
      (if phrase.any (0x80 ≤ ·) then [] else phrase) := by
    refine (Reads.octet space).bind ?_
    refine Reads.run_bind (fun b hb => (h b hb).1) rfl ?_
    exact (reads_lineEnd .status).map fun _ => if phrase.any (0x80 ≤ ·) then [] else phrase
  rwa [if_neg (by simp [hascii])] at hread

/-- A field name that was written is read up to its colon. -/
theorem reads_fieldName {first : UInt8} {others : Bytes}
    (h : ∀ b ∈ others, isTokenChar b = true) :
    Reads (fieldName first) (others ++ [colon]) (first :: others) := by
  refine Reads.run_bind h rfl ?_
  exact (reads_exactly colon .fieldName).map fun _ => first :: others

/-- Text without a blank at its end keeps all its octets. -/
theorem trimmed_of_isFieldValue {value : Bytes} (h : IsFieldValue value) :
    (value.reverse.dropWhile Ascii.isBlank).reverse = value := by
  have hkept : value.reverse.dropWhile Ascii.isBlank = value.reverse := by
    cases hreverse : value.reverse with
    | nil => rfl
    | cons b front =>
      have hlast : value.getLast? = some b := by rw [← List.head?_reverse, hreverse]; rfl
      rw [List.dropWhile_cons_of_neg (by simp [h.last b hlast])]
  rw [hkept, List.reverse_reverse]

/-- A field value that was written is read up to its line end. -/
theorem reads_fieldValue {value : Bytes} (h : IsFieldValue value) :
    Reads fieldValue (space :: value ++ crlf) value := by
  -- the blank behind the colon is a run of its own, as the value does not begin with one
  intro rest
  have hblank : ∀ b ∈ [space], Ascii.isBlank b = true := by simp [Ascii.isBlank]
  obtain ⟨c, more, hc, hvalue⟩ : ∃ c more, Ascii.isBlank c = false ∧
      value ++ crlf ++ rest = c :: more := by
    cases hcons : value with
    | nil => exact ⟨cr, lf :: rest, rfl, rfl⟩
    | cons b others => exact ⟨b, others ++ crlf ++ rest, h.head b (by simp [hcons]), rfl⟩
  have htext : Reads (do
      let octets ← Scan.run isTextChar
      lineEnd .fieldValue
      pure (octets.reverse.dropWhile Ascii.isBlank).reverse) (value ++ crlf)
      (value.reverse.dropWhile Ascii.isBlank).reverse := by
    refine Reads.run_bind h.text rfl ?_
    exact (reads_lineEnd .fieldValue).map fun _ => (value.reverse.dropWhile Ascii.isBlank).reverse
  rw [trimmed_of_isFieldValue h] at htext
  show Scan.bind (Scan.run Ascii.isBlank) _ ([space] ++ (value ++ crlf ++ rest)) = _
  rw [Scan.bind, hvalue, Scan.run_append_cons hblank hc, ← hvalue]
  exact htext rest

/-- A character of a token ends no line. -/
theorem not_lineEnd_of_isTokenChar {b : UInt8} (h : isTokenChar b = true) : b ≠ cr ∧ b ≠ lf := by
  constructor
  · rintro rfl
    exact absurd h (by decide)
  · rintro rfl
    exact absurd h (by decide)

/-- A field that was written is read. -/
theorem reads_fieldLine? {field : Field} (h : field.WellFormed) :
    Reads fieldLine? field.line (some field) := by
  obtain ⟨name, value⟩ := field
  obtain ⟨hname, htoken, hvalue⟩ := h
  obtain ⟨first, others, rfl⟩ := List.exists_cons_of_ne_nil hname
  obtain ⟨hfirst, hothers⟩ := List.forall_mem_cons.mp htoken
  obtain ⟨hcr, hlf⟩ := not_lineEnd_of_isTokenChar hfirst
  have hline : Field.line ⟨first :: others, value⟩ =
      [first] ++ (others ++ [colon] ++ (space :: value ++ crlf)) := by
    simp [Field.line]
  rw [hline]
  refine (Reads.octet first).bind ?_
  refine .of_else (by simpa using hcr) (.of_else (by simpa using hlf) (.of_if hfirst ?_))
  refine (reads_fieldName hothers).bind ?_
  exact (reads_fieldValue hvalue).map fun value => some (⟨first :: others, value⟩ : Field)

/-- The blank line behind the fields is read as none. -/
theorem reads_blankLine : Reads fieldLine? crlf none := by
  refine (Reads.octet cr).bind ?_
  exact (reads_exactly lf .lineEnd).map fun _ => none

/-- Fields that were written are read up to the blank line. -/
theorem reads_fieldLines {fields : List Field} {limit : Nat} (hsize : fields.length ≤ limit)
    (h : ∀ field ∈ fields, field.WellFormed) :
    Reads (fieldLines limit) (fields.flatMap Field.line ++ crlf) fields := by
  induction fields generalizing limit with
  | nil =>
    cases limit with
    | zero => exact reads_blankLine.bind (Reads.pure [])
    | succ limit => exact reads_blankLine.bind (Reads.pure [])
  | cons field fields ih =>
    obtain ⟨hfield, hfields⟩ := List.forall_mem_cons.mp h
    cases limit with
    | zero => simp at hsize
    | succ limit =>
      have hothers := ih (by simpa using hsize) hfields
      rw [List.flatMap_cons, List.append_assoc]
      refine (reads_fieldLine? hfield).bind ?_
      exact hothers.map fun others => field :: others

end HeadSyntax

/-- A whole head of a given minor version is read off what it is written as. -/
theorem HeadSyntax.reads_responseHead {digit : UInt8} (hdigit : digit = 0x30 ∨ digit = 0x31)
    (status : Status) {reason : Bytes} (hreason : IsReason reason) {fields : Fields} {limit : Nat}
    (hsize : fields.toList.length ≤ limit) (hfields : ∀ field ∈ fields.toList, field.WellFormed) :
    Scan.Reads (responseHead limit)
      (Ascii.bytes "HTTP/1." ++ [digit] ++ ([Ascii.space] ++ (Text.decimalBytes status.code ++
        (Ascii.space :: reason ++ Ascii.crlf ++ (fields.toList.flatMap Field.line ++ Ascii.crlf)))))
      ⟨digit.toNat - 0x30, status.code, reason, fields⟩ := by
  have hstart : Ascii.bytes "HTTP/1." = 0x48 :: Ascii.bytes "TTP/1." := rfl
  have hversion := reads_version hdigit
  rw [hstart, List.cons_append] at hversion
  rw [hstart, List.cons_append, List.cons_append]
  refine reads_behind_blankLines (by decide) ?_
  refine hversion.bind ?_
  refine (reads_exactly Ascii.space .version).bind ?_
  refine (reads_statusCode status).bind ?_
  refine (reads_reasonPhrase hreason).bind ?_
  exact (reads_fieldLines hsize hfields).map fun lines =>
    (⟨digit.toNat - 0x30, status.code, reason, ⟨lines⟩⟩ : ResponseParts)

/-- A head whose parts are well-formed can be written, and what is written is read as its parts by a
scanner that allows for as many fields. -/
theorem ResponseHead.reads_rendered {head : ResponseHead}
    (hversion : head.version = .http10 ∨ head.version = .http11) (hreason : IsReason head.reason)
    (hfields : ∀ field ∈ head.fields.toList, field.WellFormed) {limit : Nat}
    (hsize : head.fields.toList.length ≤ limit) :
    ∃ written parts, head.render? = some written ∧
      Scan.Reads (HeadSyntax.responseHead limit) written parts ∧
      ResponseHead.ofParts parts = .ok head := by
  obtain ⟨version, status, reason, fields⟩ := head
  dsimp only at hversion hreason hfields hsize
  have hstatus : Status.ofNat? status.code = some status := by
    rw [Status.ofNat?, dif_pos status.three_digits]
  have hlabel : ∃ digit : UInt8, (digit = 0x30 ∨ digit = 0x31) ∧
      Ascii.bytes version.label = Ascii.bytes "HTTP/1." ++ [digit] ∧
      Version.ofMinor (digit.toNat - 0x30) = version := by
    rcases hversion with rfl | rfl
    · exact ⟨0x30, .inl rfl, rfl, rfl⟩
    · exact ⟨0x31, .inr rfl, rfl, rfl⟩
  obtain ⟨digit, hdigit, hwritten, hminor⟩ := hlabel
  have hreads := HeadSyntax.reads_responseHead hdigit status hreason hsize hfields
  refine ⟨_, _, ?_, hreads, ?_⟩
  · have hrender : ResponseHead.render? ⟨version, status, reason, fields⟩ =
        some (Ascii.bytes version.label ++ [Ascii.space] ++ Text.decimalBytes status.code
          ++ [Ascii.space] ++ reason ++ Ascii.crlf ++ fields.toList.flatMap Field.line ++ Ascii.crlf) := by
      rcases hversion with rfl | rfl <;> rfl
    rw [hrender, hwritten]
    simp
  · rw [ResponseHead.ofParts, hstatus, ← hminor]

/-- A well-formed head can be written, and what is written is read as the parts of the head. -/
theorem ResponseHead.WellFormed.reads_written {head : ResponseHead} (h : head.WellFormed) :
    ∃ written parts, head.render? = some written ∧
      Scan.Reads (HeadSyntax.responseHead maxFields) written parts ∧
      ResponseHead.ofParts parts = .ok head :=
  ResponseHead.reads_rendered h.version h.reason h.fields h.size

/-- What a scanner reads off the front of a buffer is taken off it as a head, if it is not too long. -/
theorem takeHead_of_reads {parts α : Type} {scan : HeadScan parts}
    {build : parts → Except MessageError α} {octets : Bytes} {found : parts} {head : α}
    (hreads : Scan.Reads scan octets found) (hbuild : build found = .ok head)
    (hsize : octets.length ≤ maxHeadSize) (hne : octets ≠ []) (behind : Bytes) :
    takeHead scan build (octets ++ behind) = .ok (some ⟨head, behind⟩) := by
  have hlength : (octets ++ behind).length - behind.length = octets.length := by simp
  rw [takeHead, if_neg (by simp [hne]), hreads behind]
  dsimp only
  rw [hlength, if_pos hsize, hbuild]
  rfl

/-- A head that has been read can be written again. If what is written is not longer than a head may be,
it is read, with anything behind it, as the same head, with the same version, status, phrase and fields,
and exactly what stood behind it is left. Writing that head gives the same octets again. -/
theorem rendered_reads_back {buffer : Bytes} {taken : Taken ResponseHead}
    (h : takeResponse buffer = .ok (some taken)) :
    ∃ written, taken.head.render? = some written ∧
      (written.length ≤ maxHeadSize → ∀ behind, ∃ again,
        takeResponse (written ++ behind) = .ok (some again) ∧ again.head = taken.head ∧
          again.rest = behind ∧ again.head.render? = some written) := by
  obtain ⟨written, parts, hrender, hreads, hbuild⟩ :=
    (wellFormed_of_takeResponse h).reads_written
  have hne : written ≠ [] := by
    rintro rfl
    have hnothing := hreads []
    cases hnothing
  refine ⟨written, hrender, fun hsize behind => ⟨⟨taken.head, behind⟩, ?_, rfl, rfl, hrender⟩⟩
  exact takeHead_of_reads hreads hbuild hsize hne behind

/-- A head in a spelling of its own: blank lines in front, bare line feeds, no phrase, blanks around a
value, an empty value, and an octet beyond ASCII. -/
def looseHead : Bytes :=
  Ascii.bytes "\n\r\nHTTP/1.0 404\nX-A:\t a b \t\r\nx-a:\r\nX-A: " ++ [0xFF] ++
    Ascii.bytes "\r\n\nbody"

/-- The same head as it is written. -/
def tidyHead : Bytes :=
  Ascii.bytes "HTTP/1.0 404 \r\nX-A: a b\r\nx-a: \r\nX-A: " ++ [0xFF] ++ Ascii.bytes "\r\n\r\n"

/-- A head with blanks and bare line ends is written tidily, and read again. -/
theorem looseHead_reads_back : ∃ taken, takeResponse looseHead = .ok (some taken) ∧
    taken.head.render? = some tidyHead ∧ tidyHead.length ≤ maxHeadSize ∧
    ∃ again, takeResponse (tidyHead ++ Ascii.bytes "HTTP/1.1") = .ok (some again) ∧
      again.head = taken.head ∧ again.rest = Ascii.bytes "HTTP/1.1" ∧
      again.head.render? = some tidyHead := by
  have hrender : ((takeResponse looseHead).toOption.bind fun found => found.bind
      fun taken => taken.head.render?) = some tidyHead := by
    decide +kernel
  have hsize : tidyHead.length ≤ maxHeadSize := by decide +kernel
  cases htake : takeResponse looseHead with
  | error error => rw [htake] at hrender; cases hrender
  | ok found =>
    cases found with
    | none => rw [htake] at hrender; cases hrender
    | some taken =>
      have htidy : taken.head.render? = some tidyHead := by rw [htake] at hrender; exact hrender
      obtain ⟨written, hwritten, hagain⟩ := rendered_reads_back htake
      obtain rfl := Option.some.inj (htidy.symm.trans hwritten)
      exact ⟨taken, rfl, htidy, hsize, hagain hsize _⟩

end RelayTunnel.Http
