import RelayTunnel.Proofs.Transcode.RecodedHeads
import RelayTunnel.Proofs.Transcode.Verbatim

/-!
# Which responses are recoded

`Eligible` says of a response head, field by field, what it takes for the response to be recoded. A transcoder
decides once, with the octets that complete the head: an eligible response goes out with its recoded head, and
any other goes out as it came, along with everything behind it (`recoded_iff_eligible`).

What goes out as it came does not begin with the recoded head by accident. A buffer that does would be read,
by a scanner that allows for two fields more, both as its own head and as the recoded one, which states one
coding more (`not_prefix_of_recoded`).
-/

set_option autoImplicit false

namespace RelayTunnel.Http

/-! ## Scanners that find the same and more -/

namespace Scan

variable {ε α β : Type}

/-- Whatever the first scanner finds, the second finds too. -/
def Extends (scan scan' : Scan ε α) : Prop :=
  ∀ input value rest, scan input = .found value rest → scan' input = .found value rest

namespace Extends

/-- Every scanner finds what it finds. -/
theorem refl (scan : Scan ε α) : Extends scan scan := fun _ _ _ h => h

/-- A scanner that refuses finds nothing. -/
theorem refuse (fault : ε) (scan : Scan ε α) : Extends (Scan.refuse fault) scan := by
  intro input value rest h
  cases h

/-- What the next scanner finds may be found by a wider one. -/
theorem bind {first : Scan ε α} {next next' : α → Scan ε β}
    (hnext : ∀ value, Extends (next value) (next' value)) :
    Extends (first >>= next) (first >>= next') := by
  intro input value rest h
  obtain ⟨v, between, hread, hmore⟩ := bind_eq_found h
  show Scan.bind first next' input = _
  rw [Scan.bind, hread]
  exact hnext v between value rest hmore

/-- So may what the first scanner finds. -/
theorem bind_first {first first' : Scan ε α} (hfirst : Extends first first')
    (next : α → Scan ε β) : Extends (first >>= next) (first' >>= next) := by
  intro input value rest h
  obtain ⟨v, between, hread, hmore⟩ := bind_eq_found h
  show Scan.bind first' next input = _
  rw [Scan.bind, hfirst input v between hread]
  exact hmore

end Extends

end Scan

namespace HeadSyntax

open Scan (Extends)

/-- Fields that are read within one limit are read within a larger one. -/
theorem extends_fieldLines {limit limit' : Nat} (h : limit ≤ limit') :
    Extends (fieldLines limit) (fieldLines limit') := by
  induction limit generalizing limit' with
  | zero =>
    cases limit' with
    | zero => exact .refl _
    | succ limit' =>
      refine .bind fun field? => ?_
      cases field? with
      | none => exact .refl _
      | some field => exact .refuse _ _
  | succ limit ih =>
    obtain ⟨limit', rfl⟩ := Nat.exists_eq_add_of_le' (Nat.le_trans (Nat.le_add_left 1 limit) h)
    refine .bind fun field? => ?_
    cases field? with
    | none => exact .refl _
    | some field => exact .bind_first (ih (Nat.le_of_succ_le_succ h)) _

/-- A head that is read within one limit of fields is read within a larger one. -/
theorem extends_responseHead {limit limit' : Nat} (h : limit ≤ limit') :
    Extends (responseHead limit) (responseHead limit') :=
  .bind fun _ => .bind fun _ => .bind fun _ => .bind fun _ => .bind fun _ =>
    .bind_first (extends_fieldLines h) _

end HeadSyntax

end RelayTunnel.Http

namespace RelayTunnel.Transcode

open Compression (BodyCompressor ContentCoding)
open Http

/-! ## What it takes -/

/-- What it takes for a response to be recoded. -/
structure Eligible (head : ResponseHead) : Prop where
  not_encoded : ∀ field ∈ head.fields.toList, field.isNamed FieldName.contentEncoding = false
  /-- Informational responses and two others have no body. -/
  status : ¬ (100 ≤ head.status.code ∧ head.status.code < 200) ∧ head.status.code ≠ 204 ∧
    head.status.code ≠ 304
  /-- The list elements of all `Transfer-Encoding` fields count, empty ones excepted. -/
  codings : ∀ field ∈ head.fields.toList, field.isNamed FieldName.transferEncoding = true →
    ∀ element ∈ field.value.splitOn Ascii.comma, trimBoth Ascii.isWhitespace element ≠ [] →
      Ascii.sameIgnoringCase (trimBoth Ascii.isWhitespace element) (Ascii.bytes "chunked") = true
  /-- Only the first `Content-Type` field counts, and of its value what stands before the parameters. -/
  type : ∃ field text, head.fields.toList.find? (Field.isNamed FieldName.contentType) = some field ∧
    field.text? = some text ∧ ∃ known ∈ compressibleTypes,
      (Text.trim (text.toList.takeWhile (· != ';'))).map Char.toLower = known.toList
  framing : ∃ framing, head.framing = .ok framing

/-- A response has a body unless its status rules that out. -/
theorem hasBody_iff (head : ResponseHead) : head.hasBody = true ↔
    ¬ (100 ≤ head.status.code ∧ head.status.code < 200) ∧ head.status.code ≠ 204 ∧
      head.status.code ≠ 304 := by
  have hcode := head.status.three_digits
  simp only [ResponseHead.hasBody, Bool.not_eq_true', Bool.or_eq_false_iff, decide_eq_false_iff_not,
    beq_eq_false_iff_ne]
  omega

/-- A message is plainly framed if all elements of its transfer codings are empty or `chunked`. -/
theorem isPlainlyFramed_iff (fields : Fields) : isPlainlyFramed fields = true ↔
    ∀ field ∈ fields.toList, field.isNamed FieldName.transferEncoding = true →
      ∀ element ∈ field.value.splitOn Ascii.comma, trimBoth Ascii.isWhitespace element ≠ [] →
        Ascii.sameIgnoringCase (trimBoth Ascii.isWhitespace element) (Ascii.bytes "chunked") =
          true := by
  have helement : ∀ element : Bytes, (element.isEmpty || isChunkedCoding element) = true ↔
      (element ≠ [] → Ascii.sameIgnoringCase element (Ascii.bytes "chunked") = true) := by
    intro element
    cases element with
    | nil => simp
    | cons b bs => simp [isChunkedCoding, chunkedCoding]
  simp only [isPlainlyFramed, Fields.values, listElements, List.all_eq_true, List.forall_mem_map,
    List.mem_filter, helement, and_imp]

/-- A media type is listed up to its parameters, in any casing. -/
theorem namesCompressibleType_iff (text : String) : namesCompressibleType text = true ↔
    ∃ known ∈ compressibleTypes,
      (Text.trim (text.toList.takeWhile (· != ';'))).map Char.toLower = known.toList := by
  simp only [namesCompressibleType, mediaType, List.any_eq_true, beq_iff_eq]
  simp only [eq_comm]

/-- The first media type that is stated decides. -/
theorem namesCompressibleType_of_first_iff (fields : Fields) :
    ((fields.text? FieldName.contentType).map namesCompressibleType).getD false = true ↔
      ∃ field text, fields.toList.find? (Field.isNamed FieldName.contentType) = some field ∧
        field.text? = some text ∧ namesCompressibleType text = true := by
  rw [Fields.text?]
  cases hfirst : fields.toList.find? (Field.isNamed FieldName.contentType) with
  | none => simp
  | some field => cases htext : field.text? <;> simp [htext]

/-- A body is not encoded if no field says so. -/
theorem notEncoded_iff (fields : Fields) : fields.contains FieldName.contentEncoding = false ↔
    ∀ field ∈ fields.toList, field.isNamed FieldName.contentEncoding = false := by
  simp [Fields.contains, Fields.get?]

/-- A response is planned for exactly if it is eligible. -/
theorem exists_plan_iff (head : ResponseHead) :
    (∃ reader, ResponseTranscoder.plan? head = some reader) ↔ Eligible head := by
  constructor
  · rintro ⟨reader, hplan⟩
    obtain ⟨hcompressible, hreader⟩ := ResponseTranscoder.plan?_eq_some.mp hplan
    simp only [isCompressible, Bool.and_eq_true, Bool.not_eq_true'] at hcompressible
    obtain ⟨⟨⟨hencoded, hbody⟩, hplain⟩, htype⟩ := hcompressible
    obtain ⟨field, text, hfield, htext, hknown⟩ := (namesCompressibleType_of_first_iff _).mp htype
    refine ⟨(notEncoded_iff _).mp hencoded, (hasBody_iff head).mp hbody, (isPlainlyFramed_iff _).mp hplain,
      ⟨field, text, hfield, htext, (namesCompressibleType_iff text).mp hknown⟩, ?_⟩
    cases hframing : head.framing with
    | ok framing => exact ⟨framing, rfl⟩
    | error error => rw [BodyReader.ofResponse, hframing] at hreader; cases hreader
  · rintro ⟨hencoded, hstatus, hcodings, ⟨field, text, hfield, htext, hknown⟩, framing, hframing⟩
    have htype := (namesCompressibleType_of_first_iff _).mpr
      ⟨field, text, hfield, htext, (namesCompressibleType_iff text).mpr hknown⟩
    have hcompressible : isCompressible head = true := by
      rw [isCompressible, (notEncoded_iff _).mpr hencoded, (hasBody_iff head).mpr hstatus,
        (isPlainlyFramed_iff _).mpr hcodings, htype]
      rfl
    refine ⟨.ofFraming framing, ResponseTranscoder.plan?_eq_some.mpr ⟨hcompressible, ?_⟩⟩
    rw [BodyReader.ofResponse, hframing]
    rfl

/-! ## Recoded heads are not verbatim -/

/-- At most two fields are added. -/
theorem length_recodedFields_le (coding : ContentCoding) (fields : Fields) :
    (recodedFields coding fields).toList.length ≤ fields.toList.length + 2 := by
  rw [toList_recodedFields, List.length_append]
  exact Nat.add_le_add_right (List.length_filter_le _ _) 2

/-- A recoded head states one coding more than the head it is made of. -/
theorem recodedHead_ne (coding : ContentCoding) (head : ResponseHead) :
    recodedHead coding head ≠ head := by
  intro hsame
  have hvalues := values_contentEncoding_recodedFields coding head.fields
  have hfields : recodedFields coding head.fields = head.fields := congrArg ResponseHead.fields hsame
  rw [hfields] at hvalues
  have hlength := congrArg List.length hvalues
  rw [List.length_append, List.length_singleton] at hlength
  omega

/-- Octets that a head has been taken off do not begin with that head recoded. -/
theorem not_prefix_of_recoded {buffer written : Bytes} {taken : Taken ResponseHead}
    {coding : ContentCoding} (htake : takeResponse buffer = .ok (some taken))
    (hrender : (recodedHead coding taken.head).render? = some written) : ¬ written <+: buffer := by
  rintro ⟨behind, rfl⟩
  have hwellFormed := wellFormed_of_takeResponse htake
  have hsize : (recodedHead coding taken.head).fields.toList.length ≤ maxFields + 2 :=
    Nat.le_trans (length_recodedFields_le coding _) (Nat.add_le_add_right hwellFormed.size 2)
  have hversion : (recodedHead coding taken.head).version = .http10 ∨
      (recodedHead coding taken.head).version = .http11 := hwellFormed.version
  obtain ⟨written', parts, hrender', hreads, hbuild⟩ :=
    ResponseHead.reads_rendered hversion hwellFormed.reason
      (wellFormed_recodedFields hwellFormed.fields coding) hsize
  obtain rfl := Option.some.inj (hrender.symm.trans hrender')
  -- the same octets are read as both heads
  obtain ⟨found, hscan, hfound, _⟩ := takeHead_eq_some htake
  have hextended := HeadSyntax.extends_responseHead (Nat.le_add_right maxFields 2) _ _ _ hscan
  obtain ⟨rfl, _⟩ := Scanned.found.inj ((hreads behind).symm.trans hextended)
  exact recodedHead_ne coding taken.head (Except.ok.inj (hbuild.symm.trans hfound))

/-! ## Deciding once -/

namespace ResponseTranscoder

variable {C : Type}

/-- Whether the transcoder still has to decide about the response. -/
def isUndecided : ResponseTranscoder C → Bool
  | .inspecting _ => true
  | _ => false

variable [BodyCompressor C]

/-- Whoever goes round the loop has decided. -/
theorem isUndecided_pump (e : Encoding C) : (pump e).2.isUndecided = false := by
  rw [pump]
  dsimp only
  split <;> rfl

/-- While the transcoder has not decided, it has put nothing out and holds everything back. -/
theorem transform_of_isUndecided {coding : Option ContentCoding} {held chunk : Bytes}
    (h : ((inspecting held : ResponseTranscoder C).transform coding chunk).2.isUndecided = true) :
    (inspecting held : ResponseTranscoder C).transform coding chunk =
      ([], .inspecting (held ++ chunk)) := by
  cases coding with
  | none => cases h
  | some coding =>
    revert h
    refine transform_inspecting_cases (P := fun result => result.2.isUndecided = true →
      result = ([], .inspecting (held ++ chunk))) ?_ ?_ ?_
    · exact fun _ _ => rfl
    · exact fun h => nomatch h
    · intro taken reader head _ _ _ _ h
      have hdecided := isUndecided_pump (C := C)
        ⟨reader, BodyCompressor.start coding, .start, taken.rest⟩
      rw [hdecided] at h
      cases h

end ResponseTranscoder

namespace Duplex

variable {C : Type} [BodyCompressor C]

/-- A decision is not taken back by any call. -/
theorem isUndecided_call {d : Duplex C} (h : d.responses.isUndecided = false) (only : DuplexCall) :
    (d.call only).2.responses.isUndecided = false := by
  obtain ⟨requests, responses⟩ := d
  cases only with
  | inspect chunk => exact h
  | finish =>
    show responses.finish.2.isUndecided = false
    rw [ResponseTranscoder.finish_snd]
    rfl
  | transform chunk =>
    cases responses with
    | inspecting held => cases h
    | passthrough => rfl
    | encoding e => exact ResponseTranscoder.isUndecided_pump _

/-- A decision is not taken back. -/
theorem isUndecided_run {d : Duplex C} (h : d.responses.isUndecided = false)
    (calls : List DuplexCall) : (d.run calls).2.responses.isUndecided = false := by
  induction calls generalizing d with
  | nil => exact h
  | cons first calls ih => exact ih (isUndecided_call h first)

/-- A call that leaves the decision open gives nothing and holds everything back. -/
theorem call_of_isUndecided {d : Duplex C} {held : Bytes} (hheld : d.responses = .inspecting held)
    {only : DuplexCall} (h : (d.call only).2.responses.isUndecided = true) :
    (d.call only).1 = [] ∧ (d.call only).2.responses = .inspecting (held ++ only.received) := by
  obtain ⟨requests, responses⟩ := d
  obtain rfl : responses = .inspecting held := hheld
  cases only with
  | inspect chunk => exact ⟨rfl, congrArg ResponseTranscoder.inspecting (List.append_nil held).symm⟩
  | finish => cases h
  | transform chunk =>
    have hsame : (ResponseTranscoder.inspecting held).transform requests.coding? chunk = _ :=
      ResponseTranscoder.transform_of_isUndecided h
    exact ⟨congrArg Prod.fst hsame, congrArg Prod.snd hsame⟩

/-- As long as nothing has been decided, nothing has gone out and everything is held back. -/
theorem run_of_isUndecided {d : Duplex C} {held : Bytes} (hheld : d.responses = .inspecting held)
    {calls : List DuplexCall} (h : (d.run calls).2.responses.isUndecided = true) :
    (d.run calls).1 = [] ∧ (d.run calls).2.responses = .inspecting (held ++ received calls) := by
  induction calls generalizing d held with
  | nil => exact ⟨rfl, by rw [received_nil, List.append_nil]; exact hheld⟩
  | cons first calls ih =>
    rw [run_cons] at h ⊢
    cases hfirst : (d.call first).2.responses.isUndecided with
    | false => rw [isUndecided_run hfirst] at h; cases h
    | true =>
      obtain ⟨hout, hnext⟩ := call_of_isUndecided hheld hfirst
      obtain ⟨hmore, hlast⟩ := ih hnext h
      rw [hout, hmore, hlast, received_cons, List.append_assoc]
      exact ⟨rfl, rfl⟩

/-- Once octets are let through, what goes out is what comes in. -/
theorem out_of_passthrough {d : Duplex C} (h : d.responses = .passthrough)
    (calls : List DuplexCall) : (d.run calls).1 = received calls := by
  induction calls generalizing d with
  | nil => rfl
  | cons first calls ih =>
    have hnext : (d.call first).2.responses = .passthrough := by
      have hpassed := run_of_passthrough h [first]
      rwa [run_singleton] at hpassed
    rw [run_cons, received_cons, ih hnext]
    obtain ⟨requests, responses⟩ := d
    obtain rfl : responses = .passthrough := h
    cases first <;> rfl

/-- Octets from the destination go to the transcoder, with the coding that has been decided for. -/
theorem call_transform {d : Duplex C} {held : Bytes} {coding : ContentCoding}
    (hheld : d.responses = .inspecting held) (hcoding : d.requests.coding? = some coding)
    (chunk : Bytes) :
    d.call (.transform chunk) =
      (((ResponseTranscoder.inspecting held : ResponseTranscoder C).transform (some coding) chunk).1,
        ⟨d.requests, ((ResponseTranscoder.inspecting held : ResponseTranscoder C).transform
          (some coding) chunk).2⟩) := by
  rw [← hheld, ← hcoding]
  rfl

/-- A response is recoded exactly if it is eligible. When octets complete its head while a coding is recorded
and nothing has been decided, what goes out for them begins with the recoded head if the response is
eligible, and only then. Otherwise all octets go out as they come, those held back and those of every later
call. Either way the decision stands. -/
theorem recoded_iff_eligible {before : List DuplexCall} {chunk : Bytes} {coding : ContentCoding}
    {taken : Taken ResponseHead}
    (hundecided : ((start C).run before).2.responses.isUndecided = true)
    (hcoding : ((start C).run before).2.requests.coding? = some coding)
    (htake : takeResponse (received before ++ chunk) = .ok (some taken)) :
    (∃ written, (recodedHead coding taken.head).render? = some written ∧
      (written <+: ((start C).run (before ++ [.transform chunk])).1 ↔ Eligible taken.head)) ∧
    (¬ Eligible taken.head → ∀ later,
      ((start C).run (before ++ .transform chunk :: later)).1 =
        received (before ++ .transform chunk :: later)) ∧
    ∀ later,
      ((start C).run (before ++ .transform chunk :: later)).2.responses.isUndecided = false := by
  have hheld : (start C).responses = .inspecting [] := rfl
  obtain ⟨hout, hresponses⟩ := run_of_isUndecided hheld hundecided
  rw [List.nil_append] at hresponses
  obtain ⟨written, hrender⟩ := ResponseTranscoder.render?_recodedHead htake coding
  have hcall := call_transform hresponses hcoding chunk
  cases hplan : ResponseTranscoder.plan? taken.head with
  | some reader =>
    have heligible : Eligible taken.head := (exists_plan_iff _).mp ⟨reader, hplan⟩
    obtain ⟨hcompressible, hreader⟩ := ResponseTranscoder.plan?_eq_some.mp hplan
    rw [ResponseTranscoder.transform_of_eligible htake hcompressible hreader hrender] at hcall
    refine ⟨⟨written, hrender, iff_of_true ?_ heligible⟩, fun hnot => absurd heligible hnot, ?_⟩
    · rw [run_append, run_singleton, hout, hcall]
      exact List.prefix_append _ _
    · intro later
      rw [run_append, run_cons, hcall]
      exact isUndecided_run (ResponseTranscoder.isUndecided_pump _) later
  | none =>
    have hnot : ¬ Eligible taken.head := by
      intro heligible
      obtain ⟨reader, hsome⟩ := (exists_plan_iff _).mpr heligible
      rw [hplan] at hsome
      cases hsome
    rw [ResponseTranscoder.transform_of_ineligible htake hplan] at hcall
    refine ⟨⟨written, hrender, iff_of_false ?_ hnot⟩, fun _ later => ?_, ?_⟩
    · rw [run_append, run_singleton, hout, hcall]
      exact not_prefix_of_recoded htake hrender
    · rw [run_append, run_cons, hout, hcall, out_of_passthrough rfl]
      simp [received, DuplexCall.received]
    · intro later
      rw [run_append, run_cons, hcall]
      exact isUndecided_run rfl later

/-- A request that asks for gzip, and the beginning of a response head. -/
def htmlBegins : List DuplexCall :=
  [.inspect (Ascii.bytes "GET / HTTP/1.1\r\nAccept-Encoding: gzip\r\n\r\n"),
    .transform (Ascii.bytes "HTTP/1.1 200 OK\r\nContent-Type: text/HTML ;charset=x\r\n")]

/-- The head goes on with empty elements around the only coding. -/
def plainEnd : Bytes := Ascii.bytes "Transfer-Encoding: , Chunked,,\r\n\r\n"

/-- The head goes on with a coding in a second field. -/
def codedEnd : Bytes :=
  Ascii.bytes "Transfer-Encoding: chunked\r\ntransfer-encoding: gzip\r\n\r\n"

/-- With one end the response is eligible, and with the other it is not, whatever comes later. -/
theorem htmlBegins_recoded_or_not :
    (∃ taken written, takeResponse (received htmlBegins ++ plainEnd) = .ok (some taken) ∧
      (recodedHead .gzip taken.head).render? = some written ∧
      written <+: ((start Compression.Compressor).run (htmlBegins ++ [.transform plainEnd])).1) ∧
    ∀ later, ((start Compression.Compressor).run (htmlBegins ++ .transform codedEnd :: later)).1 =
      received (htmlBegins ++ .transform codedEnd :: later) := by
  have hundecided : ((start Compression.Compressor).run htmlBegins).2.responses.isUndecided = true := by
    decide +kernel
  have hcoding : ((start Compression.Compressor).run htmlBegins).2.requests.coding? = some .gzip := by
    decide +kernel
  constructor
  · have htest : (takeResponse (received htmlBegins ++ plainEnd)).toOption.any (·.any fun taken =>
        (ResponseTranscoder.plan? taken.head).isSome) = true := by
      decide +kernel
    obtain ⟨taken, htake, hplan⟩ := exists_taken_of_any htest
    have heligible := (exists_plan_iff _).mp (Option.isSome_iff_exists.mp hplan)
    obtain ⟨⟨written, hrender, hout⟩, _⟩ := recoded_iff_eligible hundecided hcoding htake
    exact ⟨taken, written, htake, hrender, hout.mpr heligible⟩
  · have htest : (takeResponse (received htmlBegins ++ codedEnd)).toOption.any (·.any fun taken =>
        (ResponseTranscoder.plan? taken.head).isNone) = true := by
      decide +kernel
    obtain ⟨taken, htake, hplan⟩ := exists_taken_of_any htest
    have hnot : ¬ Eligible taken.head := by
      intro heligible
      obtain ⟨reader, hsome⟩ := (exists_plan_iff _).mpr heligible
      rw [hsome] at hplan
      cases hplan
    exact (recoded_iff_eligible hundecided hcoding htake).2.1 hnot

end Duplex

end RelayTunnel.Transcode
