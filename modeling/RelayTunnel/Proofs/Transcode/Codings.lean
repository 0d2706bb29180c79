import RelayTunnel.Http.BodyReader
import RelayTunnel.Transcode.Eligibility

/-!
# Transfer codings of compressed responses

Two readers look at the transfer codings of a response. Whether it is compressed depends on all of its
`Transfer-Encoding` fields, of which empty list elements do not count; where its body ends depends on
the last element of the first of these fields, which counts even if it is empty. `framing_of_eligible`
says when the two agree. They do unless the first field ends in an empty element, and then the body of
a chunked response is taken to last until the connection is closed (`trailing_comma_misread`).
-/

set_option autoImplicit false

namespace RelayTunnel.Transcode

open Http

/-- The transfer codings of a message: its `Transfer-Encoding` fields read as one list, without empty
elements. -/
def statedCodings (fields : Fields) : List Bytes :=
  ((fields.values FieldName.transferEncoding).flatMap listElements).filter (!·.isEmpty)

/-- The element at the end of the first `Transfer-Encoding` field. -/
def firstFieldEnd? (fields : Fields) : Option Bytes :=
  (fields.get? FieldName.transferEncoding).bind fun value => (listElements value).getLast?

/-- A plainly framed message states no transfer coding other than `chunked`. -/
theorem isChunkedCoding_of_stated {fields : Fields} (h : isPlainlyFramed fields = true)
    {coding : Bytes} (hcoding : coding ∈ statedCodings fields) : isChunkedCoding coding = true := by
  obtain ⟨hlisted, hsome⟩ := List.mem_filter.mp hcoding
  obtain ⟨value, hvalue, helement⟩ := List.mem_flatMap.mp hlisted
  have hall := List.all_eq_true.mp (List.all_eq_true.mp h value hvalue) coding helement
  rw [Bool.not_eq_true'] at hsome
  rwa [hsome, Bool.false_or] at hall

/-- The field that is looked up is one of the fields of that name. -/
theorem mem_values_of_get? {name value : Bytes} {fields : Fields} (h : fields.get? name = some value) :
    value ∈ fields.values name := by
  obtain ⟨field, hfield, rfl⟩ := Option.map_eq_some_iff.mp h
  have hmem := List.mem_of_find?_eq_some hfield
  exact List.mem_map_of_mem (List.mem_filter.mpr ⟨hmem, List.find?_some hfield⟩)

/-- A message that states a coding has a field to look up. -/
theorem get?_isSome_of_values {name value : Bytes} {fields : Fields} (h : value ∈ fields.values name) :
    (fields.get? name).isSome = true := by
  obtain ⟨field, hfield, _⟩ := List.mem_map.mp h
  obtain ⟨hmem, hnamed⟩ := List.mem_filter.mp hfield
  rw [Fields.get?, Option.isSome_map, List.find?_isSome]
  exact ⟨field, hmem, hnamed⟩

/-- A list that is read from a value has a last element. -/
theorem getLast?_listElements (value : Bytes) :
    ∃ last, last ∈ listElements value ∧ (listElements value).getLast? = some last := by
  have hne : listElements value ≠ [] := by
    rw [listElements, Ne, List.map_eq_nil_iff]
    exact List.splitOn_ne_nil _ _
  exact ⟨_, List.getLast_mem hne, List.getLast?_eq_some_getLast hne⟩

/-- A response that is compressed has a body. -/
theorem hasBody_of_isCompressible {head : ResponseHead} (h : isCompressible head = true) :
    head.hasBody = true := by
  simp only [isCompressible, Bool.and_eq_true] at h
  exact h.1.1.2

/-- A response that is compressed is plainly framed. -/
theorem isPlainlyFramed_of_isCompressible {head : ResponseHead} (h : isCompressible head = true) :
    isPlainlyFramed head.fields = true := by
  simp only [isCompressible, Bool.and_eq_true] at h
  exact h.1.2

/-- In a plainly framed message, the first field names the chunked coding at its end exactly if it
does not end in an empty element. -/
theorem framing_of_first_field {head : ResponseHead} (hbody : head.hasBody = true)
    (hplain : isPlainlyFramed head.fields = true) {value : Bytes}
    (hvalue : head.fields.get? FieldName.transferEncoding = some value) :
    head.framing =
      .ok (if firstFieldEnd? head.fields = some [] then .untilClose else .chunked) := by
  obtain ⟨last, hmem, hlast⟩ := getLast?_listElements value
  have hend : firstFieldEnd? head.fields = some last := by
    rw [firstFieldEnd?, hvalue, Option.bind_some, hlast]
  have hframing : head.framing =
      .ok (if isChunkedCoding last = true then .chunked else .untilClose) := by
    rw [ResponseHead.framing, if_neg (by simp [hbody])]
    simp only [hvalue, hlast, Option.map_some, Option.getD_some]
    split <;> rfl
  rw [hframing, hend]
  have hall : (last.isEmpty || isChunkedCoding last) = true :=
    List.all_eq_true.mp (List.all_eq_true.mp hplain value (mem_values_of_get? hvalue)) last hmem
  by_cases hempty : last = []
  · rw [hempty]
    rfl
  · have hchunked : isChunkedCoding last = true := by simpa [hempty] using hall
    rw [if_pos hchunked, if_neg (fun hsame => hempty (Option.some.inj hsame))]

/-- All transfer codings that a response worth compressing states are `chunked`. If it states one, its
body is read as chunked, unless the first of its `Transfer-Encoding` fields ends in an empty element:
then it is read until the connection is closed, framing and all. No length that it states counts. -/
theorem framing_of_eligible {head : ResponseHead} (heligible : isCompressible head = true) :
    (∀ coding ∈ statedCodings head.fields, isChunkedCoding coding = true) ∧
    (statedCodings head.fields ≠ [] →
      BodyReader.ofResponse head =
        .ok (if firstFieldEnd? head.fields = some [] then .untilClose else .chunked .start)) := by
  have hplain := isPlainlyFramed_of_isCompressible heligible
  refine ⟨fun coding => isChunkedCoding_of_stated hplain, fun hstated => ?_⟩
  obtain ⟨coding, hcoding⟩ := List.exists_mem_of_ne_nil _ hstated
  obtain ⟨value, hvalue, _⟩ := List.mem_flatMap.mp (List.mem_filter.mp hcoding).1
  obtain ⟨first, hfirst⟩ := Option.isSome_iff_exists.mp (get?_isSome_of_values hvalue)
  rw [BodyReader.ofResponse,
    framing_of_first_field (hasBody_of_isCompressible heligible) hplain hfirst]
  split <;> rfl

/-- A response of plain text with the given `Transfer-Encoding` fields. -/
def textResponse (codings : List String) : ResponseHead where
  version := .http11
  status := ⟨200, by decide⟩
  reason := []
  fields := ⟨⟨FieldName.contentType, Ascii.bytes "text/plain"⟩ ::
    codings.map fun value => ⟨FieldName.transferEncoding, Ascii.bytes value⟩⟩

/-- Empty elements do no harm elsewhere: here they stand in front of the coding, and in a second
field. -/
theorem empty_elements_agree :
    statedCodings (textResponse [", Chunked ", "chunked,"]).fields =
      [Ascii.bytes "Chunked", chunkedCoding] ∧
    BodyReader.ofResponse (textResponse [", Chunked ", "chunked,"]) = .ok (.chunked .start) := by
  have heligible : isCompressible (textResponse [", Chunked ", "chunked,"]) = true := by decide +kernel
  have hstated : statedCodings (textResponse [", Chunked ", "chunked,"]).fields =
      [Ascii.bytes "Chunked", chunkedCoding] := by decide +kernel
  refine ⟨hstated, ((framing_of_eligible heligible).2 (by simp [hstated])).trans ?_⟩
  rw [if_neg (by decide +kernel)]

/-- A comma behind the only coding of a response is enough for the two readers to disagree: the
response is compressed, it states that it is chunked, and its chunk framing is read as content. -/
theorem trailing_comma_misread :
    isCompressible (textResponse ["chunked,"]) = true ∧
    statedCodings (textResponse ["chunked,"]).fields = [chunkedCoding] ∧
    BodyReader.ofResponse (textResponse ["chunked,"]) = .ok .untilClose ∧
    BodyReader.ofResponse (textResponse ["chunked,"]) ≠ .ok (.chunked .start) := by
  have hmisread : BodyReader.ofResponse (textResponse ["chunked,"]) = .ok .untilClose := by
    have hsome : (BodyReader.ofResponse (textResponse ["chunked,"])).toOption = some .untilClose := by
      decide +kernel
    cases h : BodyReader.ofResponse (textResponse ["chunked,"]) with
    | error error => rw [h] at hsome; cases hsome
    | ok reader => rw [h] at hsome; exact congrArg Except.ok (Option.some.inj hsome)
  refine ⟨by decide +kernel, by decide +kernel, hmisread, ?_⟩
  rw [hmisread]
  intro hsame
  cases hsame

end RelayTunnel.Transcode
