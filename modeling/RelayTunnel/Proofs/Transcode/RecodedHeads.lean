import RelayTunnel.Proofs.Http.HeadRoundTrip
import RelayTunnel.Proofs.Transcode.Pumping

/-!
# The head of a recoded response

`Recoded` says what is asked of the head that a compressed response goes out with: the head it came with,
without the fields that framed it, and with fields that state the framing and the coding it goes out in. What
`recodedHead` makes of a compressible head is such a head, and it is read back from what is written
(`recoded_head_goes_out`). Which fields are there is read off `Fields.values`, the values of one name, through
each erasure and each field added.
-/

set_option autoImplicit false

namespace RelayTunnel.Http

/-! ## The values of one name -/

/-- Of a field with one name, whether it has another name depends on the names. -/
theorem Field.isNamed_of_isNamed {field : Field} {name : Bytes} (h : field.isNamed name = true)
    (other : Bytes) : field.isNamed other = Ascii.sameIgnoringCase name other := by
  simp only [Field.isNamed, Ascii.sameIgnoringCase, beq_iff_eq] at h ⊢
  rw [h]

namespace Fields

variable {name other : Bytes} {fields : Fields}

/-- The first value with a name is the first of all values with it. -/
theorem get?_eq_head? (name : Bytes) (fields : Fields) :
    fields.get? name = (fields.values name).head? := by
  rw [get?, values, List.head?_map, List.head?_filter]

/-- A name is not among some fields if it has no values. -/
theorem contains_eq_false_iff_values : fields.contains name = false ↔ fields.values name = [] := by
  rw [contains, get?_eq_head?]
  cases fields.values name <;> simp

/-- A field that is added adds its value to those of its name, in any casing. -/
theorem values_push_of_same (h : Ascii.sameIgnoringCase other name = true) (value : Bytes) :
    (fields.push ⟨other, value⟩).values name = fields.values name ++ [value] := by
  simp [values, push, Field.isNamed, h]

/-- It adds nothing to those of another name. -/
theorem values_push_of_ne (h : Ascii.sameIgnoringCase other name = false) (value : Bytes) :
    (fields.push ⟨other, value⟩).values name = fields.values name := by
  simp [values, push, Field.isNamed, h]

/-- A name that was erased has no values. -/
theorem values_erase_self (name : Bytes) (fields : Fields) : (fields.erase name).values name = [] := by
  simp [values, erase]

/-- Erasing the fields of one name leaves those of another. -/
theorem values_erase_of_ne (h : Ascii.sameIgnoringCase name other = false) :
    (fields.erase other).values name = fields.values name := by
  have hkept : ∀ field : Field, (field.isNamed name && !field.isNamed other) = field.isNamed name := by
    intro field
    cases hnamed : field.isNamed name with
    | false => rfl
    | true => rw [Field.isNamed_of_isNamed hnamed other, h]; rfl
  simp only [values, erase, List.filter_filter, hkept]

end Fields

end RelayTunnel.Http

namespace RelayTunnel.Transcode

open Compression (BodyCompressor ContentCoding)
open Http

/-! ## The fields of a recoded head -/

section RecodedFields

variable (coding : ContentCoding) (fields : Fields)

/-- The fields are those of the response without its framing, and then the two that were added. -/
theorem toList_recodedFields :
    (recodedFields coding fields).toList =
      fields.toList.filter (fun field => !field.isNamed FieldName.transferEncoding
        && !field.isNamed FieldName.contentLength)
      ++ [⟨Ascii.bytes "Transfer-Encoding", Ascii.bytes "chunked"⟩,
        ⟨Ascii.bytes "Content-Encoding", Ascii.bytes coding.token⟩] := by
  have hboth : ∀ field : Field, (!field.isNamed FieldName.contentLength
      && !field.isNamed FieldName.transferEncoding) =
      (!field.isNamed FieldName.transferEncoding && !field.isNamed FieldName.contentLength) :=
    fun field => Bool.and_comm _ _
  simp only [recodedFields, Fields.push, Fields.erase, List.filter_filter, hboth, List.append_assoc,
    List.singleton_append]
  rfl

/-- The coding is stated behind those that were stated before. -/
theorem values_contentEncoding_recodedFields :
    (recodedFields coding fields).values FieldName.contentEncoding =
      fields.values FieldName.contentEncoding ++ [Ascii.bytes coding.token] := by
  rw [recodedFields, Fields.values_push_of_same (by decide +kernel),
    Fields.values_push_of_ne (by decide +kernel), Fields.values_erase_of_ne (by decide +kernel),
    Fields.values_erase_of_ne (by decide +kernel)]

/-- The body is chunked, and nothing besides. -/
theorem values_transferEncoding_recodedFields :
    (recodedFields coding fields).values FieldName.transferEncoding = [chunkedCoding] := by
  rw [recodedFields, Fields.values_push_of_ne (by decide +kernel),
    Fields.values_push_of_same (by decide +kernel), Fields.values_erase_of_ne (by decide +kernel),
    Fields.values_erase_self, List.nil_append]

/-- No length is stated. -/
theorem values_contentLength_recodedFields :
    (recodedFields coding fields).values FieldName.contentLength = [] := by
  rw [recodedFields, Fields.values_push_of_ne (by decide +kernel),
    Fields.values_push_of_ne (by decide +kernel), Fields.values_erase_self]

end RecodedFields

/-- The body that goes out is framed in chunks. -/
theorem framing_recodedHead {head : ResponseHead} (hbody : head.hasBody = true)
    (coding : ContentCoding) : (recodedHead coding head).framing = .ok .chunked := by
  have hbody' : (recodedHead coding head).hasBody = true := hbody
  have hcoding : (recodedHead coding head).fields.get? FieldName.transferEncoding =
      some chunkedCoding := by
    rw [Fields.get?_eq_head?, recodedHead, values_transferEncoding_recodedFields]
    rfl
  have hlast : ((listElements chunkedCoding).getLast?.map isChunkedCoding).getD false = true := by
    decide +kernel
  rw [ResponseHead.framing, hbody', hcoding]
  dsimp only
  rw [hlast]
  rfl

/-! ## Writing a recoded head -/

/-- A field of characters that can be written, with no blanks around its value, is well formed. -/
theorem wellFormed_field {name value : Bytes} (hname : name ≠ [])
    (htoken : name.all HeadSyntax.isTokenChar = true) (htext : value.all HeadSyntax.isTextChar = true)
    (hhead : value.head?.all (!Ascii.isBlank ·) = true)
    (hlast : value.getLast?.all (!Ascii.isBlank ·) = true) : Field.WellFormed ⟨name, value⟩ where
  name_ne_nil := hname
  name_token := List.all_eq_true.mp htoken
  value := by
    refine ⟨List.all_eq_true.mp htext, ?_, ?_⟩
    · intro b hb
      simpa [Option.mem_def.mp hb] using hhead
    · intro b hb
      simpa [Option.mem_def.mp hb] using hlast

/-- The fields that state framing and coding can be written, and all others come from the head. -/
theorem wellFormed_recodedFields {fields : Fields} (h : ∀ field ∈ fields.toList, field.WellFormed)
    (coding : ContentCoding) :
    ∀ field ∈ (recodedFields coding fields).toList, field.WellFormed := by
  intro field hfield
  rw [toList_recodedFields, List.mem_append] at hfield
  rcases hfield with hkept | hadded
  · exact h field (List.mem_filter.mp hkept).1
  · simp only [List.mem_cons, List.not_mem_nil, or_false] at hadded
    rcases hadded with rfl | rfl
    · exact wellFormed_field (by decide +kernel) (by decide +kernel) (by decide +kernel)
        (by decide +kernel) (by decide +kernel)
    · cases coding <;>
        exact wellFormed_field (by decide +kernel) (by decide +kernel) (by decide +kernel)
          (by decide +kernel) (by decide +kernel)

/-- What is asked of the head of a response that goes out compressed. -/
structure Recoded (coding : ContentCoding) (original sent : ResponseHead) : Prop where
  version : sent.version = original.version
  status : sent.status = original.status
  reason : sent.reason = original.reason
  /-- The fields are those of the response, in order and octet by octet, but for those that framed it,
  and two fields behind them. -/
  fields : sent.fields.toList =
    original.fields.toList.filter (fun field => !field.isNamed FieldName.transferEncoding
      && !field.isNamed FieldName.contentLength)
    ++ [⟨Ascii.bytes "Transfer-Encoding", Ascii.bytes "chunked"⟩,
      ⟨Ascii.bytes "Content-Encoding", Ascii.bytes coding.token⟩]
  one_coding : sent.fields.values FieldName.contentEncoding = [Ascii.bytes coding.token]
  one_framing : sent.fields.values FieldName.transferEncoding = [Ascii.bytes "chunked"]
  no_length : sent.fields.values FieldName.contentLength = []
  chunked : sent.framing = .ok .chunked

/-- The head that is made for a response that is compressed is its recoded head. -/
theorem recoded_recodedHead {head : ResponseHead} (h : isCompressible head = true)
    (coding : ContentCoding) : Recoded coding head (recodedHead coding head) where
  version := rfl
  status := rfl
  reason := rfl
  fields := toList_recodedFields coding head.fields
  one_coding := by
    simp only [isCompressible, Bool.and_eq_true, Bool.not_eq_true'] at h
    have hnone := Fields.contains_eq_false_iff_values.mp h.1.1.1
    rw [recodedHead, values_contentEncoding_recodedFields, hnone, List.nil_append]
  one_framing := values_transferEncoding_recodedFields coding head.fields
  no_length := values_contentLength_recodedFields coding head.fields
  chunked := by
    simp only [isCompressible, Bool.and_eq_true] at h
    exact framing_recodedHead h.1.1.2 coding

/-- The head that a compressible response goes out with is its own head, with framing and coding stated as
they are sent. It goes out in front of everything else, as soon as the head of the response has come in and
unless a bad length keeps the response from being read. If it is not larger than a head may be, it is read as
the same head, whatever stands behind it. -/
theorem recoded_head_goes_out {C : Type} [BodyCompressor C] {held chunk : Bytes}
    {taken : Taken ResponseHead} (htake : takeResponse (held ++ chunk) = .ok (some taken))
    (hcompressible : isCompressible taken.head = true) (coding : ContentCoding) :
    Recoded coding taken.head (recodedHead coding taken.head) ∧
    ∃ written, (recodedHead coding taken.head).render? = some written ∧
      (∀ framing, taken.head.framing = .ok framing →
        written <+: ((ResponseTranscoder.inspecting held : ResponseTranscoder C).transform
          (some coding) chunk).1) ∧
      ((recodedHead coding taken.head).fields.size ≤ 64 → written.length ≤ 8192 → ∀ behind,
        takeResponse (written ++ behind) = .ok (some ⟨recodedHead coding taken.head, behind⟩)) := by
  have hwellFormed := wellFormed_of_takeResponse htake
  obtain ⟨written, hrender⟩ := ResponseTranscoder.render?_recodedHead htake coding
  refine ⟨recoded_recodedHead hcompressible coding, written, hrender, ?_, ?_⟩
  · intro framing hframing
    have hreader : BodyReader.ofResponse taken.head = .ok (.ofFraming framing) := by
      rw [BodyReader.ofResponse, hframing]
      rfl
    rw [ResponseTranscoder.transform_of_eligible htake hcompressible hreader hrender]
    exact List.prefix_append _ _
  · intro hsize hlength behind
    have hfields := wellFormed_recodedFields hwellFormed.fields coding
    have hversion : (recodedHead coding taken.head).version = .http10 ∨
        (recodedHead coding taken.head).version = .http11 := hwellFormed.version
    obtain ⟨written', parts, hrender', hreads, hbuild⟩ :=
      ResponseHead.reads_rendered hversion hwellFormed.reason hfields hsize
    obtain rfl := Option.some.inj (hrender.symm.trans hrender')
    have hne : written ≠ [] := by
      rintro rfl
      cases hreads []
    exact takeHead_of_reads hreads hbuild hlength hne behind

/-- A response that frames its body three times over, in two pieces. -/
def framedThrice : Bytes × Bytes :=
  (Ascii.bytes "HTTP/1.0 200 Fine\r\nX-A: 1\r\ntransfer-ENCODING: chunked\r\nContent-Type: text/css\r\n",
    Ascii.bytes "CONTENT-length: 9\r\nx-a:2\r\nTransfer-Encoding: Chunked\r\n\r\n0\r\n\r\n")

def framedOnce : Bytes :=
  Ascii.bytes "HTTP/1.0 200 Fine\r\nX-A: 1\r\nContent-Type: text/css\r\nx-a: 2\r\n" ++
    Ascii.bytes "Transfer-Encoding: chunked\r\nContent-Encoding: deflate\r\n\r\n"

/-- A head that was framed in three ways goes out with one. -/
theorem framedThrice_goes_out :
    ∃ taken, takeResponse (framedThrice.1 ++ framedThrice.2) = .ok (some taken) ∧
      isCompressible taken.head = true ∧
      Recoded .deflate taken.head (recodedHead .deflate taken.head) ∧
      framedOnce <+: ((ResponseTranscoder.inspecting framedThrice.1 :
        ResponseTranscoder Compression.Compressor).transform (some .deflate) framedThrice.2).1 ∧
      takeResponse (framedOnce ++ Ascii.bytes "0") =
        .ok (some ⟨recodedHead .deflate taken.head, Ascii.bytes "0"⟩) := by
  have htest : (takeResponse (framedThrice.1 ++ framedThrice.2)).toOption.any (·.any fun taken =>
      isCompressible taken.head && (recodedHead .deflate taken.head).render? == some framedOnce
      && taken.head.framing.toOption.isSome
      && decide ((recodedHead .deflate taken.head).fields.size ≤ 64)) = true := by
    decide +kernel
  obtain ⟨taken, htake, hall⟩ := exists_taken_of_any htest
  have hlength : framedOnce.length ≤ 8192 := by decide +kernel
  simp only [Bool.and_eq_true, beq_iff_eq, decide_eq_true_eq] at hall
  obtain ⟨⟨⟨hcompressible, hrender⟩, hframed⟩, hsize⟩ := hall
  obtain ⟨hrecoded, written, hwritten, hout, hback⟩ :=
    recoded_head_goes_out (C := Compression.Compressor) htake hcompressible .deflate
  obtain rfl := Option.some.inj (hrender.symm.trans hwritten)
  cases hframing : taken.head.framing with
  | error error => rw [hframing] at hframed; cases hframed
  | ok framing =>
    exact ⟨taken, htake, hcompressible, hrecoded, hout framing hframing, hback hsize hlength _⟩

end RelayTunnel.Transcode
