import RelayTunnel.Proofs.Http.Stability
import RelayTunnel.Transcode.RequestInspector

/-!
# The decision about a request stream

An inspector looks at a request stream in the pieces in which it arrives, and looks again from the start
of the stream with each piece. Since the scanner of a head takes no answer back, what a front piece has
decided the rest cannot change, and what it has left open is open as if it had not been looked at
(`inspect_append`). An inspector is therefore in the state that the octets so far put it in
(`foldl_inspect`), whatever the cuts.

`Decisive` says of a stream that it tells enough, and `Wants` what a request head asks for. The main
result, `decision_of_stream`, reads the decision off the stream with the help of both.
-/

set_option autoImplicit false

namespace RelayTunnel.Transcode

open Compression (ContentCoding)
open Http (RequestHead takeRequest maxFields maxHeadSize)

/-- The stream so far begins with a whole head, begins with what can be no head, or is longer than a
head may be. -/
def Decisive (stream : Bytes) : Prop :=
  (∃ parts rest, Http.HeadSyntax.requestHead maxFields stream = .found parts rest) ∨
    (∃ refusal, Http.HeadSyntax.requestHead maxFields stream = .refused refusal) ∨
    maxHeadSize < stream.length

/-- What it takes for a request head to ask for a coding. Only the first `Accept-Encoding` field counts. -/
structure Wants (head : RequestHead) (coding : ContentCoding) : Prop where
  not_head : head.method ≠ Http.Method.head
  not_connect : head.method ≠ Http.Method.connect
  not_upgrade : ∀ field ∈ head.fields.toList, field.isNamed Http.FieldName.upgrade = false
  accepts : ∃ field value,
    head.fields.toList.find? (Http.Field.isNamed Http.FieldName.acceptEncoding) = some field ∧
      field.text? = some value ∧ ContentCoding.select? value = some coding

/-- A name is not among some fields if none of them has it. -/
theorem contains_eq_false_iff (name : Bytes) (fields : Http.Fields) :
    fields.contains name = false ↔ ∀ field ∈ fields.toList, field.isNamed name = false := by
  simp [Http.Fields.contains, Http.Fields.get?]

/-- The coding that is accepted is the one that the head wants. -/
theorem acceptedCoding_eq_some_iff {head : RequestHead} {coding : ContentCoding} :
    acceptedCoding head = some coding ↔ Wants head coding := by
  have hplain : (head.isUpgrade || head.method == Http.Method.head) = false ↔
      (head.method ≠ Http.Method.connect ∧
        ∀ field ∈ head.fields.toList, field.isNamed Http.FieldName.upgrade = false) ∧
      head.method ≠ Http.Method.head := by
    rw [← contains_eq_false_iff]
    simp [RequestHead.isUpgrade]
  have haccepts : (head.fields.text? Http.FieldName.acceptEncoding).bind ContentCoding.select? =
      some coding ↔ ∃ field value,
        head.fields.toList.find? (Http.Field.isNamed Http.FieldName.acceptEncoding) = some field ∧
          field.text? = some value ∧ ContentCoding.select? value = some coding := by
    simp only [Http.Fields.text?, Option.bind_eq_some_iff]
    constructor
    · rintro ⟨value, ⟨field, hfield, hvalue⟩, hcoding⟩
      exact ⟨field, value, hfield, hvalue, hcoding⟩
    · rintro ⟨field, value, hfield, hvalue, hcoding⟩
      exact ⟨value, ⟨field, hfield, hvalue⟩, hcoding⟩
  unfold acceptedCoding
  constructor
  · intro h
    split at h
    · cases h
    · next hnot =>
      obtain ⟨⟨hconnect, hupgrade⟩, hhead⟩ := hplain.mp (Bool.not_eq_true _ ▸ hnot)
      exact ⟨hhead, hconnect, hupgrade, haccepts.mp h⟩
  · rintro ⟨hhead, hconnect, hupgrade, hfield⟩
    rw [if_neg (by simp [hplain.mpr ⟨⟨hconnect, hupgrade⟩, hhead⟩])]
    exact haccepts.mpr hfield

/-- A stream is decisive exactly if a head is taken off it or it is refused. -/
theorem decisive_iff (stream : Bytes) : Decisive stream ↔ takeRequest stream ≠ .ok none := by
  unfold Decisive takeRequest Http.takeHead
  cases stream with
  | nil =>
    have hmore : Http.HeadSyntax.requestHead maxFields [] = .more := rfl
    simp [hmore]
  | cons b stream =>
    rw [List.isEmpty_cons, if_neg Bool.false_ne_true]
    cases hscan : Http.HeadSyntax.requestHead maxFields (b :: stream) with
    | found parts rest =>
      dsimp only
      split
      · cases RequestHead.ofParts parts <;> simp [Except.map]
      · simp
    | refused refusal => cases refusal <;> simp
    | more =>
      dsimp only
      split
      · next hle => simpa using hle
      · next hlarge => simpa using hlarge

namespace RequestInspector

/-- An inspector that has just been made looks at the stream as a whole. -/
theorem inspect_start (stream : Bytes) :
    start.inspect stream = match takeRequest stream with
      | .ok none => .watching stream
      | .ok (some taken) => .decided (acceptedCoding taken.head)
      | .error _ => .decided none := rfl

/-- A stream may be looked at in two pieces. -/
theorem inspect_append (front behind : Bytes) :
    (start.inspect front).inspect behind = start.inspect (front ++ behind) := by
  have hstable := Http.HeadSyntax.stable_requestHead maxFields
  rw [inspect_start front]
  cases hfront : takeRequest front with
  | ok taken? =>
    cases taken? with
    | none => rfl
    | some taken =>
      have hwhole : takeRequest (front ++ behind) = .ok (some ⟨taken.head, taken.rest ++ behind⟩) :=
        Http.takeHead_append hstable hfront behind
      rw [inspect_start, hwhole]
      rfl
  | error error =>
    obtain ⟨later, hwhole, _⟩ := Http.takeHead_append_error hstable hfront behind
    have hrefused : takeRequest (front ++ behind) = .error later := hwhole
    rw [inspect_start, hrefused]
    rfl

/-- What an inspector makes of a stream does not depend on the cuts. -/
theorem foldl_inspect (pieces : List Bytes) :
    pieces.foldl inspect start = start.inspect pieces.flatten := by
  have hfrom : ∀ front : Bytes,
      pieces.foldl inspect (start.inspect front) = start.inspect (front ++ pieces.flatten) := by
    induction pieces with
    | nil => simp
    | cons piece pieces ih =>
      intro front
      rw [List.foldl_cons, inspect_append, ih, List.flatten_cons, List.append_assoc]
  exact hfrom []

/-- It has decided exactly if the stream is decisive. -/
theorem isDecided_inspect (stream : Bytes) :
    (start.inspect stream).isDecided = true ↔ Decisive stream := by
  rw [decisive_iff, inspect_start]
  cases takeRequest stream with
  | error error => simp [isDecided]
  | ok taken? => cases taken? <;> simp [isDecided]

/-- It has decided for a coding exactly if the head of the stream wants it. -/
theorem coding?_inspect (stream : Bytes) (coding : ContentCoding) :
    (start.inspect stream).coding? = some coding ↔
      ∃ taken, takeRequest stream = .ok (some taken) ∧ Wants taken.head coding := by
  rw [inspect_start]
  cases takeRequest stream with
  | error error => simp [coding?]
  | ok taken? =>
    cases taken? with
    | none => simp [coding?]
    | some taken =>
      simp only [coding?, acceptedCoding_eq_some_iff, Except.ok.injEq, Option.some.injEq]
      exact ⟨fun h => ⟨taken, rfl, h⟩, fun ⟨_, hsame, h⟩ => hsame ▸ h⟩

/-- The decision is a function of the stream. An inspector has decided exactly if the octets it has seen
so far are decisive, so it decides with the first piece that makes them so. It has then decided for a
coding exactly if a head could be taken off them that asks for it, and for none otherwise; before, it
gives none. Further pieces change nothing, and neither do other cuts. -/
theorem decision_of_stream (pieces : List Bytes) :
    ((pieces.foldl inspect start).isDecided = true ↔ Decisive pieces.flatten) ∧
    (∀ coding, (pieces.foldl inspect start).coding? = some coding ↔
      ∃ taken, takeRequest pieces.flatten = .ok (some taken) ∧ Wants taken.head coding) ∧
    ((pieces.foldl inspect start).isDecided = true →
      ∀ later, (pieces ++ later).foldl inspect start = pieces.foldl inspect start) ∧
    (∀ others : List Bytes, others.flatten = pieces.flatten →
      others.foldl inspect start = pieces.foldl inspect start) := by
  refine ⟨?_, ?_, ?_, ?_⟩
  · rw [foldl_inspect]
    exact isDecided_inspect _
  · intro coding
    rw [foldl_inspect]
    exact coding?_inspect _ coding
  · intro hdecided later
    rw [List.foldl_append]
    cases hstate : pieces.foldl inspect start with
    | watching seen => rw [hstate] at hdecided; cases hdecided
    | decided coding =>
      induction later with
      | nil => rfl
      | cons piece later ih => exact ih
  · intro others hsame
    rw [foldl_inspect, foldl_inspect, hsame]

/-- A request in three pieces, with octets of the next one behind it. -/
def cutRequest : List Bytes :=
  [Ascii.bytes "\r\nGET / HT", Ascii.bytes "TP/1.1\nAccept-Encoding: xgzip, Deflate\r\n",
    Ascii.bytes "accept-encoding: gzip\r\n\r\nHEAD /"]

/-- The decision falls with the third piece, and no piece behind it is looked at. -/
theorem decision_of_cutRequest :
    ((cutRequest.take 2).foldl inspect start).isDecided = false ∧
    (cutRequest.foldl inspect start).coding? = some .deflate ∧
    (cutRequest ++ [Ascii.bytes " HTTP/1.1\r\n\r\n"]).foldl inspect start =
      [cutRequest.flatten].foldl inspect start := by
  have hdecided : (cutRequest.foldl inspect start).isDecided = true := by decide +kernel
  obtain ⟨_, _, hlater, hcuts⟩ := decision_of_stream cutRequest
  refine ⟨by decide +kernel, by decide +kernel, ?_⟩
  rw [hlater hdecided, hcuts [cutRequest.flatten] (by simp)]

end RequestInspector

end RelayTunnel.Transcode
