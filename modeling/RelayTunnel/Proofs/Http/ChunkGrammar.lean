import RelayTunnel.Proofs.Http.Absorption

/-!
# The grammar of chunked bodies

A chunked body is a sequence of chunks, a size line of size zero, any number of trailer lines and an empty
line (RFC 9112, section 7.1). `ChunkedBody` holds the parts of such a body, and `ChunkedBody.octets`
writes them out.

The grammar asks for a digit in every size line. A size line without one states no size, so only the last
line can be meant by it. `ChunkedBody` leaves room for that, and `ChunkedBody.HasDigits` rules it out.
Whether a body has its digits can be read off its octets (`hasDigits_of_octets_eq`).
-/

set_option autoImplicit false

namespace RelayTunnel.Http

open Ascii (cr lf crlf)

/-! ## Sizes -/

def isHexDigit (b : UInt8) : Bool := (Ascii.hexValue? b).isSome

/-- The size that digits spell when they come behind those of a size read so far. -/
def sizeFrom (size : Nat) (digits : Bytes) : Nat :=
  digits.foldl (fun size b => size * 16 + (Ascii.hexValue? b).getD 0) size

/-- No digits leave the size as it is. -/
@[simp] theorem sizeFrom_nil (size : Nat) : sizeFrom size [] = size := rfl

/-- A digit makes the size sixteen times as large and adds itself. -/
theorem sizeFrom_cons {b : UInt8} {digit : Nat} (h : Ascii.hexValue? b = some digit) (size : Nat)
    (digits : Bytes) : sizeFrom size (b :: digits) = sizeFrom (size * 16 + digit) digits := by
  simp [sizeFrom, h]

/-! ## Lines and chunks -/

/-- What stands between the digits of a size line and its line end: blanks, and then an extension, which
a semicolon introduces. -/
structure LineTail where
  blanks : Bytes
  extension : Option Bytes
  blanks_blank : ∀ b ∈ blanks, Ascii.isBlank b = true
  extension_plain : ∀ octets ∈ extension, ∀ b ∈ octets, b ≠ cr ∧ b ≠ lf

def LineTail.octets (tail : LineTail) : Bytes :=
  tail.blanks ++ (tail.extension.map (semicolon :: ·)).getD []

def LineTail.empty : LineTail := ⟨[], none, by simp, by simp⟩

/-- There may be nothing behind the digits. -/
theorem LineTail.octets_empty : empty.octets = [] := rfl

def LineTail.ofExtension (text : Bytes) (h : ∀ b ∈ text, b ≠ cr ∧ b ≠ lf) : LineTail where
  blanks := []
  extension := some text
  blanks_blank := by simp
  extension_plain := by simpa using h

/-- An extension stands behind a semicolon. -/
theorem LineTail.octets_ofExtension (text : Bytes) (h : ∀ b ∈ text, b ≠ cr ∧ b ≠ lf) :
    (ofExtension text h).octets = semicolon :: text := rfl

/-- A size line. -/
structure SizeLine where
  digits : Bytes
  tail : LineTail
  digits_hex : ∀ b ∈ digits, isHexDigit b = true
  fits : sizeFrom 0 digits < chunkSizeBound

namespace SizeLine

/-- The size that the line states. -/
def size (line : SizeLine) : Nat := sizeFrom 0 line.digits

def octets (line : SizeLine) : Bytes := line.digits ++ line.tail.octets ++ crlf

end SizeLine

/-- A chunk of payload. -/
structure DataChunk where
  line : SizeLine
  data : Bytes
  size_pos : 0 < line.size
  length_data : data.length = line.size

def DataChunk.octets (chunk : DataChunk) : Bytes := chunk.line.octets ++ chunk.data ++ crlf

/-- A line of the trailer. -/
structure TrailerLine where
  text : Bytes
  text_ne : text ≠ []
  text_plain : ∀ b ∈ text, b ≠ cr

def TrailerLine.octets (line : TrailerLine) : Bytes := line.text ++ crlf

/-- A whole chunked body. -/
structure ChunkedBody where
  chunks : List DataChunk
  last : SizeLine
  trailers : List TrailerLine
  last_size : last.size = 0

namespace ChunkedBody

def octets (body : ChunkedBody) : Bytes :=
  body.chunks.flatMap DataChunk.octets
    ++ (body.last.octets ++ (body.trailers.flatMap TrailerLine.octets ++ crlf))

def payload (body : ChunkedBody) : Bytes := body.chunks.flatMap DataChunk.data

/-- The size lines of a body, in order. -/
def lines (body : ChunkedBody) : List SizeLine := body.chunks.map DataChunk.line ++ [body.last]

/-- Every size line has a digit, as the grammar asks for. -/
def HasDigits (body : ChunkedBody) : Prop := ∀ line ∈ body.lines, line.digits ≠ []

end ChunkedBody

/-- A size that is not zero takes a digit. -/
theorem SizeLine.digits_ne_nil {line : SizeLine} (h : 0 < line.size) : line.digits ≠ [] := by
  intro hdigits
  rw [size, hdigits, sizeFrom_nil] at h
  exact Nat.lt_irrefl 0 h

/-- Only the last size line can lack a digit. -/
theorem ChunkedBody.hasDigits_iff (body : ChunkedBody) :
    body.HasDigits ↔ body.last.digits ≠ [] := by
  constructor
  · intro h
    exact h body.last (by simp [lines])
  · intro h line hline
    simp only [lines, List.mem_append, List.mem_map, List.mem_singleton] at hline
    rcases hline with ⟨chunk, _, rfl⟩ | rfl
    · exact SizeLine.digits_ne_nil chunk.size_pos
    · exact h

/-- A line with digits begins with one. -/
theorem SizeLine.exists_digit {line : SizeLine} (h : line.digits ≠ []) (behind : Bytes) :
    ∃ b rest, line.octets ++ behind = b :: rest ∧ isHexDigit b = true := by
  obtain ⟨b, digits, hdigits⟩ := List.exists_cons_of_ne_nil h
  have hb : isHexDigit b = true := line.digits_hex b (by simp [hdigits])
  exact ⟨b, digits ++ line.tail.octets ++ crlf ++ behind, by simp [octets, hdigits], hb⟩

/-- Where the grammar is kept to, a body begins with a digit. -/
theorem ChunkedBody.exists_digit {body : ChunkedBody} (h : body.HasDigits) :
    ∃ b rest, body.octets = b :: rest ∧ isHexDigit b = true := by
  rw [octets]
  cases hchunks : body.chunks with
  | nil => exact SizeLine.exists_digit (h body.last (by simp [lines])) _
  | cons chunk chunks =>
    have hline : chunk.line ∈ body.lines := by simp [lines, hchunks]
    rw [List.flatMap_cons, DataChunk.octets, List.append_assoc, List.append_assoc,
      List.append_assoc]
    exact SizeLine.exists_digit (h chunk.line hline) _

/-! ## A body can be taken apart in one way only -/

section Unique

/-- Characters of a kind, in front of another one, are all that is taken while they are of that kind. -/
theorem takeWhile_append_cons {p : UInt8 → Bool} {front : Bytes} {b : UInt8}
    (hfront : ∀ c ∈ front, p c = true) (hb : p b = false) (behind : Bytes) :
    (front ++ b :: behind).takeWhile p = front := by
  rw [List.takeWhile_append_of_pos hfront, List.takeWhile_cons_of_neg (by simp [hb]),
    List.append_nil]

/-- Where the first CR stands, what is in front of it and what is behind it are determined. -/
theorem eq_of_append_cr {front front' behind behind' : Bytes} (hfront : ∀ b ∈ front, b ≠ cr)
    (hfront' : ∀ b ∈ front', b ≠ cr) (h : front ++ cr :: behind = front' ++ cr :: behind') :
    front = front' ∧ behind = behind' := by
  have hplain : ∀ b ∈ front, (b != cr) = true := by simpa using hfront
  have hplain' : ∀ b ∈ front', (b != cr) = true := by simpa using hfront'
  have hcr : (cr != cr) = false := by decide
  have hsame : front = front' := by
    rw [← takeWhile_append_cons hplain hcr behind, h, takeWhile_append_cons hplain' hcr behind']
  subst hsame
  exact ⟨rfl, by simpa using h⟩

/-- A digit is not the end of a line. -/
theorem ne_cr_of_isHexDigit {b : UInt8} (h : isHexDigit b = true) : b ≠ cr := by
  rintro rfl
  exact absurd h (by decide)

/-- Nor is a blank. -/
theorem ne_cr_of_isBlank {b : UInt8} (h : Ascii.isBlank b = true) : b ≠ cr := by
  rintro rfl
  exact absurd h (by decide)

/-- The end of a line does not stand between its digits and its end. -/
theorem LineTail.ne_cr (tail : LineTail) : ∀ b ∈ tail.octets, b ≠ cr := by
  intro b hb
  rw [octets, List.mem_append] at hb
  rcases hb with hb | hb
  · exact ne_cr_of_isBlank (tail.blanks_blank b hb)
  · cases hextension : tail.extension with
    | none => simp [hextension] at hb
    | some octets =>
      simp only [hextension, Option.map_some, Option.getD_some, List.mem_cons] at hb
      rcases hb with rfl | hb
      · decide
      · exact (tail.extension_plain octets (by simp [hextension]) b hb).1

/-- Behind the digits of a size line stands no further digit. -/
theorem LineTail.exists_cons (tail : LineTail) (behind : Bytes) :
    ∃ b rest, tail.octets ++ cr :: behind = b :: rest ∧ isHexDigit b = false := by
  rw [octets]
  cases hblanks : tail.blanks with
  | cons b blanks =>
    have hblank := tail.blanks_blank b (by simp [hblanks])
    exact ⟨b, _, rfl, by simp [isHexDigit, ChunkReader.hexValue?_of_isBlank hblank]⟩
  | nil =>
    cases tail.extension with
    | none => exact ⟨cr, behind, rfl, by decide⟩
    | some octets => exact ⟨semicolon, _, rfl, by decide⟩

namespace SizeLine

variable {line line' : SizeLine} {behind behind' : Bytes}

/-- There is no CR in a size line in front of its end. -/
theorem ne_cr (line : SizeLine) : ∀ b ∈ line.digits ++ line.tail.octets, b ≠ cr := by
  intro b hb
  rcases List.mem_append.mp hb with hb | hb
  · exact ne_cr_of_isHexDigit (line.digits_hex b hb)
  · exact line.tail.ne_cr b hb

/-- The first CR of a line is that of its end. -/
theorem octets_append (line : SizeLine) (behind : Bytes) :
    line.octets ++ behind = (line.digits ++ line.tail.octets) ++ cr :: (lf :: behind) := by
  simp [octets, crlf]

/-- The digits of a line are the digits at its front. -/
theorem takeWhile_octets (line : SizeLine) (behind : Bytes) :
    (line.octets ++ behind).takeWhile isHexDigit = line.digits := by
  obtain ⟨b, rest, htail, hb⟩ := line.tail.exists_cons (lf :: behind)
  rw [octets_append, List.append_assoc, htail]
  exact takeWhile_append_cons line.digits_hex hb rest

/-- Where one line begins, another one begins only with the same digits and the same rest. -/
theorem eq_of_octets_append (h : line.octets ++ behind = line'.octets ++ behind') :
    line.digits = line'.digits ∧ behind = behind' := by
  constructor
  · rw [← takeWhile_octets line behind, h, takeWhile_octets line' behind']
  · rw [octets_append, octets_append] at h
    obtain ⟨_, hbehind⟩ := eq_of_append_cr line.ne_cr line'.ne_cr h
    simpa using hbehind

end SizeLine

/-- Chunks in front of a size line of size zero are read one by one until that line is reached. -/
theorem digits_of_octets_eq {chunks chunks' : List DataChunk} {last last' : SizeLine}
    {behind behind' : Bytes} (hlast : last.size = 0) (hlast' : last'.size = 0)
    (h : chunks.flatMap DataChunk.octets ++ (last.octets ++ behind) =
      chunks'.flatMap DataChunk.octets ++ (last'.octets ++ behind')) :
    last.digits = last'.digits := by
  induction chunks generalizing chunks' with
  | nil =>
    cases chunks' with
    | nil => exact (SizeLine.eq_of_octets_append h).1
    | cons chunk' chunks' =>
      -- a size cannot be zero and not zero
      simp only [List.flatMap_nil, List.nil_append, List.flatMap_cons, DataChunk.octets,
        List.append_assoc] at h
      have hdigits := (SizeLine.eq_of_octets_append h).1
      have hpos := chunk'.size_pos
      rw [SizeLine.size, ← hdigits, ← SizeLine.size] at hpos
      omega
  | cons chunk chunks ih =>
    cases chunks' with
    | nil =>
      simp only [List.flatMap_nil, List.nil_append, List.flatMap_cons, DataChunk.octets,
        List.append_assoc] at h
      have hdigits := (SizeLine.eq_of_octets_append h).1
      have hpos := chunk.size_pos
      rw [SizeLine.size, hdigits, ← SizeLine.size] at hpos
      omega
    | cons chunk' chunks' =>
      simp only [List.flatMap_cons, DataChunk.octets, List.append_assoc] at h
      obtain ⟨hdigits, hbehind⟩ := SizeLine.eq_of_octets_append h
      have hlength : chunk.data.length = chunk'.data.length := by
        rw [chunk.length_data, chunk'.length_data, SizeLine.size, SizeLine.size, hdigits]
      obtain ⟨_, hmore⟩ := List.append_inj hbehind hlength
      exact ih (by simpa using hmore)

/-- Two bodies with the same octets agree in whether every size line has a digit. -/
theorem ChunkedBody.hasDigits_of_octets_eq {body body' : ChunkedBody}
    (h : body.octets = body'.octets) : body.HasDigits ↔ body'.HasDigits := by
  have hdigits := digits_of_octets_eq body.last_size body'.last_size h
  rw [hasDigits_iff, hasDigits_iff, hdigits]

end Unique

end RelayTunnel.Http
