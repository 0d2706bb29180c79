import RelayTunnel.Proofs.Http.HeadExtent

/-!
# What becomes of a reason phrase

The start line of a response head is its version, its status and, behind a space, its reason phrase
(`startLine_of_takeResponse`). The phrase is kept if all of it is ASCII. Any other phrase is read and dropped as a
whole, well-formed text included: the line that is written for the head then ends behind the space
(`phrase_kept_iff_ascii`, `foreign_phrase_is_dropped`).
-/

set_option autoImplicit false

namespace RelayTunnel.Http

open Ascii (cr lf space)

/-! ## Start lines -/

/-- Whether an octet belongs to a line end. -/
def endsLine (b : UInt8) : Bool := b == cr || b == lf

/-- The text of the first line that is not blank, without its line end. -/
def startLine (buffer : Bytes) : Bytes := (buffer.dropWhile endsLine).takeWhile (!endsLine ·)

/-- The first line with any text begins behind blank lines and ends in front of its line end. -/
theorem startLine_append {blanks text behind : Bytes} (hblanks : ∀ b ∈ blanks, endsLine b = true)
    (hne : text ≠ []) (htext : IsLineText text) (hbehind : behind.head?.any endsLine = true) :
    startLine (blanks ++ (text ++ behind)) = text := by
  have hkept : ∀ b ∈ text, (!endsLine b) = true := by
    intro b hb
    simpa [endsLine] using htext b hb
  obtain ⟨c, more, rfl⟩ := List.exists_cons_of_ne_nil hne
  have hc : endsLine c = false := by simpa using hkept c List.mem_cons_self
  have hskip : (blanks ++ (c :: more ++ behind)).dropWhile endsLine = c :: more ++ behind := by
    rw [List.dropWhile_append_of_pos hblanks, List.cons_append, List.dropWhile_cons_of_neg (by simp [hc])]
  rw [startLine, hskip, List.takeWhile_append_of_pos hkept]
  cases behind with
  | nil => simp
  | cons b behind =>
    have hb : endsLine b = true := by simpa using hbehind
    simp [hb]

/-- Blank lines are line ends only. -/
theorem endsLine_of_blanks {blanks : List Bytes} (h : ∀ blank ∈ blanks, IsLineEnd blank) :
    ∀ b ∈ blanks.flatten, endsLine b = true := by
  intro b hb
  obtain ⟨blank, hblank, hmem⟩ := List.mem_flatten.mp hb
  rcases h blank hblank with rfl | rfl
  · rcases List.mem_pair.mp hmem with rfl | rfl <;> rfl
  · rw [List.mem_singleton.mp hmem]
    rfl

/-- A line end begins with an octet that belongs to it. -/
theorem IsLineEnd.endsLine_head? {ending : Bytes} (h : IsLineEnd ending) (behind : Bytes) :
    (ending ++ behind).head?.any endsLine = true := by
  rcases h with rfl | rfl <;> rfl

/-! ## The status line of a head -/

namespace ResponseHead

/-- The start line of a head up to its status. -/
def statusText (head : ResponseHead) : Bytes :=
  Ascii.bytes head.version.label ++ [space] ++ Text.decimalBytes head.status.code

/-- A response head has the version and the reason that were read. -/
theorem version_of_ofParts {parts : HeadSyntax.ResponseParts} {head : ResponseHead}
    (h : ofParts parts = .ok head) :
    head.version = .ofMinor parts.minor ∧ head.reason = parts.reason := by
  rw [ofParts] at h
  split at h
  · cases h
  · rw [← Except.ok.inj h]
    exact ⟨rfl, rfl⟩

/-- A status line has no line end in it. -/
theorem isLineText_statusText (head : ResponseHead) : IsLineText head.statusText := by
  have hversion : IsLineText (Ascii.bytes head.version.label ++ [space]) := by
    cases head.version <;> decide
  refine hversion.append fun b hb => ?_
  have hdigit := Text.isDigit_of_mem_decimalBytes _ b hb
  constructor <;> rintro rfl <;> exact absurd hdigit (by decide)

/-- A start line is not empty. -/
theorem statusText_ne_nil (head : ResponseHead) : head.statusText ≠ [] := by
  simp [statusText]

end ResponseHead

/-- A version is read from its label. -/
theorem HeadSyntax.version_eq_label {minor : Nat} {input rest : Bytes}
    (h : version input = .found minor rest) :
    input = Ascii.bytes (Version.ofMinor minor).label ++ rest := by
  obtain ⟨digit, hdigit, hminor, rfl⟩ := version_eq_found h
  rw [hminor]
  rcases hdigit with rfl | rfl <;> rfl

/-- Behind the status of a head stands what its reason has been read off. -/
theorem startLine_of_takeResponse {buffer : Bytes} {taken : Taken ResponseHead}
    (h : takeResponse buffer = .ok (some taken)) :
    ∃ text, startLine buffer = taken.head.statusText ++ text ∧ IsReasonText taken.head.reason text := by
  obtain ⟨parts, hscan, hbuild, -⟩ := takeHead_eq_some h
  have hcode := ResponseHead.code_of_ofParts hbuild
  obtain ⟨hversion, hreason⟩ := ResponseHead.version_of_ofParts hbuild
  obtain ⟨_, input₁, hread₁, hmore₁⟩ := Scan.bind_eq_found hscan
  obtain ⟨minor, input₂, hread₂, hmore₂⟩ := Scan.bind_eq_found hmore₁
  obtain ⟨_, input₃, hread₃, hmore₃⟩ := Scan.bind_eq_found hmore₂
  obtain ⟨code, input₄, hread₄, hmore₄⟩ := Scan.bind_eq_found hmore₃
  obtain ⟨reason, input₅, hread₅, hmore₅⟩ := Scan.bind_eq_found hmore₄
  obtain ⟨fields, input₆, -, hend⟩ := Scan.bind_eq_found hmore₅
  obtain ⟨rfl, -⟩ := Scanned.found.inj hend
  obtain ⟨_, rfl, blanks, hblanks, rfl⟩ := HeadSyntax.takes_blankLines _ _ _ hread₁
  obtain ⟨_, rfl, text, ending, htext, hline, hending, rfl⟩ :=
    HeadSyntax.takes_reasonPhrase _ _ _ hread₅
  have hstatus : input₁ = taken.head.statusText ++ (text ++ ending ++ input₅) := by
    rw [HeadSyntax.version_eq_label hread₂, HeadSyntax.exactly_eq_found hread₃,
      HeadSyntax.statusCode_eq_found hread₄, ResponseHead.statusText, hversion,
      HeadSyntax.decimalBytes_code taken.head.status.three_digits, hcode]
    simp
  refine ⟨text, ?_, hreason ▸ htext⟩
  have hbuffer : taken.head.statusText ++ (text ++ ending ++ input₅) =
      taken.head.statusText ++ text ++ (ending ++ input₅) := by simp
  rw [hstatus, hbuffer]
  exact startLine_append (endsLine_of_blanks hblanks) (by simp [taken.head.statusText_ne_nil])
    (taken.head.isLineText_statusText.append hline) (hending.endsLine_head? _)

/-- What is written of a head begins with its status line, whatever its fields are. -/
theorem exists_rendered {head : ResponseHead} (h : head.WellFormed) (fields : Fields) :
    ∃ block, ({ head with fields } : ResponseHead).render? =
      some (head.statusText ++ space :: head.reason ++ Ascii.crlf ++ block) := by
  refine ⟨fields.toList.flatMap Field.line ++ Ascii.crlf, ?_⟩
  rw [ResponseHead.render?]
  rcases h.version with hversion | hversion <;> simp [hversion, ResponseHead.statusText]

/-- The start line of a head that is written is its status line. -/
theorem startLine_rendered {head : ResponseHead} (h : head.WellFormed) (block : Bytes) :
    startLine (head.statusText ++ space :: head.reason ++ Ascii.crlf ++ block) =
      head.statusText ++ space :: head.reason := by
  have hreason : IsLineText head.reason :=
    .of_forall (p := HeadSyntax.isTextChar) rfl rfl fun b hb => (h.reason b hb).1
  have hspace : IsLineText [space] := by decide
  have hline : IsLineText (head.statusText ++ space :: head.reason) :=
    head.isLineText_statusText.append (hspace.append hreason)
  have hnothing : ∀ b ∈ ([] : Bytes), endsLine b = true := by simp
  rw [List.append_assoc _ Ascii.crlf]
  exact startLine_append hnothing (by simp) hline rfl

/-! ## The phrase -/

/-- Octets that are characters by themselves. -/
def IsAscii (octets : Bytes) : Prop := ∀ b ∈ octets, b < 0x80

instance : DecidablePred IsAscii := fun octets => List.decidableBAll (· < 0x80) octets

/-- A text is ASCII if it has no octet from 0x80 on. -/
theorem isAscii_iff {octets : Bytes} : IsAscii octets ↔ octets.any (0x80 ≤ ·) = false := by
  simp [IsAscii, List.any_eq_false]

/-- A phrase is kept, and written again in any head that has the same status line, exactly if it is ASCII.
Otherwise nothing is kept of it, and nothing is written behind the space. -/
theorem phrase_kept_iff_ascii {buffer : Bytes} {taken : Taken ResponseHead}
    (h : takeResponse buffer = .ok (some taken)) :
    (startLine buffer = taken.head.statusText ∧ taken.head.reason = [] ∨
      ∃ phrase, startLine buffer = taken.head.statusText ++ space :: phrase) ∧
    (∀ phrase, startLine buffer = taken.head.statusText ++ space :: phrase →
      (taken.head.reason = phrase ↔ IsAscii phrase) ∧ (¬ IsAscii phrase → taken.head.reason = []) ∧
        ∀ fields written, ({ taken.head with fields } : ResponseHead).render? = some written →
          (startLine written = startLine buffer ↔ IsAscii phrase)) ∧
    ∀ fields, ∃ block, ({ taken.head with fields } : ResponseHead).render? =
      some (taken.head.statusText ++ space :: taken.head.reason ++ Ascii.crlf ++ block) := by
  have hwellFormed := wellFormed_of_takeResponse h
  obtain ⟨text, hline, htext⟩ := startLine_of_takeResponse h
  refine ⟨?_, fun phrase hphrase => ?_, exists_rendered hwellFormed⟩
  · rcases htext with ⟨rfl, hreason⟩ | ⟨phrase, rfl, -⟩
    · exact .inl ⟨by simpa using hline, hreason⟩
    · exact .inr ⟨phrase, hline⟩
  · obtain rfl : text = space :: phrase := List.append_cancel_left (hline.symm.trans hphrase)
    obtain ⟨⟨⟩, -⟩ | ⟨phrase, ⟨⟩, hreason⟩ := htext
    have hkept : taken.head.reason = phrase ↔ IsAscii phrase := by
      rw [hreason, isAscii_iff]
      cases phrase <;> simp
    refine ⟨hkept, fun hforeign => ?_, fun fields written hwritten => ?_⟩
    · rw [isAscii_iff, Bool.not_eq_false] at hforeign
      rw [hreason, if_pos hforeign]
    · obtain ⟨block, hrender⟩ := exists_rendered hwellFormed fields
      obtain rfl := Option.some.inj (hwritten.symm.trans hrender)
      rw [startLine_rendered hwellFormed, hline, ← hkept]
      simp

/-- A phrase of one's own, behind a blank line and in front of a bare line feed. -/
def ownPhrase : Bytes := Ascii.bytes "\nHTTP/1.0 299 Totally\tFine \nA: b\n\n"

/-- A phrase of its own in ASCII is kept, and written again. -/
theorem ownPhrase_is_kept : ∃ taken, takeResponse ownPhrase = .ok (some taken) ∧
    taken.head.reason = Ascii.bytes "Totally\tFine " ∧
    ∀ fields written, ({ taken.head with fields } : ResponseHead).render? = some written →
      startLine written = Ascii.bytes "HTTP/1.0 299 Totally\tFine " := by
  have hline : startLine ownPhrase = Ascii.bytes "HTTP/1.0 299 Totally\tFine " := by decide +kernel
  have htest : (takeResponse ownPhrase).toOption.any (·.any fun taken =>
      taken.head.statusText == Ascii.bytes "HTTP/1.0 299") = true := by
    decide +kernel
  obtain ⟨taken, htake, hstatus⟩ := exists_taken_of_any htest
  have hphrase : startLine ownPhrase =
      taken.head.statusText ++ space :: Ascii.bytes "Totally\tFine " := by
    rw [hline, eq_of_beq hstatus]
    decide +kernel
  obtain ⟨hkept, -, hwritten⟩ := (phrase_kept_iff_ascii htake).2.1 _ hphrase
  have hascii : IsAscii (Ascii.bytes "Totally\tFine ") := by decide +kernel
  refine ⟨taken, htake, hkept.mpr hascii, fun fields written hrender => ?_⟩
  rw [(hwritten fields written hrender).mpr hascii, hline]

/-- A phrase with two letters beyond ASCII, in UTF-8. -/
def foreignPhrase : Bytes := Ascii.bytes "Gr" ++ [0xC3, 0xB6, 0xC3, 0x9F] ++ Ascii.bytes "e"

/-- A phrase with a letter beyond ASCII is dropped. -/
theorem foreign_phrase_is_dropped : ∃ taken,
    takeResponse (Ascii.bytes "HTTP/1.1 200 " ++ foreignPhrase ++ Ascii.bytes "\r\n\r\n") =
      .ok (some taken) ∧
    Text.Utf8.decode? foreignPhrase = some "Größe".toList ∧ taken.head.reason ≠ foreignPhrase ∧
    taken.head.render? = some (Ascii.bytes "HTTP/1.1 200 \r\n\r\n") := by
  have htest : (takeResponse (Ascii.bytes "HTTP/1.1 200 " ++ foreignPhrase ++
      Ascii.bytes "\r\n\r\n")).toOption.any (·.any fun taken =>
        taken.head.reason.isEmpty &&
          taken.head.render? == some (Ascii.bytes "HTTP/1.1 200 \r\n\r\n")) = true := by
    decide +kernel
  obtain ⟨taken, htake, hall⟩ := exists_taken_of_any htest
  simp only [Bool.and_eq_true, List.isEmpty_iff, beq_iff_eq] at hall
  have hdecoded : Text.Utf8.decode? foreignPhrase = some "Größe".toList := by decide +kernel
  refine ⟨taken, htake, hdecoded, ?_, hall.2⟩
  rw [hall.1]
  decide +kernel

end RelayTunnel.Http
