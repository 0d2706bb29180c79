import RelayTunnel.Proofs.Config.Validation
import RelayTunnel.Proofs.Http.ChunkGrammar
import RelayTunnel.Proofs.Text.Utf8
import RelayTunnel.Proofs.Url.Endpoints
import RelayTunnel.Tunnel.Opening

/-!
# The lines of the opening request

The url of the relay and the names and values of the extra fields are written into a protocol of lines as
they are. What keeps them from writing lines of their own was checked when the configuration was accepted:
path and host are visible (`Endpoint.visible_path`), and names and values have no controls. So the request
is made of exactly the lines it is meant to have (`openingRequest_of_validate`).
-/

set_option autoImplicit false

namespace RelayTunnel

open Ascii (cr lf crlf space colon)

/-! ## Lines -/

/-- Octets that are these lines: CR LF ends each of them, and neither octet stands anywhere else. -/
structure IsLines (lines : List Bytes) (octets : Bytes) : Prop where
  joined : octets = lines.flatMap (· ++ crlf)
  unbroken : ∀ line ∈ lines, cr ∉ line ∧ lf ∉ line

/-- Octets are lines in one way only. -/
theorem IsLines.unique {lines others : List Bytes} {octets : Bytes} (h : IsLines lines octets)
    (hothers : IsLines others octets) : others = lines := by
  induction lines generalizing others octets with
  | nil =>
    have hnil : others.flatMap (· ++ crlf) = [] := hothers.joined ▸ h.joined
    cases others with
    | nil => rfl
    | cons other more => simp [crlf] at hnil
  | cons line lines ih =>
    obtain ⟨hjoined, hunbroken⟩ := h
    obtain ⟨hline, hlines⟩ := List.forall_mem_cons.mp hunbroken
    cases others with
    | nil =>
      have hnil := hjoined.symm.trans hothers.joined
      simp [crlf] at hnil
    | cons other others =>
      obtain ⟨hother, hmore⟩ := List.forall_mem_cons.mp hothers.unbroken
      have hsame : line ++ cr :: lf :: lines.flatMap (· ++ crlf)
          = other ++ cr :: lf :: others.flatMap (· ++ crlf) := by
        have := hjoined.symm.trans hothers.joined
        simpa [crlf] using this
      obtain ⟨rfl, hbehind⟩ := Http.eq_of_append_cr (fun b hb heq => hline.1 (heq ▸ hb))
        (fun b hb heq => hother.1 (heq ▸ hb)) hsame
      rw [ih ⟨rfl, hlines⟩ ⟨(List.cons_eq_cons.mp hbehind).2, hmore⟩]

/-- Behind some lines, the empty one leaves two line ends at the end. -/
theorem exists_blank {lines : List Bytes} (h : lines ≠ []) :
    ∃ front, (lines ++ [[]]).flatMap (· ++ crlf) = front ++ (crlf ++ crlf) := by
  refine ⟨lines.dropLast.flatMap (· ++ crlf) ++ lines.getLast h, ?_⟩
  conv => lhs; rw [← List.dropLast_concat_getLast h]
  simp

/-- What a CR stands in front of begins at the end of a line without one, or behind it. -/
theorem exists_gap {line rest front behind : Bytes} (hline : cr ∉ line)
    (h : line ++ (crlf ++ rest) = front ++ (crlf ++ behind)) :
    ∃ gap, crlf ++ rest = gap ++ (crlf ++ behind) := by
  rcases List.append_eq_append_iff.mp h with ⟨gap, _, hgap⟩ | ⟨gap, hfront, hgap⟩
  · exact ⟨gap, hgap⟩
  · cases gap with
    | nil => exact ⟨[], hgap.symm⟩
    | cons b gap =>
      have hb : b = cr := (List.cons_eq_cons.mp hgap).1.symm
      exact absurd (by simp [hfront, hb]) hline

section

variable {lines : List Bytes}

/-- Lines that begin with a blank one are at their end. -/
theorem eq_nil_of_blank_first (hlines : ∀ line ∈ lines, line ≠ [] ∧ cr ∉ line) {behind : Bytes}
    (h : (lines ++ [[]]).flatMap (· ++ crlf) = crlf ++ behind) : behind = [] := by
  cases lines with
  | nil => simpa using h
  | cons line lines =>
    obtain ⟨hfull, hcr⟩ := hlines line List.mem_cons_self
    cases line with
    | nil => exact absurd rfl hfull
    | cons b line =>
      have hb : b = cr := (List.cons_eq_cons.mp h).1
      exact absurd (by simp [hb]) hcr

/-- Behind lines that are not empty, the first blank line is the one that is there. -/
theorem eq_nil_of_blank (hlines : ∀ line ∈ lines, line ≠ [] ∧ cr ∉ line) {front behind : Bytes}
    (h : (lines ++ [[]]).flatMap (· ++ crlf) = front ++ (crlf ++ crlf ++ behind)) : behind = [] := by
  induction lines generalizing front with
  | nil =>
    have hlength := congrArg List.length h
    simp [crlf] at hlength
    omega
  | cons line lines ih =>
    obtain ⟨⟨_, hcr⟩, hmore⟩ := List.forall_mem_cons.mp hlines
    rw [List.cons_append, List.flatMap_cons, List.append_assoc, List.append_assoc] at h
    obtain ⟨gap, hgap⟩ := exists_gap hcr h
    cases gap with
    | nil => exact eq_nil_of_blank_first hmore (List.append_cancel_left hgap)
    | cons b gap =>
      have hbehind := (List.cons_eq_cons.mp hgap).2
      cases gap with
      | nil => exact absurd (List.cons_eq_cons.mp hbehind).1 (by decide)
      | cons c gap =>
        have hrest : (lines ++ [[]]).flatMap (· ++ crlf) = gap ++ (crlf ++ crlf ++ behind) := by
          rw [List.append_assoc crlf]
          exact (List.cons_eq_cons.mp hbehind).2
        exact ih hmore hrest

end

/-! ## The request -/

/-- The first line of the opening request, without its end. -/
def requestLine (relay : Endpoint) : Bytes :=
  Text.Utf8.ofString ("CONNECT " ++ relay.path ++ " HTTP/1.1")

def hostLine (relay : Endpoint) : Bytes := Text.Utf8.ofString ("Host: " ++ relay.hostField)

/-- The line of an extra field, without its end. -/
def fieldLine (field : String × String) : Bytes := Text.Utf8.ofString (field.1 ++ ": " ++ field.2)

/-- The lines of the opening request; the last of them is empty. -/
def openingLines (relay : Endpoint) (headers : List (String × String)) : List Bytes :=
  requestLine relay :: hostLine relay :: headers.map fieldLine ++ [[]]

/-- The opening request is its lines, each with a line end. -/
theorem openingRequest_eq (relay : Endpoint) (headers : List (String × String)) :
    openingRequest relay headers = (openingLines relay headers).flatMap (· ++ crlf) := by
  have hfields : headers.flatMap openingLine = (headers.map fieldLine).flatMap (· ++ crlf) := by
    rw [List.flatMap_map]
    rfl
  simp [openingRequest, openingLines, requestLine, hostLine, hfields]

/-- Visible text is written in octets that are neither controls nor spaces. -/
theorem bounds_of_visible {text : String} (h : Url.Visible text.toList) :
    ∀ b ∈ Text.Utf8.ofString text, space < b ∧ b < 0x7F := by
  rw [Text.Utf8.ofString, Text.Utf8.encode_of_ascii fun c hc => Nat.lt_trans (h c hc).2 (by decide)]
  intro b hb
  obtain ⟨c, hc, rfl⟩ := List.mem_map.mp hb
  obtain ⟨hlow, hhigh⟩ := h c hc
  have hvalue : c.toNat.toUInt8.toNat = c.toNat := UInt8.toNat_ofNat_of_lt' (Nat.lt_trans hhigh (by decide))
  rw [UInt8.lt_iff_toNat_lt, UInt8.lt_iff_toNat_lt, hvalue]
  exact ⟨hlow, hhigh⟩

/-- Visible text has no octet up to the space in it. -/
theorem not_mem_of_visible {text : String} (h : Url.Visible text.toList) {b : UInt8} (hb : b ≤ space) :
    b ∉ Text.Utf8.ofString text :=
  fun hmem => absurd (bounds_of_visible h b hmem).1 (UInt8.not_lt.mpr hb)

variable {relay : Endpoint} {text : String}

/-- The request line has two spaces, and nothing in it ends a line. -/
theorem requestLine_of_visible (h : Url.Visible relay.path.toList) :
    (requestLine relay).count space = 2 ∧ cr ∉ requestLine relay ∧ lf ∉ requestLine relay := by
  unfold requestLine
  rw [Text.Utf8.ofString_append, Text.Utf8.ofString_append]
  have hspaces : (Text.Utf8.ofString relay.path).count space = 0 :=
    List.count_eq_zero.mpr (not_mem_of_visible h (UInt8.le_refl _))
  have hcr := not_mem_of_visible h (b := cr) (by decide)
  have hlf := not_mem_of_visible h (b := lf) (by decide)
  simp only [List.count_append, List.mem_append, not_or, hspaces]
  exact ⟨by decide, ⟨⟨by decide, hcr⟩, by decide⟩, ⟨⟨by decide, hlf⟩, by decide⟩⟩

/-- A host that is visible makes one line. -/
theorem hostLine_of_visible (h : Url.Visible relay.hostField.toList) :
    cr ∉ hostLine relay ∧ lf ∉ hostLine relay := by
  unfold hostLine
  rw [Text.Utf8.ofString_append]
  have hcr := not_mem_of_visible h (b := cr) (by decide)
  have hlf := not_mem_of_visible h (b := lf) (by decide)
  simp only [List.mem_append, not_or]
  exact ⟨⟨by decide, hcr⟩, ⟨by decide, hlf⟩⟩

/-- A field name has no octet in it that a token has not. -/
theorem not_mem_of_isFieldName (h : Config.isFieldName text = true) {b : UInt8}
    (hb : Http.HeadSyntax.isTokenChar b = false) : b ∉ Text.Utf8.ofString text := by
  intro hmem
  simp only [Config.isFieldName, Bool.and_eq_true] at h
  rw [List.all_eq_true.mp h.2 b hmem] at hb
  cases hb

/-- A field value has no octet in it that a text has not. -/
theorem not_mem_of_isFieldValue (h : Config.isFieldValue text = true) {b : UInt8}
    (hb : Http.HeadSyntax.isTextChar b = false) : b ∉ Text.Utf8.ofString text := by
  intro hmem
  rw [List.all_eq_true.mp h b hmem] at hb
  cases hb

/-- A field is written as its name, a colon, a space and its value. -/
theorem fieldLine_eq (field : String × String) :
    fieldLine field = Text.Utf8.ofString field.1 ++ colon :: space :: Text.Utf8.ofString field.2 := by
  rw [fieldLine, Text.Utf8.ofString_append, Text.Utf8.ofString_append, List.append_assoc]
  rfl

variable {field : String × String}

/-- A field that was accepted makes one line. -/
theorem fieldLine_unbroken (hname : Config.isFieldName field.1 = true)
    (hvalue : Config.isFieldValue field.2 = true) : cr ∉ fieldLine field ∧ lf ∉ fieldLine field := by
  rw [fieldLine_eq]
  simp only [List.mem_append, List.mem_cons, not_or]
  exact ⟨⟨not_mem_of_isFieldName hname (by decide), by decide, by decide,
      not_mem_of_isFieldValue hvalue (by decide)⟩,
    ⟨not_mem_of_isFieldName hname (by decide), by decide, by decide,
      not_mem_of_isFieldValue hvalue (by decide)⟩⟩

/-- The first colon of a field's line is the one behind the name. -/
theorem fieldLine_splits (hname : Config.isFieldName field.1 = true) :
    (fieldLine field).takeWhile (· != colon) = Text.Utf8.ofString field.1 ∧
      (fieldLine field).dropWhile (· != colon) = colon :: space :: Text.Utf8.ofString field.2 := by
  have hcolon : colon ∉ Text.Utf8.ofString field.1 := not_mem_of_isFieldName hname (by decide)
  have hname' : ∀ b ∈ Text.Utf8.ofString field.1, (b != colon) = true := by
    intro b hb
    simpa using fun heq : b = colon => hcolon (heq ▸ hb)
  have htake : (fieldLine field).takeWhile (· != colon) = Text.Utf8.ofString field.1 := by
    rw [fieldLine_eq]
    exact Http.takeWhile_append_cons hname' (by decide) _
  refine ⟨htake, ?_⟩
  have hwhole := List.takeWhile_append_dropWhile (p := (· != colon)) (l := fieldLine field)
  rw [htake, fieldLine_eq] at hwhole
  rw [fieldLine_eq]
  exact List.append_cancel_left hwhole

/-- Nothing in the lines of a usable configuration's request ends a line. -/
theorem openingLines_unbroken {config : Config} (h : config.validate = .ok relay) :
    ∀ line ∈ openingLines relay config.headers.toList, cr ∉ line ∧ lf ∉ line := by
  obtain ⟨_, hparse, _, hoptions⟩ := Config.validate_eq_ok_iff.mp h
  obtain ⟨_, _, hfields⟩ := Config.optionFault?_eq_none_iff.mp hoptions
  intro line hline
  simp only [openingLines, List.cons_append, List.mem_cons, List.mem_append, List.mem_map,
    List.not_mem_nil, or_false] at hline
  rcases hline with rfl | rfl | ⟨field, hfield, rfl⟩ | rfl
  · exact (requestLine_of_visible (Endpoint.visible_path hparse)).2
  · exact hostLine_of_visible (Endpoint.visible_hostField hparse)
  · exact fieldLine_unbroken (hfields field hfield).1 (hfields field hfield).2
  · exact ⟨List.not_mem_nil, List.not_mem_nil⟩

/-- Every line of the opening request but the last says something. -/
theorem ne_nil_of_mem_openingLines (headers : List (String × String)) :
    ∀ line ∈ requestLine relay :: hostLine relay :: headers.map fieldLine, line ≠ [] := by
  intro line hline
  simp only [List.mem_cons, List.mem_map] at hline
  rcases hline with rfl | rfl | ⟨field, _, rfl⟩
  · simp [requestLine, Text.Utf8.ofString, Text.Utf8.encode]
  · simp [hostLine, Text.Utf8.ofString, Text.Utf8.encode]
  · simp [fieldLine_eq]

/-- The opening request of a usable configuration has the lines it is meant to have and no others. -/
theorem openingRequest_of_validate {config : Config} (h : config.validate = .ok relay) :
    let headers := config.headers.toList
    let lines := openingLines relay headers
    let request := openingRequest relay headers
    IsLines lines request ∧ (∀ others, IsLines others request → others = lines) ∧
      lines.length = 3 + headers.length ∧ (requestLine relay).count space = 2 ∧
      (∀ field ∈ headers, (fieldLine field).takeWhile (· != colon) = Text.Utf8.ofString field.1 ∧
        (fieldLine field).dropWhile (· != colon) = colon :: space :: Text.Utf8.ofString field.2) ∧
      (∃ front, request = front ++ (crlf ++ crlf)) ∧
      ∀ front behind, request = front ++ (crlf ++ crlf ++ behind) → behind = [] := by
  intro headers lines request
  obtain ⟨_, hparse, _, hoptions⟩ := Config.validate_eq_ok_iff.mp h
  obtain ⟨_, _, hfields⟩ := Config.optionFault?_eq_none_iff.mp hoptions
  have hunbroken := openingLines_unbroken h
  have hlines : IsLines lines request := ⟨openingRequest_eq relay headers, hunbroken⟩
  have hfull : ∀ line ∈ requestLine relay :: hostLine relay :: headers.map fieldLine,
      line ≠ [] ∧ cr ∉ line := fun line hline =>
    ⟨ne_nil_of_mem_openingLines headers line hline, (hunbroken line (List.mem_append_left _ hline)).1⟩
  refine ⟨hlines, fun others hothers => hlines.unique hothers, ?_,
    (requestLine_of_visible (Endpoint.visible_path hparse)).1,
    fun field hfield => fieldLine_splits (hfields field hfield).1, ?_, ?_⟩
  · simp only [lines, openingLines, List.length_append, List.length_cons, List.length_map, List.length_nil]
    omega
  · obtain ⟨front, hfront⟩ := exists_blank (List.cons_ne_nil (requestLine relay)
      (hostLine relay :: headers.map fieldLine))
    exact ⟨front, hlines.joined.trans hfront⟩
  · intro front behind hsplit
    exact eq_nil_of_blank hfull (hlines.joined.symm.trans hsplit)

/-- A relay with a port and a query, and a field whose value has a colon and spaces. -/
def colonConfig : Config where
  url := "http://[::1]:8080/abc?x= 1"
  headers := .insert "X-A" " b: c" .empty

/-- The lines of a request whose field has a colon in its value. -/
theorem openingRequest_of_colonConfig :
    colonConfig.validate = .ok ⟨"[::1]", 8080, true, false, "/abc?x=%201"⟩ ∧
      IsLines [Ascii.bytes "CONNECT /abc?x=%201 HTTP/1.1", Ascii.bytes "Host: [::1]:8080",
          Ascii.bytes "X-A:  b: c", []]
        (openingRequest ⟨"[::1]", 8080, true, false, "/abc?x=%201"⟩ colonConfig.headers.toList) := by
  have hvalid : colonConfig.validate = .ok ⟨"[::1]", 8080, true, false, "/abc?x=%201"⟩ :=
    Config.eq_ok_of_toOption (by decide +kernel)
  have hlines : openingLines ⟨"[::1]", 8080, true, false, "/abc?x=%201"⟩ colonConfig.headers.toList
      = [Ascii.bytes "CONNECT /abc?x=%201 HTTP/1.1", Ascii.bytes "Host: [::1]:8080",
        Ascii.bytes "X-A:  b: c", []] := by decide +kernel
  have hrequest := (openingRequest_of_validate hvalid).1
  rw [hlines] at hrequest
  exact ⟨hvalid, hrequest⟩

end RelayTunnel
