import RelayTunnel.Proofs.Http.Stability

/-!
# Heads in pieces

A peer may send one head after another, and the heads may be cut anywhere on their way. `takeHeads`
takes heads off a buffer until there is no further one, or until one is refused; `takePieces` does so
behind each piece that arrives. Since no scanner takes an answer back, taking heads off a front piece
leaves off where taking heads off the whole goes on (`takeHeads_append`). Hence the heads, whether one is
refused and the octets left over do not depend on the cuts (`takePieces_agrees_uncut`).
-/

set_option autoImplicit false

namespace RelayTunnel.Http

namespace Scan

variable {ε α β : Type}

/-- A scanner that finds something has read at least one octet. -/
def Consuming (scan : Scan ε α) : Prop :=
  ∀ input value rest, scan input = .found value rest → rest.length < input.length

/-- Of two scanners one after the other, both have found something. -/
theorem bind_eq_found {first : Scan ε α} {next : α → Scan ε β} {input rest : Bytes} {value : β}
    (h : (first >>= next) input = .found value rest) :
    ∃ v between, first input = .found v between ∧ next v between = .found value rest := by
  have hbind : Scan.bind first next input = .found value rest := h
  rw [Scan.bind] at hbind
  cases hfirst : first input with
  | more => rw [hfirst] at hbind; cases hbind
  | refused fault => rw [hfirst] at hbind; cases hbind
  | found v between =>
    rw [hfirst] at hbind
    exact ⟨v, between, rfl, hbind⟩

namespace Consuming

/-- To read an octet is to read something. -/
theorem octet : Consuming (Scan.octet : Scan ε UInt8) := by
  intro input value rest h
  cases input with
  | nil => cases h
  | cons b input =>
    obtain ⟨rfl, rfl⟩ := Scanned.found.inj h
    simp

/-- Whoever reads something first reads something. -/
theorem bind_first {first : Scan ε α} {next : α → Scan ε β} (hfirst : Consuming first)
    (hnext : ∀ value, Stable (next value)) : Consuming (first >>= next) := by
  intro input value rest h
  obtain ⟨v, between, hread, hmore⟩ := bind_eq_found h
  have hless := hfirst input v between hread
  have hle := (hnext v).length_rest_le hmore
  omega

/-- So does whoever reads something afterwards. -/
theorem bind_next {first : Scan ε α} {next : α → Scan ε β} (hfirst : Stable first)
    (hnext : ∀ value, Consuming (next value)) : Consuming (first >>= next) := by
  intro input value rest h
  obtain ⟨v, between, hread, hmore⟩ := bind_eq_found h
  have hle := hfirst.length_rest_le hread
  have hless := hnext v between value rest hmore
  omega

end Consuming

end Scan

namespace HeadSyntax

open Scan (Consuming Stable)

/-- An expected octet is one. -/
theorem consuming_expect (p : UInt8 → Bool) (f : HeadFault) : Consuming (expect p f) :=
  Consuming.bind_first .octet fun _ => .ite (.pure _) (.refuse _)

/-- A method has at least one octet. -/
theorem consuming_method : Consuming method := by
  apply Consuming.bind_first (consuming_expect _ _)
  intro first
  exact (Stable.run _).bind fun _ => (stable_exactly _ _).bind fun _ => .pure _

/-- A version has octets. -/
theorem consuming_version : Consuming version := by
  apply Consuming.bind_next (stable_literal _ _)
  intro _
  exact Consuming.bind_first (consuming_expect _ _) fun _ => .pure _

/-- A request head has octets. -/
theorem consuming_requestHead (limit : Nat) : Consuming (requestHead limit) := by
  apply Consuming.bind_next stable_blankLines
  intro _
  apply Consuming.bind_first consuming_method
  intro _
  exact stable_target.bind fun _ => stable_version.bind fun _ => (stable_lineEnd _).bind fun _ =>
    (stable_fieldLines limit).bind fun _ => .pure _

/-- So has a response head. -/
theorem consuming_responseHead (limit : Nat) : Consuming (responseHead limit) := by
  apply Consuming.bind_next stable_blankLines
  intro _
  apply Consuming.bind_first consuming_version
  intro _
  exact (stable_exactly _ _).bind fun _ => stable_statusCode.bind fun _ =>
    stable_reasonPhrase.bind fun _ => (stable_fieldLines limit).bind fun _ => .pure _

end HeadSyntax

/-! ## Taking heads one after another -/

/-- The heads that were taken, the octets behind them, and the error that put an end to it, if any. -/
structure HeadRun (α : Type) where
  heads : List α
  rest : Bytes
  error : Option MessageError

namespace HeadRun

variable {α : Type}

/-- The same outcome with more heads in front. -/
def after (heads : List α) (run : HeadRun α) : HeadRun α := { run with heads := heads ++ run.heads }

/-- Heads may be put in front in two parts. -/
theorem after_after (first second : List α) (run : HeadRun α) :
    (run.after second).after first = run.after (first ++ second) := by
  simp [after]

/-- Taking heads off pieces agrees with taking them off the whole. Only a head that is too large may
be refused for another reason, or with another size, than in the whole. -/
structure Agrees (cut whole : HeadRun α) : Prop where
  heads : cut.heads = whole.heads
  fails : cut.error = none ↔ whole.error = none
  rest : cut.error = none → cut.rest = whole.rest
  error : cut.error = whole.error ∨ ∃ size, cut.error = some (.headTooLarge size maxHeadSize)

/-- Every run agrees with itself. -/
theorem Agrees.refl (run : HeadRun α) : run.Agrees run := ⟨rfl, Iff.rfl, fun _ => rfl, Or.inl rfl⟩

/-- Two runs that agree do so with the same heads in front. -/
theorem Agrees.after {cut whole : HeadRun α} (h : cut.Agrees whole) (heads : List α) :
    (cut.after heads).Agrees (whole.after heads) :=
  ⟨congrArg (heads ++ ·) h.heads, h.fails, h.rest, h.error⟩

end HeadRun

section Taking

variable {parts α : Type} {scan : HeadScan parts} {build : parts → Except MessageError α}

/-- A head that is taken makes the buffer shorter. -/
theorem length_rest_of_takeHead (hconsuming : Scan.Consuming scan) {buffer : Bytes} {taken : Taken α}
    (h : takeHead scan build buffer = .ok (some taken)) : taken.rest.length < buffer.length := by
  obtain ⟨found, hscan, _, _⟩ := takeHead_eq_some h
  exact hconsuming buffer found taken.rest hscan

/-- Takes heads off a buffer until there is no further one or one is refused. -/
def takeHeads (build : parts → Except MessageError α) (hconsuming : Scan.Consuming scan)
    (buffer : Bytes) : HeadRun α :=
  match _h : takeHead scan build buffer with
  | .ok (some taken) => (takeHeads build hconsuming taken.rest).after [taken.head]
  | .ok none => ⟨[], buffer, none⟩
  | .error error => ⟨[], buffer, some error⟩
  termination_by buffer.length
  decreasing_by exact length_rest_of_takeHead hconsuming _h

/-- Takes heads off octets that arrive in pieces. Each piece goes behind what is left in the buffer. -/
def takePieces (build : parts → Except MessageError α) (hconsuming : Scan.Consuming scan)
    (buffer : Bytes) : List Bytes → HeadRun α
  | [] => ⟨[], buffer, none⟩
  | piece :: pieces =>
      let run := takeHeads build hconsuming (buffer ++ piece)
      match run.error with
      | none => (takePieces build hconsuming run.rest pieces).after run.heads
      | some _ => run

variable {hconsuming : Scan.Consuming scan} {buffer : Bytes}

/-- A head is taken, and then those behind it. -/
theorem takeHeads_of_some {taken : Taken α} (h : takeHead scan build buffer = .ok (some taken)) :
    takeHeads build hconsuming buffer =
      (takeHeads build hconsuming taken.rest).after [taken.head] := by
  rw [takeHeads]
  split <;> simp_all

/-- Where there is no whole head yet, none is taken. -/
theorem takeHeads_of_none (h : takeHead scan build buffer = .ok none) :
    takeHeads build hconsuming buffer = ⟨[], buffer, none⟩ := by
  rw [takeHeads]
  split <;> simp_all

/-- A head that is refused is the end. -/
theorem takeHeads_of_error {error : MessageError} (h : takeHead scan build buffer = .error error) :
    takeHeads build hconsuming buffer = ⟨[], buffer, some error⟩ := by
  rw [takeHeads]
  split <;> simp_all

/-- Where no head is refused, no further head is in what is left. -/
theorem takeHead_rest_takeHeads (h : (takeHeads build hconsuming buffer).error = none) :
    takeHead scan build (takeHeads build hconsuming buffer).rest = .ok none := by
  fun_induction takeHeads build hconsuming buffer with
  | case1 buffer taken htake ih => exact ih h
  | case2 buffer htake => exact htake
  | case3 buffer error htake => cases h

/-- Heads may be taken off a front piece first. -/
theorem takeHeads_append (hstable : Scan.Stable scan) {front : Bytes}
    (h : (takeHeads build hconsuming front).error = none) (behind : Bytes) :
    takeHeads build hconsuming (front ++ behind) =
      (takeHeads build hconsuming ((takeHeads build hconsuming front).rest ++ behind)).after
        (takeHeads build hconsuming front).heads := by
  fun_induction takeHeads build hconsuming front with
  | case1 front taken htake ih =>
    have hwhole := takeHead_append hstable htake behind
    have hrest := ih h
    rw [takeHeads_of_some hwhole, hrest, HeadRun.after_after]
    rfl
  | case2 front htake => rfl
  | case3 front error htake => cases h

/-- Where a head in a front piece is refused, the same heads are taken off the whole, and the next one
is refused. -/
theorem agrees_append_of_error (hstable : Scan.Stable scan) {front : Bytes} {error : MessageError}
    (h : (takeHeads build hconsuming front).error = some error) (behind : Bytes) :
    (takeHeads build hconsuming front).Agrees (takeHeads build hconsuming (front ++ behind)) := by
  fun_induction takeHeads build hconsuming front with
  | case1 front taken htake ih =>
    have hwhole := takeHead_append hstable htake behind
    rw [takeHeads_of_some hwhole]
    exact (ih h).after [taken.head]
  | case2 front htake => cases h
  | case3 front fault htake =>
    -- what is too large so far may show another fault further on
    obtain ⟨later, hwhole, hreason⟩ := takeHead_append_error hstable htake behind
    rw [takeHeads_of_error hwhole]
    refine ⟨rfl, by simp, nofun, ?_⟩
    rcases hreason with rfl | ⟨size, rfl⟩
    · exact Or.inl rfl
    · exact Or.inr ⟨size, rfl⟩

/-- Taking heads off the pieces that follow what has been looked at already. -/
theorem takePieces_agrees (hstable : Scan.Stable scan)
    (hbuffer : takeHead scan build buffer = .ok none) (pieces : List Bytes) :
    (takePieces build hconsuming buffer pieces).Agrees
      (takeHeads build hconsuming (buffer ++ pieces.flatten)) := by
  induction pieces generalizing buffer with
  | nil =>
    rw [List.flatten_nil, List.append_nil, takeHeads_of_none hbuffer]
    exact HeadRun.Agrees.refl _
  | cons piece pieces ih =>
    rw [List.flatten_cons, ← List.append_assoc]
    cases herror : (takeHeads build hconsuming (buffer ++ piece)).error with
    | none =>
      -- nothing in what is left is a head, so the induction goes on from there
      have hrest := takeHead_rest_takeHeads herror
      rw [takeHeads_append hstable herror]
      simp only [takePieces, herror]
      exact (ih hrest).after _
    | some error =>
      simp only [takePieces, herror]
      exact agrees_append_of_error hstable herror pieces.flatten

/-- Heads that arrive in pieces are those that arrive at once. -/
theorem takePieces_agrees_whole (hstable : Scan.Stable scan) (pieces : List Bytes) :
    (takePieces build hconsuming [] pieces).Agrees
      (takePieces build hconsuming [] [pieces.flatten]) := by
  have hempty : takeHead scan build [] = .ok none := rfl
  have hpieces : (takePieces build hconsuming [] pieces).Agrees
      (takeHeads build hconsuming pieces.flatten) := takePieces_agrees hstable hempty pieces
  have hwhole : takePieces build hconsuming [] [pieces.flatten] =
      takeHeads build hconsuming pieces.flatten := by
    rw [takePieces]
    cases herror : (takeHeads build hconsuming ([] ++ pieces.flatten)).error with
    | none => simp [takePieces, HeadRun.after, ← herror]
    | some error => rfl
  rw [hwhole]
  exact hpieces

end Taking

/-- Takes request heads off octets that arrive in pieces. -/
def takeRequests : List Bytes → HeadRun RequestHead :=
  takePieces RequestHead.ofParts (HeadSyntax.consuming_requestHead maxFields) []

/-- Takes response heads off octets that arrive in pieces. -/
def takeResponses : List Bytes → HeadRun ResponseHead :=
  takePieces ResponseHead.ofParts (HeadSyntax.consuming_responseHead maxFields) []

/-- Which heads are read does not depend on how their octets are cut into pieces. For requests and for
responses, the heads taken off the pieces are those taken off the whole at once; a head is refused
exactly if one is refused in the whole, for the same reason unless it is too large; and where none is
refused the same octets are left. -/
theorem takePieces_agrees_uncut (pieces : List Bytes) :
    (takeRequests pieces).Agrees (takeRequests [pieces.flatten]) ∧
      (takeResponses pieces).Agrees (takeResponses [pieces.flatten]) := by
  constructor
  · exact takePieces_agrees_whole (HeadSyntax.stable_requestHead maxFields) pieces
  · exact takePieces_agrees_whole (HeadSyntax.stable_responseHead maxFields) pieces

end RelayTunnel.Http
