import RelayTunnel.Proofs.Tunnel.Running

/-!
# The tail of a response

What goes to the relay passes through the transcoder, which may hold something back, and then through
a write, which may take its time. `Accounted` keeps the books: what was written and what is still being
written are together what the transcoder has given. So the relay has everything that is due to it
exactly if the destination has closed, or if nothing is held back and nothing is being written
(`ended_complete_iff`). Any other end loses what is held.
-/

set_option autoImplicit false

namespace RelayTunnel.Forwarding

open Compression (BodyCompressor Compressor)
open Transcode (Duplex DuplexCall)

/-! ## What is due to the relay -/

/-- What the transcoder has given and has not been written yet. -/
def unwritten {C : Type} (f : Forwarding C) : Bytes :=
  match f.outbound with
  | .reading => []
  | .writing left _ => left

variable (C : Type) [BodyCompressor C]

/-- What calls give to the relay from the start. -/
def given (calls : List DuplexCall) : Bytes := ((Duplex.start C).run calls).1

/-- All that is due to the relay for some calls: what the transcoder gives for them, and then what it
still holds. -/
def due (calls : List DuplexCall) : Bytes := given C (calls.filter (· ≠ .finish) ++ [.finish])

section Due

variable {C}
variable {calls : List DuplexCall}

/-- One more call is made after the others. -/
theorem run_concat (d : Duplex C) (calls : List DuplexCall) (call : DuplexCall) :
    d.run (calls ++ [call]) =
      ((d.run calls).1 ++ ((d.run calls).2.call call).1, ((d.run calls).2.call call).2) := by
  rw [Duplex.run_append, Duplex.run_singleton]

/-- Calls without an end are all counted. -/
theorem filter_of_not_mem (h : .finish ∉ calls) : calls.filter (· ≠ .finish) = calls := by
  refine List.filter_eq_self.mpr fun call hcall => ?_
  exact decide_eq_true fun hfinish => h (hfinish ▸ hcall)

/-- Before the end, what is due includes what the transcoder would still give. -/
theorem due_of_not_mem (h : .finish ∉ calls) : due C calls = given C (calls ++ [.finish]) := by
  rw [due, filter_of_not_mem h]

/-- At the end, nothing more becomes due. -/
theorem due_finish (h : .finish ∉ calls) :
    due C (calls ++ [.finish]) = given C (calls ++ [.finish]) := by
  have hfilter : (calls ++ [DuplexCall.finish]).filter (· ≠ .finish) = calls := by
    rw [List.filter_append, filter_of_not_mem h]
    exact List.append_nil calls
  rw [due, hfilter]

/-- What the relay sends does not change what is due to it any more. -/
theorem due_inspect (calls : List DuplexCall) (chunk : Bytes) :
    due C (calls ++ [.inspect chunk]) = due C calls := by
  have hfilter : (calls ++ [DuplexCall.inspect chunk]).filter (· ≠ .finish) =
      calls.filter (· ≠ .finish) ++ [.inspect chunk] := by
    rw [List.filter_append]
    rfl
  rw [due, hfilter, due, given, given, run_concat, run_concat, run_concat]
  exact congrArg (· ++ _) (List.append_nil _)

/-- A transcoder that has finished holds nothing any more. -/
theorem finish_finish (d : Duplex C) : d.finish.2.finish.1 = [] := by
  have hresponses : d.finish.2.responses = .passthrough := d.responses.finish_snd
  show d.finish.2.responses.finish.1 = []
  rw [hresponses]
  rfl

end Due

/-! ## The books -/

variable {C}

/-- The transcoder is where the calls have brought it, and what it has given has been written or is
being written. It finishes once, and what it gives then is written or flushed as long as forwarding goes
on. -/
structure Accounted (wires : Wires) (calls : List DuplexCall) (carried : Bytes) (f : Forwarding C) :
    Prop where
  duplex : f.duplex = ((Duplex.start C).run calls).2
  balanced : wires.relay.outgoing ++ given C calls = carried ++ f.relay.outgoing ++ f.unwritten
  unfinished : f.lastWrite = false → .finish ∉ calls
  finished : f.lastWrite = true →
    f.outbound ≠ .reading ∧ due C calls = given C calls ∧ f.duplex.finish.1 = []

/-- The books after a step. If the step ends forwarding because the destination has closed, the relay
has all that is due to it. -/
def AccountedHop (wires : Wires) (calls : List DuplexCall) (carried : Bytes) : Hop C → Prop
  | .on f | .waiting f => Accounted wires calls carried f
  | .done f result =>
      (result = .ok .destination ∧
        carried ++ f.relay.outgoing = wires.relay.outgoing ++ due C calls) ∨
      (result ≠ .ok .destination ∧ Accounted wires calls carried f)

namespace Accounted

variable {wires : Wires} {calls : List DuplexCall} {carried : Bytes} {f g : Forwarding C}

/-- What does not concern the way to the relay. -/
theorem of_same (h : Accounted wires calls carried f) (hduplex : g.duplex = f.duplex)
    (hrelay : g.relay.outgoing = f.relay.outgoing) (hout : g.outbound = f.outbound)
    (hlast : g.lastWrite = f.lastWrite) : Accounted wires (calls ++ []) carried g := by
  have hunwritten : g.unwritten = f.unwritten := by rw [unwritten, hout, unwritten]
  rw [List.append_nil]
  constructor
  · rw [hduplex, h.duplex]
  · rw [h.balanced, hrelay, hunwritten]
  · rw [hlast]
    exact h.unfinished
  · rw [hlast, hout, hduplex]
    exact h.finished

/-- One more call to the duplex, and what it gives. -/
theorem called (h : Accounted wires calls carried f) (call : DuplexCall) :
    given C (calls ++ [call]) = given C calls ++ (f.duplex.call call).1 ∧
      (f.duplex.call call).2 = ((Duplex.start C).run (calls ++ [call])).2 := by
  rw [given, run_concat, ← h.duplex]
  exact ⟨rfl, rfl⟩

/-- What the relay sends leaves the books as they are. -/
theorem inspected (h : Accounted wires calls carried f) (chunk : Bytes)
    (hduplex : g.duplex = f.duplex.inspect chunk) (hrelay : g.relay.outgoing = f.relay.outgoing)
    (hout : g.outbound = f.outbound) (hlast : g.lastWrite = f.lastWrite) :
    Accounted wires (calls ++ [.inspect chunk]) carried g := by
  have hunwritten : g.unwritten = f.unwritten := by rw [unwritten, hout, unwritten]
  obtain ⟨hmore, hcalled⟩ := h.called (.inspect chunk)
  have hgiven : given C (calls ++ [.inspect chunk]) = given C calls :=
    hmore.trans (List.append_nil _)
  constructor
  · exact hduplex.trans hcalled
  · rw [hgiven, h.balanced, hrelay, hunwritten]
  · intro hopen
    simpa using h.unfinished (hlast ▸ hopen)
  · intro hfinal
    rw [due_inspect, hgiven, hout, hduplex]
    exact h.finished (hlast ▸ hfinal)

/-- An inbound step keeps the books. -/
theorem inboundStep (h : Accounted wires calls carried f) (now : Instant) :
    AccountedHop wires (calls ++ f.inboundCalls) carried (f.inboundStep now) := by
  refine inboundStep_cases
    (P := fun more hop => AccountedHop wires (calls ++ more) carried hop) now f
    ?_ ?_ ?_ ?_ ?_ ?_ ?_ ?_
  · intro left size link _ _
    exact h.of_same rfl rfl rfl rfl
  · intro left size rest link _ _ _
    exact h.of_same rfl rfl rfl rfl
  · intro left size reason link _ _
    exact Or.inr ⟨nofun, h.of_same rfl rfl rfl rfl⟩
  · intro _ _
    exact h.inspected f.first rfl rfl rfl rfl
  · intro octets link _ _ hread
    exact h.inspected octets rfl (Link.outgoing_of_read hread) rfl rfl
  · intro link _ _ _
    exact h.of_same rfl rfl rfl rfl
  · intro _ _
    exact Or.inr ⟨nofun, h.of_same rfl rfl rfl rfl⟩
  · intro reason _ _
    exact Or.inr ⟨nofun, h.of_same rfl rfl rfl rfl⟩

/-- A direction that reads has written all that the transcoder gave, which has not finished then. -/
theorem of_reading (h : Accounted wires calls carried f) (hreading : f.outbound = .reading) :
    wires.relay.outgoing ++ given C calls = carried ++ f.relay.outgoing ∧
      f.lastWrite = false ∧ .finish ∉ calls := by
  have hnone : f.unwritten = [] := by rw [unwritten, hreading]
  have hopen : f.lastWrite = false := by
    cases hlast : f.lastWrite with
    | false => rfl
    | true => exact absurd hreading (h.finished hlast).1
  refine ⟨?_, hopen, h.unfinished hopen⟩
  rw [h.balanced, hnone, List.append_nil]

/-- A write moves octets from what is being written to what is written. -/
theorem balanced_of_write (h : Accounted wires calls carried f) {left rest : Bytes} {size : Nat}
    {link : Link} (hflow : f.outbound = .writing left size)
    (hwrite : f.relay.write left = (.left rest, link)) :
    wires.relay.outgoing ++ given C calls = carried ++ link.outgoing ++ rest := by
  have hunwritten : f.unwritten = left := by rw [unwritten, hflow]
  rw [h.balanced, hunwritten, List.append_assoc, List.append_assoc, Link.outgoing_of_write hwrite]

/-- Once everything has been written, what remains to be done is to flush it. -/
theorem written (h : Accounted wires calls carried f) {left : Bytes} {size : Nat} {link : Link}
    (hflow : f.outbound = .writing left size) (hwrite : f.relay.write left = (.left [], link)) :
    Accounted wires (calls ++ []) carried { f with relay := link, outbound := .writing [] size } := by
  rw [List.append_nil]
  exact ⟨h.duplex, h.balanced_of_write hflow hwrite, h.unfinished, fun hfinal =>
    ⟨Flow.noConfusion, (h.finished hfinal).2⟩⟩

/-- What the destination sends is put into them. -/
theorem answered (h : Accounted wires calls carried f) (hreading : f.outbound = .reading)
    (octets : Bytes) (hrelay : g.relay.outgoing = f.relay.outgoing) (hout : g.outbound = .reading)
    (hlast : g.lastWrite = f.lastWrite) :
    AccountedHop wires (calls ++ [.transform octets]) carried
      (g.emit (f.duplex.transform octets).1 (f.duplex.transform octets).2 false) := by
  obtain ⟨hwritten, hopen, hunfinished⟩ := h.of_reading hreading
  obtain ⟨hgiven, hduplex⟩ : given C (calls ++ [.transform octets]) =
      given C calls ++ (f.duplex.transform octets).1 ∧ (f.duplex.transform octets).2 = _ :=
    h.called (.transform octets)
  have hnone : .finish ∉ calls ++ [.transform octets] := by simpa using hunfinished
  rw [emit]
  split
  · refine ⟨hduplex, ?_, fun _ => hnone, nofun⟩
    show _ = carried ++ g.relay.outgoing ++ (f.duplex.transform octets).1
    rw [hgiven, ← List.append_assoc, hwritten, hrelay]
  · next hempty =>
    have hsilent : (f.duplex.transform octets).1 = [] := by simpa using hempty
    have hunwritten : unwritten { g with duplex := (f.duplex.transform octets).2 } = [] := by
      rw [unwritten, hout]
    refine ⟨hduplex, ?_, fun _ => hnone, fun hfinal => ?_⟩
    · rw [hgiven, hsilent, List.append_nil, hwritten, hunwritten, List.append_nil, ← hrelay]
    · exact absurd (hlast.symm.trans hfinal) (by simp [hopen])

/-- The transcoder finishes when the destination has closed. If it gives nothing for that, forwarding
has ended. -/
theorem finish (h : Accounted wires calls carried f) (hreading : f.outbound = .reading) :
    AccountedHop wires (calls ++ [.finish]) carried
      (f.emit f.duplex.finish.1 f.duplex.finish.2 true) := by
  obtain ⟨hwritten, -, hunfinished⟩ := h.of_reading hreading
  obtain ⟨hgiven, hduplex⟩ : given C (calls ++ [.finish]) = given C calls ++ f.duplex.finish.1 ∧
      f.duplex.finish.2 = _ := h.called .finish
  rw [emit]
  split
  · next hsome =>
    refine ⟨hduplex, ?_, nofun, fun _ =>
      ⟨Flow.noConfusion, due_finish hunfinished, finish_finish f.duplex⟩⟩
    show _ = carried ++ f.relay.outgoing ++ f.duplex.finish.1
    rw [hgiven, ← List.append_assoc, hwritten]
  · next hempty =>
    have hsilent : f.duplex.finish.1 = [] := by simpa using hempty
    refine Or.inl ⟨rfl, ?_⟩
    rw [due_finish hunfinished, hgiven, hsilent, List.append_nil]
    exact hwritten.symm

/-- An outbound step keeps the books. -/
theorem outboundStep (h : Accounted wires calls carried f) (now : Instant) :
    AccountedHop wires (calls ++ f.outboundCalls) carried (f.outboundStep now) := by
  refine outboundStep_cases
    (P := fun more hop => AccountedHop wires (calls ++ more) carried hop) now f
    ?_ ?_ ?_ ?_ ?_ ?_ ?_ ?_ ?_ ?_
  · intro left size link flushed hflow hwrite hflush hopen
    have hwritten := h.written hflow hwrite
    refine ⟨hwritten.duplex, ?_, hwritten.unfinished, fun hfinal => ?_⟩
    · show _ = carried ++ flushed.outgoing ++ []
      rw [Link.outgoing_of_flush hflush]
      exact hwritten.balanced
    · exact absurd (hopen.symm.trans hfinal) Bool.false_ne_true
  · intro left size link flushed hflow hwrite hflush hfinal
    have hbalanced := h.balanced_of_write hflow hwrite
    rw [List.append_nil] at hbalanced ⊢
    refine Or.inl ⟨rfl, ?_⟩
    show carried ++ flushed.outgoing = _
    rw [(h.finished hfinal).2.1, Link.outgoing_of_flush hflush]
    exact hbalanced.symm
  · intro left size link hflow hwrite _
    exact h.written hflow hwrite
  · intro left size reason link hflow hwrite _
    exact Or.inr ⟨nofun, h.written hflow hwrite⟩
  · intro left size rest link hflow hrest hwrite
    have hbalanced := h.balanced_of_write hflow hwrite
    rw [List.append_nil]
    exact ⟨h.duplex, hbalanced, h.unfinished, fun hfinal =>
      ⟨Flow.noConfusion, (h.finished hfinal).2⟩⟩
  · intro left size reason link _ hwrite
    rw [Link.eq_of_write_failed hwrite]
    exact Or.inr ⟨nofun, h.of_same rfl rfl rfl rfl⟩
  · intro octets link hreading _
    exact h.answered hreading octets rfl hreading rfl
  · intro link hreading _
    exact h.finish hreading
  · intro link _ _
    exact h.of_same rfl rfl rfl rfl
  · intro reason _
    exact Or.inr ⟨nofun, h.of_same rfl rfl rfl rfl⟩

end Accounted

namespace AccountedHop

variable {wires : Wires} {calls : List DuplexCall} {carried : Bytes} {hop : Hop C}

/-- A step that goes on keeps the books. -/
theorem of_result_none (h : AccountedHop wires calls carried hop) (hnone : hop.result? = none) :
    Accounted wires calls carried hop.state := by
  cases hop with
  | on f | waiting f => exact h
  | done f result => cases hnone

/-- A step that ends keeps them or closes them. -/
theorem of_result_some {result : Except TunnelError Closing}
    (h : AccountedHop wires calls carried hop) (hsome : hop.result? = some result) :
    AccountedHop wires calls carried (.done hop.state result) := by
  cases hop with
  | on f | waiting f => cases hsome
  | done f result' =>
    obtain rfl := Option.some.inj hsome
    exact h

end AccountedHop

section Ends

variable {wires : Wires} {first : Bytes} {idle : Duration} {begin_ : Instant}
variable {calls : List DuplexCall} {carried : Bytes} {f : Forwarding C}

/-- The books are empty at the start. -/
theorem accounted_start (wires : Wires) (first : Bytes) (idle : Duration) (begin_ : Instant) :
    Accounted wires [] [] (start wires first idle begin_ : Forwarding C) :=
  ⟨rfl, rfl, fun _ => List.not_mem_nil, nofun⟩

/-- The books are kept throughout a run. -/
theorem Running.accounted (h : Running wires first idle begin_ calls carried f) :
    Accounted wires calls carried f := by
  induction h with
  | start => exact accounted_start wires first idle begin_
  | farEnds taken w _ hcarried ih =>
    refine ⟨ih.duplex, ?_, ih.unfinished, ih.finished⟩
    rw [ih.balanced, hcarried, List.append_assoc _ taken]
    rfl
  | inbound now _ hgoes ih => exact (ih.inboundStep now).of_result_none hgoes
  | outbound now _ hgoes ih => exact (ih.outboundStep now).of_result_none hgoes
  | watched now _ _ ih => exact ⟨ih.duplex, ih.balanced, ih.unfinished, ih.finished⟩

/-- Forwarding that has ended has kept its books or closed them. -/
theorem Ended.accounted {result : Except TunnelError Closing}
    (h : Ended wires first idle begin_ calls carried f result) :
    AccountedHop wires calls carried (.done f result) := by
  cases h with
  | inbound now hrun hends => exact (hrun.accounted.inboundStep now).of_result_some hends
  | outbound now hrun hends => exact (hrun.accounted.outboundStep now).of_result_some hends
  | silent now hrun hexpired => exact Or.inr ⟨nofun, hrun.accounted⟩

/-- When forwarding has ended, the relay has all that is due to it, the tail of the transcoder
included, exactly if forwarding ended because the destination has closed, or if the transcoder holds
nothing and nothing is left to be written. A failure of either connection and a silent destination
leave what the transcoder holds where it is. -/
theorem ended_complete_iff {result : Except TunnelError Closing}
    (hend : Ended wires first idle begin_ calls carried f result) :
    carried ++ f.relay.outgoing = wires.relay.outgoing ++ due C calls ↔
      result = .ok .destination ∨ (f.unwritten = [] ∧ f.duplex.finish.1 = []) := by
  rcases hend.accounted with ⟨hclosed, hcomplete⟩ | ⟨hother, haccounted⟩
  · exact iff_of_true hcomplete (Or.inl hclosed)
  · rw [or_iff_right hother]
    cases hlast : f.lastWrite with
    | true =>
      -- the transcoder has finished, so what is missing is what is left to be written
      obtain ⟨-, hdue, hnone⟩ := haccounted.finished hlast
      rw [hdue, haccounted.balanced, List.self_eq_append_right]
      exact (and_iff_left hnone).symm
    | false =>
      have hdue : due C calls = given C calls ++ f.duplex.finish.1 :=
        (due_of_not_mem (haccounted.unfinished hlast)).trans (haccounted.called .finish).1
      rw [hdue, ← List.append_assoc, haccounted.balanced, List.append_assoc,
        List.self_eq_append_right, List.append_eq_nil_iff]

end Ends

/-- Something happens to the connection to the destination. -/
def atDestination (f : Forwarding C) (change : Link → Link) : Forwarding C :=
  { f with toWires := { f.toWires with destination := change f.destination } }

/-- The destination may do anything at any time. -/
theorem Running.atDestination {wires : Wires} {first : Bytes} {idle : Duration} {begin_ : Instant}
    {calls : List DuplexCall} {f : Forwarding C} (h : Running wires first idle begin_ calls [] f)
    (change : Link → Link) : Running wires first idle begin_ calls [] (f.atDestination change) :=
  h.farEnds [] { f.toWires with destination := change f.destination } rfl

/-- A request that allows for a compressed answer. -/
def probe : Bytes := Ascii.bytes "GET / HTTP/1.1\r\nAccept-Encoding: gzip\r\n\r\n"

/-- The first line of an answer, which the transcoder holds back until the head is complete. -/
def headLine : Bytes := Ascii.bytes "HTTP/1.1 200 OK\r\n"

def freshWires : Wires := { Wires.idle with relay := .fresh, destination := .fresh }

/-- Forwarding with a second of patience, once the probe has been inspected. -/
def probing : Forwarding := (inboundStep .zero (.start freshWires probe (.ofSeconds 1) .zero)).state

/-- The destination has sent its first line, and that has been read. -/
def heldBack : Forwarding := (outboundStep .zero (probing.atDestination (·.deliver headLine))).state

/-- The destination has closed behind its first line, and that is being written. -/
def cutShort : Forwarding := (outboundStep .zero (heldBack.atDestination Link.finish)).state

/-- That forwarding can be reached. -/
theorem running_heldBack :
    ∃ calls, Running freshWires probe (.ofSeconds 1) .zero calls [] heldBack := by
  have hstart : Running freshWires probe (.ofSeconds 1) .zero [] []
      (start freshWires probe (.ofSeconds 1) .zero : Forwarding) := .start
  have hprobing := hstart.inbound .zero (by decide +kernel)
  have hsent := hprobing.atDestination (·.deliver headLine)
  exact ⟨_, hsent.outbound .zero (by decide +kernel)⟩

/-- So can the one whose destination has closed. -/
theorem running_cutShort :
    ∃ calls, Running freshWires probe (.ofSeconds 1) .zero calls [] cutShort := by
  obtain ⟨calls, hheld⟩ := running_heldBack
  have hclosed := hheld.atDestination Link.finish
  exact ⟨_, hclosed.outbound .zero (by decide +kernel)⟩

/-- A head that is held back goes to the relay when the destination closes. -/
theorem held_head_flushed :
    ∃ calls, ∃ f : Forwarding,
      Ended freshWires probe (.ofSeconds 1) .zero calls [] f (.ok .destination) ∧
      f.relay.outgoing = headLine ∧ due Compressor calls = headLine := by
  obtain ⟨calls, hcut⟩ := running_cutShort
  have hflow : cutShort.outbound = .writing headLine 17 := by decide +kernel
  have hrelay : cutShort.relay = .fresh := by decide +kernel
  have hfinal : cutShort.lastWrite = true := by decide +kernel
  have hwrite : cutShort.relay.write headLine = (.left [], Link.fresh.append headLine) := by
    rw [hrelay]
    rfl
  have hflush : (Link.fresh.append headLine).flush =
      (.done, { Link.fresh.append headLine with isFlushed := true }) := rfl
  have hlast : (outboundStep .zero cutShort).result? = some (.ok .destination) := by
    simp only [outboundStep, flush, hflow, hwrite, hflush, hfinal, if_true, Hop.result?]
  have hend := Ended.outbound .zero hcut hlast
  have hwritten : (outboundStep .zero cutShort).state.relay.outgoing = headLine := by decide +kernel
  have hfresh : freshWires.relay.outgoing = [] := rfl
  have hcomplete := (ended_complete_iff hend).mpr (Or.inl rfl)
  rw [hfresh, List.nil_append, List.nil_append, hwritten] at hcomplete
  exact ⟨_, _, hend, hwritten, hcomplete.symm⟩

/-- A head that is held back is lost when the destination falls silent, although there is nothing in
the way of writing it. -/
theorem held_head_lost :
    ∃ calls, ∃ f : Forwarding, Ended freshWires probe (.ofSeconds 1) .zero calls [] f
        (.error (.destinationTimeout (.ofSeconds 1))) ∧
      f.relay.writeFault = none ∧ f.relay.room = none ∧ f.relay.outgoing = [] ∧
      ([] ++ f.relay.outgoing ≠ freshWires.relay.outgoing ++ due Compressor calls) := by
  obtain ⟨calls, hheld⟩ := running_heldBack
  have hend := Ended.silent ⟨1000000000⟩ hheld (by decide +kernel)
  have hidle : heldBack.watch.idle = .ofSeconds 1 := by decide +kernel
  rw [hidle] at hend
  refine ⟨calls, heldBack, hend, by decide +kernel, by decide +kernel, by decide +kernel, ?_⟩
  have htail : heldBack.duplex.finish.1 = headLine := by decide +kernel
  intro hcomplete
  rcases (ended_complete_iff hend).mp hcomplete with hclosed | ⟨_, hnone⟩
  · cases hclosed
  · rw [htail] at hnone
    exact absurd hnone (by decide +kernel)

end RelayTunnel.Forwarding
