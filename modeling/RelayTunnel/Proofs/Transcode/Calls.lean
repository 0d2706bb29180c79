import RelayTunnel.Proofs.Transcode.Pumping

/-!
# Runs of a duplex

The two sides of a duplex may be driven in any order. A run is any list of calls, and it gives back
everything that goes to the relay for them.
-/

set_option autoImplicit false

namespace RelayTunnel.Transcode

open Compression (BodyCompressor)

/-- One call to a duplex. -/
inductive DuplexCall where
  /-- Octets on their way to the destination. -/
  | inspect (chunk : Bytes)
  /-- Octets from the destination. -/
  | transform (chunk : Bytes)
  /-- The destination has closed. -/
  | finish
  deriving DecidableEq

/-- The octets from the destination in one call. -/
def DuplexCall.received : DuplexCall → Bytes
  | .transform chunk => chunk
  | _ => []

/-- All octets from the destination. -/
def received (calls : List DuplexCall) : Bytes := calls.flatMap DuplexCall.received

/-- No calls receive nothing. -/
@[simp] theorem received_nil : received [] = [] := rfl

/-- What the first call receives stands in front. -/
@[simp] theorem received_cons (call : DuplexCall) (calls : List DuplexCall) :
    received (call :: calls) = call.received ++ received calls := List.flatMap_cons

namespace Duplex

variable {C : Type} [BodyCompressor C]

/-- What one call gives to the relay, and the duplex after it. -/
def call (d : Duplex C) : DuplexCall → Bytes × Duplex C
  | .inspect chunk => ([], d.inspect chunk)
  | .transform chunk => d.transform chunk
  | .finish => d.finish

/-- What calls give to the relay, and the duplex after them. -/
def run (d : Duplex C) : List DuplexCall → Bytes × Duplex C
  | [] => ([], d)
  | first :: calls =>
      let (out, d) := d.call first
      let (more, d) := d.run calls
      (out ++ more, d)

/-- No calls give nothing and change nothing. -/
@[simp] theorem run_nil (d : Duplex C) : d.run [] = ([], d) := rfl

/-- The first call is made, and then the others. -/
theorem run_cons (d : Duplex C) (first : DuplexCall) (calls : List DuplexCall) :
    d.run (first :: calls) =
      ((d.call first).1 ++ ((d.call first).2.run calls).1, ((d.call first).2.run calls).2) := rfl

/-- One call may be made by itself. -/
@[simp] theorem run_singleton (d : Duplex C) (only : DuplexCall) : d.run [only] = d.call only := by
  rw [run_cons, run_nil, List.append_nil]

/-- Calls may be made in two parts. -/
theorem run_append (d : Duplex C) (front behind : List DuplexCall) :
    d.run (front ++ behind) =
      ((d.run front).1 ++ ((d.run front).2.run behind).1, ((d.run front).2.run behind).2) := by
  induction front generalizing d with
  | nil => rfl
  | cons first front ih =>
    rw [List.cons_append, run_cons, ih, run_cons]
    simp only [List.append_assoc]

/-- A call leaves the transcoder settled. -/
theorem settled_call {d : Duplex C} (h : d.responses.Settled) (only : DuplexCall) :
    (d.call only).2.responses.Settled := by
  cases only with
  | inspect chunk => exact h
  | transform chunk => exact ResponseTranscoder.settled_transform h d.requests.coding? chunk
  | finish =>
    show d.responses.finish.2.Settled
    rw [ResponseTranscoder.finish_snd]
    trivial

/-- So do all calls. -/
theorem settled_run {d : Duplex C} (h : d.responses.Settled) (calls : List DuplexCall) :
    (d.run calls).2.responses.Settled := by
  induction calls generalizing d with
  | nil => exact h
  | cons first calls ih => exact ih (settled_call h first)

end Duplex

end RelayTunnel.Transcode
