import RelayTunnel.Rehearsal.Basic

/-!
# Scenes

Parts of a tunnel's life that can be rehearsed on their own: the opening of a session, and forwarding
between two connections. A scene ends with a result, unless it crashes.
-/

set_option autoImplicit false

namespace RelayTunnel

/-- Nobody owns the crew; its reports stay where they are. -/
structure Unowned where

instance {M : Type} : Owner Unowned M where
  act owner crew _ := (owner, crew)

/-- How far a scene is. -/
inductive ScenePhase (σ : Type) where
  | unstarted
  /-- Waiting for the connection on a side. -/
  | dialing (side : Side)
  | playing (state : σ)
  | over

/-- The opening of a session. -/
structure OpeningScene where
  relay : Endpoint
  headers : List (String × String)
  phase : ScenePhase Opening
  wires : Wires
  result : Option (Except TunnelError Opened)

namespace OpeningScene

def start (relay : Endpoint) (headers : List (String × String)) : OpeningScene :=
  ⟨relay, headers, .unstarted, .idle, none⟩

def finish (s : OpeningScene) (result : Except TunnelError Opened) : OpeningScene :=
  { s with phase := .over, wires := s.wires.close, result := some result }

/-- Opens the session as far as the connection allows. -/
def play (s : OpeningScene) (opening : Opening) : OpeningScene :=
  match opening.poll s.wires.relay with
  | (.waiting opening, link) =>
      { s with phase := .playing opening, wires := { s.wires with relay := link } }
  | (.done result, link) => finish { s with wires := { s.wires with relay := link } } result

instance : Member OpeningScene where
  wires := OpeningScene.wires
  setWires s w := { s with wires := w }
  dial? s := match s.phase with
    | .dialing side => some (side, s.relay)
    | _ => none
  alarm? _ := none
  poll s _ := match s.phase with
    | .unstarted => { s with phase := .dialing .relay }
    | .playing opening => s.play opening
    | _ => s
  connected s _ handshake :=
    let s := { s with wires := { s.wires with relay := .fresh } }
    match Tunnel.transportFault? s.relay handshake with
    | some error => s.finish (.error error)
    | none => s.play (.start s.relay s.headers)
  refused s reason := s.finish (.error (.io reason))

end OpeningScene

/-- Forwarding between two connections, of which the first payload is known. Destroying the tunnel
that it is done for is reported but does not end it. -/
structure ForwardingScene where
  first : Bytes
  idle : Duration
  phase : ScenePhase Course
  wires : Wires
  isDestroyed : Bool
  result : Option (Except TunnelError Closing)

namespace ForwardingScene

def start (first : Bytes) (idle : Duration) : ForwardingScene :=
  ⟨first, idle, .unstarted, .idle, false, none⟩

/-- The two ends, as far as names matter. -/
def endpoint : Side → Endpoint
  | .relay => ⟨"relay", 1, true, false, "/"⟩
  | .destination => ⟨"destination", 2, true, false, "/"⟩

def finish (s : ForwardingScene) (result : Except TunnelError Closing) : ForwardingScene :=
  { s with phase := .over, wires := s.wires.close, result := some result }

/-- Forwards as far as the connections allow. -/
def play (s : ForwardingScene) (f : Forwarding) (now : Instant) : ForwardingScene :=
  match f.poll now with
  | (f, .goesOn) => { s with phase := .playing f.toCourse, wires := f.toWires }
  | (f, .ended result) => finish { s with wires := f.toWires } result
  | (f, .crashed) => { s with phase := .over, wires := f.toWires.close }

/-- Destroys the tunnel; only the first time counts. -/
def destroy (s : ForwardingScene) (error : Option TunnelError) : ForwardingScene :=
  if s.isDestroyed then s
  else { s with isDestroyed := true, wires := s.wires.report (.destroyed error) }

instance : Member ForwardingScene where
  wires := ForwardingScene.wires
  setWires s w := { s with wires := w }
  dial? s := match s.phase with
    | .dialing side => some (side, endpoint side)
    | _ => none
  alarm? s := match s.phase with
    | .playing course => course.watch.alarm
    | _ => none
  poll s now := match s.phase with
    | .unstarted => { s with phase := .dialing .relay }
    | .playing course => s.play { toWires := s.wires, toCourse := course } now
    | _ => s
  connected s now _ := match s.phase with
    | .dialing .relay =>
        { s with phase := .dialing .destination, wires := { s.wires with relay := .fresh } }
    | .dialing .destination =>
        let wires := { s.wires with destination := .fresh }
        { s with wires := wires }.play (.start wires s.first s.idle now) now
    | _ => s
  refused s reason := s.finish (.error (.io reason))

end ForwardingScene

end RelayTunnel
