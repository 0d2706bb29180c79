import RelayTunnel.Config.Basic
import RelayTunnel.Tunnel.Dismissal
import RelayTunnel.Tunnel.Forwarding
import RelayTunnel.Tunnel.Opening
import RelayTunnel.Tunnel.ServerName

/-!
# Tunnels

A tunnel serves one stream of a session:

1. it connects to the relay and opens the session;
2. the relay's answer must have status 200 and name the destination in `X-RV-Host`;
3. it waits for the first payload; a dismissal in its place ends the tunnel;
4. it connects to the destination and forwards until one side closes.

A tunnel asks for connections (`dial?`) and is told what has come of them (`connected`, `refused`);
`poll` does everything that can be done at an instant. It reports to its owner when the session is
open, whenever data is read, and once when it is gone. Whatever ends it first is what it reports. A
tunnel whose forwarding crashes lets go of its connections without a report, and can still be told to
end.
-/

set_option autoImplicit false

namespace RelayTunnel

open Compression (BodyCompressor Compressor)

/-- What the tunnels of a cluster have in common. -/
structure TunnelOptions where
  /-- How long the destination may be silent. -/
  destinationTimeout : Duration
  /-- Fields added to the opening request. -/
  headers : List (String × String)
  deriving DecidableEq

def TunnelOptions.ofConfig (config : Config) : TunnelOptions :=
  ⟨config.destinationTimeout, config.headers.toList⟩

/-- How far a tunnel is, as far as its owner can see. -/
inductive TunnelState where
  | connecting
  | connected
  | destroyed
  deriving DecidableEq

/-- What has come of the handshake that encrypts a connection. -/
inductive Handshake where
  | completed
  | failed (reason : String)
  deriving DecidableEq

/-- What a tunnel is doing. -/
inductive Stage (C : Type := Compressor) where
  | unstarted
  | dialingRelay
  | opening (state : Opening)
  /-- Waiting for the first payload. -/
  | awaitingPayload (destination : Endpoint)
  | dialingDestination (destination : Endpoint) (payload : Bytes)
  | forwarding (course : Course C)
  /-- Gone without a report. -/
  | crashed
  | over

/-- A tunnel. -/
structure Tunnel (C : Type := Compressor) where
  relay : Endpoint
  options : TunnelOptions
  state : TunnelState
  stage : Stage C
  wires : Wires

namespace Tunnel

variable {C : Type}

/-- The field in the relay's answer that names the destination. -/
def destinationField : Bytes := Ascii.bytes "X-RV-Host"

/-- The status of an answer that accepts the session. -/
def acceptedStatus : Nat := 200

/-- The most octets read as the first payload. -/
def payloadLimit : Nat := 8192

/-- A tunnel that has not done anything. -/
def spawn (relay : Endpoint) (options : TunnelOptions) : Tunnel C :=
  ⟨relay, options, .connecting, .unstarted, .idle⟩

/-- The endpoint that the tunnel asks to be connected to. -/
def dial? (t : Tunnel C) : Option Endpoint :=
  match t.stage with
  | .dialingRelay => some t.relay
  | .dialingDestination destination _ => some destination
  | _ => none

/-- When the tunnel has something to do even if nothing arrives. -/
def alarm? (t : Tunnel C) : Option Instant :=
  match t.stage with
  | .forwarding course => course.watch.alarm
  | _ => none

/-- Ends the tunnel, closes its connections and reports why; only the first call does anything. -/
def destroy (t : Tunnel C) (error : Option TunnelError) : Tunnel C :=
  match t.state with
  | .destroyed => t
  | _ =>
      { t with
        state := .destroyed
        stage := .over
        wires := t.wires.close.report (.destroyed error) }

/-- Ends the tunnel because of an error. -/
def fail (t : Tunnel C) (error : TunnelError) : Tunnel C := t.destroy (some error)

/-- Gives up in the middle of its work: the connections are let go of, and nobody is told. -/
def crash (t : Tunnel C) : Tunnel C := { t with stage := .crashed, wires := t.wires.close }

/-- The destination that an accepting answer names. -/
def destinationOf (head : Http.ResponseHead) : Except TunnelError Endpoint :=
  if head.status.code ≠ acceptedStatus then .error (.forbidden head.status.code)
  else
    match head.fields.text? destinationField with
    | none => .error (.invalidDestination "missing X-RV-Host")
    | some url =>
        match Endpoint.parse url with
        | .error error => .error (.invalidDestination error.message)
        | .ok destination => .ok destination

/-- Takes the first payload, which is not empty. -/
def takePayload (t : Tunnel C) (destination : Endpoint) (payload : Bytes) : Tunnel C :=
  let t := { t with wires := t.wires.count payload.length }
  match Dismissal.ofPayload? payload with
  | some dismissal => t.fail (.serverDisconnect dismissal.status)
  | none =>
      { t with
        stage := .dialingDestination destination payload
        wires := t.wires.report .activity }

def pollPayload (t : Tunnel C) (destination : Endpoint) : Tunnel C :=
  match t.wires.relay.read payloadLimit with
  | (.waiting, _) => t
  | (.ended, _) => t.destroy none
  | (.failed reason, _) => t.fail (.io reason)
  | (.data payload, link) =>
      takePayload { t with wires := { t.wires with relay := link } } destination payload

/-- Takes the relay's answer. What came behind it is the first payload. -/
def takeAnswer (t : Tunnel C) (opened : Opened) : Tunnel C :=
  match destinationOf opened.head with
  | .error error => t.fail error
  | .ok destination =>
      let t :=
        { t with
          state := .connected
          stage := .awaitingPayload destination
          wires := t.wires.report .connected }
      if opened.leftover.isEmpty then t.pollPayload destination
      else t.takePayload destination opened.leftover

def pollOpening (t : Tunnel C) (opening : Opening) : Tunnel C :=
  match opening.poll t.wires.relay with
  | (.waiting opening, link) =>
      { t with stage := .opening opening, wires := { t.wires with relay := link } }
  | (.done result, link) =>
      let t := { t with wires := { t.wires with relay := link } }
      match result with
      | .error error => t.fail error
      | .ok opened => t.takeAnswer opened

/-- Why a connection that has been made cannot be used for an endpoint, if so. An endpoint that asks for
encryption must have a name that can be certified, and the handshake with it must be completed. -/
def transportFault? (endpoint : Endpoint) (handshake : Handshake) : Option TunnelError :=
  if !endpoint.isTls then none
  else if !ServerName.isValid (Text.Utf8.ofString endpoint.host) then
    some (.invalidServerName endpoint.host)
  else
    match handshake with
    | .completed => none
    | .failed reason => some (.io reason)

/-- The connection that the tunnel asked for cannot be made. -/
def refused (t : Tunnel C) (reason : String) : Tunnel C :=
  match t.dial? with
  | some _ => t.fail (.io reason)
  | none => t

variable [BodyCompressor C]

def pollForwarding (t : Tunnel C) (now : Instant) (f : Forwarding C) : Tunnel C :=
  match f.poll now with
  | (f, .goesOn) => { t with stage := .forwarding f.toCourse, wires := f.toWires }
  | (f, .ended (.ok _)) => destroy { t with wires := f.toWires } none
  | (f, .ended (.error error)) => fail { t with wires := f.toWires } error
  | (f, .crashed) => crash { t with wires := f.toWires }

/-- Does everything that can be done now. -/
def poll (t : Tunnel C) (now : Instant) : Tunnel C :=
  match t.stage with
  | .unstarted => { t with stage := .dialingRelay }
  | .opening opening => t.pollOpening opening
  | .awaitingPayload destination => t.pollPayload destination
  | .forwarding course => t.pollForwarding now { toWires := t.wires, toCourse := course }
  | .dialingRelay | .dialingDestination .. | .crashed | .over => t

/-- The connection that the tunnel asked for has been made. If the endpoint asks for encryption, the
handshake has come to an end as well, and the connection carries what is encrypted. -/
def connected (t : Tunnel C) (now : Instant) (handshake : Handshake) : Tunnel C :=
  match t.stage with
  | .dialingRelay =>
      let t := { t with wires := { t.wires with relay := .fresh } }
      match transportFault? t.relay handshake with
      | some error => t.fail error
      | none => t.pollOpening (.start t.relay t.options.headers)
  | .dialingDestination destination payload =>
      let t := { t with wires := { t.wires with destination := .fresh } }
      match transportFault? destination handshake with
      | some error => t.fail error
      | none =>
          t.pollForwarding now (.start t.wires payload t.options.destinationTimeout now)
  | _ => t

end Tunnel

end RelayTunnel
