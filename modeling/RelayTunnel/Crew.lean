import RelayTunnel.Tunnel.Basic

/-!
# Crews

A crew is a set of members that work side by side on connections of their own, and an owner that
reacts to what they report. Whoever has something to do is put at the end of one queue, once, and is
taken from its front, so everyone works in the order of being woken. Those who wait for a moment in
time are woken in the order of these moments, and of several for the same moment in the order in
which they began to wait.
-/

set_option autoImplicit false

namespace RelayTunnel

open Compression (BodyCompressor)

/-- One of the two connections of a member. -/
inductive Side where
  | relay
  | destination
  deriving DecidableEq

def Wires.link (w : Wires) : Side → Link
  | .relay => w.relay
  | .destination => w.destination

def Wires.modifyLink (w : Wires) (side : Side) (f : Link → Link) : Wires :=
  match side with
  | .relay => { w with relay := f w.relay }
  | .destination => { w with destination := f w.destination }

/-- Something that works on two connections. -/
class Member (M : Type) where
  wires : M → Wires
  setWires : M → Wires → M
  /-- The connection it asks for, if it waits for one. -/
  dial? : M → Option (Side × Endpoint)
  /-- When it has something to do even if nothing arrives. -/
  alarm? : M → Option Instant
  /-- Does all that can be done now. -/
  poll : M → Instant → M
  /-- The connection that it asked for has been made, and the handshake that may encrypt it has come to
  an end. -/
  connected : M → Instant → Handshake → M
  /-- The connection that it asked for cannot be made. -/
  refused : M → String → M

instance {C : Type} [BodyCompressor C] : Member (Tunnel C) where
  wires := Tunnel.wires
  setWires t w := { t with wires := w }
  dial? t := t.dial?.map fun endpoint =>
    (match t.stage with
      | .dialingRelay => .relay
      | _ => .destination, endpoint)
  alarm? := Tunnel.alarm?
  poll := Tunnel.poll
  connected := Tunnel.connected
  refused := Tunnel.refused

/-- Someone who can have something to do. -/
inductive Task where
  | owner
  | member (id : Nat)
  deriving DecidableEq

/-- A connection that a member has asked for. -/
structure Dial where
  id : Nat
  side : Side
  endpoint : Endpoint
  deriving DecidableEq

/-- Members at work. -/
structure Crew (M : Type) where
  members : List (Nat × M)
  /-- What the owner has not been told yet, oldest first. -/
  notices : List (Nat × Notice)
  /-- Who has something to do. -/
  ready : List Task
  /-- Who waits for a moment, in the order of being woken. -/
  alarms : List (Instant × Task)
  /-- The connections that have been asked for and not been looked into, oldest first. -/
  dials : List Dial

namespace Crew

variable {M : Type}

def empty : Crew M := ⟨[], [], [], [], []⟩

/-- Puts someone into the queue who is not in it. -/
def wake (crew : Crew M) (task : Task) : Crew M :=
  if task ∈ crew.ready then crew else { crew with ready := crew.ready ++ [task] }

/-- Adds a moment to wait for, behind those that are not later. -/
def insertAlarm (alarm : Instant × Task) : List (Instant × Task) → List (Instant × Task)
  | [] => [alarm]
  | first :: rest =>
      if first.1.notAfter alarm.1 then first :: insertAlarm alarm rest else alarm :: first :: rest

/-- Lets someone wait for the given moments and for no others. -/
def setAlarms (crew : Crew M) (task : Task) (moments : List Instant) : Crew M :=
  { crew with
    alarms := moments.foldl (fun alarms moment => insertAlarm (moment, task) alarms)
      (crew.alarms.filter (·.2 != task)) }

/-- Lets someone wait for a moment; who waits for it already goes on waiting. -/
def keepAlarm (crew : Crew M) (task : Task) (moment : Option Instant) : Crew M :=
  match moment with
  | some moment =>
      if (moment, task) ∈ crew.alarms then crew else crew.setAlarms task [moment]
  | none => crew.setAlarms task []

def wakeDue (crew : Crew M) (now : Instant) : Crew M :=
  (crew.alarms.takeWhile (·.1.notAfter now)).foldl (fun crew alarm => crew.wake alarm.2)
    { crew with alarms := crew.alarms.dropWhile (·.1.notAfter now) }

/-- The next moment that someone waits for. -/
def nextAlarm? (crew : Crew M) : Option Instant := crew.alarms.head?.map (·.1)

/-- Adds a member, which has something to do at once. -/
def add (crew : Crew M) (id : Nat) (member : M) : Crew M :=
  { crew with members := crew.members ++ [(id, member)] }.wake (.member id)

def member? (crew : Crew M) (id : Nat) : Option M := crew.members.lookup id

def set (crew : Crew M) (id : Nat) (member : M) : Crew M :=
  { crew with
    members := crew.members.map fun entry => if entry.1 = id then (id, member) else entry }

section

variable [Member M]

/-- Changes a member. What it reports goes to the owner, who is woken for it, and a connection that it
has begun to ask for is noted. -/
def update (crew : Crew M) (id : Nat) (f : M → M) : Crew M :=
  match crew.member? id with
  | none => crew
  | some before =>
      let after := f before
      let wires := Member.wires after
      let crew := crew.set id (Member.setWires after { wires with notices := [] })
      let crew := { crew with notices := crew.notices ++ wires.notices.map (id, ·) }
      let crew := if wires.notices.isEmpty then crew else crew.wake .owner
      let crew := crew.keepAlarm (.member id) (Member.alarm? after)
      match Member.dial? after with
      | some (side, endpoint) =>
          if Member.dial? before = some (side, endpoint) then crew
          else { crew with dials := crew.dials ++ [⟨id, side, endpoint⟩] }
      | none => crew

/-- Lets a member do all that it can do now. -/
def poll (crew : Crew M) (id : Nat) (now : Instant) : Crew M :=
  crew.update id fun m => Member.poll m now

/-- Changes a connection of a member, which has something to do then. -/
def touch (crew : Crew M) (id : Nat) (side : Side) (f : Link → Link) : Crew M :=
  (crew.update id fun m => Member.setWires m ((Member.wires m).modifyLink side f)).wake (.member id)

end

end Crew

/-- Someone who owns a crew and reacts to what it reports. -/
class Owner (σ M : Type) where
  /-- Does all that can be done now. -/
  act : σ → Crew M → Instant → σ × Crew M

/-- An owner and a crew. -/
structure Company (σ M : Type) where
  owner : σ
  crew : Crew M

namespace Company

variable {σ M : Type} [Owner σ M] [Member M]

/-- Lets the first in the queue work; none if nobody has anything to do. -/
def runNext? (c : Company σ M) (now : Instant) : Option (Company σ M) :=
  match c.crew.ready with
  | [] => none
  | task :: ready =>
      let crew := { c.crew with ready := ready }
      match task with
      | .owner =>
          let (owner, crew) := Owner.act c.owner crew now
          some ⟨owner, crew⟩
      | .member id => some ⟨c.owner, crew.poll id now⟩

/-- Lets everyone work until nobody has anything to do, for at most so many times. -/
def runWithin (now : Instant) : Nat → Company σ M → Company σ M
  | 0, c => c
  | limit + 1, c =>
      match c.runNext? now with
      | some c => runWithin now limit c
      | none => c

/-- More times than a company ever works at one instant. -/
def runLimit : Nat := 1000000

/-- Lets everyone work until nobody has anything to do. -/
def runAll (c : Company σ M) (now : Instant) : Company σ M := runWithin now runLimit c

end Company

end RelayTunnel
