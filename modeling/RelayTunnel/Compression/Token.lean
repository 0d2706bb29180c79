import RelayTunnel.Ascii

/-!
# Literals and copies

Text with repetitions is described by tokens: an octet as it is, or a copy of octets that were
already written. `expand` writes out what tokens describe. `tokenize` describes a block of text;
where it looks for a repetition is only a guess, and a copy is used for as many octets as were
compared and found equal.
-/

set_option autoImplicit false

namespace RelayTunnel.Compression

/-- One step of a compressed description. -/
inductive Token where
  | literal (octet : UInt8)
  /-- Repeat `length` octets, starting `distance` octets back. -/
  | copy (length distance : Nat)
  deriving DecidableEq

def minCopy : Nat := 3

def maxCopy : Nat := 258

/-- Appends `length` octets to a text, each taken `distance` octets back. -/
def copyBack (distance : Nat) : Nat → Array UInt8 → Array UInt8
  | 0, out => out
  | length + 1, out => copyBack distance length (out.push (out.getD (out.size - distance) 0))

def Token.apply (out : Array UInt8) : Token → Array UInt8
  | .literal octet => out.push octet
  | .copy length distance => copyBack distance length out

def expand (tokens : List Token) : Array UInt8 := tokens.foldl Token.apply #[]

/-- How many octets from positions `i` and `j` on are equal, at most `limit`. -/
def matchLength (text : Array UInt8) (i j : Nat) : Nat → Nat
  | 0 => 0
  | limit + 1 =>
      match text[i]?, text[j]? with
      | some a, some b => if a == b then matchLength text (i + 1) (j + 1) limit + 1 else 0
      | _, _ => 0

/-- Where a group of three octets was last seen. Groups may collide, so an entry is a guess. -/
structure Sightings where
  positions : Array Nat

namespace Sightings

def tableSize : Nat := 4096

/-- A table with no entry: the value 0 means that no position is known. -/
def none : Sightings := ⟨Array.replicate tableSize 0⟩

/-- The entry for the three octets at a position. -/
def slot (text : Array UInt8) (i : Nat) : Nat :=
  ((text.getD i 0).toNat * 961 + (text.getD (i + 1) 0).toNat * 31 + (text.getD (i + 2) 0).toNat)
    % tableSize

/-- The guess for a position: a position before it, if one is known. -/
def guess? (s : Sightings) (text : Array UInt8) (i : Nat) : Option Nat :=
  match s.positions.getD (slot text i) 0 with
  | 0 => Option.none
  | j + 1 => if j < i then some j else Option.none

/-- Notes that the three octets at a position were seen there. -/
def note (s : Sightings) (text : Array UInt8) (i : Nat) : Sightings :=
  ⟨s.positions.setIfInBounds (slot text i) (i + 1)⟩

end Sightings

/-- The token for position `i` of a text, given a guess where its beginning occurs before. -/
def tokenAt (text : Array UInt8) (i : Nat) (guess : Option Nat) : Token :=
  let literal := Token.literal (text.getD i 0)
  match guess with
  | none => literal
  | some j =>
      let length := matchLength text j i maxCopy
      if j < i ∧ minCopy ≤ length then .copy length (i - j) else literal

def Token.width : Token → Nat
  | .literal _ => 1
  | .copy length _ => length

/-- A token stands for at least one octet. -/
theorem tokenAt_width_pos (text : Array UInt8) (i : Nat) (guess : Option Nat) :
    0 < (tokenAt text i guess).width := by
  unfold tokenAt
  cases guess with
  | none => exact Nat.one_pos
  | some j =>
    dsimp only
    split
    · rename_i h
      exact Nat.lt_of_lt_of_le (by decide) h.2
    · exact Nat.one_pos

/-- Describes a text from position `i` on; `done` holds the tokens before it, last one first. -/
def tokenizeFrom (text : Array UInt8) (i : Nat) (seen : Sightings) (done : List Token) :
    List Token :=
  if i < text.size then
    let token := tokenAt text i (seen.guess? text i)
    tokenizeFrom text (i + token.width) (seen.note text i) (token :: done)
  else done.reverse
  termination_by text.size - i
  decreasing_by
    have := tokenAt_width_pos text i (seen.guess? text i)
    omega

def tokenize (text : Array UInt8) : List Token := tokenizeFrom text 0 .none []

end RelayTunnel.Compression
