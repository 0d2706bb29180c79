import RelayTunnel.Url.DomainTables

/-!
# Looking up properties of characters

A table lists runs of code points; the property of a character is what the last run that starts at
or before it says.
-/

set_option autoImplicit false

namespace RelayTunnel.Url

/-- A run of code points: where it starts, what holds for it, and the numbers that belong to it. -/
structure Run where
  start : Nat
  kind : Char
  numbers : List Nat

namespace Run

/-- The value of a digit in base 36. -/
def digit (c : Char) : Nat := if c.isDigit then c.toNat - 0x30 else c.toNat - 0x61 + 10

/-- The number that digits in base 36 spell. -/
def number (cs : List Char) : Nat := cs.foldl (fun n c => n * 36 + digit c) 0

/-- Reads one entry of a table behind the runs before it, last one first. -/
def read (before : List Run) (entry : List Char) : List Run :=
  let start := match before with
    | [] => 0
    | last :: _ => last.start
  let offset := entry.takeWhile fun c => !c.isUpper
  match entry.drop offset.length with
  | kind :: rest =>
      ⟨start + number offset, kind,
        if rest.isEmpty then [] else (rest.splitOn '_').map number⟩ :: before
  | [] => before

/-- The runs of a table, in order. -/
def readAll (table : List String) : Array Run :=
  (((table.flatMap fun line => line.toList.splitOn ' ').foldl read []).reverse).toArray

/-- Narrows down the place of the last run that starts at or before a code point: it is at `low` or
within the `width` places behind it. -/
def search (runs : Array Run) (point low : Nat) (width : Nat) : Nat :=
  if width = 0 then low
  else
    let half := (width + 1) / 2
    match runs[low + half]? with
    | some run =>
        if run.start ≤ point then search runs point (low + half) (width - half)
        else search runs point low (half - 1)
    | none => search runs point low (half - 1)
  termination_by width

/-- The run that covers a code point. -/
def at? (runs : Array Run) (point : Nat) : Option Run := runs[search runs point 0 runs.size]?

end Run

namespace Property

/-- What becomes of characters in domain names. -/
def mapping : Array Run := Run.readAll DomainTables.mapping

def compositions : Array Run := Run.readAll DomainTables.compositions

def combiningClasses : Array Run := Run.readAll DomainTables.combiningClasses

def marks : Array Run := Run.readAll DomainTables.marks

def directions : Array Run := Run.readAll DomainTables.directions

def joiningTypes : Array Run := Run.readAll DomainTables.joiningTypes

/-- The letter a table of letters gives for a character. -/
def letter (runs : Array Run) (c : Char) : Char :=
  ((Run.at? runs c.toNat).map Run.kind).getD 'X'

/-- The canonical combining class of a character. -/
def combiningClass (c : Char) : Nat :=
  ((Run.at? combiningClasses c.toNat).bind fun run => run.numbers.head?).getD 0

/-- Whether a character is a combining mark. -/
def isMark (c : Char) : Bool := letter marks c == 'M'

def direction (c : Char) : Char := letter directions c

def joiningType (c : Char) : Char := letter joiningTypes c

end Property

end RelayTunnel.Url
