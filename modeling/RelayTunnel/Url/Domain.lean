import RelayTunnel.Text.Utf8
import RelayTunnel.Url.Composed
import RelayTunnel.Url.Fault
import RelayTunnel.Url.Punycode

/-!
# Domain names

`toAscii` turns a host name into the form that is looked up: characters are mapped to a common
spelling, the labels are checked, and labels with characters beyond ASCII are written in Punycode
behind `xn--`. Labels may be empty or long; hyphens may stand anywhere; only characters with a
meaning in urls are refused among ASCII.
-/

set_option autoImplicit false

namespace RelayTunnel.Url.Domain

/-- What a label in Punycode starts with. -/
def acePrefix : List Char := ['x', 'n', '-', '-']

/-- The longest label that is written in Punycode. -/
def maxEncoded : Nat := 1000

/-- The longest label that is read as Punycode. -/
def maxDecoded : Nat := 2000

/-- ASCII characters that a host name must not hold. -/
def isForbidden (c : Char) : Bool :=
  c.toNat ≤ 0x20 || c.toNat == 0x7F
    || ['%', '#', '/', ':', '<', '>', '?', '@', '[', '\\', ']', '^', '|'].contains c

def isAscii (c : Char) : Bool := c.toNat < 0x80

/-- What a character becomes in a host name; nothing if it is not allowed. -/
def mapChar? (c : Char) : Option (List Char) :=
  match Run.at? Property.mapping c.toNat with
  | none => none
  | some run =>
      match run.kind, run.numbers with
      | 'V', _ => some [c]
      | 'I', _ => some []
      | 'P', [n] => some [Char.ofNat (c.toNat + n)]
      | 'N', [n] => some [Char.ofNat (c.toNat - n)]
      | 'A', _ => some [if (c.toNat - run.start) % 2 = 0 then Char.ofNat (c.toNat + 1) else c]
      | 'M', targets => some (targets.map Char.ofNat)
      | _, _ => none

/-- A text with every character mapped, in composed form. -/
def mapAll? (cs : List Char) : Option (List Char) :=
  (cs.mapM mapChar?).map fun mapped => Composed.compose mapped.flatten

/-! ### Joiners -/

/-- Whether a zero-width non-joiner may stand here: behind a virama, or between characters that join
across it. `before` is in reverse. -/
def allowsNonJoiner (before after : List Char) : Bool :=
  (match before with
    | c :: _ => Property.combiningClass c == 9
    | [] => false)
  || (match before.dropWhile (fun c => Property.joiningType c == 'T'),
        after.dropWhile (fun c => Property.joiningType c == 'T') with
      | a :: _, b :: _ =>
          ['L', 'D'].contains (Property.joiningType a) && ['R', 'D'].contains (Property.joiningType b)
      | _, _ => false)

/-- Whether every joiner of a label stands where one is allowed. `before` is in reverse. -/
def joinersAllowed (before : List Char) : List Char → Bool
  | [] => true
  | c :: after =>
      (if c.toNat = 0x200C then allowsNonJoiner before after
        else if c.toNat = 0x200D then
          match before with
          | d :: _ => Property.combiningClass d == 9
          | [] => false
        else true)
      && joinersAllowed (c :: before) after

/-! ### Direction -/

/-- Whether a character is written from right to left. -/
def isRightToLeft (c : Char) : Bool := ['R', 'A', 'N'].contains (Property.direction c)

/-- Whether the directions within a label of a name with right-to-left characters fit together. -/
def directionsFit (label : List Char) : Bool :=
  let classes := label.map Property.direction
  let last := (classes.reverse.dropWhile (· == 'M')).head?
  match classes.head? with
  | none => true
  | some 'L' =>
      classes.all (['L', 'E', 'S', 'C', 'T', 'O', 'B', 'M'].contains ·)
        && (last == some 'L' || last == some 'E')
  | some first =>
      (first == 'R' || first == 'A')
        && classes.all (['R', 'A', 'N', 'E', 'S', 'C', 'T', 'O', 'B', 'M'].contains ·)
        && (last == some 'R' || last == some 'A' || last == some 'E' || last == some 'N')
        && !(classes.contains 'E' && classes.contains 'N')

/-! ### Labels -/

/-- Whether a label beyond ASCII is well-formed. -/
def isValidLabel (label : List Char) : Bool :=
  (match label with
    | c :: _ => !Property.isMark c
    | [] => true)
  && label.take 4 != acePrefix
  && label.all (fun c => mapChar? c == some [c])
  && joinersAllowed [] label

/-- A label in plain characters: Punycode is read, and has to stand for something that could not be
written otherwise. -/
def plainLabel? (label : List Char) : Option (List Char) :=
  if label.take 4 == acePrefix then
    let code := label.drop 4
    if !label.all isAscii || code.isEmpty || maxDecoded < code.length then none
    else match Punycode.decode? code with
      | some plain =>
          if !plain.all isAscii && isValidLabel plain && Composed.compose plain == plain then
            some plain
          else none
      | none => none
  else if label.all isAscii || isValidLabel label then some label
  else none

def asciiLabel? (label : List Char) : Option (List Char) :=
  if label.all isAscii then some label
  else if maxEncoded < label.length then none
  else some (acePrefix ++ Punycode.encode label)

/-- Checks the labels of a mapped name and writes them in ASCII. -/
def ofLabels? (labels : List (List Char)) : Option (List Char) := do
  let plain ← labels.mapM plainLabel?
  if plain.any (·.any isRightToLeft) && !plain.all directionsFit then none
  else
    let ascii ← plain.mapM asciiLabel?
    pure (List.intercalate ['.'] ascii)

/-- The form of a host name that is looked up. -/
def toAscii (octets : Bytes) : Except UrlFault (List Char) :=
  let name := do
    let cs ← Text.Utf8.decode? octets
    let mapped ← mapAll? cs
    if mapped.any isForbidden then none else ofLabels? (mapped.splitOn '.')
  match name with
  | some name => .ok name
  | none => .error .badDomain

end RelayTunnel.Url.Domain
