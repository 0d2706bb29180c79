import RelayTunnel.Ascii

/-!
# UTF-8

`decode?` reads a whole octet string and refuses it when any part is ill-formed.
`decodeLossy` reads anything: each ill-formed run that no well-formed sequence could
extend becomes one replacement character. Both are folds over `next`, which reads one
character, so they agree wherever `decode?` succeeds.
-/

set_option autoImplicit false

namespace RelayTunnel.Text.Utf8

/-- What the front of a nonempty octet string holds, and how many octets it takes. -/
inductive Front where
  /-- A well-formed character of `width` octets. -/
  | char (c : Char) (width : Nat)
  /-- Octets that start no character; `width` of them are given up. -/
  | broken (width : Nat)

/-- The second octets allowed after a first octet, and how many octets follow the first. -/
def lead? (b : UInt8) : Option (Nat × UInt8 × UInt8) :=
  if b < 0xC2 then none
  else if b < 0xE0 then some (1, 0x80, 0xBF)
  else if b = 0xE0 then some (2, 0xA0, 0xBF)
  else if b = 0xED then some (2, 0x80, 0x9F)
  else if b < 0xF0 then some (2, 0x80, 0xBF)
  else if b = 0xF0 then some (3, 0x90, 0xBF)
  else if b < 0xF4 then some (3, 0x80, 0xBF)
  else if b = 0xF4 then some (3, 0x80, 0x8F)
  else none

/-- The bits a first octet contributes when `more` octets follow it. -/
def leadBits (b : UInt8) (more : Nat) : Nat :=
  b.toNat % Nat.pow 2 (6 - more)

/-- Reads `more` continuation octets, the first of them between `low` and `high`. -/
def tails (value read : Nat) : Nat → UInt8 → UInt8 → Bytes → Front
  | 0, _, _, _ => .char (Char.ofNat value) read
  | _ + 1, _, _, [] => .broken read
  | more + 1, low, high, b :: rest =>
      if low ≤ b && b ≤ high then
        tails (value * 64 + b.toNat % 64) (read + 1) more 0x80 0xBF rest
      else .broken read

/-- Reads the character that starts with octet `b` and goes on in `rest`. -/
def next (b : UInt8) (rest : Bytes) : Front :=
  if b < 0x80 then .char (Char.ofNat b.toNat) 1
  else match lead? b with
    | none => .broken 1
    | some (more, low, high) => tails (leadBits b more) 1 more low high rest

/-- The characters of a well-formed octet string. -/
def decode? : Bytes → Option (List Char)
  | [] => some []
  | b :: rest =>
      match next b rest with
      | .char c width => (decode? (rest.drop (width - 1))).map (c :: ·)
      | .broken _ => none
  termination_by bytes => bytes.length
  decreasing_by
    simp only [List.length_drop, List.length_cons]
    omega

/-- The characters of any octet string, ill-formed parts replaced. -/
def decodeLossy : Bytes → List Char
  | [] => []
  | b :: rest =>
      match next b rest with
      | .char c width => c :: decodeLossy (rest.drop (width - 1))
      | .broken width => Char.ofNat 0xFFFD :: decodeLossy (rest.drop (width - 1))
  termination_by bytes => bytes.length
  decreasing_by
    all_goals
      simp only [List.length_drop, List.length_cons]
      omega

/-- The octets of a list of characters. -/
def encode (cs : List Char) : Bytes := cs.flatMap String.utf8EncodeChar

def ofString (s : String) : Bytes := encode s.toList

/-- The text an octet string spells, if it is well-formed. -/
def toString? (bytes : Bytes) : Option String := (decode? bytes).map String.ofList

/-- The text an octet string spells, ill-formed parts replaced. -/
def toStringLossy (bytes : Bytes) : String := String.ofList (decodeLossy bytes)

end RelayTunnel.Text.Utf8
