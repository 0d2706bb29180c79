import RelayTunnel.Compression.FixedCode
import RelayTunnel.Compression.Token

/-!
# DEFLATE

`blockBits` writes a block of text in the fixed prefix code; blocks do not refer back to each other.
`Inflater` is a machine that reads such blocks bit by bit, so that `inflate` is a fold over the
octets it is given. A block of another kind breaks the machine.
-/

set_option autoImplicit false

namespace RelayTunnel.Compression

def Token.bits : Token → Bits
  | .literal octet => FixedCode.symbolBits octet.toNat
  | .copy length distance => FixedCode.lengthBits length ++ FixedCode.distanceBits distance

/-- A block: whether it is the last one, its kind, its tokens and its end. -/
def blockBits (last : Bool) (text : Array UInt8) : Bits :=
  [last, true, false] ++ (tokenize text).flatMap Token.bits
    ++ FixedCode.symbolBits FixedCode.endOfBlock

/-- What the next bit of a compressed text belongs to. -/
inductive InflatePhase where
  /-- The three bits before a block. -/
  | header (seen : Bits)
  /-- The code of a symbol. -/
  | symbol (width value : Nat)
  /-- The extra bits of a length. -/
  | lengthExtra (base missing : Nat) (seen : Bits)
  /-- The code of a distance. -/
  | distance (length width value : Nat)
  /-- The extra bits of a distance. -/
  | distanceExtra (length base missing : Nat) (seen : Bits)
  /-- Behind the last block. -/
  | finished
  /-- The text is not compressed in this format. -/
  | broken

/-- Reads compressed text. -/
structure Inflater where
  phase : InflatePhase
  /-- Whether the current block is the last one. -/
  last : Bool
  text : Array UInt8

namespace Inflater

/-- A machine in front of a compressed text. -/
def start : Inflater := ⟨.header [], false, #[]⟩

def fail (s : Inflater) : Inflater := { s with phase := .broken }

/-- The state in front of the next symbol. -/
def nextSymbol (s : Inflater) : Inflater := { s with phase := .symbol 0 0 }

def repeatText (s : Inflater) (length distance : Nat) : Inflater :=
  if distance ≤ s.text.size then
    { s.nextSymbol with text := copyBack distance length s.text }
  else s.fail

/-- Reads the extra bits of a distance, then repeats text. -/
def distanceExtraOf (s : Inflater) (length base missing : Nat) : Inflater :=
  if missing = 0 then s.repeatText length base
  else { s with phase := .distanceExtra length base missing [] }

/-- Reads the extra bits of a length, then a distance. -/
def lengthExtraOf (s : Inflater) (base missing : Nat) : Inflater :=
  if missing = 0 then { s with phase := .distance base 0 0 }
  else { s with phase := .lengthExtra base missing [] }

def symbolOf (s : Inflater) (symbol : Nat) : Inflater :=
  if symbol < 256 then { s.nextSymbol with text := s.text.push symbol.toUInt8 }
  else if symbol = FixedCode.endOfBlock then
    { s with phase := if s.last then .finished else .header [] }
  else match FixedCode.lengths[symbol - 257]? with
    | some (base, extra) => s.lengthExtraOf base extra
    | none => s.fail

def bit (s : Inflater) (b : Bool) : Inflater :=
  let digit := if b then 1 else 0
  match s.phase with
  | .header seen =>
      match seen ++ [b] with
      | [last, true, false] => { s.nextSymbol with last := last }
      | [_, _, _] => s.fail
      | seen => { s with phase := .header seen }
  | .symbol width value =>
      let width := width + 1
      let value := value * 2 + digit
      match FixedCode.symbol? width value with
      | some symbol => s.symbolOf symbol
      | none => if width < FixedCode.maxWidth then { s with phase := .symbol width value } else s.fail
  | .lengthExtra base missing seen =>
      match missing with
      | missing + 2 => { s with phase := .lengthExtra base (missing + 1) (seen ++ [b]) }
      | _ => { s with phase := .distance (base + Bits.toNat (seen ++ [b])) 0 0 }
  | .distance length width value =>
      let width := width + 1
      let value := value * 2 + digit
      if width < FixedCode.distanceWidth then { s with phase := .distance length width value }
      else match FixedCode.distances[value]? with
        | some (base, extra) => s.distanceExtraOf length base extra
        | none => s.fail
  | .distanceExtra length base missing seen =>
      match missing with
      | missing + 2 => { s with phase := .distanceExtra length base (missing + 1) (seen ++ [b]) }
      | _ => s.repeatText length (base + Bits.toNat (seen ++ [b]))
  | .finished | .broken => s

/-- Reads the bits of one octet; those behind the last block are skipped. -/
def octet (s : Inflater) (b : UInt8) : Inflater := (Bits.ofOctet b).foldl bit s

/-- Reads octets up to the one in which the last block ends. -/
def run (s : Inflater) : Bytes → Inflater × Bytes
  | [] => (s, [])
  | b :: rest =>
      match s.phase with
      | .finished | .broken => (s, b :: rest)
      | _ => run (s.octet b) rest

end Inflater

/-- The text in front of which an octet string is compressed, and the octets behind it. -/
def inflate? (octets : Bytes) : Option (Bytes × Bytes) :=
  let (s, rest) := Inflater.start.run octets
  match s.phase with
  | .finished => some (s.text.toList, rest)
  | _ => none

end RelayTunnel.Compression
