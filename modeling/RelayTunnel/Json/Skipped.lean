import RelayTunnel.Json.Reader

/-!
# Values passed over

A member that nobody asked for is read only to find its end. Its nesting is not limited, its strings
need not be text, and its numbers may have any size.
-/

set_option autoImplicit false

namespace RelayTunnel.Json

open Reader

/-- A value that has been opened and not yet closed. -/
inductive Enclosure where
  | array
  | object
  deriving DecidableEq

def Enclosure.closing : Enclosure → UInt8
  | .array => closeBracket
  | .object => closeBrace

/-- Reads up to the next value inside an enclosure: over a key and its colon, if it is an object. -/
def Enclosure.toValue : Enclosure → Reader Unit
  | .array => return ()
  | .object => do
      match ← token with
      | none => fail .endFault
      | some b =>
          if b == quote then
            advance 1
            let _ ← stringOctets true
            colon
          else fail .syntaxFault

/-- Passes over a literal, number or string that begins with the octet `b`, which is still there. -/
def skipScalar (b : UInt8) : Reader Unit := do
  if b == 0x6E then literal (Ascii.bytes "null")
  else if b == 0x74 then literal (Ascii.bytes "true")
  else if b == 0x66 then literal (Ascii.bytes "false")
  else if b == quote then
    advance 1
    let _ ← stringOctets true
  else if b == 0x2D then
    advance 1
    let _ ← numberParts true
  else if Ascii.isDigit b then
    let _ ← numberParts true
  else fail .syntaxFault

/-- Closes enclosures, innermost first, up to the next value in one of them or the end of the
outermost. `afterValue` tells that a value of the innermost has just ended, so that a comma has to
stand before the next. -/
def closeEnclosures (afterValue : Bool) : List Enclosure → Reader (List Enclosure ⊕ Unit)
  | [] => return .inr ()
  | inner :: outer => do
      match ← token with
      | none => fail .endFault
      | some b =>
          if b == inner.closing then
            advance 1
            closeEnclosures true outer
          else if b == Ascii.comma && afterValue then
            advance 1
            inner.toValue
            return .inl (inner :: outer)
          else if afterValue then fail .syntaxFault
          else
            inner.toValue
            return .inl (inner :: outer)

/-- Passes over the next value, or its opening octet, inside the given enclosures. -/
def skipStep (enclosures : List Enclosure) : Reader (List Enclosure ⊕ Unit) := do
  match ← token with
  | none => fail .endFault
  | some b =>
      if b == openBracket then
        advance 1
        closeEnclosures false (.array :: enclosures)
      else if b == openBrace then
        advance 1
        closeEnclosures false (.object :: enclosures)
      else
        skipScalar b
        closeEnclosures true enclosures

def skipValue : Reader Unit := repeatUntil skipStep []

end RelayTunnel.Json
