import RelayTunnel.Http.Field
import RelayTunnel.Http.Scan

/-!
# The syntax of message heads

A head is a request line or a status line followed by header lines and a blank line. Lines end
in CR LF or in a bare LF, and blank lines may precede the head. Folded header lines and blanks
before the colon are refused. The scanners of this module say what the pieces of a head are;
`requestHead` and `responseHead` put them together.
-/

set_option autoImplicit false

namespace RelayTunnel.Http

/-- What stops a head from being read: bad syntax, or more fields than are allowed. -/
inductive HeadRefusal where
  | syntaxFault (fault : HeadFault)
  | tooManyFields
  deriving DecidableEq

/-- A scanner for a part of a head. -/
abbrev HeadScan (α : Type) : Type := Scan HeadRefusal α

namespace HeadSyntax

open Ascii (cr lf space tab isBlank)

/-- The characters of a token: letters, digits and `` !#$%&'*+-.^_`|~ ``. -/
def isTokenChar (b : UInt8) : Bool :=
  Ascii.isAlpha b || Ascii.isDigit b ||
    b == 0x21 || b == 0x23 || b == 0x24 || b == 0x25 || b == 0x26 || b == 0x27 || b == 0x2A ||
    b == 0x2B || b == 0x2D || b == 0x2E || b == 0x5E || b == 0x5F || b == 0x60 || b == 0x7C ||
    b == 0x7E

/-- The octets of a request target: everything but controls, space and DEL. -/
def isTargetChar (b : UInt8) : Bool := 0x21 ≤ b && b != 0x7F

/-- The octets of a field value or a reason phrase: everything but controls other than the
horizontal tab. -/
def isTextChar (b : UInt8) : Bool := b == tab || (0x20 ≤ b && b != 0x7F)

def fault {α : Type} (f : HeadFault) : HeadScan α := Scan.refuse (.syntaxFault f)

/-- Reads one octet that satisfies `p`, or fails with `f`. -/
def expect (p : UInt8 → Bool) (f : HeadFault) : HeadScan UInt8 := Scan.expect p (.syntaxFault f)

/-- Reads one given octet, or fails with `f`. -/
def exactly (b : UInt8) (f : HeadFault) : HeadScan Unit := do
  let _ ← expect (· == b) f

/-- Reads CR LF or a bare LF; anything else is the fault `f`. -/
def lineEnd (f : HeadFault) : HeadScan Unit := do
  let b ← Scan.octet
  if b == cr then exactly lf f
  else if b == lf then pure ()
  else fault f

/-- Skips the blank lines before a head. -/
def blankLines : HeadScan Unit
  | [] => .more
  | b :: rest =>
      if b == lf then blankLines rest
      else if b == cr then
        match rest with
        | [] => .more
        | c :: rest' => if c == lf then blankLines rest' else .refused (.syntaxFault .lineEnd)
      else .found () (b :: rest)

/-- A method: a nonempty token and the space behind it. -/
def method : HeadScan Bytes := do
  let first ← expect isTokenChar .token
  let others ← Scan.run isTokenChar
  exactly space .token
  pure (first :: others)

/-- A request target: nonempty, well-formed UTF-8, and the space behind it. -/
def target : HeadScan Bytes := do
  let octets ← Scan.run isTargetChar
  exactly space .token
  if octets.isEmpty || (Text.Utf8.decode? octets).isNone then fault .token
  else pure octets

/-- Reads the given octets one by one; the first other octet is the fault `f`. -/
def literal (f : HeadFault) : Bytes → HeadScan Unit
  | [] => pure ()
  | b :: bs => do
      exactly b f
      literal f bs

/-- The minor number of a protocol version: `HTTP/1.0` or `HTTP/1.1`. -/
def version : HeadScan Nat := do
  literal .version (Ascii.bytes "HTTP/1.")
  let b ← expect (fun b => b == 0x30 || b == 0x31) .version
  pure (b.toNat - 0x30)

/-- One decimal digit of a status code. -/
def statusDigit : HeadScan Nat := do
  let b ← expect Ascii.isDigit .status
  pure (b.toNat - 0x30)

def statusCode : HeadScan Nat := do
  let hundreds ← statusDigit
  let tens ← statusDigit
  let ones ← statusDigit
  pure (hundreds * 100 + tens * 10 + ones)

/-- What follows a status code: a space and a reason phrase, or the line end at once. A phrase
with octets beyond ASCII is read but not kept. -/
def reasonPhrase : HeadScan Bytes := do
  let b ← Scan.octet
  if b == space then
    let phrase ← Scan.run isTextChar
    lineEnd .status
    pure (if phrase.any (0x80 ≤ ·) then [] else phrase)
  else if b == cr then
    exactly lf .status
    pure []
  else if b == lf then pure []
  else fault .status

/-- The name of a field whose first octet has been read, and the colon behind it. -/
def fieldName (first : UInt8) : HeadScan Bytes := do
  let others ← Scan.run isTokenChar
  exactly Ascii.colon .fieldName
  pure (first :: others)

/-- The value of a field up to its line end, blanks around it dropped. -/
def fieldValue : HeadScan Bytes := do
  let _ ← Scan.run isBlank
  let octets ← Scan.run isTextChar
  lineEnd .fieldValue
  pure (octets.reverse.dropWhile isBlank).reverse

/-- One header line, or the blank line that ends the head. -/
def fieldLine? : HeadScan (Option Field) := do
  let b ← Scan.octet
  if b == cr then
    exactly lf .lineEnd
    pure none
  else if b == lf then pure none
  else if isTokenChar b then
    let name ← fieldName b
    let value ← fieldValue
    pure (some ⟨name, value⟩)
  else fault .fieldName

/-- The header lines up to and including the blank line, at most `limit` of them. -/
def fieldLines : Nat → HeadScan (List Field)
  | 0 => do
      match ← fieldLine? with
      | none => pure []
      | some _ => Scan.refuse .tooManyFields
  | limit + 1 => do
      match ← fieldLine? with
      | none => pure []
      | some field =>
          let others ← fieldLines limit
          pure (field :: others)

/-- The parts of a request head. -/
structure RequestParts where
  method : Bytes
  target : Bytes
  minor : Nat
  fields : Fields

/-- The parts of a response head. -/
structure ResponseParts where
  minor : Nat
  code : Nat
  reason : Bytes
  fields : Fields

/-- A whole request head with at most `limit` fields. -/
def requestHead (limit : Nat) : HeadScan RequestParts := do
  blankLines
  let method ← method
  let target ← target
  let minor ← version
  lineEnd .lineEnd
  let fields ← fieldLines limit
  pure ⟨method, target, minor, ⟨fields⟩⟩

/-- A whole response head with at most `limit` fields. -/
def responseHead (limit : Nat) : HeadScan ResponseParts := do
  blankLines
  let minor ← version
  exactly space .version
  let code ← statusCode
  let reason ← reasonPhrase
  let fields ← fieldLines limit
  pure ⟨minor, code, reason, ⟨fields⟩⟩

end HeadSyntax

end RelayTunnel.Http
