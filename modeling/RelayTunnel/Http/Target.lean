import RelayTunnel.Ascii

/-!
# Request targets

The target of a request line: `/path?query`, `*`, an authority such as `host:port`, or an
absolute form with scheme and authority. A fragment is accepted and dropped. `Target.parse`
decides which form it is from the first octets and then checks each part against the octets it
may hold; `Target.render` writes a target back in a normal form.
-/

set_option autoImplicit false

namespace RelayTunnel.Http

/-- Why a text is no request target. -/
inductive TargetFault where
  | empty
  | tooLong
  | schemeTooLong
  | badOctet
  | badAuthority
  | badFormat
  deriving DecidableEq

/-- The wording of a fault in a request target. -/
def TargetFault.message : TargetFault → String
  | .empty => "empty string"
  | .tooLong => "uri too long"
  | .schemeTooLong => "scheme too long"
  | .badOctet => "invalid uri character"
  | .badAuthority => "invalid authority"
  | .badFormat => "invalid format"

/-- A request target. -/
structure Target where
  scheme : Option Bytes
  authority : Bytes
  /-- The path as received; empty when the target has none. -/
  path : Bytes
  query : Option Bytes
  deriving DecidableEq

namespace Target

def slash : UInt8 := 0x2F
def questionMark : UInt8 := 0x3F
def numberSign : UInt8 := 0x23

def maxLength : Nat := 65534

def maxSchemeLength : Nat := 64

/-- The octets of a scheme: letters, digits, `+`, `-`, `.` and `~`. -/
def isSchemeChar (b : UInt8) : Bool :=
  Ascii.isAlpha b || Ascii.isDigit b || b == 0x2B || b == 0x2D || b == 0x2E || b == 0x7E

/-- The octets of an authority, delimiters included. -/
def isAuthorityChar (b : UInt8) : Bool :=
  Ascii.isAlpha b || Ascii.isDigit b || b == 0x21 || b == 0x24 || (0x26 ≤ b && b ≤ 0x2E)
    || b == 0x3A || b == 0x3B || b == 0x3D || b == 0x40 || b == 0x5B || b == 0x5D || b == 0x5F
    || b == 0x7E

/-- The octets of a path. Double quotes and braces are let through although they should be
percent-encoded; octets beyond ASCII are let through for UTF-8. -/
def isPathChar (b : UInt8) : Bool :=
  b == 0x21 || (0x24 ≤ b && b ≤ 0x3B) || b == 0x3D || (0x40 ≤ b && b ≤ 0x5F)
    || (0x61 ≤ b && b ≤ 0x7A) || b == 0x7C || 0x7E ≤ b
    || b == 0x22 || b == 0x7B || b == 0x7D

def isQueryChar (b : UInt8) : Bool :=
  b == 0x21 || (0x24 ≤ b && b ≤ 0x3B) || b == 0x3D || 0x3F ≤ b

def endsAuthority (b : UInt8) : Bool := b == slash || b == questionMark || b == numberSign

/-- What has been seen of an authority so far. -/
structure AuthorityScan where
  /-- Colons since the last `@` or `]`. -/
  colons : Nat
  opened : Bool
  closed : Bool
  /-- A percent sign since the last `@` or `]`. -/
  percent : Bool

def AuthorityScan.step (s : AuthorityScan) (b : UInt8) : Except TargetFault AuthorityScan :=
  if b == 0x3A then
    if 8 ≤ s.colons then .error .badAuthority else .ok { s with colons := s.colons + 1 }
  else if b == 0x5B then
    if s.percent || s.opened then .error .badAuthority else .ok { s with opened := true }
  else if b == 0x5D then
    if !s.opened || s.closed then .error .badAuthority
    else .ok { s with closed := true, colons := 0, percent := false }
  else if b == 0x40 then .ok { s with colons := 0, percent := false }
  else if b == 0x25 then .ok { s with percent := true }
  else if isAuthorityChar b then .ok s
  else .error .badOctet

/-- Checks an authority: brackets match, at most one colon remains for the port, nothing but user
information holds percent signs, and something follows an `@`. -/
def checkAuthority (octets : Bytes) : Except TargetFault Unit := do
  let s ← octets.foldlM AuthorityScan.step ⟨0, false, false, false⟩
  if s.opened != s.closed || 1 < s.colons || octets.getLast? == some 0x40 || s.percent then
    .error .badAuthority

/-- Splits path and query off a text that holds no scheme and authority any more. -/
def parsePath (octets : Bytes) : Except TargetFault (Bytes × Option Bytes) := do
  let visible := octets.takeWhile (· != numberSign)
  let path := visible.takeWhile (· != questionMark)
  let query := match visible.dropWhile (· != questionMark) with
    | [] => none
    | _ :: query => some query
  if path.all isPathChar && (query.getD []).all isQueryChar then .ok (path, query)
  else .error .badOctet

/-- The text behind `://` if the text starts with that scheme, in any casing. -/
def afterScheme? (scheme text : Bytes) : Option Bytes :=
  let lead := scheme ++ Ascii.bytes "://"
  if Ascii.sameIgnoringCase (text.take lead.length) lead then some (text.drop lead.length) else none

/-- Splits the scheme off a text that has one. The schemes `http` and `https` are written in
lower case, any other is kept as it is. -/
def splitScheme (text : Bytes) : Except TargetFault (Option (Bytes × Bytes)) :=
  match afterScheme? (Ascii.bytes "http") text with
  | some rest => .ok (some (Ascii.bytes "http", rest))
  | none =>
      match afterScheme? (Ascii.bytes "https") text with
      | some rest => .ok (some (Ascii.bytes "https", rest))
      | none =>
          let scheme := text.takeWhile isSchemeChar
          let rest := text.drop scheme.length
          if text.length ≤ 3 || rest.take 3 != Ascii.bytes "://" then .ok none
          else if maxSchemeLength < scheme.length then .error .schemeTooLong
          else .ok (some (scheme, rest.drop 3))

/-- Reads a target that does not start with a slash and has more than one octet. -/
def parseFull (text : Bytes) : Except TargetFault Target := do
  match ← splitScheme text with
  | none =>
      let authority := text.takeWhile (!endsAuthority ·)
      checkAuthority authority
      if authority.length != text.length then .error .badFormat
      else .ok ⟨none, authority, [], none⟩
  | some (scheme, rest) =>
      let authority := rest.takeWhile (!endsAuthority ·)
      checkAuthority authority
      if authority.isEmpty then .error .badFormat
      else
        let (path, query) ← parsePath (rest.drop authority.length)
        .ok ⟨some scheme, authority, path, query⟩

def parse (text : Bytes) : Except TargetFault Target := do
  if maxLength < text.length then .error .tooLong
  else match text with
    | [] => .error .empty
    | [b] =>
        if b == slash || b == 0x2A then .ok ⟨none, [], [b], none⟩
        else if endsAuthority b then .error .badOctet
        else do
          checkAuthority [b]
          .ok ⟨none, [b], [], none⟩
    | b :: _ =>
        if b == slash then
          let (path, query) ← parsePath text
          .ok ⟨none, [], path, query⟩
        else parseFull text

/-- The path that is sent: a target with a scheme always has one. -/
def effectivePath (target : Target) : Bytes :=
  if target.path.isEmpty && (target.scheme.isSome || target.query.isSome) then [slash]
  else target.path

def render (target : Target) : Bytes :=
  (match target.scheme with
    | some scheme => scheme ++ Ascii.bytes "://"
    | none => []) ++
  target.authority ++ target.effectivePath ++
  (match target.query with
    | some query => questionMark :: query
    | none => [])

end Target

end RelayTunnel.Http
