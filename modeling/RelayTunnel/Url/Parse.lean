import RelayTunnel.Url.Host

/-!
# Absolute urls

`Url.parse` reads an absolute url. White space and controls around it and tabs and line ends inside it
are ignored; for the schemes with an authority a backslash counts as a slash, any number of slashes
may stand before the authority, and `.` and `..` segments of the path are resolved. User information
and fragment are dropped.
-/

set_option autoImplicit false

namespace RelayTunnel

/-- An absolute url in normal form. -/
structure Url where
  scheme : String
  /-- The host; empty if there is none. -/
  host : String
  /-- The port, unless it is absent or the default of the scheme. -/
  port : Option Nat
  /-- The path, slash first, percent-encoded. -/
  path : String
  /-- The query, without its question mark. -/
  query : Option String
  deriving DecidableEq

namespace Url

/-- How urls of a scheme are read. -/
inductive SchemeKind where
  /-- With an authority, as for the web. -/
  | web
  | file
  | other
  deriving DecidableEq

/-- The kind and the default port of a scheme. -/
def kindOf (scheme : List Char) : SchemeKind × Option Nat :=
  if scheme == "http".toList || scheme == "ws".toList then (.web, some 80)
  else if scheme == "https".toList || scheme == "wss".toList then (.web, some 443)
  else if scheme == "ftp".toList then (.web, some 21)
  else if scheme == "file".toList then (.file, none)
  else (.other, none)

/-- Tabs and line ends are ignored wherever they stand. -/
def isIgnored (c : Char) : Bool := c == '\t' || c == '\n' || c == '\r'

/-- Controls and spaces around a url are ignored. -/
def isEdge (c : Char) : Bool := c.toNat ≤ 0x20

/-- The characters of a url that count. -/
def significant (raw : List Char) : List Char :=
  (trimBoth isEdge raw).filter fun c => !isIgnored c

def isSchemeChar (c : Char) : Bool := c.isAlphanum || c == '+' || c == '-' || c == '.'

/-- Splits a url behind the colon of its scheme; the scheme is written in lower case. -/
def splitScheme? (cs : List Char) : Option (List Char × List Char) :=
  let scheme := cs.takeWhile isSchemeChar
  match cs.head?, cs.drop scheme.length with
  | some c, ':' :: rest => if c.isAlpha then some (scheme.map Char.toLower, rest) else none
  | _, _ => none

/-- Whether a character is a slash, where a backslash counts as one if `backslash` is set. -/
def isSlash (backslash : Bool) (c : Char) : Bool := c == '/' || (backslash && c == '\\')

def endsAuthority (backslash : Bool) (c : Char) : Bool :=
  isSlash backslash c || c == '?' || c == '#'

/-- An authority and path split off a url: what user information there was, and the rest. -/
structure AfterUserInfo where
  hasUserInfo : Bool
  rest : List Char

/-- Drops the user information: everything up to the last `@` before the authority ends. -/
def dropUserInfo (backslash : Bool) (cs : List Char) : Except UrlFault AfterUserInfo :=
  let authority := cs.takeWhile (!endsAuthority backslash ·)
  match authority.reverse.idxOf? '@' with
  | none => .ok ⟨false, cs⟩
  | some k =>
      let userInfo := authority.take (authority.length - k - 1)
      let rest := cs.drop (userInfo.length + 1)
      if userInfo.isEmpty ∧ (rest.head?.map (endsAuthority backslash)).getD false then
        .error .emptyHost
      else .ok ⟨!userInfo.isEmpty && userInfo != [':'], rest⟩

/-- The text of the host: up to a colon outside brackets or the end of the authority. -/
def hostText (backslash : Bool) (inBrackets : Bool) : List Char → List Char
  | [] => []
  | c :: cs =>
      if endsAuthority backslash c || (c == ':' && !inBrackets) then []
      else c :: hostText backslash (if c == '[' then true else if c == ']' then false else inBrackets) cs

/-- Reads the digits of a port behind its colon and gives back what follows them. -/
def readPort (port : Nat) (hasDigit : Bool) : List Char → Except UrlFault (Option Nat × List Char)
  | [] => .ok (if hasDigit then some port else none, [])
  | c :: cs =>
      if c.isDigit then
        let port := port * 10 + (c.toNat - 0x30)
        if 65535 < port then .error .badPort else readPort port true cs
      else if endsAuthority true c then .ok (if hasDigit then some port else none, c :: cs)
      else .error .badPort

/-- Host and port of a url, and the path and query behind them. -/
def readHostAndPort (kind : SchemeKind) (defaultPort : Option Nat) (cs : List Char) :
    Except UrlFault (List Char × Option Nat × List Char) := do
  let backslash := kind == .web
  let text := hostText backslash false cs
  let rest := cs.drop text.length
  if kind == .web && text.isEmpty then .error .emptyHost
  else
    let host ← if kind == .web then knownHost text else opaqueHost text
    match rest with
    | ':' :: digits =>
        if host.isEmpty then .error .emptyHost
        else
          let (port, rest) ← readPort 0 false digits
          .ok (host, if port == defaultPort then none else port, rest)
    | _ => .ok (host, none, rest)

/-! ### Paths -/

def isHere (segment : List Char) : Bool :=
  ["." , "%2e"].any fun s => s.toList == segment.map Char.toLower

def isUp (segment : List Char) : Bool :=
  ["..", ".%2e", "%2e.", "%2e%2e"].any fun s => s.toList == segment.map Char.toLower

/-- Whether a segment looks like a drive letter; such a segment is never left by going up. -/
def isDriveLetter : List Char → Bool
  | [c, d] => c.isAlpha && (d == ':' || d == '|')
  | _ => false

/-- Goes one up from a list of segments, last one first. -/
def goUp : List (List Char) → List (List Char)
  | [] => []
  | last :: before => if isDriveLetter last then last :: before else before

/-- Resolves segments against those before them, last one first. The result is in reverse, too; its
first element is the text behind the last slash. -/
def resolve (before : List (List Char)) : List (List Char) → List (List Char)
  | [] => [] :: before
  | [last] =>
      if isUp last then [] :: goUp before
      else if isHere last then [] :: before
      else last :: before
  | segment :: more =>
      if isUp segment then resolve (goUp before) more
      else if isHere segment then resolve before more
      else resolve (segment :: before) more

/-- The normal form of a path whose first slash has been read. -/
def normalPath (cs : List Char) : List Char :=
  let segments := (cs.map fun c => if c == '\\' then '/' else c).splitOn '/'
  let encoded := segments.map (percentEncode isEncodedInPath)
  '/' :: List.intercalate ['/'] (resolve [] encoded).reverse

/-- The query behind a path, if there is one. -/
def queryOf (cs : List Char) : Option String :=
  match cs.dropWhile (fun c => c != '?' && c != '#') with
  | '?' :: query =>
      some (String.ofList (percentEncode isEncodedInQuery (query.takeWhile (· != '#'))))
  | _ => none

/-- Reads a url of a web scheme from its authority on. -/
def parseWeb (scheme : List Char) (defaultPort : Option Nat) (cs : List Char) :
    Except UrlFault Url := do
  let after ← dropUserInfo true (cs.dropWhile (isSlash true))
  let (host, port, rest) ← readHostAndPort .web defaultPort after.rest
  let path := rest.takeWhile fun c => c != '?' && c != '#'
  let path := if (path.head?.map (isSlash true)).getD false then path.drop 1 else path
  .ok ⟨String.ofList scheme, String.ofList host, port, String.ofList (normalPath path), queryOf rest⟩

/-- The host of a `file` url whose two slashes have been read. -/
def fileHost (cs : List Char) : Except UrlFault (List Char) :=
  let text := cs.takeWhile (!endsAuthority true ·)
  if text.isEmpty || isDriveLetter text then .ok []
  else (knownHost text).map fun host => if host == "localhost".toList then [] else host

/-- Reads a url of any other scheme from behind its colon on. Its path is kept as it is. -/
def parseOther (kind : SchemeKind) (scheme cs : List Char) : Except UrlFault Url := do
  let slashes := cs.take 2
  let rest := cs.drop 2
  let host ←
    if kind == .file then
      if slashes.length == 2 && slashes.all (isSlash true) then fileHost rest else .ok []
    else if slashes == ['/', '/'] then do
      let after ← dropUserInfo false rest
      let (host, _, _) ← readHostAndPort .other none after.rest
      if host.isEmpty && after.hasUserInfo then .error .emptyHost else .ok host
    else .ok []
  .ok ⟨String.ofList scheme, String.ofList host, none, String.ofList cs, none⟩

def parse (raw : String) : Except UrlFault Url :=
  match splitScheme? (significant raw.toList) with
  | none => .error .noScheme
  | some (scheme, rest) =>
      match kindOf scheme with
      | (.web, defaultPort) => parseWeb scheme defaultPort rest
      | (kind, _) => parseOther kind scheme rest

end Url

end RelayTunnel
