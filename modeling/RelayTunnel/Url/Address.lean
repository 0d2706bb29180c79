import RelayTunnel.Text.Numeral
import RelayTunnel.Url.Fault

/-!
# Numeric hosts

IPv4 addresses in all the spellings a url allows, with octal and hexadecimal parts and with fewer
than four of them, and IPv6 addresses with `::` and with an IPv4 address at the end. Both are
written in one normal form.
-/

set_option autoImplicit false

namespace RelayTunnel.Url

/-! ### IPv4 -/

/-- The value of a digit in a base up to 16. -/
def digitIn? (base : Nat) (c : Char) : Option Nat :=
  if c.toNat < 0x80 then (Ascii.hexValue? c.toNat.toUInt8).filter (· < base) else none

/-- The number that digits of a base spell; no digits spell zero. -/
def numberIn? (base : Nat) (cs : List Char) : Option Nat :=
  cs.foldlM (fun n c => (digitIn? base c).map (n * base + ·)) 0

/-- The number that one part of an IPv4 address spells: hexadecimal behind `0x`, octal behind a `0`,
else decimal. -/
def ipv4Part? (part : List Char) : Option Nat :=
  match part with
  | [] => none
  | '0' :: 'x' :: digits => numberIn? 16 digits
  | '0' :: 'X' :: digits => numberIn? 16 digits
  | '0' :: c :: digits => numberIn? 8 (c :: digits)
  | _ => numberIn? 10 part

/-- The parts of a host between its dots, without an empty last part. -/
def hostParts (host : List Char) : List (List Char) :=
  let parts := host.splitOn '.'
  if 1 < parts.length ∧ parts.getLast? = some [] then parts.dropLast else parts

/-- Whether a host has to be an IPv4 address: its last part is a number. -/
def endsInNumber (host : List Char) : Bool :=
  match (hostParts host).getLast? with
  | some last => (!last.isEmpty && last.all Char.isDigit) || (ipv4Part? last).isSome
  | none => false

/-- The value of an IPv4 address given by its parts: the last part fills what the others leave. -/
def ipv4Value? (numbers : List Nat) : Option Nat :=
  match numbers.getLast? with
  | none => none
  | some last =>
      let leading := numbers.dropLast
      if 3 < leading.length ∨ leading.any (255 < ·) ∨ Nat.pow 256 (4 - leading.length) ≤ last then none
      else some (leading.foldl (fun n part => n * 256 + part) 0 * Nat.pow 256 (4 - leading.length) + last)

def ipv4? (host : List Char) : Except UrlFault Nat :=
  match ((hostParts host).mapM ipv4Part?).bind ipv4Value? with
  | some value => .ok value
  | none => .error .badIpv4

/-- Writes an IPv4 address: four decimal numbers between dots. -/
def ipv4Chars (value : Nat) : List Char :=
  let part (i : Nat) := Text.decimalChars (value / Nat.pow 256 i % 256)
  part 3 ++ ['.'] ++ part 2 ++ ['.'] ++ part 1 ++ ['.'] ++ part 0

/-! ### IPv6 -/

/-- The number of pieces of an IPv6 address. -/
def ipv6Size : Nat := 8

/-- The pieces of an IPv6 address read so far, and how many of them stand before the end of the gap
that `::` leaves. The gap itself stands for at least one piece. -/
structure Ipv6Scan where
  pieces : List Nat
  gapEnd : Option Nat

/-- One number of an IPv4 address inside an IPv6 address: at most 255, without leading zeros. -/
def embeddedNumber? (digits : List Char) : Option Nat :=
  if digits.length ≤ 1 ∨ digits.head? ≠ some '0' then (Text.decimal? digits).filter (· ≤ 255)
  else none

/-- The two pieces that an IPv4 address at the end of an IPv6 address makes up. -/
def embeddedPieces? (cs : List Char) : Option (List Nat) :=
  match (cs.splitOn '.').mapM embeddedNumber? with
  | some [a, b, c, d] => some [a * 256 + b, c * 256 + d]
  | _ => none

/-- The digits of the next piece, at most four, and what follows them. -/
def pieceDigits (cs : List Char) : List Char × List Char :=
  let digits := (cs.take 4).takeWhile fun d => (digitIn? 16 d).isSome
  (digits, cs.drop digits.length)

/-- Reads the pieces of an IPv6 address. -/
def scanPieces (s : Ipv6Scan) (cs : List Char) : Option Ipv6Scan :=
  if cs.isEmpty then some s
  else if ipv6Size ≤ s.pieces.length then none
  else if cs.head? = some ':' then
    if s.gapEnd.isSome then none
    else scanPieces ⟨s.pieces ++ [0], some (s.pieces.length + 1)⟩ (cs.drop 1)
  else
    let (digits, rest) := pieceDigits cs
    let pieces := s.pieces ++ [(numberIn? 16 digits).getD 0]
    if digits.isEmpty then none
    else if rest.isEmpty then some { s with pieces := pieces }
    else if rest.head? = some '.' then
      if ipv6Size < s.pieces.length + 2 then none
      else (embeddedPieces? cs).map fun two => { s with pieces := s.pieces ++ two }
    else if rest.head? = some ':' ∧ rest.length ≠ 1 then
      scanPieces { s with pieces := pieces } (cs.drop (digits.length + 1))
    else none
  termination_by cs.length
  decreasing_by
    all_goals
      have : cs.length ≠ 0 := by simpa using ‹¬cs.isEmpty = true›
      simp only [List.length_drop]
      omega

/-- The pieces of an address, the gap filled with zeros. -/
def Ipv6Scan.filled? (s : Ipv6Scan) : Option (List Nat) :=
  match s.gapEnd with
  | some k =>
      some (s.pieces.take k ++ List.replicate (ipv6Size - s.pieces.length) 0 ++ s.pieces.drop k)
  | none => if s.pieces.length = ipv6Size then some s.pieces else none

/-- Reads what stands between the brackets of an IPv6 address. -/
def ipv6? (cs : List Char) : Except UrlFault (List Nat) :=
  let scanned := match cs with
    | ':' :: ':' :: rest => scanPieces ⟨[0], some 1⟩ rest
    | ':' :: _ => none
    | [] => none
    | [_] => none
    | _ => scanPieces ⟨[], none⟩ cs
  match scanned.bind Ipv6Scan.filled? with
  | some pieces => .ok pieces
  | none => .error .badIpv6

/-- The first of the longest runs of zeros among pieces: where it starts and how long it is. -/
def longestZeroRun (pieces : List Nat) : Nat × Nat :=
  (List.range pieces.length).foldl
    (fun best start =>
      let length := ((pieces.drop start).takeWhile (· == 0)).length
      if best.2 < length then (start, length) else best)
    (0, 0)

def joinPieces (pieces : List Nat) : List Char :=
  List.intercalate [':'] (pieces.map fun n => (Text.hexBytes n).map fun b => Char.ofNat b.toNat)

/-- Writes an IPv6 address: the longest run of at least two zeros becomes `::`. -/
def ipv6Chars (pieces : List Nat) : List Char :=
  let (start, length) := longestZeroRun pieces
  if length < 2 then joinPieces pieces
  else joinPieces (pieces.take start) ++ [':', ':'] ++ joinPieces (pieces.drop (start + length))

end RelayTunnel.Url
