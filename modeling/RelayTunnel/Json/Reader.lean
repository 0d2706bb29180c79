import RelayTunnel.Text.Numeral
import RelayTunnel.Text.Utf8

/-!
# Reading JSON

Readers take values of an expected type off the front of an octet string. The first thing that is
wrong decides the error: the text is not JSON (`syntaxFault`), it is JSON but of another type than
expected (`typeFault`), or it ends too early (`endFault`).

A reader never gives back more octets than it was given; its result carries the proof, so loops over
members and elements can be seen to end.
-/

set_option autoImplicit false

namespace RelayTunnel.Json

/-- Why a text could not be read. -/
inductive JsonFault where
  | syntaxFault
  | typeFault
  | endFault
  deriving DecidableEq

/-- A value and what follows it. -/
structure Read (α : Type) (input : Bytes) where
  value : α
  rest : Bytes
  shorter : rest.length ≤ input.length

def Reader (α : Type) : Type := (input : Bytes) → Except JsonFault (Read α input)

namespace Reader

variable {α β : Type}

def pure (value : α) : Reader α := fun input => .ok ⟨value, input, Nat.le_refl _⟩

def fail (fault : JsonFault) : Reader α := fun _ => .error fault

/-- Reads with one reader and then with the next. -/
def bind (first : Reader α) (next : α → Reader β) : Reader β := fun input =>
  match first input with
  | .error fault => .error fault
  | .ok a =>
      match next a.value a.rest with
      | .error fault => .error fault
      | .ok b => .ok ⟨b.value, b.rest, Nat.le_trans b.shorter a.shorter⟩

instance : Monad Reader where
  pure := Reader.pure
  bind := Reader.bind

/-- The next octet, which is left where it is. -/
def peek : Reader (Option UInt8) := fun input => .ok ⟨input.head?, input, Nat.le_refl _⟩

def advance (n : Nat) : Reader Unit := fun input =>
  .ok ⟨(), input.drop n, by simp⟩

def isBlank (b : UInt8) : Bool := b == 0x20 || b == 0x0A || b == 0x09 || b == 0x0D

/-- Drops octets that satisfy `p` and gives them back. -/
def takeWhile (p : UInt8 → Bool) : Reader Bytes := fun input =>
  .ok ⟨input.takeWhile p, input.dropWhile p, (List.dropWhile_sublist p).length_le⟩

/-- The first octet behind white space, which is left where it is. -/
def token : Reader (Option UInt8) := do
  let _ ← takeWhile isBlank
  peek

/-- Repeats a step until it gives a result. A step that goes on has to take octets away, which makes
the repetition end; one that does not counts as a fault. -/
def repeatUntil {σ α : Type} (step : σ → Reader (σ ⊕ α)) (state : σ) (input : Bytes) :
    Except JsonFault (Read α input) :=
  match step state input with
  | .error fault => .error fault
  | .ok ⟨.inr result, rest, h⟩ => .ok ⟨result, rest, h⟩
  | .ok ⟨.inl state, rest, h⟩ =>
      if _shrinks : rest.length < input.length then
        match repeatUntil step state rest with
        | .error fault => .error fault
        | .ok ⟨result, rest', h'⟩ => .ok ⟨result, rest', Nat.le_trans h' h⟩
      else .error .syntaxFault
  termination_by input.length

end Reader

open Reader

def quote : UInt8 := 0x22
def backslash : UInt8 := 0x5C
def openBrace : UInt8 := 0x7B
def closeBrace : UInt8 := 0x7D
def openBracket : UInt8 := 0x5B
def closeBracket : UInt8 := 0x5D

/-! ### Strings -/

/-- The number that four hexadecimal digits spell. -/
def hex4 : Reader Nat := fun input =>
  match input with
  | a :: b :: c :: d :: rest =>
      match Ascii.hexValue? a, Ascii.hexValue? b, Ascii.hexValue? c, Ascii.hexValue? d with
      | some a, some b, some c, some d =>
          .ok ⟨((a * 16 + b) * 16 + c) * 16 + d, rest, by simp; omega⟩
      | _, _, _, _ => .error .syntaxFault
  | _ => .error .endFault

def exactly (b : UInt8) : Reader Unit := do
  match ← peek with
  | none => fail .endFault
  | some c => if c == b then advance 1 else fail .syntaxFault

/-- A character written as one or, beyond the basic plane, two groups of four digits. -/
def unicodeEscape : Reader Bytes := do
  let high ← hex4
  if 0xDC00 ≤ high ∧ high ≤ 0xDFFF then fail .syntaxFault
  else if high < 0xD800 ∨ 0xDBFF < high then
    return Text.Utf8.encode [Char.ofNat high]
  else
    exactly backslash
    exactly 0x75
    let low ← hex4
    if low < 0xDC00 ∨ 0xDFFF < low then fail .syntaxFault
    else return Text.Utf8.encode [Char.ofNat (0x10000 + (high - 0xD800) * 1024 + (low - 0xDC00))]

/-- The octet behind a backslash and the octet it stands for. -/
def shortEscapes : List (UInt8 × UInt8) :=
  [(quote, quote), (backslash, backslash), (0x2F, 0x2F), (0x62, 0x08), (0x66, 0x0C), (0x6E, 0x0A),
    (0x72, 0x0D), (0x74, 0x09)]

/-- What an escape stands for; the backslash has been read. If the string is `ignored`, surrogates
need not come in pairs. -/
def escape (ignored : Bool) : Reader Bytes := do
  match ← peek with
  | none => fail .endFault
  | some b =>
      advance 1
      match shortEscapes.lookup b with
      | some c => return [c]
      | none =>
          if b == 0x75 then
            if ignored then do
              let _ ← hex4
              return []
            else unicodeEscape
          else fail .syntaxFault

/-- The octets of a string up to its closing quote; the opening quote has been read. -/
def stringOctets (ignored : Bool) (input : Bytes) : Except JsonFault (Read Bytes input) :=
  match input with
  | [] => .error .endFault
  | b :: rest =>
      if b == quote then .ok ⟨[], rest, by simp⟩
      else if b == backslash then
        match escape ignored rest with
        | .error fault => .error fault
        | .ok e =>
            match stringOctets ignored e.rest with
            | .error fault => .error fault
            | .ok s => .ok ⟨e.value ++ s.value, s.rest,
                Nat.le_succ_of_le (Nat.le_trans s.shorter e.shorter)⟩
      else if b < 0x20 then .error .syntaxFault
      else
        match stringOctets ignored rest with
        | .error fault => .error fault
        | .ok s => .ok ⟨b :: s.value, s.rest, Nat.le_succ_of_le s.shorter⟩
  termination_by input.length
  decreasing_by
    · exact Nat.lt_succ_of_le e.shorter
    · simp

/-- A string whose opening quote has been read. -/
def stringTail : Reader String := do
  let octets ← stringOctets false
  match Text.Utf8.toString? octets with
  | some s => return s
  | none => fail .syntaxFault

/-! ### Literals and numbers -/

/-- Reads the octets of a literal one by one. -/
def literal : Bytes → Reader Unit
  | [] => return ()
  | b :: bs => do
      exactly b
      literal bs

/-- A number: a whole number that is not negative, or any other. -/
inductive Number where
  | natural (n : Nat)
  | other
  deriving DecidableEq

/-- Whole numbers from here on do not count as whole. -/
def naturalBound : Nat := UInt64.size

/-- From here on, a number is too large for any floating-point value. -/
def floatBound : Nat := Nat.pow 2 1024 - Nat.pow 2 970

def digitsValue (digits : Bytes) : Nat :=
  digits.foldl (fun n b => n * 10 + (b.toNat - 0x30)) 0

/-- Whether `mantissa · 10 ^ exponent` reaches `floatBound`. Sizes that decide the question by their
number of digits are not computed. -/
def reachesFloatBound (mantissa : Nat) (exponent : Int) : Bool :=
  let size := (Text.decimalChars mantissa).length + exponent
  if mantissa = 0 ∨ size < 309 then false
  else if 309 < size then true
  else if 0 ≤ exponent then floatBound ≤ mantissa * Nat.pow 10 exponent.toNat
  else floatBound * Nat.pow 10 (-exponent).toNat ≤ mantissa

/-- Decimal digits, at least one. Where there is none, the text may also have ended; in a number that
is `ignored` that makes no difference. -/
def digits1 (ignored : Bool) : Reader Bytes := do
  let digits ← takeWhile Ascii.isDigit
  if digits.isEmpty then
    match ← peek with
    | none => fail (if ignored then .syntaxFault else .endFault)
    | some _ => fail .syntaxFault
  else return digits

/-- The exponent of a number, if there is one. -/
def exponentPart (ignored : Bool) : Reader (Option Int) := do
  match ← peek with
  | some b =>
      if b == 0x65 || b == 0x45 then
        advance 1
        let sign ← peek
        if sign == some 0x2B || sign == some 0x2D then advance 1
        let digits ← digits1 ignored
        let n : Int := digitsValue digits
        return some (if sign == some 0x2D then -n else n)
      else return none
  | none => return none

/-- The digits behind the point of a number, if there is one. -/
def fractionPart (ignored : Bool) : Reader (Option Bytes) := do
  match ← peek with
  | some b =>
      if b == 0x2E then
        advance 1
        let digits ← digits1 ignored
        return some digits
      else return none
  | none => return none

/-- The written parts of a number without its sign. -/
structure NumberParts where
  whole : Bytes
  fraction : Option Bytes
  exponent : Option Int

/-- A number without its sign. It does not begin with more than one digit if the first is zero. -/
def numberParts (ignored : Bool) : Reader NumberParts := do
  let whole ← digits1 ignored
  if 1 < whole.length ∧ whole.head? = some 0x30 then fail .syntaxFault
  else
    let fraction ← fractionPart ignored
    let exponent ← exponentPart ignored
    return ⟨whole, fraction, exponent⟩

/-- A number without its sign, of a size that some floating-point value has. -/
def unsignedNumber (negative : Bool) : Reader Number := do
  let parts ← numberParts false
  let mantissa := digitsValue (parts.whole ++ parts.fraction.getD [])
  if reachesFloatBound mantissa (parts.exponent.getD 0 - (parts.fraction.getD []).length) then
    fail .syntaxFault
  else if negative ∨ parts.fraction.isSome ∨ parts.exponent.isSome ∨ naturalBound ≤ mantissa then
    return .other
  else return .natural mantissa

def number? : Reader (Option Number) := do
  match ← peek with
  | some b =>
      if b == 0x2D then
        advance 1
        return some (← unsignedNumber true)
      else if Ascii.isDigit b then return some (← unsignedNumber false)
      else return none
  | none => return none

/-! ### Values of an expected type -/

/-- Fails for a value that is not of the expected type. A literal, number or string is read first, so
that a fault in it comes before the wrong type. -/
def wrongType {α : Type} : Reader α := do
  match ← peek with
  | none => fail .endFault
  | some b =>
      if b == 0x6E then
        literal (Ascii.bytes "null")
        fail .typeFault
      else if b == 0x74 then
        literal (Ascii.bytes "true")
        fail .typeFault
      else if b == 0x66 then
        literal (Ascii.bytes "false")
        fail .typeFault
      else if b == quote then
        advance 1
        let _ ← stringTail
        fail .typeFault
      else if b == openBracket || b == openBrace then fail .typeFault
      else
        match ← number? with
        | some _ => fail .typeFault
        | none => fail .syntaxFault

def string : Reader String := do
  if (← token) == some quote then
    advance 1
    stringTail
  else wrongType

def bool : Reader Bool := do
  match ← token with
  | some 0x74 =>
      literal (Ascii.bytes "true")
      return true
  | some 0x66 =>
      literal (Ascii.bytes "false")
      return false
  | _ => wrongType

def natural (bound : Nat) : Reader Nat := do
  let _ ← token
  match ← number? with
  | some (.natural n) => if n < bound then return n else fail .typeFault
  | some .other => fail .typeFault
  | none => wrongType

/-! ### Members and elements -/

/-- The next key of an object up to its colon, or none at the closing brace. -/
def nextKey? (first : Bool) : Reader (Option String) := do
  match ← token with
  | none => fail .endFault
  | some b =>
      if b == closeBrace then return none
      else
        if !first then
          if b == Ascii.comma then advance 1 else fail .syntaxFault
        match ← token with
        | none => fail .endFault
        | some b =>
            if b == quote then
              advance 1
              return some (← stringTail)
            else fail .syntaxFault

def colon : Reader Unit := do
  match ← token with
  | none => fail .endFault
  | some b => if b == Ascii.colon then advance 1 else fail .syntaxFault

/-- Whether another element follows in an array. The comma before it is read, a closing bracket is
not. -/
def hasElement (first : Bool) : Reader Bool := do
  match ← token with
  | none => fail .endFault
  | some b =>
      if b == closeBracket then return false
      else if first then return true
      else if b == Ascii.comma then
        advance 1
        match ← token with
        | none => fail .endFault
        | some b => if b == closeBracket then fail .syntaxFault else return true
      else fail .syntaxFault

def close (mark : UInt8) : Reader Unit := do
  match ← token with
  | none => fail .endFault
  | some b => if b == mark then advance 1 else fail .syntaxFault

/-- Reads the members of an object and folds them into a value. `member` is given the key and reads
the rest of the member, colon included. -/
def foldMembers {σ : Type} (member : String → σ → Reader σ) (start : σ) : Reader σ :=
  repeatUntil (fun (first, state) => do
    match ← nextKey? first with
    | none => return .inr state
    | some key => return .inl (false, ← member key state)) (true, start)

end RelayTunnel.Json
