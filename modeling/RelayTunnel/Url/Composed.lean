import RelayTunnel.Url.Property

/-!
# Composed form

Two spellings of the same letter, precomposed or as a base with combining marks, have one composed
form. `compose` takes characters apart, puts marks into canonical order and puts together whatever
composes. Hangul syllables are composed by arithmetic, all other characters by table.
-/

set_option autoImplicit false

namespace RelayTunnel.Url.Composed

def hangulBase : Nat := 0xAC00
def leadBase : Nat := 0x1100
def vowelBase : Nat := 0x1161
def tailBase : Nat := 0x11A7
def leadCount : Nat := 19
def vowelCount : Nat := 21
def tailCount : Nat := 28
def hangulCount : Nat := leadCount * vowelCount * tailCount

/-- The pair a character is composed of. -/
def pair? (c : Char) : Option (Char × Char) :=
  let n := c.toNat
  if hangulBase ≤ n ∧ n < hangulBase + hangulCount then
    let s := n - hangulBase
    if s % tailCount = 0 then
      some (Char.ofNat (leadBase + s / (vowelCount * tailCount)),
        Char.ofNat (vowelBase + s % (vowelCount * tailCount) / tailCount))
    else some (Char.ofNat (n - s % tailCount), Char.ofNat (tailBase + s % tailCount))
  else match Run.at? Property.compositions n with
    | some run =>
        match run.numbers with
        | [a, b] => if run.start = n then some (Char.ofNat a, Char.ofNat b) else none
        | _ => none
    | none => none

def composite? (a b : Char) : Option Char :=
  let m := a.toNat
  let n := b.toNat
  if leadBase ≤ m ∧ m < leadBase + leadCount ∧ vowelBase ≤ n ∧ n < vowelBase + vowelCount then
    some (Char.ofNat (hangulBase + ((m - leadBase) * vowelCount + (n - vowelBase)) * tailCount))
  else if hangulBase ≤ m ∧ m < hangulBase + hangulCount ∧ (m - hangulBase) % tailCount = 0
      ∧ tailBase < n ∧ n < tailBase + tailCount then
    some (Char.ofNat (m + (n - tailBase)))
  else
    (Property.compositions.find? fun run => run.numbers == [m, n]).map fun run =>
      Char.ofNat run.start

/-- A character taken apart; no character comes apart in more than `depth` steps. -/
def decompose (depth : Nat) (c : Char) : List Char :=
  match depth with
  | 0 => [c]
  | depth + 1 =>
      match pair? c with
      | some (a, b) => decompose depth a ++ [b]
      | none => [c]

/-- The most steps in which a character comes apart. -/
def maxDepth : Nat := 4

/-- Puts a character behind a text in reverse, before the marks of a higher class. -/
def insertMark (c : Char) : List Char → List Char
  | [] => [c]
  | d :: before =>
      if Property.combiningClass c ≠ 0 ∧ Property.combiningClass c < Property.combiningClass d then
        d :: insertMark c before
      else c :: d :: before

/-- Puts the marks of a text into canonical order. -/
def order (cs : List Char) : List Char := (cs.foldl (fun before c => insertMark c before) []).reverse

/-- A text being composed: what is done, the base that marks may still join, and the marks behind
it, each list last one first. -/
structure Composing where
  done : List Char
  base : Option Char
  marks : List Char

/-- Everything that has been read, in reverse. -/
def Composing.all (s : Composing) : List Char := s.marks ++ s.base.toList ++ s.done

/-- Reads one character. It joins the base if the two compose and no mark between them blocks it. -/
def Composing.step (s : Composing) (c : Char) : Composing :=
  let blocked := match s.marks with
    | [] => false
    | last :: _ => Property.combiningClass c ≤ Property.combiningClass last
  let joined := if blocked then none else s.base.bind fun b => composite? b c
  match joined with
  | some d => { s with base := some d }
  | none =>
      if Property.combiningClass c = 0 then ⟨s.all, some c, []⟩
      else { s with marks := c :: s.marks }

def compose (cs : List Char) : List Char :=
  ((order (cs.flatMap (decompose maxDepth))).foldl Composing.step ⟨[], none, []⟩).all.reverse

end RelayTunnel.Url.Composed
