/-!
# Punycode

Writes a label of arbitrary characters with ASCII letters, digits and hyphens. The ASCII characters
come first; the others follow as increments of a counter that runs through all pairs of a code point
and a position, each written as a number of variable length whose digits adapt to the numbers before.
-/

set_option autoImplicit false

namespace RelayTunnel.Url.Punycode

def base : Nat := 36
def tMin : Nat := 1
def tMax : Nat := 26
def skew : Nat := 38
def damp : Nat := 700
def initialBias : Nat := 72
def initialCodePoint : Nat := 0x80

/-- Divides a delta down until it is small, and counts the divisions. -/
def shrink (delta k : Nat) : Nat × Nat :=
  if _h : (base - tMin) * tMax / 2 < delta then
    shrink (delta / (base - tMin)) (k + base)
  else (delta, k)
  termination_by delta
  decreasing_by
    simp only [base, tMin, tMax] at _h ⊢
    omega

/-- The bias after a delta has been written. -/
def adapt (delta points : Nat) (first : Bool) : Nat :=
  let delta := if first then delta / damp else delta / 2
  let (delta, k) := shrink (delta + delta / points) 0
  k + (base - tMin + 1) * delta / (delta + skew)

/-- The threshold of the digit at position `k`. -/
def threshold (k bias : Nat) : Nat :=
  if k ≤ bias + tMin then tMin else if bias + tMax ≤ k then tMax else k - bias

def digitChar (d : Nat) : Char := Char.ofNat (if d < 26 then 0x61 + d else 0x30 + (d - 26))

/-- The value of a digit, letters in either case. -/
def digit? (c : Char) : Option Nat :=
  if c.isLower then some (c.toNat - 0x61)
  else if c.isUpper then some (c.toNat - 0x41)
  else if c.isDigit then some (c.toNat - 0x30 + 26)
  else none

/-- A threshold is never greater than 26. -/
theorem threshold_le (k bias : Nat) : threshold k bias ≤ 26 := by
  unfold threshold tMin tMax
  split
  · omega
  · split <;> omega

/-- The digits of a number from position `k` on. -/
def digits (q k bias : Nat) : List Char :=
  if _h : q < threshold k bias then [digitChar q]
  else
    let t := threshold k bias
    digitChar (t + (q - t) % (base - t)) :: digits ((q - t) / (base - t)) (k + base) bias
  termination_by q
  decreasing_by
    have ht : 1 ≤ threshold k bias := by
      unfold threshold tMin tMax
      split
      · omega
      · split <;> omega
    have hle := threshold_le k bias
    have : (q - threshold k bias) / (base - threshold k bias) ≤ q - threshold k bias :=
      Nat.div_le_self _ _
    omega

/-- The counters of a run over a label. -/
structure Encoder where
  delta : Nat
  bias : Nat
  /-- How many characters have been written. -/
  handled : Nat
  first : Bool
  /-- The digits so far. -/
  out : List Char

/-- Passes one character of the label in the round for code point `n`. -/
def Encoder.pass (n : Nat) (s : Encoder) (c : Char) : Encoder :=
  if c.toNat < n then { s with delta := s.delta + 1 }
  else if c.toNat = n then
    { delta := 0, bias := adapt s.delta (s.handled + 1) s.first, handled := s.handled + 1,
      first := false, out := s.out ++ digits s.delta base s.bias }
  else s

/-- One round for each code point of the label beyond ASCII, smallest first. -/
def rounds (label : List Char) (s : Encoder) (n : Nat) : List Nat → Encoder
  | [] => s
  | m :: more =>
      let s := { s with delta := s.delta + (m - n) * (s.handled + 1) }
      let s := label.foldl (Encoder.pass m) s
      rounds label { s with delta := s.delta + 1 } (m + 1) more

def encode (label : List Char) : List Char :=
  let basic := label.filter fun c => c.toNat < initialCodePoint
  let others := (label.filter fun c => !(c.toNat < initialCodePoint)).map Char.toNat
  let lead := if basic.isEmpty then [] else basic ++ ['-']
  let points := (others.mergeSort (· ≤ ·)).eraseReps
  (rounds label ⟨0, initialBias, basic.length, true, lead⟩ initialCodePoint points).out

/-- Reads one number: its value and what follows it. -/
def readNumber (value weight k bias : Nat) : List Char → Option (Nat × List Char)
  | [] => none
  | c :: cs => do
      let d ← digit? c
      let value := value + d * weight
      let t := threshold k bias
      if UInt32.size ≤ value then none
      else if d < t then some (value, cs)
      else readNumber value (weight * (base - t)) (k + base) bias cs

/-- To read a number takes characters off. -/
theorem readNumber_length {value weight k bias : Nat} {cs rest : List Char} {n : Nat}
    (h : readNumber value weight k bias cs = some (n, rest)) : rest.length < cs.length := by
  induction cs generalizing value weight k with
  | nil => simp [readNumber] at h
  | cons c cs ih =>
    unfold readNumber at h
    cases hd : digit? c with
    | none => simp [hd] at h
    | some d =>
      simp only [hd, Option.bind_eq_bind, Option.bind_some] at h
      split at h
      · simp at h
      · split at h
        · simp only [Option.some.injEq, Prod.mk.injEq] at h
          simp [h.2]
        · exact Nat.lt_succ_of_lt (ih h)

/-- Reads the numbers behind the ASCII characters and inserts the characters they stand for. -/
def insertions (output : List Char) (n i bias : Nat) (cs : List Char) : Option (List Char) :=
  if cs.isEmpty then some output
  else match _h : readNumber i 1 base bias cs with
    | none => none
    | some (j, rest) =>
        let points := output.length + 1
        let bias := adapt (j - i) points (i == 0)
        let n := n + j / points
        let position := j % points
        if n.isValidChar then
          insertions (output.take position ++ [Char.ofNat n] ++ output.drop position) n
            (position + 1) bias rest
        else none
  termination_by cs.length
  decreasing_by exact readNumber_length _h

def decode? (cs : List Char) : Option (List Char) :=
  let (basic, rest) := match cs.reverse.idxOf? '-' with
    | some k => (cs.take (cs.length - k - 1), cs.drop (cs.length - k))
    | none => ([], cs)
  if basic.all fun c => c.toNat < initialCodePoint then
    insertions basic initialCodePoint 0 initialBias rest
  else none

end RelayTunnel.Url.Punycode
