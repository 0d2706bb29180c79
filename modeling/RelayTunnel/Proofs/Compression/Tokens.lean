import Mathlib.Tactic.Common
import RelayTunnel.Compression.Token

/-!
# Tokens describe the text they were made from

A copy is only used for octets that were compared, so writing out the tokens of a block behind any
text adds the block to that text, and no token refers to anything that is not there yet
(`describes_tokenize`).
-/

set_option autoImplicit false

namespace RelayTunnel.Compression

/-- The longest distance that a copy can have. -/
def maxDistance : Nat := 32768

/-- Whether a token can be written out behind a text. -/
def Token.Fits (text : Array UInt8) : Token → Prop
  | .literal _ => True
  | .copy length distance =>
      minCopy ≤ length ∧ length ≤ maxCopy ∧ 1 ≤ distance ∧ distance ≤ maxDistance ∧
        distance ≤ text.size

/-- Tokens that can be written out one after the other, and the text before and after. -/
inductive Describes : Array UInt8 → List Token → Array UInt8 → Prop where
  | nil (text : Array UInt8) : Describes text [] text
  | cons {text text' : Array UInt8} {token : Token} {tokens : List Token} :
      token.Fits text → Describes (token.apply text) tokens text' →
      Describes text (token :: tokens) text'

/-- The octets that were counted were found equal. -/
theorem matchLength_spec (text : Array UInt8) (i j limit : Nat) :
    matchLength text i j limit ≤ limit ∧
      ∀ k < matchLength text i j limit, ∃ octet, text[i + k]? = some octet ∧ text[j + k]? = some octet := by
  induction limit generalizing i j with
  | zero => exact ⟨Nat.le_refl 0, fun k hk => absurd hk (Nat.not_lt_zero k)⟩
  | succ limit ih =>
    rw [matchLength]
    split
    · next a b ha hb =>
      split
      · next hab =>
        obtain rfl : a = b := eq_of_beq hab
        obtain ⟨hle, hequal⟩ := ih (i + 1) (j + 1)
        refine ⟨Nat.succ_le_succ hle, fun k hk => ?_⟩
        cases k with
        | zero => exact ⟨a, ha, hb⟩
        | succ k =>
          have hk' := hequal k (Nat.lt_of_succ_lt_succ hk)
          rwa [Nat.add_right_comm, Nat.add_assoc, Nat.add_right_comm j, Nat.add_assoc j] at hk'
      · exact ⟨Nat.zero_le _, fun k hk => absurd hk (Nat.not_lt_zero k)⟩
    · exact ⟨Nat.zero_le _, fun k hk => absurd hk (Nat.not_lt_zero k)⟩

/-- A token is a literal, or a copy that is long enough. -/
theorem tokenAt_cases {P : Token → Prop} (text : Array UInt8) (i : Nat) (guess : Option Nat)
    (literal : P (.literal (text.getD i 0)))
    (copy : ∀ j, j < i → minCopy ≤ matchLength text j i maxCopy →
      P (.copy (matchLength text j i maxCopy) (i - j))) : P (tokenAt text i guess) := by
  unfold tokenAt
  cases guess with
  | none => exact literal
  | some j =>
    dsimp only
    split
    · next hcopy => exact copy j hcopy.1 hcopy.2
    · exact literal

section WriteOut

variable (prior text : Array UInt8)

/-- A text grows by the octet behind it. -/
theorem push_extract {i : Nat} (h : i < text.size) :
    (prior ++ text.extract 0 i).push text[i] = prior ++ text.extract 0 (i + 1) := by
  rw [← Array.append_push, Array.push_extract_getElem]
  simp

/-- An octet of a block is found as far back as it is from the place that was reached. -/
theorem getD_extract {i distance : Nat} (hi : i ≤ text.size) (hpos : 1 ≤ distance)
    (hle : distance ≤ i) {octet : UInt8} (hoctet : text[i - distance]? = some octet) :
    (prior ++ text.extract 0 i).getD ((prior ++ text.extract 0 i).size - distance) 0 = octet := by
  have hsize : (prior ++ text.extract 0 i).size - distance = prior.size + (i - distance) := by
    rw [Array.size_append, Array.size_extract]
    omega
  have hget : (prior ++ text.extract 0 i)[prior.size + (i - distance)]? = some octet := by
    rw [Array.getElem?_append_right (Nat.le_add_right _ _), Nat.add_sub_cancel_left,
      Array.getElem?_extract, if_pos (by omega), Nat.zero_add]
    exact hoctet
  rw [hsize, Array.getD_eq_getD_getElem?, hget]
  rfl

/-- Copying octets that are equal to those that come next writes those that come next. -/
theorem copyBack_extract {distance : Nat} (hpos : 1 ≤ distance) (length : Nat) {i : Nat}
    (hle : distance ≤ i)
    (hequal : ∀ k < length, ∃ octet,
      text[i - distance + k]? = some octet ∧ text[i + k]? = some octet) :
    copyBack distance length (prior ++ text.extract 0 i) = prior ++ text.extract 0 (i + length) := by
  induction length generalizing i with
  | zero => rfl
  | succ length ih =>
    obtain ⟨octet, hbefore, hnext⟩ := hequal 0 (Nat.succ_pos length)
    rw [Nat.add_zero] at hbefore hnext
    obtain ⟨hi, hget⟩ := Array.getElem?_eq_some_iff.mp hnext
    rw [copyBack, getD_extract prior text (Nat.le_of_lt hi) hpos hle hbefore, ← hget,
      push_extract prior text hi, ih (Nat.le_succ_of_le hle)]
    · rw [Nat.succ_add_eq_add_succ]
    · intro k hk
      obtain ⟨octet', hbefore', hnext'⟩ := hequal (k + 1) (Nat.succ_lt_succ hk)
      refine ⟨octet', ?_, ?_⟩
      · rw [← hbefore']
        congr 1
        omega
      · rw [← hnext']
        congr 1
        omega

/-- The token for a position can be written out there, and it describes the octets that come next. -/
theorem tokenAt_spec (hsize : text.size ≤ maxDistance) {i : Nat} (hi : i < text.size)
    (guess : Option Nat) :
    (tokenAt text i guess).Fits (prior ++ text.extract 0 i) ∧
      (tokenAt text i guess).apply (prior ++ text.extract 0 i) =
        prior ++ text.extract 0 (i + (tokenAt text i guess).width) ∧
      i + (tokenAt text i guess).width ≤ text.size := by
  refine tokenAt_cases
    (P := fun token => token.Fits (prior ++ text.extract 0 i) ∧
      token.apply (prior ++ text.extract 0 i) = prior ++ text.extract 0 (i + token.width) ∧
      i + token.width ≤ text.size) text i guess ?_ ?_
  · refine ⟨trivial, ?_, hi⟩
    rw [Token.apply, Array.getD, dif_pos hi]
    exact push_extract prior text hi
  · intro j hj hmin
    obtain ⟨hmax, hequal⟩ := matchLength_spec text j i maxCopy
    have hback : i - (i - j) = j := Nat.sub_sub_self (Nat.le_of_lt hj)
    have hpos : 1 ≤ i - j := Nat.sub_pos_of_lt hj
    refine ⟨⟨hmin, hmax, hpos, ?_, ?_⟩, ?_, ?_⟩
    · omega
    · rw [Array.size_append, Array.size_extract]
      omega
    · refine copyBack_extract prior text hpos _ (Nat.sub_le i j) ?_
      rwa [hback]
    · -- the last octet of the copy lies in the text
      have hwidth : 0 < matchLength text j i maxCopy := Nat.lt_of_lt_of_le (by decide) hmin
      obtain ⟨_, _, hlast⟩ := hequal _ (Nat.sub_lt hwidth Nat.one_pos)
      have hin := (Array.getElem?_eq_some_iff.mp hlast).1
      show i + matchLength text j i maxCopy ≤ text.size
      omega

/-- From every position on, the tokens describe the rest of the text. -/
theorem describes_tokenizeFrom (hsize : text.size ≤ maxDistance) (i : Nat) (seen : Sightings)
    (done : List Token) (hi : i ≤ text.size) :
    ∃ tokens, tokenizeFrom text i seen done = done.reverse ++ tokens ∧
      Describes (prior ++ text.extract 0 i) tokens (prior ++ text) := by
  induction i, seen, done using tokenizeFrom.induct text with
  | case1 i seen done hlt token ih =>
    obtain ⟨hfits, happly, hle⟩ := tokenAt_spec prior text hsize hlt (seen.guess? text i)
    obtain ⟨tokens, htokens, hdescribes⟩ := ih hle
    rw [tokenizeFrom, if_pos hlt]
    refine ⟨token :: tokens, ?_, .cons hfits ?_⟩
    · rw [htokens, List.reverse_cons, List.append_assoc]
      rfl
    · rwa [happly]
  | case2 i seen done hge =>
    have heq : i = text.size := by omega
    rw [tokenizeFrom, if_neg hge]
    refine ⟨[], (List.append_nil _).symm, ?_⟩
    rw [heq, Array.extract_size]
    exact .nil _

/-- Writing out the tokens of a block behind any text adds the block to the text. -/
theorem describes_tokenize (hsize : text.size ≤ maxDistance) :
    Describes prior (tokenize text) (prior ++ text) := by
  obtain ⟨tokens, htokens, hdescribes⟩ :=
    describes_tokenizeFrom prior text hsize 0 .none [] (Nat.zero_le _)
  rw [tokenize, htokens]
  simpa using hdescribes

end WriteOut

end RelayTunnel.Compression
