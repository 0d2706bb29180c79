import Mathlib.Algebra.Ring.Nat
import Mathlib.Tactic.Common
import RelayTunnel.Compression.Bits

/-!
# Bit strings and octets

Numbers are read back from their bits, and bit strings from the octets they are packed into. The last
octet of a packed bit string may have bits behind the string, but fewer than eight.
-/

set_option autoImplicit false

namespace RelayTunnel.Compression.Bits

/-- A number is written with as many bits as asked for. -/
@[simp] theorem length_ofNat (width n : Nat) : (ofNat width n).length = width := by
  induction width generalizing n with
  | zero => rfl
  | succ width ih => rw [ofNat, List.length_cons, ih]

/-- A number that fits is read again from its bits. -/
theorem toNat_ofNat {width n : Nat} (h : n < 2 ^ width) : toNat (ofNat width n) = n := by
  induction width generalizing n with
  | zero =>
    have hzero : n = 0 := Nat.lt_one_iff.mp h
    rw [hzero]
    rfl
  | succ width ih =>
    have hhalf : n / 2 < 2 ^ width := by
      rw [Nat.pow_succ] at h
      omega
    rw [ofNat, toNat, ih hhalf]
    by_cases hodd : n % 2 = 1
    · simp only [hodd, beq_self_eq_true, if_true]
      omega
    · have heven : n % 2 = 0 := by omega
      simp only [heven]
      show 0 + 2 * (n / 2) = n
      omega

/-- A number made from bits fits into as many of them. -/
theorem toNat_lt (bits : Bits) : toNat bits < 2 ^ bits.length := by
  induction bits with
  | nil => exact Nat.one_pos
  | cons b bits ih =>
    rw [toNat, List.length_cons, Nat.pow_succ]
    cases b
    · simp only [Bool.false_eq_true, if_false]
      omega
    · simp only [if_true]
      omega

/-- The lowest bit of a number stands first. -/
theorem ofNat_succ_toNat_cons (width : Nat) (b : Bool) (bits : Bits) :
    ofNat (width + 1) (toNat (b :: bits)) = b :: ofNat width (toNat bits) := by
  rw [ofNat, toNat]
  cases b
  · simp
  · have hmod : (1 + 2 * toNat bits) % 2 = 1 := by omega
    have hdiv : (1 + 2 * toNat bits) / 2 = toNat bits := by omega
    simp only [if_true, hmod, hdiv, beq_self_eq_true]

/-- Writing out a number made from bits gives these bits and zeros behind them. -/
theorem ofNat_add_toNat (bits : Bits) (more : Nat) :
    ofNat (bits.length + more) (toNat bits) = bits ++ List.replicate more false := by
  induction bits with
  | nil =>
    rw [List.length_nil, Nat.zero_add, toNat, List.nil_append]
    induction more with
    | zero => rfl
    | succ more ih =>
      rw [ofNat, List.replicate_succ]
      exact congrArg (false :: ·) ih
  | cons b bits ih =>
    have hlength : (b :: bits).length + more = bits.length + more + 1 := by
      rw [List.length_cons]
      omega
    rw [hlength, ofNat_succ_toNat_cons, ih, List.cons_append]

/-- The bits of an octet made from at most eight bits are these bits and zeros. -/
theorem ofOctet_toNat {bits : Bits} (h : bits.length ≤ 8) :
    ofOctet (toNat bits).toUInt8 = bits ++ List.replicate (8 - bits.length) false := by
  have hlt : toNat bits < 256 :=
    Nat.lt_of_lt_of_le (toNat_lt bits) (Nat.pow_le_pow_right (by decide) h)
  have hvalue : (toNat bits).toUInt8.toNat = toNat bits := by
    simpa using hlt
  have hlength : 8 = bits.length + (8 - bits.length) := by omega
  rw [ofOctet, hvalue, hlength, ofNat_add_toNat, ← hlength]

/-! ## Packing -/

/-- The bits of octets, one after the other. -/
def ofOctets (octets : Bytes) : Bits := octets.flatMap ofOctet

/-- No octets have no bits. -/
@[simp] theorem ofOctets_nil : ofOctets [] = [] := rfl

/-- The bits of the first octet stand first. -/
@[simp] theorem ofOctets_cons (b : UInt8) (octets : Bytes) :
    ofOctets (b :: octets) = ofOctet b ++ ofOctets octets := List.flatMap_cons

/-- The bits of two strings of octets stand one behind the other. -/
@[simp] theorem ofOctets_append (front behind : Bytes) :
    ofOctets (front ++ behind) = ofOctets front ++ ofOctets behind := List.flatMap_append

/-- An octet has eight bits. -/
@[simp] theorem length_ofOctet (b : UInt8) : (ofOctet b).length = 8 := length_ofNat 8 _

/-- Packing keeps the bits, and fewer than eight are left over. -/
theorem packOnto_spec (done : Bytes) (bits : Bits) :
    ofOctets (packOnto done bits).1 ++ (packOnto done bits).2 = ofOctets done.reverse ++ bits ∧
      (packOnto done bits).2.length < 8 := by
  induction done, bits using packOnto.induct with
  | case1 done b0 b1 b2 b3 b4 b5 b6 b7 rest ih =>
    have hoctet : ofOctet (toNat [b0, b1, b2, b3, b4, b5, b6, b7]).toUInt8 =
        [b0, b1, b2, b3, b4, b5, b6, b7] ++ List.replicate 0 false :=
      ofOctet_toNat (Nat.le_refl 8)
    rw [packOnto]
    refine ⟨?_, ih.2⟩
    rw [ih.1, List.reverse_cons, ofOctets_append, ofOctets_cons, ofOctets_nil, hoctet]
    simp
  | case2 done bits hshort =>
    rw [packOnto]
    · refine ⟨rfl, ?_⟩
      rcases bits with _ | ⟨b0, _ | ⟨b1, _ | ⟨b2, _ | ⟨b3, _ | ⟨b4, _ | ⟨b5, _ | ⟨b6, _ | ⟨b7, rest⟩⟩⟩⟩⟩⟩⟩⟩
      · simp
      · simp
      · simp
      · simp
      · simp
      · simp
      · simp
      · simp
      · exact (hshort b0 b1 b2 b3 b4 b5 b6 b7 rest rfl).elim
    · exact hshort

/-- Packing loses no bit, and fewer than eight bits are left over. -/
theorem pack_spec (bits : Bits) :
    ofOctets (pack bits).1 ++ (pack bits).2 = bits ∧ (pack bits).2.length < 8 :=
  packOnto_spec [] bits

/-- Fewer than eight zeros fill up the last octet. -/
theorem ofOctets_packAll (bits : Bits) :
    ∃ missing, missing < 8 ∧ ofOctets (packAll bits) = bits ++ List.replicate missing false := by
  obtain ⟨hbits, hshort⟩ := pack_spec bits
  rw [packAll]
  dsimp only
  split
  · next hempty =>
    refine ⟨0, by decide, ?_⟩
    rw [List.isEmpty_iff.mp hempty, List.append_nil] at hbits
    rw [hbits, List.replicate_zero, List.append_nil]
  · next hleft =>
    have hpos : 0 < (pack bits).2.length := by
      refine List.length_pos_iff.mpr fun hnil => hleft ?_
      rw [hnil]
      rfl
    refine ⟨8 - (pack bits).2.length, by omega, ?_⟩
    rw [ofOctets_append, ofOctets_cons, ofOctet_toNat (Nat.le_of_lt hshort), ofOctets_nil,
      List.append_nil, ← List.append_assoc, hbits]

end RelayTunnel.Compression.Bits
