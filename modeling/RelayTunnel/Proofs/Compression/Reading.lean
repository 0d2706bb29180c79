import Mathlib.Algebra.Ring.Nat
import Mathlib.Tactic.Common
import RelayTunnel.Compression.Deflate
import RelayTunnel.Proofs.Compression.BitStrings
import RelayTunnel.Proofs.Compression.Tokens

/-!
# Reading back what was written

The machine that reads compressed text is run over the bits of one thing at a time: a symbol, the
length and the distance of a copy, a token, a block. Each run ends in front of the next thing, with
the text grown by what the token or the block describes (`foldl_bit_blockBits`).
-/

set_option autoImplicit false

namespace RelayTunnel.Compression

namespace FixedCode

/-! ## Ranges -/

/-- Whether each range of a table reaches up to the next one, and the last one up to a limit. -/
def reaches (limit : Nat) : List (Nat × Nat) → Bool
  | [] => true
  | [range] => limit ≤ range.1 + 2 ^ range.2
  | range :: next :: table => next.1 ≤ range.1 + 2 ^ range.2 && reaches limit (next :: table)

/-- The table of lengths covers all lengths of a copy. -/
theorem reaches_lengths : reaches 259 lengths = true := by decide

/-- The table of distances covers all distances of a copy. -/
theorem reaches_distances : reaches 32769 distances = true := by decide

/-- The range of a value that is covered by a table has the value in it. -/
theorem rangeOf_spec {limit value : Nat} {first : Nat × Nat} {table : List (Nat × Nat)}
    (hreaches : reaches limit (first :: table) = true) (hfirst : first.1 ≤ value)
    (hlimit : value < limit) :
    (first :: table)[(rangeOf (first :: table) value).1]? = some (rangeOf (first :: table) value).2 ∧
      (rangeOf (first :: table) value).2.1 ≤ value ∧
      value - (rangeOf (first :: table) value).2.1 < 2 ^ (rangeOf (first :: table) value).2.2 := by
  induction table generalizing first with
  | nil =>
    have hlast : limit ≤ first.1 + 2 ^ first.2 := by simpa [reaches] using hreaches
    have hrange : rangeOf [first] value = (0, first) := by simp [rangeOf, hfirst]
    rw [hrange]
    refine ⟨rfl, hfirst, ?_⟩
    show value - first.1 < 2 ^ first.2
    omega
  | cons next table ih =>
    have hsplit : next.1 ≤ first.1 + 2 ^ first.2 ∧ reaches limit (next :: table) = true := by
      simpa [reaches] using hreaches
    by_cases hnext : next.1 ≤ value
    · have hrange : rangeOf (first :: next :: table) value =
          ((rangeOf (next :: table) value).1 + 1, (rangeOf (next :: table) value).2) := by
        simp [rangeOf, hfirst, hnext]
      rw [hrange]
      exact ih hsplit.2 hnext
    · have hrange : rangeOf (first :: next :: table) value = (0, first) := by
        simp [rangeOf, hfirst, hnext]
      rw [hrange]
      refine ⟨rfl, hfirst, ?_⟩
      show value - first.1 < 2 ^ first.2
      omega

/-- A length of a copy lies in its range, and its offset fits into the extra bits. -/
theorem rangeOf_lengths {length : Nat} (hmin : minCopy ≤ length) (hmax : length ≤ maxCopy) :
    lengths[(rangeOf lengths length).1]? = some (rangeOf lengths length).2 ∧
      (rangeOf lengths length).2.1 ≤ length ∧
      length - (rangeOf lengths length).2.1 < 2 ^ (rangeOf lengths length).2.2 :=
  rangeOf_spec reaches_lengths hmin (Nat.lt_succ_of_le hmax)

/-- So does a distance. -/
theorem rangeOf_distances {distance : Nat} (hmin : 1 ≤ distance) (hmax : distance ≤ 32768) :
    distances[(rangeOf distances distance).1]? = some (rangeOf distances distance).2 ∧
      (rangeOf distances distance).2.1 ≤ distance ∧
      distance - (rangeOf distances distance).2.1 < 2 ^ (rangeOf distances distance).2.2 :=
  rangeOf_spec reaches_distances hmin (Nat.lt_succ_of_le hmax)

/-! ## Codes -/

/-- The symbol whose code bits spell, `width` bits with the given value having been read before. -/
def spelled? (width value : Nat) : Bits → Option Nat
  | [] => none
  | b :: bits =>
      match symbol? (width + 1) (value * 2 + if b then 1 else 0) with
      | some symbol => if bits.isEmpty then some symbol else none
      | none =>
          if width + 1 < maxWidth then spelled? (width + 1) (value * 2 + if b then 1 else 0) bits
          else none

/-- No code is the beginning of another one, and every symbol has a code. -/
theorem spelled?_symbolBits : ∀ symbol < 286, spelled? 0 0 (symbolBits symbol) = some symbol := by
  decide +kernel

/-- The number that bits spell, most significant first. -/
def codeValue (bits : Bits) : Nat := bits.foldl (fun value b => value * 2 + if b then 1 else 0) 0

/-- The code of a distance is its index. -/
theorem codeValue_ofCode : ∀ index < 32, codeValue (Bits.ofCode distanceWidth index) = index := by
  decide

end FixedCode

namespace Inflater

open FixedCode

/-- What a symbol does, does not depend on the phase. -/
theorem symbolOf_phase (s : Inflater) (phase : InflatePhase) (symbol : Nat) :
    ({ s with phase := phase } : Inflater).symbolOf symbol = s.symbolOf symbol := by
  rw [symbolOf, symbolOf]
  split
  · rfl
  · split
    · rfl
    · cases lengths[symbol - 257]? with
      | none => rfl
      | some range => simp only [lengthExtraOf]

/-- Reading the code of a symbol leads to what the symbol does. -/
theorem foldl_bit_of_spelled {width value symbol : Nat} {bits : Bits}
    (h : spelled? width value bits = some symbol) {s : Inflater}
    (hphase : s.phase = .symbol width value) : bits.foldl bit s = s.symbolOf symbol := by
  induction bits generalizing width value s with
  | nil => cases h
  | cons b bits ih =>
    rw [spelled?] at h
    rw [List.foldl_cons, bit, hphase]
    dsimp only
    cases hsymbol : symbol? (width + 1) (value * 2 + if b then 1 else 0) with
    | some found =>
      rw [hsymbol] at h
      dsimp only at h ⊢
      split at h
      · next hempty =>
        rw [List.isEmpty_iff.mp hempty, Option.some.inj h]
        rfl
      · cases h
    | none =>
      rw [hsymbol] at h
      dsimp only at h ⊢
      split at h
      · next hwidth =>
        rw [if_pos hwidth, ih h rfl, symbolOf_phase]
      · cases h

/-- Reading the code of a symbol does what the symbol does. -/
theorem foldl_bit_symbolBits {symbol : Nat} (hsymbol : symbol < 286) {s : Inflater}
    (hphase : s.phase = .symbol 0 0) : (symbolBits symbol).foldl bit s = s.symbolOf symbol :=
  foldl_bit_of_spelled (spelled?_symbolBits symbol hsymbol) hphase

/-! ## Copies -/

/-- Reading the extra bits of a length, some of which have been seen, completes the length. -/
theorem foldl_bit_lengthExtra (s : Inflater) (base : Nat) (seen bits : Bits)
    (hphase : s.phase = .lengthExtra base bits.length seen) (hpos : bits ≠ []) :
    bits.foldl bit s = { s with phase := .distance (base + Bits.toNat (seen ++ bits)) 0 0 } := by
  induction bits generalizing s seen with
  | nil => exact absurd rfl hpos
  | cons b bits ih =>
    rw [List.foldl_cons, bit, hphase]
    cases bits with
    | nil => rfl
    | cons b' bits =>
      dsimp only [List.length_cons]
      rw [ih _ (seen ++ [b]) rfl (List.cons_ne_nil _ _), List.append_assoc]
      rfl

/-- Reading all extra bits of a length completes it, also if there are none. -/
theorem foldl_bit_lengthExtraOf (s : Inflater) (base : Nat) (bits : Bits) :
    bits.foldl bit (s.lengthExtraOf base bits.length) =
      { s with phase := .distance (base + Bits.toNat bits) 0 0 } := by
  rw [lengthExtraOf]
  cases bits with
  | nil => rfl
  | cons b bits =>
    rw [if_neg (by simp)]
    exact foldl_bit_lengthExtra _ base [] (b :: bits) rfl (List.cons_ne_nil _ _)

/-- Reading the extra bits of a distance, some of which have been seen, repeats the text. -/
theorem foldl_bit_distanceExtra (s : Inflater) (length base : Nat) (seen bits : Bits)
    (hphase : s.phase = .distanceExtra length base bits.length seen) (hpos : bits ≠ []) :
    bits.foldl bit s = s.repeatText length (base + Bits.toNat (seen ++ bits)) := by
  induction bits generalizing s seen with
  | nil => exact absurd rfl hpos
  | cons b bits ih =>
    rw [List.foldl_cons, bit, hphase]
    cases bits with
    | nil => rfl
    | cons b' bits =>
      dsimp only [List.length_cons]
      rw [ih _ (seen ++ [b]) rfl (List.cons_ne_nil _ _), List.append_assoc]
      rfl

/-- Reading all extra bits of a distance repeats the text, also if there are none. -/
theorem foldl_bit_distanceExtraOf (s : Inflater) (length base : Nat) (bits : Bits) :
    bits.foldl bit (s.distanceExtraOf length base bits.length) =
      s.repeatText length (base + Bits.toNat bits) := by
  rw [distanceExtraOf]
  cases bits with
  | nil => rfl
  | cons b bits =>
    rw [if_neg (by simp)]
    exact foldl_bit_distanceExtra _ length base [] (b :: bits) rfl (List.cons_ne_nil _ _)

/-- Reading a length leads to its distance. -/
theorem foldl_bit_lengthBits {length : Nat} (hmin : minCopy ≤ length) (hmax : length ≤ maxCopy)
    {s : Inflater} (hphase : s.phase = .symbol 0 0) :
    (lengthBits length).foldl bit s = { s with phase := .distance length 0 0 } := by
  have hrange := rangeOf_lengths hmin hmax
  rw [lengthBits]
  generalize rangeOf lengths length = range at hrange ⊢
  obtain ⟨index, base, extra⟩ := range
  obtain ⟨hindex, hbase, hextra⟩ := hrange
  dsimp only at hindex hbase hextra ⊢
  have hlt : index < 29 := (List.getElem?_eq_some_iff.mp hindex).1
  have hsymbol : s.symbolOf (257 + index) = s.lengthExtraOf base extra := by
    have hnot : ¬ 257 + index < 256 := by omega
    have hend : ¬ 257 + index = endOfBlock := by
      rw [endOfBlock]
      omega
    rw [symbolOf, if_neg hnot, if_neg hend, Nat.add_sub_cancel_left, hindex]
  rw [List.foldl_append, foldl_bit_symbolBits (by omega) hphase, hsymbol]
  have hread := foldl_bit_lengthExtraOf s base (Bits.ofNat extra (length - base))
  rw [Bits.length_ofNat, Bits.toNat_ofNat hextra, Nat.add_sub_cancel' hbase] at hread
  exact hread

/-- Five bits are the code of a distance. -/
theorem foldl_bit_distance {length : Nat} {bits : Bits} (hwidth : bits.length = distanceWidth)
    {s : Inflater} (hphase : s.phase = .distance length 0 0) {base extra : Nat}
    (hrange : distances[codeValue bits]? = some (base, extra)) :
    bits.foldl bit s = s.distanceExtraOf length base extra := by
  obtain ⟨phase, last, text⟩ := s
  obtain rfl : phase = .distance length 0 0 := hphase
  obtain ⟨b0, b1, b2, b3, b4, rfl⟩ : ∃ b0 b1 b2 b3 b4, bits = [b0, b1, b2, b3, b4] := by
    rcases bits with _ | ⟨b0, _ | ⟨b1, _ | ⟨b2, _ | ⟨b3, _ | ⟨b4, _ | ⟨b5, bits⟩⟩⟩⟩⟩⟩
    · cases hwidth
    · cases hwidth
    · cases hwidth
    · cases hwidth
    · cases hwidth
    · exact ⟨b0, b1, b2, b3, b4, rfl⟩
    · simp [distanceWidth] at hwidth
  simp only [codeValue, List.foldl_cons, List.foldl_nil] at hrange
  simp only [List.foldl_cons, List.foldl_nil, bit, distanceWidth, Nat.reduceAdd, Nat.reduceLT,
    if_true, if_false, hrange]
  rfl

/-- Reading the distance behind a length repeats the text. -/
theorem foldl_bit_distanceBits {length distance : Nat} (hmin : 1 ≤ distance)
    (hmax : distance ≤ 32768) {s : Inflater} (hphase : s.phase = .distance length 0 0) :
    (distanceBits distance).foldl bit s = s.repeatText length distance := by
  have hrange := rangeOf_distances hmin hmax
  rw [distanceBits]
  generalize rangeOf distances distance = range at hrange ⊢
  obtain ⟨index, base, extra⟩ := range
  obtain ⟨hindex, hbase, hextra⟩ := hrange
  dsimp only at hindex hbase hextra ⊢
  have hlt : index < 30 := (List.getElem?_eq_some_iff.mp hindex).1
  have hcode := codeValue_ofCode index (Nat.lt_of_lt_of_le hlt (by decide))
  have hwidth : (Bits.ofCode distanceWidth index).length = distanceWidth := by
    rw [Bits.ofCode, List.length_reverse, Bits.length_ofNat]
  rw [List.foldl_append, foldl_bit_distance hwidth hphase (by rw [hcode]; exact hindex)]
  have hread := foldl_bit_distanceExtraOf s length base (Bits.ofNat extra (distance - base))
  rw [Bits.length_ofNat, Bits.toNat_ofNat hextra, Nat.add_sub_cancel' hbase] at hread
  exact hread

/-! ## Tokens and blocks -/

/-- Reading a token writes out what it stands for. -/
theorem foldl_bit_token {token : Token} {s : Inflater} (hphase : s.phase = .symbol 0 0)
    (hfits : token.Fits s.text) :
    token.bits.foldl bit s = { s with text := token.apply s.text } := by
  have hnext : s.nextSymbol = s := by
    rw [nextSymbol, ← hphase]
  cases token with
  | literal octet =>
    have hlt : octet.toNat < 256 := octet.toNat_lt
    rw [Token.bits, foldl_bit_symbolBits (by omega) hphase, symbolOf, if_pos hlt, hnext]
    simp [Token.apply]
  | copy length distance =>
    obtain ⟨hmin, hmax, hpos, hfar, hback⟩ := hfits
    rw [Token.bits, List.foldl_append, foldl_bit_lengthBits hmin hmax hphase,
      foldl_bit_distanceBits hpos hfar rfl, repeatText]
    dsimp only
    rw [if_pos hback, ← hnext]
    rfl

/-- Reading tokens writes out the text they describe. -/
theorem foldl_bit_tokens {tokens : List Token} {text text' : Array UInt8}
    (h : Describes text tokens text') {s : Inflater} (hphase : s.phase = .symbol 0 0)
    (htext : s.text = text) : (tokens.flatMap Token.bits).foldl bit s = { s with text := text' } := by
  induction h generalizing s with
  | nil text =>
    rw [← htext]
    rfl
  | cons hfits _ ih =>
    subst htext
    rw [List.flatMap_cons, List.foldl_append, foldl_bit_token hphase hfits]
    exact ih hphase rfl

/-- The bits of a block up to the last one. -/
def blockFront (last : Bool) (text : Array UInt8) : Bits :=
  [last, true, false] ++ (tokenize text).flatMap Token.bits ++ List.replicate 6 false

/-- The last bit of a block is a zero. -/
theorem blockBits_eq (last : Bool) (text : Array UInt8) :
    blockBits last text = blockFront last text ++ [false] := by
  have hend : symbolBits endOfBlock = List.replicate 6 false ++ [false] := by decide
  rw [blockBits, blockFront, hend, ← List.append_assoc]

/-- In front of its last bit, a block is not over yet. -/
theorem foldl_bit_blockFront {last : Bool} {text : Array UInt8} (hsize : text.size ≤ maxDistance)
    {s : Inflater} (hphase : s.phase = .header []) :
    (blockFront last text).foldl bit s = ⟨.symbol 6 0, last, s.text ++ text⟩ := by
  obtain ⟨phase, before, prior⟩ := s
  obtain rfl : phase = .header [] := hphase
  have hheader : [last, true, false].foldl bit ⟨.header [], before, prior⟩ =
      ⟨.symbol 0 0, last, prior⟩ := rfl
  rw [blockFront, List.foldl_append, List.foldl_append, hheader,
    foldl_bit_tokens (describes_tokenize prior text hsize) rfl rfl]
  rfl

/-- Reading a block appends its text. -/
theorem foldl_bit_blockBits {last : Bool} {text : Array UInt8} (hsize : text.size ≤ maxDistance)
    {s : Inflater} (hphase : s.phase = .header []) :
    (blockBits last text).foldl bit s =
      ⟨if last then .finished else .header [], last, s.text ++ text⟩ := by
  rw [blockBits_eq, List.foldl_append, foldl_bit_blockFront hsize hphase]
  rfl

/-! ## Whole octets -/

/-- Whether the machine still takes bits. -/
def isReading (s : Inflater) : Bool :=
  match s.phase with
  | .finished | .broken => false
  | _ => true

/-- A reader that is not reading takes no notice of bits. -/
theorem foldl_bit_of_not_reading {s : Inflater} (h : s.isReading = false) (bits : Bits) :
    bits.foldl bit s = s := by
  have hbit : ∀ b, s.bit b = s := by
    intro b
    rw [bit]
    rw [isReading] at h
    split at h
    · next hphase => rw [hphase]
    · next hphase => rw [hphase]
    · cases h
  induction bits with
  | nil => rfl
  | cons b bits ih => rw [List.foldl_cons, hbit, ih]

/-- What the machine reads so that it still takes bits cannot have ended before. -/
theorem isReading_of_foldl_bit {s : Inflater} {bits : Bits} (h : (bits.foldl bit s).isReading = true) :
    s.isReading = true := by
  cases hs : s.isReading with
  | true => rfl
  | false =>
    rw [foldl_bit_of_not_reading hs, hs] at h
    cases h

/-- A reader that is not reading leaves all octets. -/
theorem run_of_not_reading {s : Inflater} (h : s.isReading = false) (rest : Bytes) :
    s.run rest = (s, rest) := by
  cases rest with
  | nil => rfl
  | cons b rest =>
    rw [isReading] at h
    rw [run]
    split
    · rfl
    · rfl
    · next hfinished hbroken =>
      split at h
      · next hphase => exact absurd hphase hfinished
      · next hphase => exact absurd hphase hbroken
      · cases h

/-- A reader that is reading takes the next octet. -/
theorem run_of_reading {s : Inflater} (h : s.isReading = true) (b : UInt8) (rest : Bytes) :
    s.run (b :: rest) = (s.octet b).run rest := by
  rw [isReading] at h
  rw [run]
  split
  · next hphase => rw [hphase] at h; cases h
  · next hphase => rw [hphase] at h; cases h
  · rfl

/-- The machine stops behind the octet with the bit that ends the text, whatever bits fill up this
octet and whatever octets follow. -/
theorem run_append {s : Inflater} {octets : Bytes} {front behind : Bits} {b : Bool}
    (hbits : Bits.ofOctets octets = front ++ b :: behind) (hbehind : behind.length < 8)
    (hfront : (front.foldl bit s).isReading = true)
    (hend : ((front.foldl bit s).bit b).isReading = false) (rest : Bytes) :
    s.run (octets ++ rest) = ((front.foldl bit s).bit b, rest) := by
  induction octets generalizing s front with
  | nil =>
    rw [Bits.ofOctets_nil] at hbits
    exact absurd hbits.symm (by simp)
  | cons octet octets ih =>
    have hreading := isReading_of_foldl_bit hfront
    rw [List.cons_append, run_of_reading hreading]
    rw [Bits.ofOctets_cons] at hbits
    rcases List.append_eq_append_iff.mp hbits with ⟨front', rfl, hrest⟩ | ⟨more, hoctet, hrest⟩
    · rw [List.foldl_append] at hfront hend ⊢
      exact ih hrest hfront hend
    · cases more with
      | nil =>
        -- the octet ends right in front of the bit
        rw [List.append_nil] at hoctet
        rw [← hoctet] at hfront hend ⊢
        have hrest' : Bits.ofOctets octets = [] ++ b :: behind := hrest.symm
        exact ih hrest' hfront hend
      | cons b' more =>
        obtain ⟨rfl, hmore⟩ := List.cons.inj hrest
        have hbehind' : behind = more ++ Bits.ofOctets octets := hmore
        have hnone : octets = [] := by
          cases octets with
          | nil => rfl
          | cons octet' octets =>
            rw [hbehind', Bits.ofOctets_cons, List.length_append, List.length_append,
              Bits.length_ofOctet] at hbehind
            omega
        have hstate : s.octet octet = (front.foldl bit s).bit b := by
          rw [Inflater.octet, hoctet, List.foldl_append, List.foldl_cons,
            foldl_bit_of_not_reading hend]
        rw [hnone, hstate, List.nil_append, run_of_not_reading hend]

end Inflater

end RelayTunnel.Compression
