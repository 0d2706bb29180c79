import RelayTunnel.Tunnel.Dismissal
import RelayTunnel.Proofs.Http.StatusLine

/-!
# Dismissals that are cut

The first payload is whatever one read gives, so a dismissal may be cut anywhere. Where its head is whole,
the status is the one of the head; otherwise the octets between the first two spaces are read as a number.
In a head these are three digits with a space or a line end behind them. Hence a cut behind the third digit
gives the status of the head or none, and a cut in front of the first digit gives none. But nothing asks for
three digits: what is left of a status that is cut itself is read as a status (`status_of_cut`).
-/

set_option autoImplicit false

namespace RelayTunnel

open Ascii (cr lf space)

namespace Dismissal

/-- The number that octets spell, white space around it dropped. -/
def spelled? (octets : Bytes) : Option Nat :=
  (Text.Utf8.decode? octets).bind fun text => Text.unsigned? statusBound (Text.trim text)

/-- The status of a head that is cut is what stands between its first two spaces. -/
theorem partialStatus?_eq (payload : Bytes) :
    partialStatus? payload = (payload.splitOn space)[1]?.bind spelled? := rfl

/-- Without a space there is no status. -/
theorem partialStatus?_of_not_mem {payload : Bytes} (h : space ∉ payload) :
    partialStatus? payload = none := by
  rw [partialStatus?_eq, List.splitOn_eq_singleton h]
  rfl

/-- Octets up to the first space, if there is one behind them. -/
theorem takeWhile_append_of_not_mem {front : Bytes} (h : space ∉ front) (behind : Bytes) :
    (front ++ behind).takeWhile (· != space) = front ++ behind.takeWhile (· != space) := by
  refine List.takeWhile_append_of_pos fun b hb => bne_iff_ne.mpr ?_
  rintro rfl
  exact h hb

/-- The first part of split octets is what stands in front of the first space. -/
theorem getElem?_splitOn_zero (octets : Bytes) :
    (octets.splitOn space)[0]? = some (octets.takeWhile (· != space)) := by
  by_cases hmem : space ∈ octets
  · obtain ⟨front, behind, rfl, hfront⟩ := List.eq_append_cons_of_mem hmem
    rw [List.splitOn_append_cons_self_of_not_mem hfront, takeWhile_append_of_not_mem hfront]
    simp
  · have hwhole := takeWhile_append_of_not_mem hmem []
    rw [List.append_nil, List.takeWhile_nil, List.append_nil] at hwhole
    rw [List.splitOn_eq_singleton hmem, hwhole]
    rfl

/-- Behind the first space, the status goes up to the next one. -/
theorem partialStatus?_behind_space {front : Bytes} (h : space ∉ front) (code : Bytes) :
    partialStatus? (front ++ space :: code) = spelled? (code.takeWhile (· != space)) := by
  rw [partialStatus?_eq, List.splitOn_append_cons_self_of_not_mem h, List.getElem?_cons_succ,
    getElem?_splitOn_zero, Option.bind_some]

/-- No octets spell no number. -/
theorem spelled?_nil : spelled? [] = none := by
  rw [spelled?, Text.Utf8.decode?]
  rfl

/-- A numeral spells the number it was made from, if that fits. -/
theorem spelled?_decimalBytes {code : Nat} (h : code < statusBound) :
    spelled? (Text.decimalBytes code) = some code := by
  have htrim := Text.trim_decimalChars_append code []
  rw [List.reverse_nil, List.dropWhile_nil, List.reverse_nil, List.append_nil] at htrim
  rw [spelled?, ← Text.encode_decimalChars, Text.Utf8.decode?_encode, Option.bind_some, htrim,
    Text.unsigned?_decimalChars h]

/-- Behind a number a line end is dropped, or it keeps the number from being read. -/
theorem spelled?_line {code : Nat} (h : code < statusBound) {ending : Char}
    (hending : ending = '\r' ∨ ending = '\n') (more : Bytes) :
    spelled? (Text.decimalBytes code ++ ending.toNat.toUInt8 :: more) = none ∨
      spelled? (Text.decimalBytes code ++ ending.toNat.toUInt8 :: more) = some code := by
  have hencode : Text.decimalBytes code ++ ending.toNat.toUInt8 :: more =
      Text.Utf8.encode (Text.decimalChars code ++ [ending]) ++ more := by
    have hsingle : Text.Utf8.encode [ending] = [ending.toNat.toUInt8] := by
      rcases hending with rfl | rfl <;> rfl
    rw [Text.Utf8.encode_append, Text.encode_decimalChars, hsingle, List.append_assoc,
      List.singleton_append]
  rw [spelled?, hencode, Text.Utf8.decode?_encode_append]
  cases Text.Utf8.decode? more with
  | none => exact Or.inl rfl
  | some text =>
    rw [Option.map_some, Option.bind_some, List.append_assoc, List.singleton_append,
      Text.trim_decimalChars_append]
    -- what is left of the line end and the text behind it begins with the line end or is empty
    have hkept : ((ending :: text).reverse.dropWhile Text.isBlank).reverse <+: ending :: text := by
      rw [← List.reverse_suffix, List.reverse_reverse]
      exact List.dropWhile_suffix _
    rcases List.prefix_cons_iff.mp hkept with hnil | ⟨kept, hcons, -⟩
    · rw [hnil, List.append_nil]
      exact Or.inr (Text.unsigned?_decimalChars h)
    · rw [hcons]
      refine Or.inl (Text.unsigned?_decimalChars_append ?_ kept)
      rcases hending with rfl | rfl <;> rfl

/-- There is no space in a numeral. -/
theorem space_not_mem_decimalBytes (n : Nat) : space ∉ Text.decimalBytes n := fun hmem =>
  absurd (Text.isDigit_of_mem_decimalBytes n space hmem) (by decide)

/-- A numeral is taken whole up to a space. -/
theorem takeWhile_decimalBytes (n : Nat) :
    (Text.decimalBytes n).takeWhile (· != space) = Text.decimalBytes n := by
  have h := takeWhile_append_of_not_mem (space_not_mem_decimalBytes n) []
  rwa [List.append_nil, List.takeWhile_nil, List.append_nil] at h

/-- The front pieces of the three digits of a status are numerals too. -/
theorem decimalBytes_fronts (status : Http.Status) :
    (Text.decimalBytes status.code).length = 3 ∧
      (Text.decimalBytes (status.code / 10) <+: Text.decimalBytes status.code ∧
        (Text.decimalBytes (status.code / 10)).length = 2) ∧
      (Text.decimalBytes (status.code / 100) <+: Text.decimalBytes status.code ∧
        (Text.decimalBytes (status.code / 100)).length = 1) := by
  obtain ⟨code, hlow, hhigh⟩ := status
  have hdiv : code / 10 / 10 = code / 100 := Nat.div_div_eq_div_mul code 10 10
  have hones : Text.decimalBytes code = Text.decimalBytes (code / 10) ++ [Text.hexDigit (code % 10)] :=
    Text.decimalBytes_of_ge (by omega)
  have htens : Text.decimalBytes (code / 10) =
      Text.decimalBytes (code / 100) ++ [Text.hexDigit (code / 10 % 10)] := by
    rw [Text.decimalBytes_of_ge (by omega), hdiv]
  have hhundreds : Text.decimalBytes (code / 100) = [Text.hexDigit (code / 100)] :=
    Text.decimalBytes_of_lt (by omega)
  refine ⟨?_, ⟨⟨_, hones.symm⟩, ?_⟩, ?_, ?_⟩
  · rw [hones, htens, hhundreds]
    rfl
  · rw [htens, hhundreds]
    rfl
  · rw [hones, htens, List.append_assoc]
    exact List.prefix_append _ _
  · rw [hhundreds]
    rfl

/-- A status fits into what is read for one. -/
theorem code_lt_statusBound (status : Http.Status) : status.code < statusBound :=
  Nat.lt_of_le_of_lt status.three_digits.2 (by decide)

/-- A status that is there as a whole is read, unless there is more than white space in its part of the
line. -/
theorem spelled?_of_code (status : Http.Status) {ending : UInt8}
    (hending : ending = space ∨ ending = cr ∨ ending = lf) {more behind : Bytes}
    (hbehind : behind <+: ending :: more) :
    spelled? ((Text.decimalBytes status.code ++ behind).takeWhile (· != space)) = none ∨
      spelled? ((Text.decimalBytes status.code ++ behind).takeWhile (· != space)) = some status.code := by
  have hbound := code_lt_statusBound status
  rw [takeWhile_append_of_not_mem (space_not_mem_decimalBytes status.code)]
  rcases List.prefix_cons_iff.mp hbehind with rfl | ⟨behind, rfl, -⟩
  · rw [List.takeWhile_nil, List.append_nil]
    exact Or.inr (spelled?_decimalBytes hbound)
  rcases hending with rfl | rfl | rfl
  · rw [List.takeWhile_cons_of_neg (by simp), List.append_nil]
    exact Or.inr (spelled?_decimalBytes hbound)
  · rw [List.takeWhile_cons_of_pos (by decide)]
    exact spelled?_line hbound (Or.inl rfl) _
  · rw [List.takeWhile_cons_of_pos (by decide)]
    exact spelled?_line hbound (Or.inr rfl) _

/-- What is read where so many octets are there of a status and what follows it: the status or nothing,
unless the cut is between the digits. -/
structure ReadOfCut (status : Http.Status) (shown : Nat) (read : Option Nat) : Prop where
  one : shown = 1 → read = some (status.code / 100)
  two : shown = 2 → read = some (status.code / 10)
  other : shown ≠ 1 → shown ≠ 2 → read = none ∨ read = some status.code

/-- What is read of a cut status is the number that its digits spell so far. -/
theorem readOfCut_spelled? (status : Http.Status) {ending : UInt8}
    (hending : ending = space ∨ ending = cr ∨ ending = lf) {more rest : Bytes}
    (hrest : rest <+: Text.decimalBytes status.code ++ ending :: more) :
    ReadOfCut status rest.length (spelled? (rest.takeWhile (· != space))) := by
  obtain ⟨hthree, ⟨htwo, htwo'⟩, hone, hone'⟩ := decimalBytes_fronts status
  have hdigits : Text.decimalBytes status.code <+: Text.decimalBytes status.code ++ ending :: more :=
    List.prefix_append _ _
  -- a front piece of the digits is the numeral of so many digits
  have hnumeral : ∀ {n}, Text.decimalBytes n <+: Text.decimalBytes status.code → n ≤ status.code →
      rest.length = (Text.decimalBytes n).length →
        spelled? (rest.takeWhile (· != space)) = some n := by
    intro n hfront hn hlength
    have hwhole := List.prefix_of_prefix_length_le hrest (hfront.trans hdigits) (Nat.le_of_eq hlength)
    rw [hwhole.eq_of_length hlength, takeWhile_decimalBytes,
      spelled?_decimalBytes (Nat.lt_of_le_of_lt hn (code_lt_statusBound status))]
  refine ⟨fun h => ?_, fun h => ?_, fun h₁ h₂ => ?_⟩
  · exact hnumeral hone (Nat.div_le_self _ _) (by omega)
  · exact hnumeral htwo (Nat.div_le_self _ _) (by omega)
  · rcases Nat.lt_or_ge rest.length 3 with hshort | hlong
    · have hnil : rest = [] := List.length_eq_zero_iff.mp (by omega)
      rw [hnil]
      exact Or.inl spelled?_nil
    · obtain ⟨behind, rfl⟩ := List.prefix_of_prefix_length_le hdigits hrest (by omega)
      exact spelled?_of_code status hending ((List.prefix_append_right_inj _).mp hrest)

/-- What is read of a front piece of a status line. -/
theorem readOfCut_partialStatus? (status : Http.Status) {front : Bytes} (hspace : space ∉ front)
    {ending : UInt8} (hending : ending = space ∨ ending = cr ∨ ending = lf) {more payload : Bytes}
    (hpayload : payload <+: front ++ space :: (Text.decimalBytes status.code ++ ending :: more)) :
    ReadOfCut status (payload.length - (front.length + 1)) (partialStatus? payload) := by
  have hnone : ∀ {shown}, shown = 0 → ReadOfCut status shown none := by
    rintro shown rfl
    exact ⟨nofun, nofun, fun _ _ => Or.inl rfl⟩
  rcases List.prefix_or_prefix_of_prefix (List.prefix_append front _) hpayload with
    ⟨behind, rfl⟩ | hshort
  · have hbehind := (List.prefix_append_right_inj _).mp hpayload
    rcases List.prefix_cons_iff.mp hbehind with rfl | ⟨rest, rfl, hrest⟩
    · rw [List.append_nil, partialStatus?_of_not_mem hspace]
      exact hnone (by omega)
    · have hshown : (front ++ space :: rest).length - (front.length + 1) = rest.length := by
        rw [List.length_append, List.length_cons]
        omega
      rw [partialStatus?_behind_space hspace, hshown]
      exact readOfCut_spelled? status hending hrest
  · have hle := hshort.length_le
    rw [partialStatus?_of_not_mem fun hmem => hspace (hshort.subset hmem)]
    exact hnone (by omega)

open Http (ResponseHead Taken takeResponse)

/-- The opening of a status line, up to its first space. -/
theorem opening_of_version {digit : UInt8} (h : digit = 0x30 ∨ digit = 0x31) :
    space ∉ Ascii.bytes "HTTP/1." ++ [digit] ∧ (Ascii.bytes "HTTP/1." ++ [digit]).length = 8 := by
  rcases h with rfl | rfl <;> decide

/-- A payload with the whole head in it has the status of the head. -/
theorem ofPayload?_of_head {payload : Bytes} {taken : Taken ResponseHead}
    (h : takeResponse payload = .ok (some taken)) (hmarked : mark <+: payload) :
    ofPayload? payload = some ⟨some taken.head.status.code⟩ := by
  rw [ofPayload?, if_pos (List.isPrefixOf_iff_prefix.mpr hmarked), h]

/-- A payload without a whole head has the status that stands in the status line. -/
theorem ofPayload?_of_part {payload : Bytes} (h : takeResponse payload = .ok none)
    (hmarked : mark <+: payload) : ofPayload? payload = some ⟨partialStatus? payload⟩ := by
  rw [ofPayload?, if_pos (List.isPrefixOf_iff_prefix.mpr hmarked), h]

/-- A front piece of a head is no head. -/
theorem takeResponse_of_part {payload missing : Bytes} {taken : Taken ResponseHead}
    (h : takeResponse (payload ++ missing) = .ok (some taken)) (hwhole : taken.rest = [])
    (hmissing : missing ≠ []) : takeResponse payload = .ok none := by
  rcases Http.takeResponse_front h with hnone | ⟨rest, hrest, -⟩
  · exact hnone
  · rw [hwhole] at hrest
    exact absurd (List.append_eq_nil_iff.mp hrest.symm).2 hmissing

/-- What becomes of a dismissal that is cut. Of a response head, or of one with anything behind it, a front
piece of any length that shows the mark is taken for a dismissal. If the whole head is in it, then the
status is the one of the head. If the piece ends behind the first or the second digit of the status, then
the number that these digits spell is taken for the status. In all other cases the status is the one of the
head, or there is none. -/
theorem status_of_cut {head behind payload : Bytes} {taken : Taken ResponseHead}
    (htake : takeResponse head = .ok (some taken)) (hwhole : taken.rest = []) (hmark : mark <+: head)
    (hpayload : payload <+: head ++ behind) (hmarked : mark <+: payload) :
    ∃ status, ofPayload? payload = some ⟨status⟩ ∧
      (head <+: payload → status = some taken.head.status.code) ∧
      (payload.length = 10 → status = some (taken.head.status.code / 100)) ∧
      (payload.length = 11 → status = some (taken.head.status.code / 10)) ∧
      (status = none ∨ status = some taken.head.status.code ↔
        payload.length ≠ 10 ∧ payload.length ≠ 11) := by
  obtain ⟨digit, ending, more, hdigit, hending, hline⟩ := Http.takeResponse_statusLine htake hmark
  obtain ⟨hspace, height⟩ := opening_of_version hdigit
  have hlong : 12 < head.length := by
    have hthree := (decimalBytes_fronts taken.head.status).1
    rw [hline, List.length_append, height, List.length_cons, List.length_append, hthree,
      List.length_cons]
    omega
  by_cases hcontains : head <+: payload
  · obtain ⟨rest, rfl⟩ := hcontains
    have hread := Http.takeResponse_append htake rest
    have hlength : 12 < (head ++ rest).length := by
      rw [List.length_append]
      omega
    refine ⟨_, ofPayload?_of_head hread hmarked, fun _ => rfl, fun h => by omega, fun h => by omega, ?_⟩
    exact ⟨fun _ => by omega, fun _ => Or.inr rfl⟩
  · obtain ⟨missing, hmissing⟩ : payload <+: head :=
      (List.prefix_or_prefix_of_prefix (List.prefix_append head behind) hpayload).resolve_left hcontains
    have hnil : missing ≠ [] := by
      rintro rfl
      exact hcontains ⟨[], by rw [← hmissing, List.append_nil, List.append_nil]⟩
    have hnone := takeResponse_of_part (by rw [hmissing]; exact htake) hwhole hnil
    have hpart : payload <+: head := ⟨missing, hmissing⟩
    rw [hline] at hpart
    obtain ⟨hone, htwo, hother⟩ := readOfCut_partialStatus? taken.head.status hspace hending hpart
    rw [height] at hone htwo hother
    refine ⟨_, ofPayload?_of_part hnone hmarked, fun h => absurd h hcontains,
      fun h => hone (by omega), fun h => htwo (by omega), fun hgood => ?_,
      fun h => hother (by omega) (by omega)⟩
    -- a status of three digits is neither its first nor its first two digits
    have hcode := taken.head.status.three_digits.1
    have hless : ∀ {n}, n < taken.head.status.code →
        ¬ (some n = none ∨ some n = some taken.head.status.code) := by
      rintro n hn (hnone' | hsome)
      · cases hnone'
      · exact absurd (Option.some.inj hsome) (Nat.ne_of_lt hn)
    constructor
    · intro hlength
      rw [hone (by omega)] at hgood
      exact hless (by omega) hgood
    · intro hlength
      rw [htwo (by omega)] at hgood
      exact hless (by omega) hgood

/-- A dismissal with a status of three digits. -/
def gone : Bytes := Ascii.bytes "HTTP/1.1 410 Gone\r\n\r\n"

/-- That head is a whole one, with status 410. -/
theorem takeResponse_gone : ∃ taken, takeResponse gone = .ok (some taken) ∧ taken.rest = [] ∧
    taken.head.status.code = 410 := by
  have htest : (takeResponse gone).toOption.any (·.any fun taken =>
      taken.rest.isEmpty && taken.head.status.code == 410) = true := by decide +kernel
  obtain ⟨taken, htake, hgood⟩ := Http.exists_taken_of_any htest
  simp only [Bool.and_eq_true, List.isEmpty_iff, beq_iff_eq] at hgood
  exact ⟨taken, htake, hgood⟩

/-- Cut in the phrase, it still has its status. -/
theorem cut_phrase_keeps_status : ∃ taken, takeResponse gone = .ok (some taken) ∧ taken.rest = [] ∧
    mark <+: gone ∧ gone.take 15 <+: gone ++ [] ∧ mark <+: gone.take 15 ∧
    ∃ status, ofPayload? (gone.take 15) = some ⟨status⟩ ∧ (status = none ∨ status = some 410) := by
  have hmark : mark <+: gone := by decide
  have hpart : gone.take 15 <+: gone ++ [] := by decide
  have hmarked : mark <+: gone.take 15 := by decide
  obtain ⟨taken, htake, hrest, hcode⟩ := takeResponse_gone
  obtain ⟨status, hpayload, -, -, -, hgood⟩ := status_of_cut htake hrest hmark hpart hmarked
  rw [hcode] at hgood
  exact ⟨taken, htake, hrest, hmark, hpart, hmarked, status, hpayload, hgood.mpr (by decide)⟩

/-- Cut in the status, it is reported with a status that the relay has not sent. -/
theorem cut_code_is_misread : ∃ taken, takeResponse gone = .ok (some taken) ∧ taken.rest = [] ∧
    taken.head.status.code = 410 ∧ gone.take 11 <+: gone ∧ mark <+: gone.take 11 ∧
    ofPayload? (gone.take 11) = some ⟨some 41⟩ := by
  obtain ⟨taken, htake, hrest, hcode⟩ := takeResponse_gone
  have hread : ofPayload? (gone.take 11) = some ⟨some 41⟩ := by
    have hnone : takeResponse (gone.take 11) = .ok none := by
      have hmissing : gone.drop 11 ≠ [] := by decide
      refine takeResponse_of_part ?_ hrest hmissing
      rw [List.take_append_drop]
      exact htake
    have hline : gone.take 11 = Ascii.bytes "HTTP/1.1" ++ space :: Text.decimalBytes 41 := by
      rw [Text.decimalBytes_of_ge (by decide), Text.decimalBytes_of_lt (by decide)]
      rfl
    rw [ofPayload?_of_part hnone (by decide), hline, partialStatus?_behind_space (by decide),
      takeWhile_decimalBytes, spelled?_decimalBytes (by decide)]
  exact ⟨taken, htake, hrest, hcode, List.take_prefix 11 gone, by decide, hread⟩

end Dismissal

end RelayTunnel
