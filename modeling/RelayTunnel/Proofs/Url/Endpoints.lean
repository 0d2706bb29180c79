import RelayTunnel.Endpoint
import RelayTunnel.Proofs.Url.Visible

/-!
# What endpoints are made of

Path, query and host of an endpoint are visible characters of ASCII: the first two because everything else
is percent-encoded in them, the host because it is in normal form. Only schemes with an authority lead to
an endpoint, so urls of other kinds, whose paths are kept as they are, do not matter here
(`transportOf?_eq_none`).
-/

set_option autoImplicit false

namespace RelayTunnel

namespace Url

/-! ## Percent-encoding -/

/-- The digits of an encoded octet are visible. -/
theorem isVisible_upperHexDigit {digit : Nat} (h : digit < 16) : IsVisible (upperHexDigit digit) :=
  (by decide : ∀ d : Fin 16, IsVisible (upperHexDigit d)) ⟨digit, h⟩

/-- An encoded octet is visible. -/
theorem visible_percentOctet (b : UInt8) : Visible (percentOctet b) := by
  have hb : b.toNat < 256 := b.toNat_lt
  exact .cons (by decide) (.cons (isVisible_upperHexDigit (by omega))
    (.singleton (isVisible_upperHexDigit (by omega))))

/-- A text is visible once all characters that are not are encoded. -/
theorem visible_percentEncode {encoded : Char → Bool} (h : ∀ c, encoded c = false → IsVisible c)
    (cs : List Char) : Visible (percentEncode encoded cs) := by
  intro d hd
  obtain ⟨c, _, hd⟩ := List.mem_flatMap.mp hd
  unfold encodeChar at hd
  split at hd
  · obtain ⟨b, _, hd⟩ := List.mem_flatMap.mp hd
    exact visible_percentOctet b d hd
  · next hkept =>
    rw [List.mem_singleton.mp hd]
    exact h c (by simpa using hkept)

/-- What is left as it is, is visible unless it is a space. -/
theorem isVisible_of_not_encoded {c : Char} (halways : isAlwaysEncoded c = false) (hspace : c ≠ ' ') :
    IsVisible c := by
  have hne : c.toNat ≠ 0x20 := fun h => hspace (Char.toNat_inj.mp h)
  simp only [isAlwaysEncoded, Bool.or_eq_false_iff, decide_eq_false_iff_not] at halways
  unfold IsVisible
  omega

/-- A path that was encoded is visible. -/
theorem visible_encodedInPath (cs : List Char) : Visible (percentEncode isEncodedInPath cs) := by
  refine visible_percentEncode (fun c h => ?_) cs
  simp only [isEncodedInPath, Bool.or_eq_false_iff] at h
  refine isVisible_of_not_encoded h.1 ?_
  rintro rfl
  exact absurd h.2 (by decide)

/-- So is a query. -/
theorem visible_encodedInQuery (cs : List Char) : Visible (percentEncode isEncodedInQuery cs) := by
  refine visible_percentEncode (fun c h => ?_) cs
  simp only [isEncodedInQuery, Bool.or_eq_false_iff] at h
  refine isVisible_of_not_encoded h.1 ?_
  rintro rfl
  exact absurd h.2 (by decide)

/-! ## Paths -/

/-- To go up one level adds no part. -/
theorem mem_goUp {before : List (List Char)} : ∀ part ∈ goUp before, part ∈ before := by
  intro part hpart
  cases before with
  | nil => exact hpart
  | cons last more =>
    rw [goUp] at hpart
    split at hpart
    · exact hpart
    · exact List.mem_cons_of_mem _ hpart

/-- Segments that are resolved are empty or were there before. -/
theorem mem_resolve {before segments : List (List Char)} :
    ∀ part ∈ resolve before segments, part = [] ∨ part ∈ before ∨ part ∈ segments := by
  fun_induction resolve before segments with
  | case1 before => simp
  | case2 before last _ =>
    intro part hpart
    rcases List.mem_cons.mp hpart with rfl | hpart
    · exact .inl rfl
    · exact .inr (.inl (mem_goUp part hpart))
  | case3 before last _ _ => simp +contextual
  | case4 before last _ _ => simp +contextual [or_comm]
  | case5 before segment more _ _ ih =>
    intro part hpart
    rcases ih part hpart with rfl | hpart | hpart
    · exact .inl rfl
    · exact .inr (.inl (mem_goUp part hpart))
    · exact .inr (.inr (List.mem_cons_of_mem _ hpart))
  | case6 before segment more _ _ _ ih =>
    intro part hpart
    rcases ih part hpart with rfl | hpart | hpart
    · exact .inl rfl
    · exact .inr (.inl hpart)
    · exact .inr (.inr (List.mem_cons_of_mem _ hpart))
  | case7 before segment more _ _ _ ih =>
    intro part hpart
    rcases ih part hpart with rfl | hpart | hpart
    · exact .inl rfl
    · rcases List.mem_cons.mp hpart with rfl | hpart
      · exact .inr (.inr List.mem_cons_self)
      · exact .inr (.inl hpart)
    · exact .inr (.inr (List.mem_cons_of_mem _ hpart))

/-- A path without dots in it is visible. -/
theorem visible_normalPath (cs : List Char) : Visible (normalPath cs) := by
  refine .cons (by decide) (.intercalate (.singleton (by decide)) fun part hpart => ?_)
  rcases mem_resolve part (List.mem_reverse.mp hpart) with rfl | hpart | hpart
  · exact .nil
  · cases hpart
  · obtain ⟨segment, _, rfl⟩ := List.mem_map.mp hpart
    exact visible_encodedInPath segment

/-- A query is visible. -/
theorem visible_queryOf {cs : List Char} {query : String} (h : queryOf cs = some query) :
    Visible query.toList := by
  unfold queryOf at h
  split at h
  · cases h
    rw [String.toList_ofList]
    exact visible_encodedInQuery _
  · cases h

/-! ## Whole urls -/

/-- A host that was read is visible. -/
theorem visible_readHostAndPort {defaultPort : Option Nat} {cs : List Char}
    {found : List Char × Option Nat × List Char}
    (h : readHostAndPort .web defaultPort cs = .ok found) : Visible found.1 := by
  unfold readHostAndPort at h
  dsimp only at h
  split at h
  · cases h
  obtain ⟨host, hhost, h⟩ := exists_of_bind h
  have hvisible : Visible host := visible_knownHost hhost
  split at h
  · split at h
    · cases h
    · obtain ⟨port, _, h⟩ := exists_of_bind h
      cases h
      exact hvisible
  · cases h
    exact hvisible

/-- Host, path and query of a url with an authority are visible. -/
theorem visible_parseWeb {scheme cs : List Char} {defaultPort : Option Nat} {url : Url}
    (h : parseWeb scheme defaultPort cs = .ok url) :
    Visible url.host.toList ∧ Visible url.path.toList ∧ ∀ query ∈ url.query, Visible query.toList := by
  unfold parseWeb at h
  obtain ⟨after, _, h⟩ := exists_of_bind h
  obtain ⟨found, hfound, h⟩ := exists_of_bind h
  cases h
  dsimp only
  rw [String.toList_ofList, String.toList_ofList]
  exact ⟨visible_readHostAndPort hfound, visible_normalPath _, fun query hquery => visible_queryOf hquery⟩

/-- A url that is not one of the web has the scheme that was read. -/
theorem scheme_of_parseOther {kind : SchemeKind} {scheme cs : List Char} {url : Url}
    (h : parseOther kind scheme cs = .ok url) : url.scheme = String.ofList scheme := by
  unfold parseOther at h
  dsimp only at h
  split at h
  · split at h
    · obtain ⟨host, _, h⟩ := exists_of_bind h
      cases h
      rfl
    · cases h
      rfl
  split at h
  · obtain ⟨after, _, h⟩ := exists_of_bind h
    obtain ⟨found, _, h⟩ := exists_of_bind h
    split at h
    · cases h
    · cases h
      rfl
  · cases h
    rfl

/-- The schemes of endpoints are read with an authority. -/
theorem kindOf_of_transportOf? {scheme : List Char}
    (h : Endpoint.transportOf? (String.ofList scheme) ≠ none) : (kindOf scheme).1 = .web := by
  unfold Endpoint.transportOf? at h
  simp only [← String.toList_inj, String.toList_ofList] at h
  unfold kindOf
  simp only [Bool.or_eq_true, beq_iff_eq]
  split at h
  · next hscheme => rw [if_pos hscheme]
  · next hplain =>
    split at h
    · next hscheme => rw [if_neg hplain, if_pos hscheme]
    · exact absurd rfl h

/-- The host, the path and the query of an address are visible if it names a relay. -/
theorem visible_parse {raw : String} {url : Url} (h : parse raw = .ok url)
    (htransport : Endpoint.transportOf? url.scheme ≠ none) :
    Visible url.host.toList ∧ Visible url.path.toList ∧ ∀ query ∈ url.query, Visible query.toList := by
  unfold parse at h
  split at h
  · cases h
  next scheme rest _ =>
    split at h
    · exact visible_parseWeb h
    next kind port hother hkind =>
      rw [scheme_of_parseOther h] at htransport
      have hweb := kindOf_of_transportOf? htransport
      rw [hkind] at hweb
      cases hweb
      exact (hother rfl).elim

end Url

namespace Endpoint

variable {text : String} {relay : Endpoint}

/-- The authority and the path of a relay are visible. -/
theorem visible_authority_path (h : parse text = .ok relay) :
    Url.Visible relay.authority.toList ∧ Url.Visible relay.path.toList := by
  unfold parse at h
  split at h
  · cases h
  next url hurl =>
    unfold ofUrl at h
    split at h
    · cases h
    next isTls port htransport =>
      obtain ⟨hhost, hpath, hquery⟩ := Url.visible_parse hurl (by rw [htransport]; exact nofun)
      split at h
      · cases h
      · cases h
        refine ⟨hhost, ?_⟩
        dsimp only
        split
        · next query hsome =>
          rw [String.toList_append, String.toList_append]
          exact (hpath.append (.singleton (by decide))).append (hquery query hsome)
        · exact hpath

/-- So is its path alone. -/
theorem visible_path (h : parse text = .ok relay) : Url.Visible relay.path.toList :=
  (visible_authority_path h).2

/-- So is what stands in the host field. -/
theorem visible_hostField (h : parse text = .ok relay) : Url.Visible relay.hostField.toList := by
  have hauthority := (visible_authority_path h).1
  unfold hostField
  split
  · have hport : (Text.decimalString relay.port).toList = Text.decimalChars relay.port :=
      String.toList_ofList
    rw [String.toList_append, String.toList_append, hport]
    exact (hauthority.append (.singleton (by decide))).append (Url.visible_decimalChars _)
  · exact hauthority

end Endpoint

end RelayTunnel
