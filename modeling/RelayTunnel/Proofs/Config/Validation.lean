import RelayTunnel.Config.Basic

/-!
# Usable configurations

What `Config.validate` asks for, all at once: the order of its checks decides only which fault is
reported.
-/

set_option autoImplicit false

namespace RelayTunnel.Config

/-- Whether an evaluation gives a value can be decided without deciding whether faults are equal. -/
theorem eq_ok_of_toOption {ε α : Type} {result : Except ε α} {value : α}
    (h : result.toOption = some value) : result = .ok value := by
  cases result with
  | error fault => cases h
  | ok found => exact congrArg Except.ok (Option.some.inj h)

variable {config : Config} {relay : Endpoint}

/-- A header field is accepted exactly if its name and its value are. -/
theorem fieldFault?_eq_none_iff (field : String × String) :
    fieldFault? field = none ↔ isFieldName field.1 = true ∧ isFieldValue field.2 = true := by
  unfold fieldFault?
  cases isFieldName field.1 <;> cases isFieldValue field.2 <;> simp

/-- The options are accepted exactly if each of them is. -/
theorem optionFault?_eq_none_iff : config.optionFault? = none ↔
    config.maxConnections ≠ 0 ∧ (∀ d ∈ config.positiveDurations, 0 < d.2.nanos) ∧
      ∀ field ∈ config.headers.toList, isFieldName field.1 = true ∧ isFieldValue field.2 = true := by
  unfold optionFault?
  split
  · next hzero => simp [hzero]
  · next hsome =>
    split
    · next name duration hfind =>
      have hzero : duration.nanos = 0 := by simpa using List.find?_some hfind
      simp only [reduceCtorEq, false_iff]
      rintro ⟨_, hpos, _⟩
      exact absurd hzero (Nat.ne_of_gt (hpos _ (List.mem_of_find?_eq_some hfind)))
    · next hnone =>
      have hpos : ∀ d ∈ config.positiveDurations, 0 < d.2.nanos := by
        intro d hd
        have hne := List.find?_eq_none.mp hnone d hd
        exact Nat.pos_of_ne_zero (by simpa using hne)
      simp only [Option.map_eq_none_iff, List.findSome?_eq_none_iff, fieldFault?_eq_none_iff]
      exact ⟨fun hfields => ⟨hsome, hpos, hfields⟩, fun h => h.2.2⟩

/-- A configuration is valid exactly if it has an address with a session and its options are accepted. -/
theorem validate_eq_ok_iff : config.validate = .ok relay ↔
    (Text.trim config.url.toList).isEmpty = false ∧ Endpoint.parse config.url = .ok relay ∧
      relay.session.isEmpty = false ∧ config.optionFault? = none := by
  unfold validate
  cases (Text.trim config.url.toList).isEmpty with
  | true => simp
  | false =>
    cases hparse : Endpoint.parse config.url with
    | error e => simp
    | ok found =>
      simp only [true_and, Except.ok.injEq]
      constructor
      · intro h
        cases hsession : found.session.isEmpty with
        | true => simp [hsession] at h
        | false =>
          cases hfault : config.optionFault? with
          | some e => simp [hsession, hfault] at h
          | none =>
            simp only [hsession, hfault, Bool.false_eq_true, if_false, Except.ok.injEq] at h
            exact ⟨h, h ▸ hsession, rfl⟩
      · rintro ⟨rfl, hsession, hfault⟩
        simp [hsession, hfault]

/-- A usable configuration allows for at least one tunnel. -/
theorem maxConnections_ne_zero (h : config.validate = .ok relay) : config.maxConnections ≠ 0 :=
  (optionFault?_eq_none_iff.mp (validate_eq_ok_iff.mp h).2.2.2).1

/-- The durations of a usable configuration are not zero. -/
theorem positiveDurations_pos (h : config.validate = .ok relay) :
    ∀ d ∈ config.positiveDurations, 0 < d.2.nanos :=
  (optionFault?_eq_none_iff.mp (validate_eq_ok_iff.mp h).2.2.2).2.1

end RelayTunnel.Config
