import RelayTunnel.Config.File
import RelayTunnel.Proofs.Config.Validation
import RelayTunnel.Proofs.Json.Values

/-!
# Configurations that are saved and loaded

Loading what was saved gives the configuration back, up to the durations: a file holds them as whole
milliseconds (`ofJson_toJson`). What is loaded is usable if none of the durations is shorter than that
(`saved_reads_back`); a shorter one is usable itself, but comes back as zero (`configOfMicros_is_refused`).
-/

set_option autoImplicit false

namespace RelayTunnel

/-- A duration in whole milliseconds, the remainder dropped, of which there are fewer than 2^64. -/
def Duration.truncated (d : Duration) : Duration := .ofMillis (min (d.nanos / 1000000) (UInt64.size - 1))

/-- A duration is cut to zero exactly if it is shorter than a millisecond. -/
theorem Duration.truncated_eq_zero_iff (d : Duration) : d.truncated.nanos = 0 ↔ d.nanos < 1000000 := by
  have hsize : 1 < UInt64.size := by decide
  unfold truncated ofMillis
  dsimp only
  omega

namespace Config

open Json

/-- A configuration with its durations in whole milliseconds. -/
def truncated (config : Config) : Config :=
  { config with
    idleTimeout := config.idleTimeout.truncated
    retryDelay := config.retryDelay.truncated
    destinationTimeout := config.destinationTimeout.truncated }

/-! ## Settings -/

/-- A duration that was written is read again, cut to whole milliseconds. -/
theorem reads_duration (d : Duration) {mark : UInt8} (hmark : EndsValue mark) (more : Bytes) :
    Reads readDuration (Text.decimalBytes (writtenMillis d) ++ mark :: more) d.truncated (mark :: more) := by
  have hsmall : writtenMillis d < countBound := by
    have hsize : 0 < UInt64.size := by decide
    unfold writtenMillis countBound
    omega
  exact .bind (reads_natural hsmall (Nat.le_refl _) hmark more) (.pure _ _)

/-- Adding fields behind all the names so far lists them in the same order. -/
theorem insertSorted_of_last {name value : String} {entries : List (String × String)}
    (h : ∀ e ∈ entries, e.1 < name) : insertSorted name value entries = entries ++ [(name, value)] := by
  induction entries with
  | nil => rfl
  | cons e entries ih =>
    obtain ⟨hfirst, hmore⟩ := List.forall_mem_cons.mp h
    rw [insertSorted, if_neg (String.lt_asymm hfirst), if_neg (String.ne_of_lt hfirst).symm, ih hmore,
      List.cons_append]

/-- Fields that come in the order of their names are inserted behind those that are there. -/
theorem foldl_insert {entries : List (String × String)} {fields : ExtraFields}
    (h : (fields.toList ++ entries).Pairwise fun a b => a.1 < b.1) :
    (entries.foldl (fun fields e => fields.insert e.1 e.2) fields).toList = fields.toList ++ entries := by
  induction entries generalizing fields with
  | nil => simp
  | cons e entries ih =>
    have hlast : ∀ f ∈ fields.toList, f.1 < e.1 := fun f hf =>
      (List.pairwise_append.mp h).2.2 f hf e List.mem_cons_self
    have hinsert : (fields.insert e.1 e.2).toList = fields.toList ++ [e] := insertSorted_of_last hlast
    rw [List.foldl_cons, ih (by rw [hinsert]; simpa using h), hinsert]
    simp

/-- How a file's field is read into those before it. -/
def readField (name : String) (fields : ExtraFields) : Reader ExtraFields := do
  colon
  return fields.insert name (← string)

/-- The header fields of a file are read one after the other. -/
theorem members_fields (entries : List (String × String)) (fields : ExtraFields) :
    Members readField fields (entries.map fun e => (e.1, writeString e.2))
      (entries.foldl (fun fields e => fields.insert e.1 e.2) fields) := by
  induction entries generalizing fields with
  | nil => exact .nil fields
  | cons e entries ih =>
    refine .cons (fun mark more _ => ?_) (ih _)
    exact .bind (reads_colon _) (.bind (reads_string e.2 _) (.pure _ _))

/-- Header fields that were written are read again. -/
theorem reads_headers (fields : ExtraFields) (more : Bytes) :
    Reads readHeaders (writeObject (fields.toList.map fun f => writeMember f.1 (writeString f.2)) ++ more)
      fields more := by
  have hmembers := members_fields fields.toList .empty
  -- the names are in order, so every field goes behind those before it
  have hfields : fields.toList.foldl (fun fields e => fields.insert e.1 e.2) .empty = fields := by
    refine (ExtraFields.mk.injEq ..).mpr ?_
    exact foldl_insert (by simpa [ExtraFields.empty] using fields.sorted)
  rw [hfields] at hmembers
  have hobject := reads_object hmembers id more
  rw [List.map_map] at hobject
  exact .bind (.token (by decide) _) (.of_if (by decide) hobject)

/-- A configuration that takes one setting from another. -/
def adopt (config source : Config) : Setting → Config
  | .url => { config with url := source.url }
  | .maxConnections => { config with maxConnections := source.maxConnections }
  | .idleTimeout => { config with idleTimeout := source.idleTimeout }
  | .retryCount => { config with retryCount := source.retryCount }
  | .retryDelay => { config with retryDelay := source.retryDelay }
  | .destinationTimeout => { config with destinationTimeout := source.destinationTimeout }
  | .disconnectIsFatal => { config with disconnectIsFatal := source.disconnectIsFatal }
  | .insecure => { config with insecure := source.insecure }
  | .headers => { config with headers := source.headers }

/-- Who adopts every setting of a configuration has that configuration. -/
theorem foldl_adopt (config source : Config) :
    Setting.all.foldl (fun config setting => config.adopt source setting) config = source := by
  simp only [Setting.all, List.foldl_cons, List.foldl_nil, adopt]

/-- What is written for a setting is read as that setting. -/
theorem reads_setting (config source : Config) (setting : Setting) {mark : UInt8} (hmark : EndsValue mark)
    (more : Bytes) :
    Reads (readSetting config setting) (writeSetting source setting ++ mark :: more)
      (config.adopt source.truncated setting) (mark :: more) := by
  cases setting with
  | url => exact .bind (reads_string source.url _) (.pure _ _)
  | maxConnections =>
    have hbound : source.maxConnections.toNat < countBound := source.maxConnections.toNat_lt
    have hvalue : source.maxConnections.toNat.toUInt64 = source.maxConnections := UInt64.ofNat_toNat
    refine .bind (reads_natural hbound (Nat.le_refl _) hmark more) ?_
    rw [hvalue]
    exact .pure _ _
  | idleTimeout => exact .bind (reads_duration source.idleTimeout hmark more) (.pure _ _)
  | retryCount =>
    have hbound : source.retryCount.toNat < retryBound := source.retryCount.toNat_lt
    have hvalue : source.retryCount.toNat.toUInt32 = source.retryCount := UInt32.ofNat_toNat
    refine .bind (reads_natural hbound (by decide) hmark more) ?_
    rw [hvalue]
    exact .pure _ _
  | retryDelay => exact .bind (reads_duration source.retryDelay hmark more) (.pure _ _)
  | destinationTimeout => exact .bind (reads_duration source.destinationTimeout hmark more) (.pure _ _)
  | disconnectIsFatal => exact .bind (reads_bool source.disconnectIsFatal _) (.pure _ _)
  | insecure => exact .bind (reads_bool source.insecure _) (.pure _ _)
  | headers => exact .bind (reads_headers source.headers _) (.pure _ _)

/-! ## Whole files -/

/-- The key of a setting leads to that setting. -/
theorem find?_key (setting : Setting) : Setting.all.find? (·.key == setting.key) = some setting := by
  cases setting <;> decide

/-- Settings that were written are read again, each at most once. -/
theorem members_settings (source : Config) (settings : List Setting) (state : Filled)
    (hnew : ∀ setting ∈ settings, setting ∉ state.given) (hdistinct : settings.Nodup) :
    Members readMember state (settings.map fun setting => (setting.key, writeSetting source setting))
      ⟨settings.foldl (fun config setting => config.adopt source.truncated setting) state.config,
        settings.reverse ++ state.given⟩ := by
  induction settings generalizing state with
  | nil => exact .nil state
  | cons setting settings ih =>
    obtain ⟨hfirst, hmore⟩ := List.forall_mem_cons.mp hnew
    obtain ⟨hother, hrest⟩ := List.nodup_cons.mp hdistinct
    -- a setting counts as given once it has been read, so those behind it have to be others
    have hlater := ih ⟨state.config.adopt source.truncated setting, setting :: state.given⟩ (by
      intro later hlater
      rw [List.mem_cons, not_or]
      exact ⟨fun heq => hother (heq ▸ hlater), hmore later hlater⟩) hrest
    rw [List.reverse_cons, List.append_assoc, List.singleton_append]
    refine .cons (fun mark more hmark => ?_) hlater
    rw [readMember, find?_key]
    refine .of_else hfirst (.bind (reads_colon _) (.bind (reads_setting _ source setting hmark more) ?_))
    exact .pure _ _

/-- Loading what was saved gives the configuration with its durations in whole milliseconds. -/
theorem ofJson_toJson (config : Config) : ofJson (toJson config) = .ok config.truncated := by
  have hmembers := members_settings config Setting.all ⟨{}, []⟩ (by simp) (by decide)
  rw [foldl_adopt] at hmembers
  have hobject := reads_object hmembers Filled.config []
  rw [List.map_map, List.append_nil] at hobject
  have hread : Reads reader (toJson config) config.truncated [] :=
    .bind (.token (by decide) _) (.of_if (by decide) hobject)
  obtain ⟨_, hread⟩ := hread
  rw [ofJson, hread]
  rfl

/-! ## Validity -/

/-- The first of the durations that is shorter than a millisecond, with its name. -/
def briefDuration? (config : Config) : Option (String × Duration) :=
  config.positiveDurations.find? fun d => d.2.nanos < 1000000

/-- No duration is brief exactly if all are at least a millisecond long. -/
theorem briefDuration?_eq_none_iff (config : Config) :
    config.briefDuration? = none ↔ ∀ d ∈ config.positiveDurations, 1000000 ≤ d.2.nanos := by
  simp [briefDuration?]

/-- A duration is zero when it is loaded if it was too short when it was saved. -/
theorem find?_truncated (config : Config) :
    config.truncated.positiveDurations.find? (fun d => d.2.nanos == 0)
      = config.briefDuration?.map fun d => (d.1, d.2.truncated) := by
  have hdurations : config.truncated.positiveDurations
      = config.positiveDurations.map fun d => (d.1, d.2.truncated) := rfl
  have hzero : ((fun d : String × Duration => d.2.nanos == 0)
      ∘ fun d : String × Duration => (d.1, d.2.truncated)) = fun d => decide (d.2.nanos < 1000000) := by
    funext d
    rw [Bool.eq_iff_iff, Function.comp_apply, beq_iff_eq, decide_eq_true_iff]
    exact d.2.truncated_eq_zero_iff
  rw [hdurations, List.find?_map, hzero, briefDuration?]

/-- A configuration that was cut is refused for the first duration that was brief. -/
theorem optionFault?_truncated {config : Config} (h : config.optionFault? = none) :
    config.truncated.optionFault?
      = config.briefDuration?.map fun d => .invalidOption d.1 mustBePositive := by
  obtain ⟨hmax, _, hfields⟩ := optionFault?_eq_none_iff.mp h
  have hmax' : ¬ config.truncated.maxConnections = 0 := hmax
  have hheaders : config.truncated.headers.toList.findSome? fieldFault? = none :=
    List.findSome?_eq_none_iff.mpr fun field hfield =>
      (fieldFault?_eq_none_iff field).mpr (hfields field hfield)
  rw [optionFault?, if_neg hmax', find?_truncated, hheaders]
  cases config.briefDuration? <;> rfl

/-- What is loaded is usable if no duration was shorter than a millisecond; otherwise the first that was is
refused. -/
theorem validate_truncated {config : Config} {relay : Endpoint} (h : config.validate = .ok relay) :
    config.truncated.validate =
      match config.briefDuration? with
      | none => .ok relay
      | some (name, _) => .error (.invalidOption name mustBePositive) := by
  obtain ⟨hurl, hparse, hsession, hoptions⟩ := validate_eq_ok_iff.mp h
  have hurl' : (Text.trim config.truncated.url.toList).isEmpty = false := hurl
  have hparse' : Endpoint.parse config.truncated.url = .ok relay := hparse
  rw [validate, hurl', hparse', optionFault?_truncated hoptions]
  simp only [hsession]
  cases config.briefDuration? <;> rfl

/-- A usable configuration is read back from its file with its durations in whole milliseconds. It is then
usable, with the same relay, exactly if none of them was shorter than one; otherwise the first that was is
named in the refusal. -/
theorem saved_reads_back {config : Config} {relay : Endpoint} (h : config.validate = .ok relay) :
    ofJson (toJson config) = .ok config.truncated ∧
      (config.truncated.validate = .ok relay ↔ ∀ d ∈ config.positiveDurations, 1000000 ≤ d.2.nanos) ∧
      ∀ name duration, config.briefDuration? = some (name, duration) →
        config.truncated.validate = .error (.invalidOption name mustBePositive) := by
  have hvalidate := validate_truncated h
  refine ⟨ofJson_toJson config, ?_, ?_⟩
  · rw [← briefDuration?_eq_none_iff, hvalidate]
    cases config.briefDuration? <;> simp
  · intro name duration hbrief
    rw [hvalidate, hbrief]

/-- A configuration with a timeout of so many microseconds. -/
def configOfMicros (micros : Nat) : Config where
  url := "http://[::1]/abc"
  idleTimeout := .ofMicros micros
  headers := .insert "X-A" "\"b\"" .empty

/-- A configuration with an idle timeout of some microseconds is valid. -/
theorem validate_configOfMicros {micros : Nat} (h : 0 < micros) :
    (configOfMicros micros).validate = .ok ⟨"[::1]", 80, false, false, "/abc"⟩ := by
  have hparse : Endpoint.parse "http://[::1]/abc" = .ok ⟨"[::1]", 80, false, false, "/abc"⟩ :=
    eq_ok_of_toOption (by decide +kernel)
  have hurl : (Text.trim "http://[::1]/abc".toList).isEmpty = false := by decide
  have hcount : (2 : UInt64) ≠ 0 := by decide
  have hdurations : ∀ d ∈ (configOfMicros micros).positiveDurations, 0 < d.2.nanos := by
    simp [positiveDurations, configOfMicros, Duration.ofMicros, Duration.ofSeconds, h]
  have hheaders : ∀ field ∈ (ExtraFields.insert "X-A" "\"b\"" .empty).toList,
      isFieldName field.1 = true ∧ isFieldValue field.2 = true := by decide
  exact validate_eq_ok_iff.mpr ⟨hurl, hparse, by decide,
    optionFault?_eq_none_iff.mpr ⟨hcount, hdurations, hheaders⟩⟩

/-- A timeout of a millisecond and a half comes back as one of a millisecond. -/
theorem configOfMicros_reads_back :
    (configOfMicros 1500).validate = .ok ⟨"[::1]", 80, false, false, "/abc"⟩ ∧
      ofJson (toJson (configOfMicros 1500)) = .ok (configOfMicros 1000) ∧
      (configOfMicros 1000).validate = .ok ⟨"[::1]", 80, false, false, "/abc"⟩ := by
  have hvalid := validate_configOfMicros (show 0 < 1500 by decide)
  have hread := saved_reads_back hvalid
  have htruncated : (configOfMicros 1500).truncated = configOfMicros 1000 := by
    simp [configOfMicros, truncated, Duration.truncated, Duration.ofMicros, Duration.ofMillis,
      Duration.ofSeconds]
  rw [htruncated] at hread
  exact ⟨hvalid, hread.1, hread.2.1.mpr (by decide)⟩

/-- A timeout of half a millisecond is usable, but what it is saved as is not. -/
theorem configOfMicros_is_refused :
    (configOfMicros 500).validate = .ok ⟨"[::1]", 80, false, false, "/abc"⟩ ∧
      ofJson (toJson (configOfMicros 500)) = .ok (configOfMicros 0) ∧
      (configOfMicros 0).validate = .error (.invalidOption "idleTimeout" mustBePositive) := by
  have hvalid := validate_configOfMicros (show 0 < 500 by decide)
  have hread := ofJson_toJson (configOfMicros 500)
  have hrefused := validate_truncated hvalid
  have htruncated : (configOfMicros 500).truncated = configOfMicros 0 := by
    simp [configOfMicros, truncated, Duration.truncated, Duration.ofMicros, Duration.ofMillis,
      Duration.ofSeconds]
  have hbrief : (configOfMicros 500).briefDuration? = some ("idleTimeout", .ofMicros 500) := by decide
  rw [htruncated] at hread hrefused
  rw [hbrief] at hrefused
  exact ⟨hvalid, hread, hrefused⟩

end Config

end RelayTunnel
