import RelayTunnel.Proofs.Tunnel.Contact
import RelayTunnel.Proofs.Tunnel.TailFlush

/-!
# How long the destination may be silent

Forwarding is looked at when something happens to its connections, and when the alarm of its idle watch
goes off at the latest; the alarm may have been set before the last contact with the destination, and is
set anew then (`IsOnTime`). Whatever happens and whenever, forwarding that nothing else ends is ended once
the destination has been silent for as long as allowed, at that very instant (`timeout_exact`).
-/

set_option autoImplicit false

namespace RelayTunnel

open Compression (BodyCompressor)

/-! ## Looks at the watch -/

namespace IdleWatch

variable {w : IdleWatch} {now deadline : Instant}

/-- Nothing is done before the moment to look again has come. -/
theorem look_of_isAsleep (h : w.isAsleep now = true) : w.look now = .watching w := by
  rw [look, h]
  rfl

/-- When that moment has come, the watch is looked at. -/
theorem look_of_due (h : w.isAsleep now = false) :
    w.look now = match w.deadline? with
      | none => .lost
      | some deadline =>
          if deadline.notAfter now then .expired
          else .watching { w with alarm := some deadline } := by
  rw [look, h]
  cases w.deadline? <;> rfl

/-- A watch is asleep while its alarm is still to come. -/
theorem isAsleep_iff : w.isAsleep now = true ↔ ∃ alarm, w.alarm = some alarm ∧ now.nanos < alarm.nanos := by
  rw [isAsleep]
  cases w.alarm <;> simp [Instant.notAfter]

end IdleWatch

namespace Forwarding

variable {C : Type} [BodyCompressor C]

/-! ## Schedules -/

/-- Left alone, forwarding is looked at whenever its alarm goes off, and ends for silence at the given
instant. -/
inductive TimesOut (idle : Duration) (at_ : Instant) : Forwarding C → Prop
  | now {f : Forwarding C} : f.watch.alarm = some at_ →
      (f.poll at_).2 = .ended (.error (.destinationTimeout idle)) → TimesOut idle at_ f
  | later {f g : Forwarding C} (alarm : Instant) : f.watch.alarm = some alarm →
      alarm.nanos < at_.nanos → f.poll alarm = (g, .goesOn) → TimesOut idle at_ g →
      TimesOut idle at_ f

/-- When forwarding may be looked at next: at an instant that the clock shows, at once if that has not been
settled, and otherwise when its alarm goes off at the latest. Contact with the destination falls on whole
milliseconds. -/
structure MayPoll (begin_ now later : Instant) (f : Forwarding C) : Prop where
  shown : later.isShown = true
  after : now.nanos ≤ later.nanos
  inTime : ∀ alarm ∈ f.watch.alarm, later.nanos ≤ alarm.nanos
  atOnce : f.watch.alarm = none → later = now
  whole : f.contacts later = true → ∃ millis, later = begin_.after (.ofMillis millis)

/-- The last contact with the destination, one at this instant included. -/
def lastContact (last now : Instant) (f : Forwarding C) : Instant :=
  if f.contacts now then now else last

section Timeline

variable (wires : Wires) (first : Bytes) (idle : Duration) (begin_ : Instant)

/-- The states that forwarding can be in, with the instant at which it was looked at and that of the last
contact with the destination; the beginning counts as contact. -/
inductive Timeline : Instant → Instant → Forwarding C → Prop
  | start : Timeline begin_ begin_ (.start wires first idle begin_)
  /-- The far ends do what they like to the connections. -/
  | farEnds {now last : Instant} {f : Forwarding C} (w : Wires) :
      Timeline now last f → Timeline now last { f with toWires := w }
  | poll {now last later : Instant} {f g : Forwarding C} : Timeline now last f →
      MayPoll begin_ now later f → f.poll later = (g, .goesOn) →
      Timeline later (f.lastContact last later) g

/-- What the watch knows of the last contact. -/
structure IsWatched (last : Instant) (f : Forwarding C) : Prop where
  started : f.watch.started = begin_
  patience : f.watch.idle = idle
  touched : begin_.after (.ofMillis f.watch.touched) = last

/-- The alarm goes off when the watch expires, or before and then once more. -/
structure IsOnTime (now last : Instant) (f : Forwarding C) : Prop extends
    IsWatched idle begin_ last f where
  past : last.nanos ≤ now.nanos
  unsettled : f.watch.alarm = none → now = last
  ahead : ∀ alarm ∈ f.watch.alarm, now.nanos < alarm.nanos ∧ alarm.nanos ≤ (last.after idle).nanos
  pending : ∀ size, f.inbound ≠ .writing [] size

variable {wires first idle begin_}
variable {now last later : Instant} {f g : Forwarding C}

omit [BodyCompressor C] in
/-- The watch expires when the silence since the last contact has lasted as long as allowed. -/
theorem IsWatched.deadline (h : IsWatched idle begin_ last f) (hshown : last.isShown = true) :
    f.watch.deadline? = last.after? idle := by
  have hlast : f.watch.started.after? (.ofMillis f.watch.touched) = some last := by
    rw [h.started]
    exact Instant.after?_eq_some_iff.mpr ⟨h.touched, hshown⟩
  rw [IdleWatch.deadline?, hlast, h.patience]
  rfl

/-- What the watch knows of the last contact when both directions have to wait. -/
theorem IsWatched.runFlows (h : IsWatched idle begin_ last f) (hmay : MayPoll begin_ now later f)
    (hflows : f.runFlows later = (g, none)) :
    IsWatched idle begin_ (f.lastContact last later) g := by
  obtain ⟨-, hwatch⟩ := runFlows_effect hflows
  cases hcontact : f.contacts later with
  | false =>
    rw [hcontact] at hwatch
    have hsame : g.watch = f.watch := hwatch
    simp only [lastContact, hcontact]
    exact ⟨hsame ▸ h.started, hsame ▸ h.patience, hsame ▸ h.touched⟩
  | true =>
    rw [hcontact] at hwatch
    have htouched : g.watch = f.watch.touch later := hwatch
    obtain ⟨millis, hmillis⟩ := hmay.whole hcontact
    simp only [lastContact, hcontact]
    refine ⟨htouched ▸ h.started, htouched ▸ h.patience, ?_⟩
    -- nothing is cut off, since the contact is a whole number of milliseconds after the beginning
    rw [htouched, IdleWatch.touch, h.started, hmillis]
    simp [Instant.after, Instant.since, Duration.ofMillis, Duration.wholeMillis]

/-- At the next look the silence has not lasted longer than allowed. -/
theorem IsOnTime.bounds (h : IsOnTime idle begin_ now last f) (hmay : MayPoll begin_ now later f) :
    last.nanos ≤ (f.lastContact last later).nanos ∧ (f.lastContact last later).nanos ≤ later.nanos ∧
      later.nanos ≤ ((f.lastContact last later).after idle).nanos := by
  have hpast := h.past
  have hafter := hmay.after
  have hlater : later.nanos ≤ (last.after idle).nanos := by
    cases halarm : f.watch.alarm with
    | none =>
      have hnow := h.unsettled halarm
      rw [hmay.atOnce halarm, hnow]
      exact Nat.le_add_right _ _
    | some alarm =>
      have hfirst := hmay.inTime alarm halarm
      have hsecond := (h.ahead alarm halarm).2
      omega
  rw [lastContact]
  split
  · exact ⟨by omega, Nat.le_refl _, Nat.le_add_right _ _⟩
  · exact ⟨Nat.le_refl _, by omega, hlater⟩

omit [BodyCompressor C] in
/-- A watch that is asleep is left alone. -/
theorem checkIdle_of_isAsleep (h : f.watch.isAsleep now = true) : f.checkIdle now = (f, .goesOn) := by
  rw [checkIdle, IdleWatch.look_of_isAsleep h]

omit [BodyCompressor C] in
/-- A watch that is due before the silence has lasted too long is set to the instant when it will
have. -/
theorem checkIdle_of_lt (h : IsWatched idle begin_ last f) (hdue : f.watch.isAsleep now = false)
    (hpast : last.nanos ≤ now.nanos) (hnow : now.nanos < (last.after idle).nanos)
    (hshown : (last.after idle).isShown = true) :
    f.checkIdle now =
      ({ f with watch := { f.watch with alarm := some (last.after idle) } }, .goesOn) := by
  have hlast := Instant.isShown_of_le hshown (Nat.le_trans hpast (Nat.le_of_lt hnow))
  have hdeadline : f.watch.deadline? = some (last.after idle) :=
    (h.deadline hlast).trans (Instant.after?_eq_some_iff.mpr ⟨rfl, hshown⟩)
  have hearly : (last.after idle).notAfter now = false := by simpa [Instant.notAfter] using hnow
  rw [checkIdle, IdleWatch.look_of_due hdue, hdeadline]
  simp only [hearly]
  rfl

omit [BodyCompressor C] in
/-- A watch that is due ends forwarding if the silence has lasted as long as allowed. -/
theorem checkIdle_of_eq (h : IsWatched idle begin_ last f) (hdue : f.watch.isAsleep now = false)
    (hpast : last.nanos ≤ now.nanos) (hnow : now = last.after idle) (hshown : now.isShown = true) :
    f.checkIdle now = (f, .ended (.error (.destinationTimeout idle))) := by
  have hlast := Instant.isShown_of_le hshown hpast
  have hdeadline : f.watch.deadline? = some now :=
    (h.deadline hlast).trans (Instant.after?_eq_some_iff.mpr ⟨hnow.symm, hshown⟩)
  have hlate : now.notAfter now = true := by simp [Instant.notAfter]
  rw [checkIdle, IdleWatch.look_of_due hdue, hdeadline]
  simp only [hlate, if_true, h.patience]

omit [BodyCompressor C] in
/-- A watch that is due crashes forwarding if the clock cannot show when it would expire. -/
theorem checkIdle_of_hidden (h : IsWatched idle begin_ last f) (hdue : f.watch.isAsleep now = false)
    (hlast : last.isShown = true) (hhidden : (last.after idle).isShown = false) :
    f.checkIdle now = (f, .crashed) := by
  have hdeadline : f.watch.deadline? = none :=
    (h.deadline hlast).trans (Instant.after?_eq_none_iff.mpr hhidden)
  rw [checkIdle, IdleWatch.look_of_due hdue, hdeadline]

omit [BodyCompressor C] in
/-- What the watch knows of the last contact has nothing to do with its alarm. -/
theorem IsWatched.alarmed (h : IsWatched idle begin_ last f) (alarm : Option Instant) :
    IsWatched idle begin_ last { f with watch := { f.watch with alarm := alarm } } :=
  ⟨h.started, h.patience, h.touched⟩

/-- What a look comes to that does not find forwarding ended otherwise: the end for silence, a crash, or
more to come. -/
theorem IsOnTime.poll (h : IsOnTime idle begin_ now last f) (hmay : MayPoll begin_ now later f)
    (hflows : f.runFlows later = (g, none)) :
    (later = (f.lastContact last later).after idle ∧
      f.poll later = (g, .ended (.error (.destinationTimeout idle)))) ∨
    ((((f.lastContact last later).after idle).isShown = false ∧ f.watch.isAsleep later = false) ∧
      f.poll later = (g, .crashed)) ∨
    ((later.nanos < ((f.lastContact last later).after idle).nanos ∧
        (((f.lastContact last later).after idle).isShown = true ∨ f.watch.isAsleep later = true)) ∧
      ∃ k, f.poll later = (k, .goesOn) ∧ IsOnTime idle begin_ later (f.lastContact last later) k ∧
        k.IsStuck ∧ k.watch.alarm ≠ none) := by
  have hwatched := h.runFlows hmay hflows
  obtain ⟨hlast, hpast, hdue⟩ := h.bounds hmay
  obtain ⟨hstuck, hwatch⟩ := runFlows_effect hflows
  have hpoll : f.poll later = g.checkIdle later := by rw [poll_eq, hflows]
  have hsame : g.watch.alarm = f.watch.alarm := by rw [hwatch, alarm_watchIf]
  have hsleeps : g.watch.isAsleep later = f.watch.isAsleep later := by
    rw [IdleWatch.isAsleep, hsame, IdleWatch.isAsleep]
  rw [hpoll]
  cases hasleep : f.watch.isAsleep later with
  | true =>
    -- the alarm is what it was, so it does not go off after the watch expires
    obtain ⟨alarm, halarm, hcoming⟩ := IdleWatch.isAsleep_iff.mp hasleep
    have hahead := (h.ahead alarm halarm).2
    simp only [Instant.after] at hahead
    have hbefore : alarm.nanos ≤ ((f.lastContact last later).after idle).nanos := by
      simp only [Instant.after]
      omega
    refine .inr (.inr ⟨⟨by omega, .inr rfl⟩, g, checkIdle_of_isAsleep (hsleeps.trans hasleep), ?_, hstuck,
      by rw [hsame, halarm]; exact Option.some_ne_none alarm⟩)
    refine ⟨hwatched, hpast, ?_, ?_, hstuck.ne_empty⟩
    · rw [hsame, halarm]
      exact nofun
    · rw [hsame, halarm]
      rintro _ ⟨⟩
      exact ⟨hcoming, hbefore⟩
  | false =>
    have hawake := hsleeps.trans hasleep
    cases hshown : ((f.lastContact last later).after idle).isShown with
    | false =>
      have hseen := Instant.isShown_of_le hmay.shown hpast
      exact .inr (.inl ⟨⟨rfl, rfl⟩, checkIdle_of_hidden hwatched hawake hseen hshown⟩)
    | true =>
      rcases Nat.eq_or_lt_of_le hdue with hnow | hnow
      · have hends : later = (f.lastContact last later).after idle := by
          cases later
          exact congrArg Instant.mk hnow
        exact .inl ⟨hends, checkIdle_of_eq hwatched hawake hpast hends hmay.shown⟩
      · refine .inr (.inr ⟨⟨hnow, .inl rfl⟩, _, checkIdle_of_lt hwatched hawake hpast hnow hshown, ?_,
          hstuck.watching _, Option.some_ne_none _⟩)
        refine ⟨hwatched.alarmed _, hpast, nofun, ?_, hstuck.ne_empty⟩
        rintro _ ⟨⟩
        exact ⟨hnow, Nat.le_refl _⟩

/-- Left alone from where both directions have to wait, forwarding ends when the watch expires, if the
clock can show that instant. -/
theorem IsOnTime.timesOut (h : IsOnTime idle begin_ now last f) (hstuck : f.IsStuck)
    (halarm : f.watch.alarm ≠ none) (hshown : (last.after idle).isShown = true) :
    TimesOut idle (last.after idle) f := by
  obtain ⟨alarm, halarm⟩ := Option.ne_none_iff_exists'.mp halarm
  obtain ⟨hcoming, hbefore⟩ := h.ahead alarm halarm
  have hpast := h.past
  have hawake : ∀ {f : Forwarding C} {alarm : Instant}, f.watch.alarm = some alarm →
      f.watch.isAsleep alarm = false := by
    intro f alarm halarm
    rw [IdleWatch.isAsleep, halarm]
    simp [Instant.notAfter]
  have hexpires : ∀ f : Forwarding C, f.IsStuck → IsWatched idle begin_ last f →
      f.watch.alarm = some (last.after idle) → TimesOut idle (last.after idle) f := by
    intro f hstuck hwatched halarm
    refine .now halarm ?_
    rw [poll_of_isStuck _ hstuck,
      checkIdle_of_eq hwatched (hawake halarm) (Nat.le_add_right _ _) rfl hshown]
  rcases Nat.eq_or_lt_of_le hbefore with hnow | hnow
  · have hdue : alarm = last.after idle := by
      cases alarm
      exact congrArg Instant.mk hnow
    exact hexpires f hstuck h.toIsWatched (hdue ▸ halarm)
  · -- the alarm was set before the last contact, and is set anew when it goes off
    refine .later alarm halarm hnow ?_ (hexpires _ (hstuck.watching _) (h.alarmed _) rfl)
    rw [poll_of_isStuck _ hstuck]
    exact checkIdle_of_lt h.toIsWatched (hawake halarm) (by omega) hnow hshown

/-- On every schedule the alarm goes off in time. -/
theorem Timeline.isOnTime (h : Timeline wires first idle begin_ now last f) :
    IsOnTime idle begin_ now last f := by
  induction h with
  | start =>
    refine ⟨⟨rfl, rfl, ?_⟩, Nat.le_refl _, fun _ => rfl, nofun, nofun⟩
    simp [Forwarding.start, IdleWatch.start, Instant.after, Duration.ofMillis]
  | farEnds w _ ih =>
    exact ⟨⟨ih.started, ih.patience, ih.touched⟩, ih.past, ih.unsettled, ih.ahead, ih.pending⟩
  | @poll now last later f g _ hmay hpoll ih =>
    rcases hflows : f.runFlows later with ⟨g', _ | result⟩
    · rcases ih.poll hmay hflows with ⟨_, htimeout⟩ | ⟨_, hcrash⟩ | ⟨_, k, hk, honTime, _, _⟩
      · rw [hpoll] at htimeout
        cases (Prod.mk.inj htimeout).2
      · rw [hpoll] at hcrash
        cases (Prod.mk.inj hcrash).2
      · rw [hpoll] at hk
        rw [(Prod.mk.inj hk).1]
        exact honTime
    · rw [poll_eq, hflows] at hpoll
      cases (Prod.mk.inj hpoll).2

/-- What a look comes to: an end for silence if the last contact lies back as long as allowed, a crash if
the clock cannot show when it will and the alarm is due, and more to come otherwise. -/
theorem IsOnTime.verdict (h : IsOnTime idle begin_ now last f) (hmay : MayPoll begin_ now later f) :
    ((f.poll later).2 = .ended (.error (.destinationTimeout idle)) ↔
      (f.runFlows later).2 = none ∧ later = (f.lastContact last later).after idle) ∧
    ((f.poll later).2 = .goesOn ↔
      (f.runFlows later).2 = none ∧ later.nanos < ((f.lastContact last later).after idle).nanos ∧
        (((f.lastContact last later).after idle).isShown = true ∨ f.watch.isAsleep later = true)) ∧
    ((f.poll later).2 = .crashed ↔
      (f.runFlows later).2 = none ∧ ((f.lastContact last later).after idle).isShown = false ∧
        f.watch.isAsleep later = false) ∧
    ∀ g, f.poll later = (g, .goesOn) → ((f.lastContact last later).after idle).isShown = true →
      TimesOut idle ((f.lastContact last later).after idle) g := by
  rcases hflows : f.runFlows later with ⟨g, _ | result⟩
  · rcases h.poll hmay hflows with
      ⟨hdue, hpoll⟩ | ⟨⟨hhidden, hawake⟩, hpoll⟩ | ⟨⟨hearly, hset⟩, k, hpoll, hnext, hstuck, halarm⟩
    · have hlate : ¬ later.nanos < ((f.lastContact last later).after idle).nanos :=
        Nat.not_lt_of_ge (Nat.le_of_eq (congrArg Instant.nanos hdue).symm)
      have hshown : ((f.lastContact last later).after idle).isShown = true := hdue ▸ hmay.shown
      simp only [hpoll, hlate, hshown, false_and, and_false, reduceCtorEq, Bool.true_eq_false]
      exact ⟨by simpa using hdue, trivial, trivial, fun _ hgoes =>
        absurd (Prod.mk.inj hgoes).2 (by simp)⟩
    · have hnotYet : later ≠ (f.lastContact last later).after idle := by
        intro hdue
        rw [← hdue, hmay.shown] at hhidden
        exact Bool.noConfusion hhidden
      simp only [hpoll, hnotYet, hhidden, hawake, and_false, and_true, or_self, reduceCtorEq,
        Bool.false_eq_true]
      exact ⟨trivial, trivial, trivial, fun _ hgoes => absurd (Prod.mk.inj hgoes).2 (by simp)⟩
    · have hnotYet : later ≠ (f.lastContact last later).after idle := fun hdue =>
        Nat.ne_of_lt hearly (congrArg Instant.nanos hdue)
      have hnoCrash : ¬ (((f.lastContact last later).after idle).isShown = false ∧
          f.watch.isAsleep later = false) := by
        rintro ⟨hhidden, hawake⟩
        rw [hhidden, hawake] at hset
        simp at hset
      simp only [hpoll, hnotYet, hearly, hset, hnoCrash, and_false, and_true, reduceCtorEq]
      refine ⟨trivial, trivial, trivial, fun g' hgoes hshown => ?_⟩
      rw [← (Prod.mk.inj hgoes).1]
      exact hnext.timesOut hstuck halarm hshown
  · have hpoll : f.poll later = (g, .ended result) := by rw [poll_eq, hflows]
    have hresult := runFlows_ne_timeout hflows idle
    simp only [hpoll, hresult, Verdict.ended.injEq, reduceCtorEq, false_and]
    exact ⟨trivial, trivial, trivial, fun _ hgoes => absurd (Prod.mk.inj hgoes).2 (by simp)⟩

/-- The destination is given up exactly when it has been silent for as long as allowed. Whenever forwarding
is looked at, it ends for silence if and only if the directions do not end it otherwise and the last
contact, one that is made now included, lies back exactly that long; before, it goes on, and left alone
from there it ends for silence when the last contact lies back that long. It cannot only if the clock
cannot show that instant: then it crashes as soon as the alarm is due. Octets that have arrived from
the destination and a write to it that can be completed make contact; whatever comes from the relay makes
none while nothing can be read from the destination and nothing written to it. -/
theorem timeout_exact (h : Timeline wires first idle begin_ now last f)
    (hmay : MayPoll begin_ now later f) :
    ((f.poll later).2 = .ended (.error (.destinationTimeout idle)) ↔
      (f.runFlows later).2 = none ∧ later = (f.lastContact last later).after idle) ∧
    ((f.poll later).2 = .goesOn ↔
      (f.runFlows later).2 = none ∧ later.nanos < ((f.lastContact last later).after idle).nanos ∧
        (((f.lastContact last later).after idle).isShown = true ∨ f.watch.isAsleep later = true)) ∧
    ((f.poll later).2 = .crashed ↔
      (f.runFlows later).2 = none ∧ ((f.lastContact last later).after idle).isShown = false ∧
        f.watch.isAsleep later = false) ∧
    (∀ g, f.poll later = (g, .goesOn) → ((f.lastContact last later).after idle).isShown = true →
      TimesOut idle ((f.lastContact last later).after idle) g) ∧
    ((f.runFlows later).2 = none →
      (f.outbound = .reading ∧ f.destination.incoming ≠ [] ∨
        ∃ left size link, f.inbound = .writing left size ∧
          f.destination.write left = (.left [], link)) →
      f.lastContact last later = later) ∧
    ((f.runFlows later).2 = none → f.IsOutOfReach → f.lastContact last later = last) := by
  have honTime := h.isOnTime
  have hcontact : f.contacts later = true → f.lastContact last later = later := by
    intro hcontact
    rw [lastContact, hcontact, if_pos rfl]
  have hnoContact : f.contacts later = false → f.lastContact last later = last := by
    intro hcontact
    rw [lastContact, hcontact, if_neg Bool.false_ne_true]
  obtain ⟨htimeout, hgoesOn, hcrash, hleft⟩ := honTime.verdict hmay
  refine ⟨htimeout, hgoesOn, hcrash, hleft, fun hgoes hready => hcontact ?_,
    fun hgoes haway => hnoContact ?_⟩
  · rcases hready with ⟨hreading, harrived⟩ | ⟨left, size, link, hwriting, hroom⟩
    · exact contacts_of_arrived hgoes hreading harrived
    · exact contacts_of_room hwriting hroom
  · exact contacts_of_isOutOfReach hgoes haway honTime.pending

end Timeline

/-- Forwarding between two sides neither of which has sent anything, with an alarm after the 300
milliseconds for which the destination may be silent. -/
def unanswered : Forwarding :=
  { Forwarding.start freshWires [] (.ofMillis 300) .zero with
    watch := ⟨.zero, 0, .ofMillis 300, some ⟨300000000⟩⟩ }

/-- There is nothing to be done. -/
theorem isStuck_unanswered : unanswered.IsStuck := ⟨⟨rfl, rfl⟩, ⟨rfl, rfl⟩⟩

/-- It is what forwarding is after a first look. -/
theorem timeline_unanswered :
    Timeline freshWires [] (.ofMillis 300) .zero .zero .zero unanswered := by
  have hstuck : (Forwarding.start freshWires [] (.ofMillis 300) .zero : Forwarding).IsStuck :=
    ⟨⟨rfl, rfl⟩, ⟨rfl, rfl⟩⟩
  have hpoll : (Forwarding.start freshWires [] (.ofMillis 300) .zero : Forwarding).poll .zero =
      (unanswered, .goesOn) := by
    rw [poll_of_isStuck _ hstuck]
    rfl
  have hmay : MayPoll .zero .zero .zero
      (.start freshWires [] (.ofMillis 300) .zero : Forwarding) :=
    ⟨rfl, Nat.le_refl 0, nofun, fun _ => rfl, fun _ => ⟨0, rfl⟩⟩
  have hnext := Timeline.poll .start hmay hpoll
  rwa [lastContact, ite_self] at hnext

/-- A destination that never answers is given up when its time is over. -/
theorem unanswered_times_out :
    MayPoll .zero .zero ⟨300000000⟩ unanswered ∧
      (unanswered.poll ⟨300000000⟩).2 = .ended (.error (.destinationTimeout (.ofMillis 300))) := by
  have hcontacts := contacts_of_isStuck ⟨300000000⟩ isStuck_unanswered
  have hmay : MayPoll .zero .zero ⟨300000000⟩ unanswered := by
    refine ⟨rfl, Nat.zero_le _, ?_, nofun, ?_⟩
    · rintro alarm ⟨⟩
      exact Nat.le_refl _
    · rw [hcontacts]
      exact nofun
  refine ⟨hmay, (timeout_exact timeline_unanswered hmay).1.mpr ⟨?_, ?_⟩⟩
  · rw [runFlows_of_isStuck _ isStuck_unanswered]
  · rw [lastContact, hcontacts]
    rfl

end Forwarding

end RelayTunnel
