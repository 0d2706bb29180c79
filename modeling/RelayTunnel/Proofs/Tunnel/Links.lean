import RelayTunnel.Link

/-!
# What reads, writes and flushes do to a connection

A write appends to what has been written and a read takes octets off the front of what has arrived;
neither changes what the other is about, and a flush changes nothing but whether there is something to
flush. A write that is not completed has used up the room there was, a read that has to wait finds
neither octets nor an end, and a flush that has to wait leaves something to flush.
-/

set_option autoImplicit false

namespace RelayTunnel.Link

variable {link link' : Link} {octets rest : Bytes} {limit : Nat}

/-! ## Writes -/

/-- A write takes octets off the front of what is to be written. -/
theorem exists_taken_of_write (h : link.write octets = (.left rest, link')) :
    ∃ taken, octets = taken ++ rest ∧ link'.outgoing = link.outgoing ++ taken := by
  unfold write at h
  split at h
  · split at h
    · next hempty =>
      obtain ⟨hrest, rfl⟩ := Prod.mk.inj h
      rw [← WriteOutcome.left.inj hrest, List.isEmpty_iff.mp hempty]
      exact ⟨[], rfl, (List.append_nil _).symm⟩
    · cases (Prod.mk.inj h).1
  · split at h
    · obtain ⟨hrest, rfl⟩ := Prod.mk.inj h
      rw [← WriteOutcome.left.inj hrest]
      exact ⟨octets, (List.append_nil _).symm, rfl⟩
    · next room _ =>
      obtain ⟨hrest, rfl⟩ := Prod.mk.inj h
      rw [← WriteOutcome.left.inj hrest]
      exact ⟨octets.take room, (List.take_append_drop _ _).symm, rfl⟩

/-- A write appends what it takes and gives back the rest. -/
theorem outgoing_of_write (h : link.write octets = (.left rest, link')) :
    link'.outgoing ++ rest = link.outgoing ++ octets := by
  obtain ⟨taken, rfl, houtgoing⟩ := exists_taken_of_write h
  rw [houtgoing, List.append_assoc]

/-- A write that fails leaves the connection as it is. -/
theorem eq_of_write_failed {reason : String} (h : link.write octets = (.failed reason, link')) :
    link' = link := by
  unfold write at h
  split at h
  · split at h
    · cases (Prod.mk.inj h).1
    · exact (Prod.mk.inj h).2.symm
  · split at h <;> cases (Prod.mk.inj h).1

/-- Writing leaves alone what can be read. -/
theorem readable_of_write {outcome : WriteOutcome} (h : link.write octets = (outcome, link')) :
    link'.incoming = link.incoming ∧ link'.ending = link.ending := by
  unfold write at h
  split at h
  · split at h <;> rw [← (Prod.mk.inj h).2] <;> exact ⟨rfl, rfl⟩
  · split at h <;> rw [← (Prod.mk.inj h).2] <;> exact ⟨rfl, rfl⟩

/-- To write takes nothing that has arrived. -/
theorem incoming_of_write {outcome : WriteOutcome} (h : link.write octets = (outcome, link')) :
    link'.incoming = link.incoming :=
  (readable_of_write h).1

/-- To write does not end a connection. -/
theorem ending_of_write {outcome : WriteOutcome} (h : link.write octets = (outcome, link')) :
    link'.ending = link.ending :=
  (readable_of_write h).2

/-- A write that is not completed has used up the room there was. -/
theorem full_of_write (h : link.write octets = (.left rest, link')) (hrest : rest ≠ []) :
    link'.writeFault = none ∧ link'.room = some 0 := by
  unfold write at h
  split at h
  · split at h
    · exact absurd (WriteOutcome.left.inj (Prod.mk.inj h).1).symm hrest
    · cases (Prod.mk.inj h).1
  · next hfault =>
    split at h
    · exact absurd (WriteOutcome.left.inj (Prod.mk.inj h).1).symm hrest
    · next room hroom =>
      obtain ⟨hleft, rfl⟩ := Prod.mk.inj h
      have hdrop : octets.drop room ≠ [] := by rwa [WriteOutcome.left.inj hleft]
      have hless : room < octets.length := by simpa using hdrop
      exact ⟨hfault, congrArg some (by omega)⟩

/-- There is nothing to wait for in order to write nothing. -/
theorem write_nil (link : Link) : link.write [] = (.left [], link) := by
  obtain ⟨incoming, ending, outgoing, room, fault, isFlushed, flushing, isOpen⟩ := link
  cases fault <;> cases room <;> simp [write, append]

/-- A write without room has to wait. -/
theorem write_of_full (hfault : link.writeFault = none) (hroom : link.room = some 0)
    (octets : Bytes) : link.write octets = (.left octets, link) := by
  obtain ⟨incoming, ending, outgoing, room, fault, isFlushed, flushing, isOpen⟩ := link
  simp only at hfault hroom
  simp [write, append, hfault, hroom]

/-! ## Flushes -/

/-- Whether a flush has to wait now. -/
def isHeldUp (link : Link) : Bool := !link.isFlushed && link.flushing == .waiting

/-- A flush changes nothing but whether there is something to flush. -/
theorem eq_of_flush {outcome : FlushOutcome} (h : link.flush = (outcome, link')) :
    link' = { link with isFlushed := link'.isFlushed } := by
  unfold flush at h
  split at h
  · rw [← (Prod.mk.inj h).2]
  · split at h <;> rw [← (Prod.mk.inj h).2]

/-- To flush takes nothing that has been written. -/
theorem outgoing_of_flush {outcome : FlushOutcome} (h : link.flush = (outcome, link')) :
    link'.outgoing = link.outgoing := by
  rw [eq_of_flush h]

/-- Flushing leaves alone what can be read. -/
theorem readable_of_flush {outcome : FlushOutcome} (h : link.flush = (outcome, link')) :
    link'.incoming = link.incoming ∧ link'.ending = link.ending := by
  rw [eq_of_flush h]
  exact ⟨rfl, rfl⟩

/-- A flush that is done leaves nothing to flush. -/
theorem isFlushed_of_flush (h : link.flush = (.done, link')) : link'.isFlushed = true := by
  unfold flush at h
  split at h
  · next hflushed => rwa [← (Prod.mk.inj h).2]
  · split at h
    · rw [← (Prod.mk.inj h).2]
    · next hnot => exact absurd (Prod.mk.inj h).1 hnot

/-- A flush that is not done leaves the connection as it is, with something to flush. -/
theorem eq_of_flush_ne_done {outcome : FlushOutcome} (h : link.flush = (outcome, link'))
    (hnot : outcome ≠ .done) :
    link' = link ∧ link.isFlushed = false ∧ link.flushing = outcome := by
  unfold flush at h
  split at h
  · exact absurd (Prod.mk.inj h).1.symm hnot
  · next hunflushed =>
    split at h
    · exact absurd (Prod.mk.inj h).1.symm hnot
    · obtain ⟨houtcome, hlink⟩ := Prod.mk.inj h
      exact ⟨hlink.symm, Bool.not_eq_true _ ▸ hunflushed, houtcome⟩

/-- A flush that has to wait goes on waiting until the far end does something. -/
theorem isHeldUp_of_flush (h : link.flush = (.waiting, link')) : link.isHeldUp = true := by
  obtain ⟨-, hunflushed, hflushing⟩ := eq_of_flush_ne_done h nofun
  simp [isHeldUp, hunflushed, hflushing]

/-- A connection that is held up cannot be flushed yet. -/
theorem flush_of_isHeldUp (h : link.isHeldUp = true) : link.flush = (.waiting, link) := by
  simp only [isHeldUp, Bool.and_eq_true, Bool.not_eq_eq_eq_not, Bool.not_true, beq_iff_eq] at h
  simp [flush, h.1, h.2]

/-! ## Reads -/

/-- A read takes octets off the front of what has arrived. -/
theorem incoming_of_read (h : link.read limit = (.data octets, link')) :
    octets ++ link'.incoming = link.incoming := by
  unfold read at h
  split at h
  · split at h <;> cases (Prod.mk.inj h).1
  · next b rest hincoming =>
    obtain ⟨hoctets, rfl⟩ := Prod.mk.inj h
    rw [← ReadOutcome.data.inj hoctets, hincoming]
    exact List.take_append_drop limit (b :: rest)

/-- Reading leaves alone what has been written. -/
theorem outgoing_of_read {outcome : ReadOutcome}
    (h : link.read limit = (outcome, link')) : link'.outgoing = link.outgoing := by
  unfold read at h
  split at h
  · split at h <;> rw [← (Prod.mk.inj h).2]
  · rw [← (Prod.mk.inj h).2]

/-- Reading leaves alone what can be written and flushed. -/
theorem writable_of_read {outcome : ReadOutcome} (h : link.read limit = (outcome, link')) :
    link'.writeFault = link.writeFault ∧ link'.room = link.room ∧ link'.isHeldUp = link.isHeldUp := by
  unfold read at h
  split at h
  · split at h <;> rw [← (Prod.mk.inj h).2] <;> exact ⟨rfl, rfl, rfl⟩
  · rw [← (Prod.mk.inj h).2]
    exact ⟨rfl, rfl, rfl⟩

/-- Reading leaves alone what has been flushed. -/
theorem isFlushed_of_read {outcome : ReadOutcome} (h : link.read limit = (outcome, link')) :
    link'.isFlushed = link.isFlushed := by
  unfold read at h
  split at h
  · split at h <;> rw [← (Prod.mk.inj h).2]
  · rw [← (Prod.mk.inj h).2]

/-- What is read is not empty. -/
theorem ne_nil_of_read (hlimit : 0 < limit)
    (h : link.read limit = (.data octets, link')) : octets ≠ [] := by
  intro hnil
  have hshorter := length_incoming_of_read hlimit h
  have hincoming := incoming_of_read h
  rw [hnil, List.nil_append] at hincoming
  rw [hincoming] at hshorter
  exact Nat.lt_irrefl _ hshorter

/-- Where something has arrived, something is read. -/
theorem exists_read (h : link.incoming ≠ []) (limit : Nat) :
    ∃ octets link', link.read limit = (.data octets, link') := by
  obtain ⟨b, rest, hincoming⟩ := List.exists_cons_of_ne_nil h
  exact ⟨_, _, by rw [Link.read, hincoming]⟩

/-- A read that gives nothing leaves the connection as it is, and nothing has arrived then. -/
theorem eq_of_read {outcome : ReadOutcome} (h : link.read limit = (outcome, link'))
    (hnone : ∀ octets, outcome ≠ .data octets) : link' = link ∧ link.incoming = [] := by
  unfold read at h
  split at h
  · next hincoming =>
    split at h <;> exact ⟨(Prod.mk.inj h).2.symm, hincoming⟩
  · exact absurd (Prod.mk.inj h).1.symm (hnone _)

/-- To wait for octets is to find neither octets nor an end. -/
theorem quiet_of_read_waiting (h : link.read limit = (.waiting, link')) :
    link.incoming = [] ∧ link.ending = none := by
  unfold read at h
  split at h
  · next hincoming =>
    split at h
    · next hending => exact ⟨hincoming, hending⟩
    · cases (Prod.mk.inj h).1
    · cases (Prod.mk.inj h).1
  · cases (Prod.mk.inj h).1

/-- Where there is neither, the reader waits. -/
theorem read_of_quiet (hincoming : link.incoming = []) (hending : link.ending = none) (limit : Nat) :
    link.read limit = (.waiting, link) := by
  simp [read, hincoming, hending]

end RelayTunnel.Link
