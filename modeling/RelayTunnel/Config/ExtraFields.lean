import RelayTunnel.Ascii

/-!
# Extra header fields

The fields that a tunnel adds to its opening request: a map from names to values in the order of the
names. A name that is set again keeps its place and takes the new value.
-/

set_option autoImplicit false

namespace RelayTunnel

/-- Sets the value of a name in a sorted list of names and values. -/
def insertSorted (name value : String) : List (String × String) → List (String × String)
  | [] => [(name, value)]
  | (n, v) :: rest =>
      if name < n then (name, value) :: (n, v) :: rest
      else if name = n then (name, value) :: rest
      else (n, v) :: insertSorted name value rest

/-- A name of the list with a value set is the name that was set or one from before. -/
theorem mem_insertSorted {name value : String} {entries : List (String × String)}
    {e : String × String} (h : e ∈ insertSorted name value entries) :
    e = (name, value) ∨ e ∈ entries := by
  induction entries with
  | nil => simpa [insertSorted] using h
  | cons first rest ih =>
      obtain ⟨n, v⟩ := first
      rw [insertSorted] at h
      split at h
      · simpa using h
      · split at h
        · rcases List.mem_cons.1 h with h | h
          · exact .inl h
          · exact .inr (List.mem_cons_of_mem _ h)
        · rcases List.mem_cons.1 h with h | h
          · exact .inr (h ▸ List.mem_cons_self)
          · exact (ih h).imp id (List.mem_cons_of_mem _)

/-- Setting a value keeps the list sorted. -/
theorem sorted_insertSorted (name value : String) {entries : List (String × String)}
    (h : entries.Pairwise fun a b => a.1 < b.1) :
    (insertSorted name value entries).Pairwise fun a b => a.1 < b.1 := by
  induction entries with
  | nil => simp [insertSorted]
  | cons first rest ih =>
      obtain ⟨n, v⟩ := first
      have ⟨hfirst, hrest⟩ := List.pairwise_cons.1 h
      rw [insertSorted]
      split
      next hlt =>
        refine List.pairwise_cons.2 ⟨fun e he => ?_, h⟩
        rcases List.mem_cons.1 he with rfl | he
        · exact hlt
        · exact String.lt_trans hlt (hfirst e he)
      next hlt =>
        split
        next heq => exact List.pairwise_cons.2 ⟨fun e he => heq ▸ hfirst e he, hrest⟩
        next heq =>
          refine List.pairwise_cons.2 ⟨fun e he => ?_, ih hrest⟩
          rcases mem_insertSorted he with rfl | he
          · exact Std.lt_of_le_of_ne (String.not_lt.1 hlt) (Ne.symm heq)
          · exact hfirst e he

/-- Extra header fields, sorted by name, each name once. -/
structure ExtraFields where
  toList : List (String × String)
  sorted : toList.Pairwise fun a b => a.1 < b.1
  deriving DecidableEq

namespace ExtraFields

def empty : ExtraFields := ⟨[], .nil⟩

def insert (name value : String) (fields : ExtraFields) : ExtraFields :=
  ⟨insertSorted name value fields.toList, sorted_insertSorted name value fields.sorted⟩

end ExtraFields

end RelayTunnel
