/-
This file is about lists whose members have keys of their own.

Tables are kept as lists in this library, and what is stored under a key is the first member that
has it. As long as no key occurs twice, that is the only one.
-/
namespace UserDashboard

/-- Of a list whose members have keys of their own, each is found by its key. -/
theorem find?_of_nodup {α β : Type} [DecidableEq β] {key : α → β} {members : List α}
    (distinct : (members.map key).Nodup) {member : α} (present : member ∈ members) :
    members.find? (key · = key member) = some member := by
  induction members with
  | nil => cases present
  | cons first rest inductionHypothesis =>
    rw [List.map_cons, List.nodup_cons] at distinct
    rcases List.mem_cons.mp present with same | later
    · rw [same]
      simp
    · have different : key first ≠ key member := fun same =>
        distinct.1 (same ▸ List.mem_map_of_mem later)
      rw [List.find?_cons_of_neg (by simpa using different)]
      exact inductionHypothesis distinct.2 later

/-- Of a list whose members have keys of their own, nothing else has the key of a member. -/
theorem filter_of_nodup {α β : Type} [DecidableEq β] {key : α → β} {members : List α}
    (distinct : (members.map key).Nodup) {member : α} (present : member ∈ members) :
    members.filter (key · = key member) = [member] := by
  induction members with
  | nil => cases present
  | cons first rest inductionHypothesis =>
    rw [List.map_cons, List.nodup_cons] at distinct
    rcases List.mem_cons.mp present with rfl | later
    · have others : rest.filter (key · = key member) = [] := by
        rw [List.filter_eq_nil_iff]
        intro other old same
        exact distinct.1 (of_decide_eq_true same ▸ List.mem_map_of_mem old)
      rw [List.filter_cons_of_pos (by simp), others]
    · have different : key first ≠ key member := fun same =>
        distinct.1 (same ▸ List.mem_map_of_mem later)
      rw [List.filter_cons_of_neg (by simpa using different)]
      exact inductionHypothesis distinct.2 later

/-- Keys stay different from each other when a new one is added. -/
theorem nodup_snoc {α β : Type} {key : α → β} {members : List α} {last : α}
    (distinct : (members.map key).Nodup) (fresh : ∀ member ∈ members, key member ≠ key last) :
    ((members ++ [last]).map key).Nodup := by
  rw [List.map_append, List.nodup_append]
  refine ⟨distinct, List.pairwise_singleton _ _, ?_⟩
  intro one present other new
  obtain ⟨member, old, rfl⟩ := List.mem_map.mp present
  rw [List.mem_singleton.mp new]
  exact fresh member old

/-- Members with one key are one member. -/
theorem eq_of_nodup {α β : Type} [DecidableEq β] {key : α → β} {members : List α}
    (distinct : (members.map key).Nodup) {first second : α} (memberFirst : first ∈ members)
    (memberSecond : second ∈ members) (same : key first = key second) : first = second := by
  have found := find?_of_nodup distinct memberFirst
  rw [same, find?_of_nodup distinct memberSecond] at found
  exact (Option.some.inj found).symm

end UserDashboard
