/-
This file proves that reading a value as plain data keeps what its members say.

Plain data has its members in order and each name once: of several members of a name the last one
counts. So what is found under a name is what was found under it before, itself read as plain data.
-/

import UserDashboard.Json.Record

namespace UserDashboard.Json

open Number

variable {members sorted result : List (String × Json)} {name other : String} {value : Json}
  {depth : Nat}

/-! ### Members in order -/

/-- Whether members are in the order of their names, each of which occurs once. -/
def InOrder (members : List (String × Json)) : Prop :=
  members.Pairwise fun first second => first.1 < second.1

theorem mem_insertSorted {member : String × Json}
    (isMember : member ∈ insertSorted name value members) :
    member = (name, value) ∨ member ∈ members := by
  induction members with
  | nil => exact Or.inl (List.mem_singleton.mp isMember)
  | cons first members inductionHypothesis =>
    obtain ⟨label, kept⟩ := first
    rw [insertSorted] at isMember
    split at isMember
    · rcases List.mem_cons.mp isMember with same | member
      · exact Or.inl same
      · exact Or.inr (List.mem_cons_of_mem _ member)
    · split at isMember
      · rcases List.mem_cons.mp isMember with same | member
        · exact Or.inl same
        · exact Or.inr member
      · rcases List.mem_cons.mp isMember with same | member
        · exact Or.inr (same ▸ List.mem_cons_self)
        · exact (inductionHypothesis member).imp_right (List.mem_cons_of_mem _)

theorem InOrder.insertSorted (ordered : InOrder members) (name : String) (value : Json) :
    InOrder (insertSorted name value members) := by
  induction members with
  | nil => exact List.pairwise_singleton _ _
  | cons first members inductionHypothesis =>
    obtain ⟨label, kept⟩ := first
    obtain ⟨smallest, rest⟩ := List.pairwise_cons.mp ordered
    rw [Json.insertSorted]
    split
    · rename_i same
      subst same
      exact List.pairwise_cons.mpr ⟨smallest, rest⟩
    · split
      · rename_i smaller
        refine List.pairwise_cons.mpr ⟨fun member isMember => ?_, ordered⟩
        rcases List.mem_cons.mp isMember with rfl | isMember
        · exact smaller
        · exact String.lt_trans smaller (smallest member isMember)
      · rename_i different larger
        refine List.pairwise_cons.mpr ⟨fun member isMember => ?_, inductionHypothesis rest⟩
        rcases mem_insertSorted isMember with rfl | isMember
        · exact Std.lt_of_le_of_ne (String.not_lt.mp larger) (Ne.symm different)
        · exact smallest member isMember

theorem lookup?_eq_none (absent : ∀ member ∈ members, member.1 ≠ name) :
    lookup? name members = none := by
  induction members with
  | nil => rfl
  | cons first members inductionHypothesis =>
    rw [lookup?, inductionHypothesis fun member isMember =>
      absent member (List.mem_cons_of_mem _ isMember)]
    exact if_neg (absent first List.mem_cons_self)

/-- A member put in its place is found under its name, and hides no other. -/
theorem lookup?_insertSorted (ordered : InOrder members) :
    lookup? other (insertSorted name value members) =
      if name = other then some value else lookup? other members := by
  have free {members : List (String × Json)} (above : ∀ member ∈ members, name < member.1) :
      lookup? name members = none :=
    lookup?_eq_none fun member isMember same =>
      String.lt_irrefl name (same ▸ above member isMember)
  induction members with
  | nil => rfl
  | cons first members inductionHypothesis =>
    obtain ⟨label, kept⟩ := first
    obtain ⟨smallest, rest⟩ := List.pairwise_cons.mp ordered
    rw [insertSorted]
    split
    · rename_i same
      subst same
      by_cases asked : name = other
      · rw [if_pos asked, ← asked, lookup?, free smallest, if_pos rfl]
      · rw [if_neg asked, lookup?, lookup?, if_neg asked, if_neg asked]
    · split
      · rename_i smaller
        rw [lookup?]
        by_cases asked : name = other
        · have above : ∀ member ∈ (label, kept) :: members, name < member.1 := by
            intro member isMember
            rcases List.mem_cons.mp isMember with rfl | isMember
            · exact smaller
            · exact String.lt_trans smaller (smallest member isMember)
          rw [if_pos asked, ← asked, free above, if_pos rfl]
        · rw [if_neg asked, if_neg asked]
          cases lookup? other ((label, kept) :: members) <;> rfl
      · rename_i different larger
        rw [lookup?, inductionHypothesis rest, lookup?]
        by_cases asked : name = other
        · rw [if_pos asked, if_pos asked]
        · rw [if_neg asked, if_neg asked]

/-! ### Plain data -/

/-- What is found under a name in plain data is what the last member of this name says, itself read
as plain data, or what was there before. -/
theorem lookup?_plainMembers? (ordered : InOrder sorted)
    (read : plainMembers? depth sorted members = some result) (name : String) :
    match lookup? name members with
    | some value => ∃ kept, plain? depth value = some kept ∧ lookup? name result = some kept
    | none => lookup? name result = lookup? name sorted := by
  induction members generalizing sorted with
  | nil =>
    cases read
    rfl
  | cons first members inductionHypothesis =>
    obtain ⟨label, value⟩ := first
    rw [plainMembers?] at read
    obtain ⟨kept, known, read⟩ := Option.bind_eq_some_iff.mp read
    have later := inductionHypothesis (ordered.insertSorted label kept) read
    rw [lookup?]
    cases found : lookup? name members with
    | some last =>
      rw [found] at later
      exact later
    | none =>
      simp only [found, lookup?_insertSorted ordered] at later
      by_cases asked : label = name
      · rw [if_pos asked] at later
        simp only [if_pos asked]
        exact ⟨kept, known, later⟩
      · rw [if_neg asked] at later
        simp only [if_neg asked]
        exact later

/-- Plain data has the same integers as what it was read from. -/
theorem readInt64?_plain? {json plain : Json} (read : plain? depth json = some plain) :
    plain.readInt64? = json.readInt64? := by
  cases json with
  | array items =>
    cases depth with
    | zero => simp [plain?] at read
    | succ depth =>
      obtain ⟨kept, -, rfl⟩ := Option.map_eq_some_iff.mp read
      rfl
  | object members =>
    cases depth with
    | zero => simp [plain?] at read
    | succ depth =>
      obtain ⟨kept, -, rfl⟩ := Option.map_eq_some_iff.mp read
      rfl
  | unreadable => cases read
  | _ =>
    cases read
    rfl

/-- Under every name plain data has the same integer as what it was read from. -/
theorem readInt64?_get_plain? {json plain : Json} (read : plain? depth json = some plain)
    (name : String) : (plain.get name).readInt64? = (json.get name).readInt64? := by
  cases json with
  | object members =>
    cases depth with
    | zero => simp [plain?] at read
    | succ depth =>
      obtain ⟨kept, known, rfl⟩ := Option.map_eq_some_iff.mp read
      have found := lookup?_plainMembers? List.Pairwise.nil known name
      rw [get, get]
      cases asked : lookup? name members with
      | none =>
        simp only [asked] at found
        rw [found]
        rfl
      | some value =>
        simp only [asked] at found
        obtain ⟨plain, inside, same⟩ := found
        rw [same]
        exact readInt64?_plain? inside
  | array items =>
    cases depth with
    | zero => simp [plain?] at read
    | succ depth =>
      obtain ⟨kept, -, rfl⟩ := Option.map_eq_some_iff.mp read
      rfl
  | unreadable => cases read
  | _ =>
    cases read
    rfl

end UserDashboard.Json
