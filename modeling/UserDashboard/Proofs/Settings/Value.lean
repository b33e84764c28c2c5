/-
This file says what laying values over a table does to it.

A member that is set is found, and no other one is touched. Whatever is laid over a table by paths
leaves a table, as a path begins with a name.
-/

import UserDashboard.Settings.Value

namespace UserDashboard.Settings

open Text

/-! ### Members of a table -/

namespace Value

variable {name other : String} {change : Option Value → Value} {members : List (String × Value)}

theorem member?_setMember_self :
    member? name (setMember name change members) = some (change (member? name members)) := by
  induction members with
  | nil => simp [setMember, member?]
  | cons member rest inductionHypothesis =>
    by_cases same : member.1 = name
    · simp [setMember, member?, same]
    · simp [setMember, member?, same, inductionHypothesis]

theorem member?_setMember_of_ne (ne : other ≠ name) :
    member? other (setMember name change members) = member? other members := by
  induction members with
  | nil => simp [setMember, member?, ne.symm]
  | cons member rest inductionHypothesis =>
    by_cases same : member.1 = name
    · simp [setMember, member?, same, ne.symm]
    · simp [setMember, member?, same, inductionHypothesis]

/-! ### Values laid over a table -/

/-- Whether a value is a list. -/
def isList : Value → Bool
  | .list _ => true
  | _ => false

theorem pieceSteps?_eq_name {piece : List Char} {steps : List Step}
    (read : pieceSteps? piece = some steps) : ∃ name path, steps = .name name :: path := by
  simp only [pieceSteps?, Option.bind_eq_bind] at read
  split at read
  · cases read
  · obtain ⟨positions, -, rest⟩ := Option.bind_eq_some_iff.mp read
    exact ⟨_, _, (Option.some.inj rest).symm⟩

/-- A path begins with a name, whatever its text is. -/
theorem readPath_eq_name (text : String) : ∃ name path, readPath text = .name name :: path := by
  unfold readPath
  split
  next pieces read =>
    obtain ⟨first, rest, cut⟩ := List.exists_cons_of_ne_nil (fields_ne_nil '.' text.toList)
    rw [cut, List.mapM_cons] at read
    simp only [Option.bind_eq_bind, Option.bind_eq_some_iff, Option.pure_def,
      Option.some.injEq] at read
    obtain ⟨steps, firstRead, others, -, rfl⟩ := read
    obtain ⟨name, path, rfl⟩ := pieceSteps?_eq_name firstRead
    exact ⟨name, path ++ others.flatten, by simp⟩
  next => exact ⟨text, [], rfl⟩

theorem laidOver_of_text? {value below : Value} {text : String} (taken : value.text? = some text) :
    laidOver below value = value := by
  cases value with
  | table => cases taken
  | _ => rfl

theorem setAt_names {part field : String} {value : Value} {text : String}
    (taken : value.text? = some text) :
    setAt value [.name part, .name field] (.table members) =
      .table (setMember part (fun section? =>
        .table (setMember field (fun _ => value) (section?.getD .absent).members)) members) := by
  simp only [setAt, laidOver_of_text? taken]
  rfl

theorem overlay_append {below : Value} {first second : List (String × Value)} :
    overlay below (first ++ second) = overlay (overlay below first) second :=
  List.foldl_append

theorem overlay_table (below members : List (String × Value)) :
    ∃ laid, overlay (.table below) members = .table laid := by
  induction members generalizing below with
  | nil => exact ⟨below, rfl⟩
  | cons member rest inductionHypothesis =>
    obtain ⟨name, path, read⟩ := readPath_eq_name member.1
    simp only [overlay, List.foldl_cons, read, setAt] at inductionHypothesis ⊢
    exact inductionHypothesis _

end Value

end UserDashboard.Settings
