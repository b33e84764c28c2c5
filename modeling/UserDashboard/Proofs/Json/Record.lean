/-
This file says what value a record has for the name of a field.

In an object the value is that of the first member with the name, whatever other fields the record
knows, as long as its fields have no other names. So two records that both know a name agree on its
value when they are read from the same object. An object that was written with some of the fields of
a record is read as these fields, each with the value it was written with.
-/

import UserDashboard.Json.Record
import UserDashboard.Proofs.Keyed

namespace UserDashboard.Json

open Number

/-! ### The first member with a name -/

/-- The value of the first member with a name. -/
def valueIn? (members : List (String × Json)) (name : String) : Option Json :=
  (members.find? (·.1 == name)).map (·.2)

theorem valueIn?_nil (name : String) : valueIn? [] name = none :=
  rfl

theorem valueIn?_cons (member : String × Json) (members : List (String × Json)) (name : String) :
    valueIn? (member :: members) name =
      if member.1 = name then some member.2 else valueIn? members name := by
  by_cases same : member.1 = name
  · rw [if_pos same, valueIn?, List.find?_cons_of_pos (by simpa using same), Option.map_some]
  · rw [if_neg same, valueIn?, List.find?_cons_of_neg (by simpa using same), valueIn?]

theorem valueIn?_eq_none {members : List (String × Json)} {name : String}
    (fresh : ¬members.any (·.1 == name)) : valueIn? members name = none := by
  rw [valueIn?, Option.map_eq_none_iff, List.find?_eq_none]
  exact fun member present same => fresh (List.any_eq_true.mpr ⟨member, present, same⟩)

/-! ### Members that are read -/

/-- A field with no other names is only known by its own. -/
theorem FieldName.accepts_iff {field : FieldName} (plain : field.aliases = []) {label : String} :
    field.accepts label ↔ field.name = label := by
  simp [accepts, plain]

/-- Collecting keeps the value of every name that a field has for its own, and what was collected
before comes first. -/
theorem valueIn?_of_collect? {fields : List FieldName}
    (plain : ∀ field ∈ fields, field.aliases = []) {name : String}
    (known : ∃ field ∈ fields, field.name = name)
    {present members collected : List (String × Json)}
    (taken : collect? fields present members = some collected) :
    valueIn? collected name = (valueIn? present name).or (valueIn? members name) := by
  induction members generalizing present with
  | nil =>
    obtain rfl := Option.some.inj taken
    exact (Option.or_none).symm
  | cons member members inductionHypothesis =>
    obtain ⟨label, value⟩ := member
    simp only [collect?] at taken
    rw [valueIn?_cons]
    cases found : fields.find? (·.accepts label) with
    | none =>
      rw [found] at taken
      have different : label ≠ name := by
        rintro rfl
        obtain ⟨field, member, same⟩ := known
        exact List.find?_eq_none.mp found field member
          ((FieldName.accepts_iff (plain field member)).mpr same)
      rw [if_neg different]
      exact inductionHypothesis taken
    | some field =>
      rw [found] at taken
      have accepts := List.find?_some found
      have accepted : field.name = label :=
        (FieldName.accepts_iff (plain field (List.mem_of_find?_eq_some found))).mp accepts
      simp only [accepted] at taken
      split at taken
      · cases taken
      · rename_i fresh
        rw [inductionHypothesis taken, valueIn?_cons]
        by_cases same : label = name
        · subst same
          rw [if_pos rfl, if_pos rfl, valueIn?_eq_none fresh, Option.none_or, Option.some_or]
        · rw [if_neg same, if_neg same]

/-- The value of a name in a record that was read from an object. -/
theorem value?_of_record? {fields : List FieldName} (plain : ∀ field ∈ fields, field.aliases = [])
    (name : String) (known : ∃ field ∈ fields, field.name = name)
    {members : List (String × Json)} {record : Record}
    (read : (Json.object members).record? fields = some record) :
    record.value? name = valueIn? members name := by
  obtain ⟨collected, taken, rfl⟩ := Option.map_eq_some_iff.mp read
  exact (valueIn?_of_collect? plain known taken).trans Option.none_or

/-! ### Members that were written -/

theorem valueIn?_append (members others : List (String × Json)) (name : String) :
    valueIn? (members ++ others) name = (valueIn? members name).or (valueIn? others name) := by
  rw [valueIn?, List.find?_append]
  cases found : members.find? (·.1 == name) <;> simp [valueIn?, found]

theorem valueIn?_member? {α : Type} (label : String) (encode : α → Json) (value : Option α)
    (name : String) :
    valueIn? (member? label encode value) name =
      if label = name then value.map encode else none := by
  cases value with
  | none => simp [member?, valueIn?]
  | some value => simp [member?, valueIn?]

/-- A member that is left out when there is no value for it takes at most one more name. -/
theorem names_append_member? {α : Type} {members : List (String × Json)} {names : List String}
    (known : (members.map (·.1)).Sublist names) (name : String) (encode : α → Json)
    (optional : Option α) :
    ((members ++ member? name encode optional).map (·.1)).Sublist (names ++ [name]) := by
  rw [List.map_append]
  refine known.append ?_
  cases optional with
  | none => exact List.nil_sublist _
  | some value => exact List.Sublist.refl _

theorem valueIn?_eq_some_iff {members : List (String × Json)}
    (distinct : (members.map (·.1)).Nodup) {name : String} {value : Json} :
    valueIn? members name = some value ↔ (name, value) ∈ members := by
  rw [valueIn?, Option.map_eq_some_iff]
  constructor
  · rintro ⟨⟨label, kept⟩, found, rfl⟩
    have same : label = name := by simpa using List.find?_some found
    exact same ▸ List.mem_of_find?_eq_some found
  · intro member
    have found := find?_of_nodup distinct member
    simp only [← Bool.beq_eq_decide_eq] at found
    exact ⟨(name, value), found, rfl⟩

/-- Whether each field is known by its own name, and no other field is. -/
structure Distinct (fields : List FieldName) : Prop where
  names : (fields.map (·.name)).Nodup
  own : ∀ field ∈ fields, (fields.find? (·.accepts field.name)).map (·.name) = some field.name

theorem collect?_of_own {fields : List FieldName} {present members : List (String × Json)}
    (own : ∀ member ∈ members,
      (fields.find? (·.accepts member.1)).map (·.name) = some member.1)
    (distinct : (members.map (·.1)).Nodup)
    (fresh : ∀ member ∈ members, member.1 ∉ present.map (·.1)) :
    collect? fields present members = some (members.reverse ++ present) := by
  induction members generalizing present with
  | nil => rfl
  | cons member members inductionHypothesis =>
    obtain ⟨name, value⟩ := member
    rw [List.map_cons, List.nodup_cons] at distinct
    obtain ⟨field, found, named⟩ := Option.map_eq_some_iff.mp (own _ List.mem_cons_self)
    have named : field.name = name := named
    have absent : ¬present.any (·.1 == name) := by
      rw [List.any_eq_true]
      rintro ⟨other, old, same⟩
      exact fresh _ List.mem_cons_self (List.mem_map.mpr ⟨other, old, eq_of_beq same⟩)
    rw [collect?, found]
    simp only [named]
    have known := fun other later => own other (List.mem_cons_of_mem (name, value) later)
    rw [if_neg absent, inductionHypothesis known distinct.2]
    · rw [List.reverse_cons, List.append_assoc, List.singleton_append]
    · intro other later
      rw [List.map_cons, List.mem_cons]
      rintro (same | old)
      · exact distinct.1 (same ▸ List.mem_map_of_mem later)
      · exact fresh other (List.mem_cons_of_mem _ later) old

/-- An object that has some of the fields under their own names is read as a record of them. -/
theorem record?_object {fields : List FieldName} (distinct : Distinct fields) (json : Json)
    {members : List (String × Json)} (written : json = .object members)
    (known : (members.map (·.1)).Sublist (fields.map (·.name))) :
    ∃ record, json.record? fields = some record ∧
      ∀ name, record.value? name = valueIn? members name := by
  subst written
  have different : (members.map (·.1)).Nodup := known.nodup distinct.names
  have own : ∀ member ∈ members,
      (fields.find? (·.accepts member.1)).map (·.name) = some member.1 := by
    intro member present
    obtain ⟨field, among, same⟩ := List.mem_map.mp (known.subset (List.mem_map_of_mem present))
    exact same ▸ distinct.own field among
  have collected : collect? fields [] members = some members.reverse := by
    rw [collect?_of_own own different fun _ _ => List.not_mem_nil, List.append_nil]
  refine ⟨⟨false, members.reverse⟩, by rw [record?, collected]; rfl, fun name => ?_⟩
  have backwards : (members.reverse.map (·.1)).Nodup := by
    rw [List.map_reverse]
    exact List.pairwise_reverse.mpr (different.imp Ne.symm)
  refine Option.ext fun value => ?_
  rw [valueIn?_eq_some_iff different, ← List.mem_reverse]
  exact valueIn?_eq_some_iff backwards

/-! ### Fields -/

theorem readInt64?_toInt (value : Int64) :
    readInt64? (.integer value.toInt) = some value.toInt := by
  have low := value.le_toInt
  have high := value.toInt_lt
  exact if_pos ⟨by simp only [int64Min]; omega, by simp only [int64Max]; omega⟩

theorem readNat64?_toNat (value : UInt64) : readNat64? (.nat value.toNat) = some value.toNat := by
  have high := value.toNat_lt
  have fits : (0 : Int) ≤ value.toNat ∧ (value.toNat : Int) ≤ nat64Max := by
    simp only [nat64Max]
    omega
  rw [readNat64?, Json.nat, readInteger?, if_pos fits, Option.map_some, Int.toNat_natCast]

/-- Every value of a list was read from an item. -/
theorem exists_of_readList? {α : Type} {read : Json → Option α} {json : Json} {values : List α}
    (all : readList? read json = some values) {value : α} (member : value ∈ values) :
    ∃ item, read item = some value := by
  cases json with
  | array items =>
    change items.mapM read = some values at all
    induction items generalizing values with
    | nil =>
      cases all
      cases member
    | cons item items inductionHypothesis =>
      rw [List.mapM_cons] at all
      obtain ⟨first, readFirst, rest⟩ := Option.bind_eq_some_iff.mp all
      obtain ⟨others, readOthers, same⟩ := Option.bind_eq_some_iff.mp rest
      cases same
      rcases List.mem_cons.mp member with rfl | later
      · exact ⟨item, readFirst⟩
      · exact inductionHypothesis later readOthers
  | _ => cases all

section Fields

variable {α : Type} {record : Record} {name : String} {read : Json → Option α} {json : Json}
  {value : α}

/-- A field that was written is read as it was. -/
theorem Record.required_of_value? (held : record.value? name = some json)
    (same : read json = some value) : record.required name read = some value := by
  rw [Record.required, held]
  exact same

theorem Record.defaulted_of_value? {default : α} (held : record.value? name = some json)
    (same : read json = some value) : record.defaulted name default read = some value := by
  rw [Record.defaulted, held]
  exact same

/-- A field that is left out when there is nothing to write is read as it was, if nothing is
written as null. -/
theorem Record.optional_of_value? {encode : α → Json} {optional : Option α}
    (held : record.value? name = optional.map encode) (filled : ∀ value, encode value ≠ .null)
    (same : ∀ value, read (encode value) = some value) :
    record.defaulted name none (readNullable? read) = some optional := by
  rw [Record.defaulted, held]
  cases optional with
  | none => rfl
  | some value =>
    have read := readNullable?.eq_2 read _ (filled value)
    rw [same] at read
    exact read

end Fields

end UserDashboard.Json
