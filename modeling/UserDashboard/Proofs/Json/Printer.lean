/-
This file proves that the text of a value is read as this value.

Not every value has such a text: an integer has to fit 64 bits, a binary number has to be one whose
text is read as itself, and an unreadable part has no text of its own. All other values are legible.
-/

import UserDashboard.Json.Printer
import UserDashboard.Proofs.Json.Reader
import UserDashboard.Proofs.Number.Digits

namespace UserDashboard.Json

open Number Text

/-! ### Strings -/

theorem hexDigit?_hexDigit : ∀ value < 16, hexDigit? (hexDigit value) = some value := by
  decide

/-- A character as it stands in a string is read as itself. -/
theorem units?_escaped (c : Char) (rest : List Glyph) :
    units? ((escaped c).map some ++ rest) =
      (units? rest).bind fun (units, after) => some (.character c :: units, after) := by
  unfold escaped
  split
  · subst c; rfl
  split
  · subst c; rfl
  split
  · subst c; rfl
  split
  · subst c; rfl
  split
  · subst c; rfl
  split
  · subst c; rfl
  split
  · subst c; rfl
  split
  · have digits : fourHex? '0' '0' (hexDigit (c.toNat / 16)) (hexDigit (c.toNat % 16)) =
        some c.toNat := by
      have zero : hexDigit? '0' = some 0 := rfl
      simp only [fourHex?, zero, hexDigit?_hexDigit (c.toNat / 16) (by omega),
        hexDigit?_hexDigit (c.toNat % 16) (by omega), Option.bind_eq_bind, Option.bind_some]
      congr 1
      omega
    have same : Unit.ofCode c.toNat = .character c := by
      unfold Unit.ofCode
      rw [if_neg (by omega), if_neg (by omega), Char.ofNat_toNat]
    simp only [List.map_cons, List.map_nil, List.cons_append, List.nil_append, units?, digits,
      same, Option.bind_eq_bind, Option.bind_some]
  · rename_i quote backslash _ _ _ _ _ visible
    rw [List.map_singleton, List.singleton_append, units?]
    · rw [if_neg visible]
      rfl
    · exact quote
    · exact fun _ _ _ _ _ _ => backslash
    · exact fun _ _ _ => backslash
    · exact backslash

theorem text?_characters (characters : List Char) :
    text? (characters.map .character) = some characters := by
  induction characters with
  | nil => rfl
  | cons c rest inductionHypothesis =>
    rw [List.map_cons, text?, inductionHypothesis, Option.map_some]

theorem units?_quoted (characters : List Char) (rest : List Glyph) :
    units? ((characters.flatMap escaped).map some ++ some '"' :: rest) =
      some (characters.map .character, rest) := by
  induction characters with
  | nil => rfl
  | cons c characters inductionHypothesis =>
    rw [List.flatMap_cons, List.map_append, List.append_assoc, units?_escaped,
      inductionHypothesis]
    rfl

theorem quoted_append (text : String) (next : List Glyph) :
    (quoted text).map some ++ next =
      some '"' :: ((text.toList.flatMap escaped).map some ++ some '"' :: next) := by
  simp [quoted]

/-! ### Integers -/

/-- The digits of a number, each by its value. -/
theorem takeDigits_toDigits (value : Nat) :
    ∃ digits, digits ≠ [] ∧ (digits.head? = some 0 → digits = [0]) ∧ ofDigits digits = value ∧
      ∀ rest, takeDigits ((Nat.toDigits 10 value).map some ++ rest) =
        (digits ++ (takeDigits rest).1, (takeDigits rest).2) := by
  have one (value : Nat) (small : value < 10) (rest : List Glyph) :
      takeDigits ([value.digitChar].map some ++ rest) =
        ([value] ++ (takeDigits rest).1, (takeDigits rest).2) := by
    simp only [List.map_singleton, List.singleton_append, takeDigits,
      digit?_digitChar value small]
  induction value using Nat.strongRecOn with
  | ind value inductionHypothesis =>
    by_cases small : value < 10
    · rw [Nat.toDigits_of_lt_base small]
      refine ⟨[value], by simp, by simp, ?_, one value small⟩
      simp [ofDigits]
    · rw [Nat.toDigits_of_base_le (by omega) (by omega)]
      obtain ⟨digits, filled, form, total, taken⟩ :=
        inductionHypothesis (value / 10) (by omega)
      refine ⟨digits ++ [value % 10], by simp, ?_, ?_, fun rest => ?_⟩
      · intro zero
        obtain ⟨first, others, rfl⟩ := List.exists_cons_of_ne_nil filled
        rw [form zero] at total
        have none : value / 10 = 0 := total.symm
        omega
      · rw [ofDigits, List.foldl_append, ← ofDigits, total]
        exact Nat.div_add_mod' value 10
      · rw [List.map_append, List.append_assoc, taken, one _ (by omega)]
        simp

/-- The digits of a number by themselves are a numeral without fraction and power. -/
theorem unsigned?_toDigits (negative : Bool) (value : Nat) :
    ∃ digits, ofDigits digits = value ∧
      unsigned? negative ((Nat.toDigits 10 value).map some) =
        some (Numeral.value ⟨negative, digits, none, none⟩, []) := by
  obtain ⟨digits, filled, form, total, taken⟩ := takeDigits_toDigits value
  have whole : whole? ((Nat.toDigits 10 value).map some) = some (digits, []) := by
    refine whole?_eq_some_iff.mpr ⟨?_, filled, form⟩
    have alone := taken []
    rw [List.append_nil] at alone
    rw [alone, takeDigits, List.append_nil]
    intro digit rest same
    cases same
  refine ⟨digits, total, ?_⟩
  rw [unsigned?, whole]
  rfl

/-- The text of an integer that fits 64 bits is read as this integer. -/
theorem number?_integerText {value : Int} (low : int64Min ≤ value) (high : value ≤ nat64Max) :
    number? ((integerText value).map some) = some (.integer value, []) := by
  unfold integerText
  split
  · rename_i below
    obtain ⟨digits, total, read⟩ := unsigned?_toDigits true value.natAbs
    have magnitude : -(ofDigits digits : Int) = value := by omega
    rw [List.map_cons, number?, read]
    simp only [Numeral.value, magnitude]
    rw [if_pos ⟨by omega, low⟩]
  · rename_i above
    obtain ⟨digits, total, read⟩ := unsigned?_toDigits false value.natAbs
    have magnitude : (ofDigits digits : Int) = value := by omega
    have first : ∀ after, (Nat.toDigits 10 value.natAbs).map some ≠ some '-' :: after := by
      intro after begins
      rw [begins] at read
      cases read
    rw [number?.eq_2 _ first, read]
    simp only [Numeral.value, magnitude]
    rw [if_pos (by omega)]

/-! ### Values -/

/-- The values that have a text which is read as themselves. -/
inductive Legible : Json → Prop where
  | null : Legible .null
  | bool (value : Bool) : Legible (.bool value)
  | integer {value : Int} (low : int64Min ≤ value) (high : value ≤ nat64Max) :
      Legible (.integer value)
  | real {value : Binary64}
      (exact : number? (value.jsonText.map some) = some (.real value, [])) :
      Legible (.real value)
  | string (text : String) : Legible (.string text)
  | array {items : List Json} (each : ∀ item ∈ items, Legible item) : Legible (.array items)
  | object {members : List (String × Json)} (each : ∀ member ∈ members, Legible member.2) :
      Legible (.object members)

/-- A value's text is read as the value, with a bound of two for each character. -/
def IsRead (json : Json) : Prop :=
  value? (2 * json.print.length) (json.print.map some) = some (json, [])

theorem IsRead.followed {json : Json} {bound : Nat} {next : List Glyph} (read : json.IsRead)
    (enough : 2 * json.print.length ≤ bound) (follows : Follows next) :
    value? bound (json.print.map some ++ next) = some (json, next) :=
  value?_append read enough follows

theorem printItems_cons (item second : Json) (others : List Json) :
    printItems (item :: second :: others) = item.print ++ ',' :: printItems (second :: others) := by
  rw [printItems]
  exact List.cons_ne_nil _ _

theorem printMembers_cons (name : String) (value : Json) (second : String × Json)
    (others : List (String × Json)) :
    printMembers ((name, value) :: second :: others) =
      quoted name ++ ':' :: value.print ++ ',' :: printMembers (second :: others) := by
  rw [printMembers]
  exact List.cons_ne_nil _ _

theorem items?_printItems {items : List Json} {bound : Nat} (filled : items ≠ [])
    (each : ∀ item ∈ items, item.IsRead) (enough : 2 * (printItems items).length < bound)
    (rest : List Glyph) :
    items? bound ((printItems items).map some ++ some ']' :: rest) = some (items, rest) := by
  induction items generalizing bound with
  | nil => exact absurd rfl filled
  | cons item items inductionHypothesis =>
    obtain ⟨bound, rfl⟩ := Nat.exists_eq_add_one_of_ne_zero (Nat.ne_zero_of_lt enough)
    have first := each item List.mem_cons_self
    cases items with
    | nil =>
      rw [printItems] at enough ⊢
      exact items?_last (first.followed (by omega) .bracket) rfl
    | cons second others =>
      rw [printItems_cons, List.length_append, List.length_cons] at enough
      rw [printItems_cons, List.map_append, List.map_cons, List.append_assoc, List.cons_append]
      refine items?_cons (first.followed (by omega) .comma) rfl ?_
      exact inductionHypothesis (List.cons_ne_nil _ _)
        (fun other member => each other (List.mem_cons_of_mem _ member)) (by omega)

/-- The members as the reader finds them: with their names as characters. -/
def found (members : List (String × Json)) : List (Option (List Char) × Json) :=
  members.map fun (name, value) => (some name.toList, value)

theorem objectOf_found (members : List (String × Json)) :
    objectOf (found members) = .object members := by
  have named : members.mapM some = some members :=
    List.mapM_pure.trans (congrArg some (List.map_id members))
  unfold objectOf found
  simp [Function.comp_def, named]

theorem members?_printMembers {members : List (String × Json)} {bound : Nat}
    (filled : members ≠ []) (each : ∀ member ∈ members, member.2.IsRead)
    (enough : 2 * (printMembers members).length < bound) (rest : List Glyph) :
    members? bound ((printMembers members).map some ++ some '}' :: rest) =
      some (found members, rest) := by
  induction members generalizing bound with
  | nil => exact absurd rfl filled
  | cons member members inductionHypothesis =>
    obtain ⟨name, value⟩ := member
    obtain ⟨bound, rfl⟩ := Nat.exists_eq_add_one_of_ne_zero (Nat.ne_zero_of_lt enough)
    have first : value.IsRead := each (name, value) List.mem_cons_self
    have text := text?_characters name.toList
    cases members with
    | nil =>
      rw [printMembers, List.length_append, List.length_cons] at enough
      rw [printMembers, List.map_append, List.map_cons, List.append_assoc, List.cons_append,
        quoted_append]
      have fits : 2 * value.print.length ≤ bound := by omega
      have ends : skipGaps (some '}' :: rest) = some '}' :: rest := rfl
      have last := members?_last (units?_quoted name.toList _) (first.followed fits .brace) ends
      rw [text] at last
      exact last
    | cons second others =>
      rw [printMembers_cons, List.length_append, List.length_append, List.length_cons,
        List.length_cons] at enough
      rw [printMembers_cons]
      simp only [List.map_append, List.map_cons, List.append_assoc, List.cons_append,
        quoted_append]
      have fits : 2 * value.print.length ≤ bound := by omega
      have remaining : 2 * (printMembers (second :: others)).length < bound := by omega
      have behind := inductionHypothesis (List.cons_ne_nil _ _)
        (fun other member => each other (List.mem_cons_of_mem _ member)) remaining
      have all := members?_cons (units?_quoted name.toList _) (first.followed fits .comma) rfl
        behind
      rw [text] at all
      exact all

theorem isRead_of_number? {json : Json}
    (read : number? (json.print.map some) = some (json, [])) : json.IsRead := by
  obtain ⟨c, after, begins, -⟩ := begins_of_number? read
  have filled : json.print.length = after.length + 1 := by
    rw [← List.length_map some, begins, List.length_cons]
  rw [IsRead, filled]
  exact value?_of_number? read _

/-- The text of a legible value is read as this value. -/
theorem Legible.isRead {json : Json} (legible : json.Legible) : json.IsRead := by
  induction legible with
  | null => rfl
  | bool value => cases value <;> rfl
  | integer low high =>
    refine isRead_of_number? ?_
    rw [print]
    exact number?_integerText low high
  | real exact =>
    refine isRead_of_number? ?_
    rw [print]
    exact exact
  | string text =>
    have whole := quoted_append text []
    rw [List.append_nil] at whole
    rw [IsRead, print, whole, quoted, List.length_cons]
    have read := value?_string (units?_quoted text.toList []) (text?_characters text.toList)
      (2 * (text.toList.flatMap escaped ++ ['"']).length + 1)
    rw [String.ofList_toList] at read
    exact read
  | @array items each inductionHypothesis =>
    rw [IsRead, print]
    cases items with
    | nil => rfl
    | cons item items =>
      have read := items?_printItems (List.cons_ne_nil item items) inductionHypothesis
        (Nat.lt_add_of_pos_right (Nat.zero_lt_succ 2)) []
      have all := value?_array read
      simpa [Nat.mul_add] using all
  | @object members each inductionHypothesis =>
    rw [IsRead, print]
    cases members with
    | nil => rfl
    | cons member members =>
      have read := members?_printMembers (List.cons_ne_nil member members) inductionHypothesis
        (Nat.lt_add_of_pos_right (Nat.zero_lt_succ 2)) []
      have all := value?_object read
      rw [objectOf_found] at all
      simpa [Nat.mul_add] using all

/-- The text of a legible value is one value, which is the one it was written for. -/
theorem parse?_print {json : Json} (legible : json.Legible) :
    parse? (String.ofList json.print) = some json := by
  have read := value?_append legible.isRead (Nat.le_add_right _ 2) .done
  rw [List.append_nil] at read
  refine parse?_eq_some_iff.mpr ⟨[], ?_, rfl⟩
  rw [glyphs, String.toList_ofList]
  exact read

/-! ### Members -/

theorem legible_int64 (value : Int64) : (Json.integer value.toInt).Legible := by
  have low := value.le_toInt
  have high := value.toInt_lt
  exact .integer (by simp only [int64Min]; omega) (by simp only [nat64Max]; omega)

theorem legible_nat64 (value : UInt64) : (Json.nat value.toNat).Legible := by
  have high := value.toNat_lt
  exact .integer (by simp only [int64Min]; omega) (by simp only [nat64Max]; omega)

/-- A member that is left out when there is no value for it is legible if its value is. -/
theorem legible_member? {α : Type} {name : String} {encode : α → Json} {optional : Option α}
    (each : ∀ value ∈ optional, (encode value).Legible) :
    ∀ member ∈ member? name encode optional, member.2.Legible := by
  cases optional with
  | none => nofun
  | some value => simpa [member?] using each

end UserDashboard.Json
