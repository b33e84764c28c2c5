/-
This file proves that a value is read alike whatever follows it.

A value ends where its text says so. The one exception is a number, which goes on as long as there
are digits; but what follows a value in an array or an object is a comma or a closing bracket, and
none of these continues a number. So a text that is read by itself is read the same inside a larger
one, and the bound on the recursion has no part in it as long as it is large enough.
-/

import UserDashboard.Json.Reader
import UserDashboard.Proofs.Text.Utf8

namespace UserDashboard.Json

open Number Text

variable {source rest next : List Glyph} {json : Json} {bound larger : Nat}

/-! ### What follows a value -/

/-- Whether a character ends an item or a member. -/
def isStop (c : Char) : Bool :=
  c == ',' || c == ']' || c == '}'

/-- What can follow a value: the end of the text, or a character that ends an item or a member. -/
inductive Follows : List Glyph → Prop where
  | done : Follows []
  | stop {c : Char} {rest : List Glyph} (stops : isStop c) : Follows (some c :: rest)

theorem Follows.comma : Follows (some ',' :: rest) := .stop rfl

theorem Follows.bracket : Follows (some ']' :: rest) := .stop rfl

theorem Follows.brace : Follows (some '}' :: rest) := .stop rfl

theorem isStop_iff {c : Char} : isStop c ↔ c = ',' ∨ c = ']' ∨ c = '}' := by
  simp [isStop, or_assoc]

/-! ### Gaps, literals and strings -/

theorem Follows.skipGaps_eq (follows : Follows next) : skipGaps next = next := by
  cases follows with
  | done => rfl
  | stop stops =>
    rcases isStop_iff.mp stops with rfl | rfl | rfl <;> rfl

/-- Blanks are skipped alike whatever follows. -/
theorem skipGaps_append (follows : Follows next) (source : List Glyph) :
    skipGaps (source ++ next) = skipGaps source ++ next := by
  fun_induction skipGaps source with
  | case1 c rest gap inductionHypothesis =>
    rw [List.cons_append, skipGaps, if_pos gap, inductionHypothesis]
  | case2 c rest solid => rw [List.cons_append, skipGaps, if_neg solid]
  | case3 rest other =>
    rcases rest with _ | ⟨_ | c, rest⟩
    · exact follows.skipGaps_eq
    · rfl
    · exact absurd rfl (other c rest)

theorem literal?_append {expected : List Char} (read : literal? expected source = some rest)
    (next : List Glyph) : literal? expected (source ++ next) = some (rest ++ next) := by
  fun_induction literal? expected source with
  | case1 source =>
    cases read
    rw [literal?]
  | case2 expected more rest inductionHypothesis =>
    rw [List.cons_append, literal?, if_pos rfl, inductionHypothesis read]
  | case3 => cases read
  | case4 => cases read

/-- The units of a string end at its closing quote. -/
theorem units?_append {units : List Unit} (read : units? source = some (units, rest))
    (next : List Glyph) : units? (source ++ next) = some (units, rest ++ next) := by
  fun_induction units? source generalizing units with
  | case1 => cases read
  | case2 after inductionHypothesis =>
    obtain ⟨⟨inner, behind⟩, found, same⟩ := Option.bind_eq_some_iff.mp read
    cases same
    simp [units?, inductionHypothesis found]
  | case3 after =>
    cases read
    rw [List.cons_append, units?]
  | case4 a b c d after inductionHypothesis =>
    obtain ⟨code, spelled, read⟩ := Option.bind_eq_some_iff.mp read
    obtain ⟨⟨inner, behind⟩, found, same⟩ := Option.bind_eq_some_iff.mp read
    cases same
    simp [units?, spelled, inductionHypothesis found]
  | case5 letter after short inductionHypothesis =>
    obtain ⟨c, known, read⟩ := Option.bind_eq_some_iff.mp read
    obtain ⟨⟨inner, behind⟩, found, same⟩ := Option.bind_eq_some_iff.mp read
    cases same
    have letters : letter ≠ 'u' := by
      rintro rfl
      cases known
    rw [List.cons_append, List.cons_append, units?]
    · simp [known, inductionHypothesis found]
    · exact fun _ _ _ _ _ _ same => letters same
  | case6 => cases read
  | case7 => cases read
  | case8 c after quote escape letter backslash visible inductionHypothesis =>
    obtain ⟨⟨inner, behind⟩, found, same⟩ := Option.bind_eq_some_iff.mp read
    cases same
    rw [List.cons_append, units?]
    · simp [visible, inductionHypothesis found]
    · exact quote
    · exact fun _ _ _ _ _ _ same => backslash same
    · exact fun _ _ _ same => backslash same
    · exact backslash

/-! ### Numbers -/

theorem takeDigits_of_follows (follows : Follows next) : takeDigits next = ([], next) := by
  cases follows with
  | done => rfl
  | stop stops =>
    rcases isStop_iff.mp stops with rfl | rfl | rfl <;> rfl

/-- Nothing that can follow a value is a digit. -/
theorem takeDigits_append (follows : Follows next) (source : List Glyph) :
    takeDigits (source ++ next) = ((takeDigits source).1, (takeDigits source).2 ++ next) := by
  fun_induction takeDigits source with
  | case1 c rest digit known digits after found inductionHypothesis =>
    rw [found] at inductionHypothesis
    rw [List.cons_append, takeDigits]
    simp only [known, inductionHypothesis]
  | case2 c rest unknown =>
    rw [List.cons_append, takeDigits]
    simp only [unknown]
  | case3 rest other =>
    rcases rest with _ | ⟨_ | c, rest⟩
    · exact takeDigits_of_follows follows
    · rfl
    · exact absurd rfl (other c rest)

/-- The digits before the point are those at the beginning. A zero stands there alone only. -/
theorem whole?_eq_some_iff {digits : List Nat} :
    whole? source = some (digits, rest) ↔
      takeDigits source = (digits, rest) ∧ digits ≠ [] ∧
        (digits.head? = some 0 → digits = [0]) := by
  unfold whole?
  generalize takeDigits source = taken
  obtain ⟨found, after⟩ := taken
  rcases found with _ | ⟨_ | first, _ | ⟨second, others⟩⟩ <;> grind

theorem whole?_append {digits : List Nat} (follows : Follows next)
    (read : whole? source = some (digits, rest)) :
    whole? (source ++ next) = some (digits, rest ++ next) := by
  obtain ⟨taken, form⟩ := whole?_eq_some_iff.mp read
  refine whole?_eq_some_iff.mpr ⟨?_, form⟩
  rw [takeDigits_append follows, taken]

/-- What a text begins with is not changed by what follows it. -/
theorem begins_of_append {glyph : Glyph} {after : List Glyph} (follows : Follows next)
    (begins : source ++ next = glyph :: after) :
    (∃ behind, source = glyph :: behind) ∨ ∃ c, glyph = some c ∧ isStop c := by
  cases source with
  | nil =>
    cases follows with
    | done => cases begins
    | stop stops =>
      cases begins
      exact Or.inr ⟨_, rfl, stops⟩
  | cons first source =>
    cases begins
    exact Or.inl ⟨source, rfl⟩

/-- A text that begins with no stop and not with a glyph does not begin with it when something
follows. -/
theorem append_ne {c : Char} (follows : Follows next) (free : isStop c = false)
    (other : ∀ after, source ≠ some c :: after) (after : List Glyph) :
    source ++ next ≠ some c :: after := by
  intro begins
  rcases begins_of_append follows begins with ⟨behind, same⟩ | ⟨stop, same, stops⟩
  · exact other behind same
  · cases same
    rw [free] at stops
    cases stops

theorem fraction?_of_ne (other : ∀ after, source ≠ some '.' :: after) :
    fraction? source = some (none, source) := by
  rw [fraction?]
  exact other

theorem fraction?_append {digits : Option (List Nat)} (follows : Follows next)
    (read : fraction? source = some (digits, rest)) :
    fraction? (source ++ next) = some (digits, rest ++ next) := by
  by_cases point : ∃ after, source = some '.' :: after
  · obtain ⟨after, rfl⟩ := point
    rw [fraction?] at read
    rw [List.cons_append, fraction?, takeDigits_append follows]
    generalize takeDigits after = taken at read ⊢
    obtain ⟨_ | ⟨first, others⟩, behind⟩ := taken
    · cases read
    · cases read
      rfl
  · have other : ∀ after, source ≠ some '.' :: after := fun after same => point ⟨after, same⟩
    rw [fraction?_of_ne other] at read
    cases read
    exact fraction?_of_ne (append_ne follows rfl other)

theorem powerDigits?_append {negative : Bool} {power : Option Int} (follows : Follows next)
    (read : powerDigits? negative source = some (power, rest)) :
    powerDigits? negative (source ++ next) = some (power, rest ++ next) := by
  unfold powerDigits? at read ⊢
  rw [takeDigits_append follows]
  generalize takeDigits source = taken at read ⊢
  obtain ⟨_ | ⟨first, others⟩, after⟩ := taken
  · cases read
  · cases read
    rfl

theorem power?_of_ne (small : ∀ after, source ≠ some 'e' :: after)
    (capital : ∀ after, source ≠ some 'E' :: after) : power? source = some (none, source) := by
  rw [power?]
  · exact fun after => small (some '-' :: after)
  · exact fun after => capital (some '-' :: after)
  · exact fun after => small (some '+' :: after)
  · exact fun after => capital (some '+' :: after)
  · exact small
  · exact capital

theorem power?_append {power : Option Int} (follows : Follows next)
    (read : power? source = some (power, rest)) :
    power? (source ++ next) = some (power, rest ++ next) := by
  fun_cases power? source with
  | case1 after => exact powerDigits?_append follows read
  | case2 after => exact powerDigits?_append follows read
  | case3 after => exact powerDigits?_append follows read
  | case4 after => exact powerDigits?_append follows read
  | case5 after minus plus =>
    rw [power?.eq_5 _ minus plus] at read
    rw [List.cons_append, power?.eq_5 _ (append_ne follows rfl minus) (append_ne follows rfl plus)]
    exact powerDigits?_append follows read
  | case6 after minus plus =>
    rw [power?.eq_6 _ minus plus] at read
    rw [List.cons_append, power?.eq_6 _ (append_ne follows rfl minus) (append_ne follows rfl plus)]
    exact powerDigits?_append follows read
  | case7 source _ _ _ _ small capital =>
    rw [power?_of_ne small capital] at read
    cases read
    exact power?_of_ne (append_ne follows rfl small) (append_ne follows rfl capital)

/-! ### Numbers as a whole -/

theorem unsigned?_append {negative : Bool} (follows : Follows next)
    (read : unsigned? negative source = some (json, rest)) :
    unsigned? negative (source ++ next) = some (json, rest ++ next) := by
  obtain ⟨⟨digits, afterWhole⟩, foundWhole, read⟩ := Option.bind_eq_some_iff.mp read
  obtain ⟨⟨fraction, afterFraction⟩, foundFraction, read⟩ := Option.bind_eq_some_iff.mp read
  obtain ⟨⟨power, afterPower⟩, foundPower, same⟩ := Option.bind_eq_some_iff.mp read
  cases same
  simp [unsigned?, whole?_append follows foundWhole, fraction?_append follows foundFraction,
    power?_append follows foundPower]

theorem number?_append (follows : Follows next) (read : number? source = some (json, rest)) :
    number? (source ++ next) = some (json, rest ++ next) := by
  fun_cases number? source with
  | case1 after => exact unsigned?_append follows read
  | case2 source other =>
    rw [number?.eq_2 _ other] at read
    rw [number?.eq_2 _ (append_ne follows rfl other)]
    exact unsigned?_append follows read

/-- A number begins with a digit, after its sign. -/
theorem begins_of_unsigned? {negative : Bool}
    (read : unsigned? negative source = some (json, rest)) :
    ∃ c after, source = some c :: after ∧ (digit? c).isSome := by
  obtain ⟨⟨digits, afterWhole⟩, foundWhole, -⟩ := Option.bind_eq_some_iff.mp read
  obtain ⟨taken, filled, -⟩ := whole?_eq_some_iff.mp foundWhole
  fun_cases takeDigits source with
  | case1 c after digit known => exact ⟨c, after, rfl, known ▸ rfl⟩
  | case2 c after unknown => simp_all [takeDigits]
  | case3 source other => simp_all [takeDigits]

theorem begins_of_number? (read : number? source = some (json, rest)) :
    ∃ c after, source = some c :: after ∧ (c = '-' ∨ (digit? c).isSome) := by
  fun_cases number? source with
  | case1 after => exact ⟨'-', after, rfl, Or.inl rfl⟩
  | case2 source other =>
    rw [number?.eq_2 _ other] at read
    obtain ⟨c, after, same, digit⟩ := begins_of_unsigned? read
    exact ⟨c, after, same, Or.inr digit⟩

/-! ### Values -/

/-- Where there are blanks only, there is nothing to read. -/
theorem value?_of_empty (empty : skipGaps source = []) : value? bound source = none := by
  cases bound with
  | zero => rw [value?]
  | succ bound =>
    rw [value?, empty]
    rfl

theorem filled_of_items? {items : List Json} (read : items? bound source = some (items, rest)) :
    skipGaps source ≠ [] := by
  intro empty
  cases bound with
  | zero =>
    rw [items?] at read
    cases read
  | succ bound => simp [items?, value?_of_empty empty] at read

theorem filled_of_members? {members : List (Option (List Char) × Json)}
    (read : members? bound source = some (members, rest)) : skipGaps source ≠ [] := by
  intro empty
  cases bound with
  | zero =>
    rw [members?] at read
    cases read
  | succ bound => simp [members?, expect?, empty] at read

/-- A filled text begins with the same glyph when something follows. -/
theorem append_ne_of_filled {glyph : Glyph} (filled : source ≠ [])
    (other : ∀ after, source ≠ glyph :: after) (after : List Glyph) :
    source ++ next ≠ glyph :: after := by
  cases source with
  | nil => exact absurd rfl filled
  | cons first source =>
    intro begins
    cases begins
    exact other source rfl

theorem expect?_append {expected : Char} (follows : Follows next)
    (read : expect? expected source = some rest) :
    expect? expected (source ++ next) = some (rest ++ next) := by
  unfold expect? at read ⊢
  rw [skipGaps_append follows]
  split at read
  · rename_i c after begins
    rw [begins]
    split at read
    · rename_i same
      cases read
      exact if_pos same
    · cases read
  · cases read

/-- A number is read as a value. -/
theorem value?_of_number? (read : number? source = some (json, rest)) (bound : Nat) :
    value? (bound + 1) source = some (json, rest) := by
  obtain ⟨c, after, rfl, begins⟩ := begins_of_number? read
  have solid : skipGaps (some c :: after) = some c :: after := by
    rw [skipGaps, if_neg]
    intro gap
    simp only [isGap, Bool.or_eq_true, beq_iff_eq] at gap
    rcases gap with ((rfl | rfl) | rfl) | rfl <;> exact absurd begins (by decide)
  rw [value?, solid]
  -- None of the characters that begin another kind of value begins a number.
  split
  any_goals
    rename_i same
    cases same
    exact absurd begins (by decide)
  exact read

theorem constant?_append {word : List Char} {value : Json}
    (read : (literal? word source).map (value, ·) = some (json, rest)) :
    (literal? word (source ++ next)).map (value, ·) = some (json, rest ++ next) := by
  obtain ⟨behind, found, same⟩ := Option.map_eq_some_iff.mp read
  cases same
  rw [literal?_append found, Option.map_some]

/-- Everything that is read with a bound is read with any larger one, whatever follows. -/
structure ReadsOn (bound : Nat) : Prop where
  value : ∀ {source rest : List Glyph} {json : Json} {larger : Nat} {next : List Glyph},
    value? bound source = some (json, rest) → bound ≤ larger → Follows next →
      value? larger (source ++ next) = some (json, rest ++ next)
  items : ∀ {source rest : List Glyph} {items : List Json} {larger : Nat} {next : List Glyph},
    items? bound source = some (items, rest) → bound ≤ larger → Follows next →
      items? larger (source ++ next) = some (items, rest ++ next)
  members : ∀ {source rest : List Glyph} {members : List (Option (List Char) × Json)}
      {larger : Nat} {next : List Glyph},
    members? bound source = some (members, rest) → bound ≤ larger → Follows next →
      members? larger (source ++ next) = some (members, rest ++ next)

theorem ReadsOn.value_succ (reads : ReadsOn bound)
    (read : value? (bound + 1) source = some (json, rest)) (enough : bound ≤ larger)
    (follows : Follows next) :
    value? (larger + 1) (source ++ next) = some (json, rest ++ next) := by
  rw [value?] at read ⊢
  rw [skipGaps_append follows]
  split at read
  · rename_i after begins
    obtain ⟨⟨units, behind⟩, found, same⟩ := Option.bind_eq_some_iff.mp read
    cases same
    simp [begins, units?_append found]
  · rename_i after begins
    simp only [begins, List.cons_append, skipGaps_append follows]
    split at read
    · rename_i behind empty
      cases read
      simp [empty]
    · rename_i other
      obtain ⟨⟨items, behind⟩, found, same⟩ := Option.bind_eq_some_iff.mp read
      cases same
      have filled := filled_of_items? found
      split
      · rename_i behind empty
        exact absurd empty (append_ne_of_filled filled other behind)
      · simp [reads.items found enough follows]
  · rename_i after begins
    simp only [begins, List.cons_append, skipGaps_append follows]
    split at read
    · rename_i behind empty
      cases read
      simp [empty]
    · rename_i other
      obtain ⟨⟨members, behind⟩, found, same⟩ := Option.bind_eq_some_iff.mp read
      cases same
      have filled := filled_of_members? found
      split
      · rename_i behind empty
        exact absurd empty (append_ne_of_filled filled other behind)
      · simp [reads.members found enough follows]
  · rename_i after begins
    rw [begins]
    exact constant?_append read
  · rename_i after begins
    rw [begins]
    exact constant?_append read
  · rename_i after begins
    rw [begins]
    exact constant?_append read
  -- What is no other kind of value does not become one with more text behind it.
  · have filled : skipGaps source ≠ [] := by
      intro empty
      rw [empty] at read
      cases read
    split
    case h_7 => exact number?_append follows read
    all_goals
      rename_i begins
      exact absurd begins (append_ne_of_filled filled ‹_› _)

theorem ReadsOn.items_succ {items : List Json} (reads : ReadsOn bound)
    (read : items? (bound + 1) source = some (items, rest)) (enough : bound ≤ larger)
    (follows : Follows next) :
    items? (larger + 1) (source ++ next) = some (items, rest ++ next) := by
  rw [items?] at read ⊢
  obtain ⟨⟨item, after⟩, first, read⟩ := Option.bind_eq_some_iff.mp read
  rw [reads.value first enough follows]
  simp only [Option.bind_eq_bind, Option.bind_some, skipGaps_append follows]
  dsimp only at read
  split at read
  · rename_i more comma
    obtain ⟨⟨others, behind⟩, found, same⟩ := Option.bind_eq_some_iff.mp read
    cases same
    simp [comma, reads.items found enough follows]
  · rename_i behind bracket
    cases read
    simp [bracket]
  · cases read

theorem ReadsOn.members_succ {members : List (Option (List Char) × Json)} (reads : ReadsOn bound)
    (read : members? (bound + 1) source = some (members, rest)) (enough : bound ≤ larger)
    (follows : Follows next) :
    members? (larger + 1) (source ++ next) = some (members, rest ++ next) := by
  rw [members?] at read ⊢
  obtain ⟨afterQuote, quote, read⟩ := Option.bind_eq_some_iff.mp read
  obtain ⟨⟨units, afterName⟩, name, read⟩ := Option.bind_eq_some_iff.mp read
  obtain ⟨afterColon, colon, read⟩ := Option.bind_eq_some_iff.mp read
  obtain ⟨⟨value, after⟩, first, read⟩ := Option.bind_eq_some_iff.mp read
  simp only [expect?_append follows quote, units?_append name, expect?_append follows colon,
    reads.value first enough follows, Option.bind_eq_bind, Option.bind_some,
    skipGaps_append follows]
  dsimp only at read
  split at read
  · rename_i more comma
    obtain ⟨⟨others, behind⟩, found, same⟩ := Option.bind_eq_some_iff.mp read
    cases same
    simp [comma, reads.members found enough follows]
  · rename_i behind brace
    cases read
    simp [brace]
  · cases read

theorem readsOn (bound : Nat) : ReadsOn bound := by
  induction bound with
  | zero =>
    refine ⟨fun read => ?_, fun read => ?_, fun read => ?_⟩
    · simp [value?] at read
    · simp [items?] at read
    · simp [members?] at read
  | succ bound reads =>
    refine ⟨fun read enough follows => ?_, fun read enough follows => ?_,
      fun read enough follows => ?_⟩
    all_goals obtain ⟨larger, rfl⟩ := Nat.exists_eq_add_of_lt enough
    · exact reads.value_succ read (Nat.le_add_right bound larger) follows
    · exact reads.items_succ read (Nat.le_add_right bound larger) follows
    · exact reads.members_succ read (Nat.le_add_right bound larger) follows

/-- A value is read alike with any larger bound and whatever follows it. -/
theorem value?_append (read : value? bound source = some (json, rest)) (enough : bound ≤ larger)
    (follows : Follows next) : value? larger (source ++ next) = some (json, rest ++ next) :=
  (readsOn bound).value read enough follows

/-- A text is one value when it is read as this value and there are blanks only behind it. -/
theorem parse?_eq_some_iff {text : String} :
    parse? text = some json ↔ ∃ rest,
      value? (2 * text.toList.length + 2) (glyphs text) = some (json, rest) ∧
        skipGaps rest = [] := by
  unfold parse? ofGlyphs?
  rw [glyphs, List.length_map]
  cases value? (2 * text.toList.length + 2) (text.toList.map some) with
  | none => simp
  | some read =>
    obtain ⟨value, rest⟩ := read
    cases empty : skipGaps rest <;> simp [empty, and_assoc]

/-- The octets of a text are read as the text is. -/
theorem parseOctets?_toUTF8 (text : String) : parseOctets? text.toUTF8.toList = parse? text := by
  rw [parseOctets?, glyphsOfOctets_toUTF8, parse?]

/-! ### Values put together -/

theorem value?_string {characters : List Char} {units : List Unit}
    (read : units? source = some (units, rest)) (text : text? units = some characters)
    (bound : Nat) :
    value? (bound + 1) (some '"' :: source) = some (.string (String.ofList characters), rest) := by
  have solid : skipGaps (some '"' :: source) = some '"' :: source := rfl
  simp [value?, solid, read, ofUnits, text]

/-- No item begins with the bracket that ends an array. -/
theorem items?_of_bracket {after : List Glyph} (bracket : skipGaps source = some ']' :: after) :
    items? bound source = none := by
  rcases bound with _ | _ | bound
  · rw [items?]
  · simp [items?, value?]
  · rw [items?, value?, bracket]
    rfl

theorem members?_of_brace {after : List Glyph} (brace : skipGaps source = some '}' :: after) :
    members? bound source = none := by
  cases bound with
  | zero => rw [members?]
  | succ bound => simp [members?, expect?, brace]

theorem value?_array {items : List Json} (read : items? bound source = some (items, rest)) :
    value? (bound + 1) (some '[' :: source) = some (.array items, rest) := by
  have solid : skipGaps (some '[' :: source) = some '[' :: source := rfl
  simp only [value?, solid]
  split
  · rename_i bracket
    rw [items?_of_bracket bracket] at read
    cases read
  · rw [read]
    rfl

theorem value?_object {members : List (Option (List Char) × Json)}
    (read : members? bound source = some (members, rest)) :
    value? (bound + 1) (some '{' :: source) = some (objectOf members, rest) := by
  have solid : skipGaps (some '{' :: source) = some '{' :: source := rfl
  simp only [value?, solid]
  split
  · rename_i brace
    rw [members?_of_brace brace] at read
    cases read
  · rw [read]
    rfl

theorem items?_last {item : Json} {after : List Glyph}
    (first : value? bound source = some (item, after))
    (bracket : skipGaps after = some ']' :: rest) :
    items? (bound + 1) source = some ([item], rest) := by
  simp [items?, first, bracket]

theorem items?_cons {item : Json} {items : List Json} {after more : List Glyph}
    (first : value? bound source = some (item, after)) (comma : skipGaps after = some ',' :: more)
    (others : items? bound more = some (items, rest)) :
    items? (bound + 1) source = some (item :: items, rest) := by
  simp [items?, first, comma, others]

theorem value?_of_gap {c : Char} (gap : isGap c) :
    value? bound (some c :: source) = value? bound source := by
  cases bound with
  | zero => rw [value?, value?]
  | succ bound => rw [value?, value?, skipGaps, if_pos gap]

theorem members?_of_gap {c : Char} (gap : isGap c) :
    members? bound (some c :: source) = members? bound source := by
  have same : expect? '"' (some c :: source) = expect? '"' source := by
    rw [expect?, expect?, skipGaps, if_pos gap]
  cases bound with
  | zero => rw [members?, members?]
  | succ bound => rw [members?, members?, same]

section Members

variable {units : List Unit} {value : Json} {members : List (Option (List Char) × Json)}
  {afterName after more : List Glyph}

theorem members?_last (name : units? source = some (units, some ':' :: afterName))
    (first : value? bound afterName = some (value, after))
    (brace : skipGaps after = some '}' :: rest) :
    members? (bound + 1) (some '"' :: source) = some ([(text? units, value)], rest) := by
  have quote : expect? '"' (some '"' :: source) = some source := rfl
  have colon : expect? ':' (some ':' :: afterName) = some afterName := rfl
  simp [members?, quote, name, colon, first, brace]

theorem members?_cons (name : units? source = some (units, some ':' :: afterName))
    (first : value? bound afterName = some (value, after))
    (comma : skipGaps after = some ',' :: more)
    (others : members? bound more = some (members, rest)) :
    members? (bound + 1) (some '"' :: source) = some ((text? units, value) :: members, rest) := by
  have quote : expect? '"' (some '"' :: source) = some source := rfl
  have colon : expect? ':' (some ':' :: afterName) = some afterName := rfl
  simp [members?, quote, name, colon, first, comma, others]

end Members

end UserDashboard.Json
