/-
This file proves what an account is shown of the listings in a catalog's answer.

An answer is read as plain data as a whole, before anything is known about its elements. If all of
them are plain data, then the account is shown its own listings among them, whatever the others are:
they are neither read as listings nor asked for anything but the two numbers of an account. But an
element that is no plain data, a number too large for one say, leaves nothing of the answer.
-/

import UserDashboard.Catalog.Remote
import UserDashboard.Proofs.Json.Plain
import UserDashboard.Proofs.Json.Printer

namespace UserDashboard.Catalog.Remote

open Json Net Text

variable {subject : SubjectId} {texts : List String} {elements : List Json}

/-! ### The text of an answer -/

/-- The elements of an array as text, with commas between them. -/
def elementsText (texts : List String) : List Char :=
  joined ',' (texts.map String.toList)

/-- The body of an answer that had success, with the texts of the elements in its data. -/
def bodyOf (texts : List String) : String :=
  String.ofList
    ("\x7b\"success\": true, \"data\": [".toList ++ (elementsText texts ++ "]\x7d".toList))

/-- Elements that are read by themselves are read the same among others. -/
theorem items?_elementsText {bound : Nat} (each : texts.mapM parse? = some elements)
    (filled : texts ≠ []) (enough : 2 * (elementsText texts).length + 2 < bound)
    (rest : List Glyph) :
    items? bound ((elementsText texts).map some ++ some ']' :: rest) = some (elements, rest) := by
  induction texts generalizing bound elements with
  | nil => exact absurd rfl filled
  | cons text texts inductionHypothesis =>
    obtain ⟨bound, rfl⟩ := Nat.exists_eq_add_one_of_ne_zero (Nat.ne_zero_of_lt enough)
    rw [List.mapM_cons] at each
    obtain ⟨element, first, each⟩ := Option.bind_eq_some_iff.mp each
    obtain ⟨others, behind, same⟩ := Option.bind_eq_some_iff.mp each
    cases same
    obtain ⟨after, read, blank⟩ := parse?_eq_some_iff.mp first
    have gaps {next : List Glyph} (follows : Follows next) : skipGaps (after ++ next) = next := by
      rw [skipGaps_append follows, blank, List.nil_append]
    cases texts with
    | nil =>
      cases behind
      have whole : elementsText [text] = text.toList := rfl
      rw [whole] at enough ⊢
      exact items?_last (value?_append read (by omega) .bracket) (gaps .bracket)
    | cons second texts =>
      have whole : elementsText (text :: second :: texts) =
          text.toList ++ ',' :: elementsText (second :: texts) := rfl
      rw [whole, List.length_append, List.length_cons] at enough
      rw [whole, List.map_append, List.map_cons, List.append_assoc, List.cons_append]
      exact items?_cons (value?_append read (by omega) .comma) (gaps .comma)
        (inductionHypothesis behind (List.cons_ne_nil _ _) (by omega))

theorem glyphs_bodyOf (texts : List String) :
    glyphs (bodyOf texts) =
      ['\x7b', '"', 's', 'u', 'c', 'c', 'e', 's', 's', '"', ':', ' ', 't', 'r', 'u', 'e', ',', ' ',
        '"', 'd', 'a', 't', 'a', '"', ':', ' ', '['].map some ++
      ((elementsText texts).map some ++ [some ']', some '\x7d']) := by
  have opening : "\x7b\"success\": true, \"data\": [".toList =
      ['\x7b', '"', 's', 'u', 'c', 'c', 'e', 's', 's', '"', ':', ' ', 't', 'r', 'u', 'e', ',', ' ',
        '"', 'd', 'a', 't', 'a', '"', ':', ' ', '['] := by simp
  have closing : "]\x7d".toList = [']', '\x7d'] := by simp
  unfold glyphs bodyOf
  rw [String.toList_ofList, opening, closing]
  simp only [List.map_append, List.map_cons, List.map_nil]

/-- The body of an answer is read as an object that holds the elements. -/
theorem parse?_bodyOf (each : texts.mapM parse? = some elements) :
    parse? (bodyOf texts) =
      some (.object [("success", .bool true), ("data", .array elements)]) := by
  have whole := glyphs_bodyOf texts
  obtain ⟨bound, total, enough⟩ : ∃ bound, 2 * (glyphs (bodyOf texts)).length + 2 = bound + 5 ∧
      2 * (elementsText texts).length + 2 < bound := by
    refine ⟨2 * (elementsText texts).length + 55, ?_, by omega⟩
    simp only [whole, List.length_append, List.length_map, List.length_cons, List.length_nil]
    omega
  have data : value? (bound + 2) (some ' ' :: some '[' :: ((elementsText texts).map some ++
      [some ']', some '\x7d'])) = some (.array elements, [some '\x7d']) := by
    rw [value?_of_gap rfl]
    cases texts with
    | nil =>
      cases each
      rfl
    | cons text texts =>
      exact value?_array (items?_elementsText each (List.cons_ne_nil _ _)
        (Nat.lt_succ_of_lt enough) _)
  have dataName : ∀ rest, units? (['d', 'a', 't', 'a', '"'].map some ++ rest) =
      some (['d', 'a', 't', 'a'].map .character, rest) := fun _ => rfl
  have successName : ∀ rest, units? (['s', 'u', 'c', 'c', 'e', 's', 's', '"'].map some ++ rest) =
      some (['s', 'u', 'c', 'c', 'e', 's', 's'].map .character, rest) := fun _ => rfl
  have last : members? (bound + 3) ([' ', '"', 'd', 'a', 't', 'a', '"', ':'].map some ++
      (some ' ' :: some '[' :: ((elementsText texts).map some ++ [some ']', some '\x7d']))) =
      some ([(some ['d', 'a', 't', 'a'], .array elements)], []) :=
    (members?_of_gap rfl).trans (members?_last (dataName _) data rfl)
  have success : ∀ rest, value? (bound + 3) ([' ', 't', 'r', 'u', 'e', ','].map some ++ rest) =
      some (.bool true, some ',' :: rest) := fun _ => rfl
  have object : value? (bound + 5) (glyphs (bodyOf texts)) =
      some (.object [("success", .bool true), ("data", .array elements)], []) := by
    rw [whole]
    exact value?_object (members?_cons (successName _) (success _) rfl last)
  rw [parse?, ofGlyphs?, total, object]
  rfl

/-! ### Listings of an account -/

/-- The listing that an element is for an account: one of its own that can be read as a listing. -/
def listingOf? (subject : SubjectId) (element : Json) : Option Listing :=
  if isOwnedBy subject element then (plain? deepestListing element).bind Listing.ofJson? else none

/-- Whether an element can be read as plain data inside an answer. -/
def isPlain (element : Json) : Bool :=
  (plain? deepestListing element).isSome

/-- Whose an element is can be told before it is read as plain data. -/
theorem isOwnedBy_plain? {depth : Nat} {element plain : Json}
    (read : plain? depth element = some plain) :
    isOwnedBy subject plain = isOwnedBy subject element := by
  simp only [isOwnedBy, readInt64?_get_plain? read]

theorem owned_cons {element plain : Json} (read : plain? deepestListing element = some plain)
    (subject : SubjectId) (raw : List Json) :
    owned subject (plain :: raw) = (listingOf? subject element).toList ++ owned subject raw := by
  simp only [owned, listingOf?, List.filter_cons, isOwnedBy_plain? read, read, Option.bind_some]
  by_cases own : isOwnedBy subject element
  · rw [if_pos own, if_pos own, List.filterMap_cons]
    cases Listing.ofJson? plain <;> rfl
  · rw [if_neg own, if_neg own, Option.toList_none, List.nil_append]

/-- The elements are read as plain data together or not at all, and what is owned among them is what
each of them is by itself. -/
theorem map_owned (subject : SubjectId) (elements : List Json) :
    (elements.mapM (plain? deepestListing)).map (owned subject) =
      if elements.all isPlain then some (elements.filterMap (listingOf? subject)) else none := by
  induction elements with
  | nil => rfl
  | cons element elements inductionHypothesis =>
    rw [List.mapM_cons, List.all_cons]
    cases read : plain? deepestListing element with
    | none =>
      have no : isPlain element = false := by rw [isPlain, read, Option.isSome_none]
      rw [no]
      rfl
    | some plain =>
      have yes : isPlain element = true := by rw [isPlain, read, Option.isSome_some]
      have next : (element :: elements).filterMap (listingOf? subject) =
          (listingOf? subject element).toList ++ elements.filterMap (listingOf? subject) := by
        rw [List.filterMap_cons]
        cases listingOf? subject element <;> rfl
      rw [yes, Bool.true_and, next]
      cases others : elements.mapM (plain? deepestListing) with
      | none =>
        rw [others] at inductionHypothesis
        split at inductionHypothesis
        · cases inductionHypothesis
        · rename_i hidden
          rw [if_neg hidden]
          rfl
      | some raw =>
        rw [others] at inductionHypothesis
        split at inductionHypothesis
        · rename_i shown
          rw [if_pos shown, ← Option.some.inj inductionHypothesis, ← owned_cons read]
          rfl
        · cases inductionHypothesis

/-- Whether asking for listings is answered with a status and a body. -/
def Receives (remote : Remote) (ask : Url → Exchange) (status : Nat) (body : List UInt8) : Prop :=
  ∃ address, remote.endpoint ["api".toList, "products".toList] = .ok address ∧
    isSendable (requested address) ∧ ask (requested address) = .answered status body

variable {remote : Remote} {ask : Url → Exchange} {status : Nat}

theorem ownedListings_of_receives {body : List UInt8} (received : remote.Receives ask status body)
    (subject : SubjectId) :
    ∃ address, remote.ownedListings ask subject =
      (readAnswer readRaw? address status body).map (owned subject) := by
  obtain ⟨address, found, sendable, answered⟩ := received
  refine ⟨address, ?_⟩
  rw [ownedListings, call, found]
  simp only [if_pos sendable, answered]

theorem envelope_of_elements (elements : List Json) :
    Envelope.ofJson? readRaw? (.object [("success", .bool true), ("data", .array elements)]) =
      (elements.mapM (plain? deepestListing)).map fun raw => ⟨true, some raw⟩ := by
  have read : Envelope.ofJson? readRaw?
      (.object [("success", .bool true), ("data", .array elements)]) =
      ((elements.mapM (plain? deepestListing)).map some).bind fun data => some ⟨true, data⟩ := rfl
  rw [read]
  cases elements.mapM (plain? deepestListing) <;> rfl

/-- The account is shown its listings among the elements of an answer, if all elements are plain
data, and nothing otherwise. -/
theorem ownedListings_eq (received : remote.Receives ask status (bodyOf texts).toUTF8.toList)
    (success : 200 ≤ status ∧ status ≤ 299) (each : texts.mapM parse? = some elements)
    (subject : SubjectId) :
    remote.ownedListings ask subject =
      if elements.all isPlain then .ok (elements.filterMap (listingOf? subject))
      else .error (.unavailable .unreadable) := by
  obtain ⟨address, same⟩ := ownedListings_of_receives received subject
  rw [same, readAnswer, if_pos success, parseOctets?_toUTF8, parse?_bodyOf each, Option.bind_some,
    envelope_of_elements]
  have shown := map_owned subject elements
  cases read : elements.mapM (plain? deepestListing) with
  | none =>
    rw [read] at shown
    split at shown
    · cases shown
    · rename_i hidden
      rw [if_neg hidden]
      rfl
  | some raw =>
    rw [read] at shown
    split at shown
    · rename_i plain
      rw [if_pos plain]
      exact congrArg Except.ok (Option.some.inj shown)
    · cases shown

theorem mapM_append_eq_some {before after : List String} {text : String} {element : Json}
    (each : (before ++ after).mapM parse? = some elements) (read : parse? text = some element) :
    ∃ first last, elements = first ++ last ∧
      (before ++ text :: after).mapM parse? = some (first ++ element :: last) := by
  rw [List.mapM_append] at each
  obtain ⟨first, one, each⟩ := Option.bind_eq_some_iff.mp each
  obtain ⟨last, two, same⟩ := Option.bind_eq_some_iff.mp each
  refine ⟨first, last, (Option.some.inj same).symm, ?_⟩
  simp [List.mapM_append, List.mapM_cons, one, read, two]

/-- The account is shown exactly its own listings among the elements of an answer, in the answer's
order, if all elements are plain data. Then no further element of plain data changes what it is
shown, unless it is a listing of its own. An element that is no plain data hides everything. -/
theorem own_listings_shown (received : remote.Receives ask status (bodyOf texts).toUTF8.toList)
    (success : 200 ≤ status ∧ status ≤ 299) (each : texts.mapM parse? = some elements)
    (subject : SubjectId) :
    remote.ownedListings ask subject =
      (if elements.all isPlain then .ok (elements.filterMap (listingOf? subject))
      else .error (.unavailable .unreadable)) ∧
    ∀ (before after : List String) (text : String) (element : Json) (asked : Url → Exchange),
      texts = before ++ after → parse? text = some element → isPlain element →
      isOwnedBy subject element = false ∨
        (plain? deepestListing element).bind Listing.ofJson? = none →
      remote.Receives asked status (bodyOf (before ++ text :: after)).toUTF8.toList →
        remote.ownedListings asked subject = remote.ownedListings ask subject := by
  refine ⟨ownedListings_eq received success each subject, ?_⟩
  intro before after text element asked inserted read plain other receivedToo
  subst inserted
  obtain ⟨first, last, rfl, eachToo⟩ := mapM_append_eq_some each read
  have passed : listingOf? subject element = none := by
    rcases other with foreign | unreadable
    · rw [listingOf?, foreign, if_neg Bool.false_ne_true]
    · rw [listingOf?, unreadable, ite_self]
  rw [ownedListings_eq received success each, ownedListings_eq receivedToo success eachToo,
    List.all_append, List.all_append, List.all_cons, plain, Bool.true_and, List.filterMap_append,
    List.filterMap_append, List.filterMap_cons, passed]

/-! ### An answer with a number that is too large -/

/-- A catalog at an address of the web. -/
def marketplace : Remote :=
  ⟨"http", some ⟨[], none, .named "catalog.test".toList, none⟩, .segments [[]], none, none⟩

/-- The answer of a catalog whose elements have these texts. -/
def answering (texts : List String) : Url → Exchange :=
  fun _ => .answered 200 (bodyOf texts).toUTF8.toList

theorem receives_answering (texts : List String) :
    marketplace.Receives (answering texts) 200 (bodyOf texts).toUTF8.toList :=
  ⟨_, rfl, by decide +kernel, rfl⟩

/-- A listing of the account of number 42. -/
def ownElement : Json :=
  .object [("productId", .integer 1), ("sellerId", .integer 42)]

theorem parse?_ownElement : parse? ownElement.render = some ownElement := by
  refine parse?_print (.object fun member isMember => ?_)
  simp only [List.mem_cons, List.not_mem_nil, or_false] at isMember
  rcases isMember with rfl | rfl <;> exact .integer (by decide) (by decide)

/-- A power of ten beyond the largest binary number is a number that cannot be used. -/
theorem parse?_tooLarge : parse? "1e999" = some (.unreadable true) := by
  have beyond : Numeral.real? ⟨false, [1], none, some 999⟩ = none := by decide +kernel
  have value : Numeral.value ⟨false, [1], none, some 999⟩ = .unreadable true := by
    simp only [Numeral.value, Numeral.realValue, beyond]
    rfl
  have read : number? (['1', 'e', '9', '9', '9'].map some) =
      some (Numeral.value ⟨false, [1], none, some 999⟩, []) := rfl
  rw [value] at read
  exact parse?_eq_some_iff.mpr ⟨[], value?_of_number? read _, rfl⟩

theorem mapM_ownElement : [ownElement.render].mapM parse? = some [ownElement] := by
  rw [List.mapM_cons, parse?_ownElement]
  rfl

theorem all_isPlain_ownElement : [ownElement].all isPlain = true := by decide +kernel

theorem filterMap_ownElement : [ownElement].filterMap (listingOf? ⟨42⟩) =
    [⟨1, "", none, none, some 42, none, none⟩] := by decide +kernel

/-- An element that is no listing at all takes nothing away. -/
theorem own_listings_shown_of_null :
    marketplace.ownedListings (answering [ownElement.render]) ⟨42⟩ =
      .ok [⟨1, "", none, none, some 42, none, none⟩] ∧
    marketplace.ownedListings (answering [ownElement.render, "null"]) ⟨42⟩ =
      .ok [⟨1, "", none, none, some 42, none, none⟩] := by
  obtain ⟨shown, inserted⟩ :=
    own_listings_shown (receives_answering _) (by decide) mapM_ownElement ⟨42⟩
  rw [if_pos all_isPlain_ownElement, filterMap_ownElement] at shown
  refine ⟨shown, ?_⟩
  rw [← shown]
  exact inserted [ownElement.render] [] "null" .null (answering [ownElement.render, "null"]) rfl
    (parse?_print .null) rfl (Or.inl rfl) (receives_answering _)

/-- A number that is too large belongs to nobody and hides the listing before it. -/
theorem own_listing_hidden :
    [ownElement.render, "1e999"].mapM parse? = some [ownElement, .unreadable true] ∧
    isOwnedBy ⟨42⟩ (.unreadable true) = false ∧
    marketplace.ownedListings (answering [ownElement.render]) ⟨42⟩ =
      .ok [⟨1, "", none, none, some 42, none, none⟩] ∧
    marketplace.ownedListings (answering [ownElement.render, "1e999"]) ⟨42⟩ =
      .error (.unavailable .unreadable) := by
  have both : [ownElement.render, "1e999"].mapM parse? = some [ownElement, .unreadable true] := by
    rw [List.mapM_cons, List.mapM_cons, parse?_ownElement, parse?_tooLarge]
    rfl
  have hidden : ¬[ownElement, .unreadable true].all isPlain = true := by decide +kernel
  refine ⟨both, rfl, ?_, ?_⟩
  · rw [ownedListings_eq (receives_answering _) (by decide) mapM_ownElement,
      if_pos all_isPlain_ownElement, filterMap_ownElement]
  · rw [ownedListings_eq (receives_answering _) (by decide) both, if_neg hidden]

end UserDashboard.Catalog.Remote
