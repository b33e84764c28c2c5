/-
This file proves that octets and their texts in the URL-safe alphabet determine each other.

A text is read exactly when it is the text of some octets, and these are what is read. So no other
text is read as the same octets: padding, bits that are not zero at the end, and characters outside
the alphabet are refused.
-/

import Mathlib.Data.List.GetD
import UserDashboard.Crypto.Base64Url

namespace UserDashboard.Crypto.Base64Url

/-! ### Characters -/

theorem value?_symbol (value : Nat) : value? (symbol value) = some (value % 64) := by
  have all : ∀ digit : Fin 64, value? (alphabet.getD digit 'A') = some digit.val := by
    decide +kernel
  exact all ⟨value % 64, Nat.mod_lt _ (by decide)⟩

theorem alphabet_length : alphabet.length = 64 := by decide

/-- A character has at most one value, and that is below 64. -/
theorem lt_of_value? {c : Char} {digit : Nat} (read : value? c = some digit) : digit < 64 := by
  obtain ⟨bound, -⟩ := List.findIdx?_eq_some_iff_getElem.mp read
  rwa [alphabet_length] at bound

/-- A character is the one of every number that ends in its value. -/
theorem symbol_eq_of_value? {c : Char} {digit : Nat} (read : value? c = some digit) {value : Nat}
    (ends : value % 64 = digit) : symbol value = c := by
  obtain ⟨bound, found, -⟩ := List.findIdx?_eq_some_iff_getElem.mp read
  rw [symbol, ends, List.getD_eq_getElem _ _ bound]
  simpa using found

theorem symbol_mem_alphabet (value : Nat) : symbol value ∈ alphabet := by
  have below : value % 64 < alphabet.length := by
    rw [alphabet_length]
    exact Nat.mod_lt _ (by decide)
  rw [symbol, List.getD_eq_getElem _ _ below]
  exact List.getElem_mem below

theorem mem_alphabet_of_mem_encode {octets : List UInt8} {c : Char} (member : c ∈ encode octets) :
    c ∈ alphabet := by
  fun_induction encode octets with
  | case1 first second third rest bits inductionHypothesis =>
    simp only [List.mem_cons] at member
    rcases member with rfl | rfl | rfl | rfl | later
    · exact symbol_mem_alphabet _
    · exact symbol_mem_alphabet _
    · exact symbol_mem_alphabet _
    · exact symbol_mem_alphabet _
    · exact inductionHypothesis later
  | case2 first second bits =>
    simp only [List.mem_cons, List.not_mem_nil, or_false] at member
    rcases member with rfl | rfl | rfl <;> exact symbol_mem_alphabet _
  | case3 first bits =>
    simp only [List.mem_cons, List.not_mem_nil, or_false] at member
    rcases member with rfl | rfl <;> exact symbol_mem_alphabet _
  | case4 => cases member

/-- There is no point in the text of octets. -/
theorem point_notMem_encode (octets : List UInt8) : '.' ∉ encode octets := fun member =>
  absurd (mem_alphabet_of_mem_encode member) (by decide)

/-! ### Octets -/

theorem ofNat_eq (octet : UInt8) {value : Nat} (same : value % 256 = octet.toNat) :
    UInt8.ofNat value = octet := by
  rw [← UInt8.toNat_inj, UInt8.toNat_ofNat']
  exact same

/-- The octets of a text are read from it. -/
theorem decode?_encode (octets : List UInt8) : decode? (encode octets) = some octets := by
  fun_induction encode octets with
  | case1 first second third rest bits inductionHypothesis =>
    have one := first.toNat_lt
    have two := second.toNat_lt
    have three := third.toNat_lt
    simp only [decode?, value?_symbol, inductionHypothesis, Option.bind_eq_bind, Option.bind_some]
    rw [ofNat_eq first, ofNat_eq second, ofNat_eq third] <;> omega
  | case2 first second bits =>
    have one := first.toNat_lt
    have two := second.toNat_lt
    simp only [decode?, value?_symbol, Option.bind_eq_bind, Option.bind_some]
    rw [if_pos (by omega), ofNat_eq first, ofNat_eq second] <;> omega
  | case3 first bits =>
    have one := first.toNat_lt
    simp only [decode?, value?_symbol, Option.bind_eq_bind, Option.bind_some]
    rw [if_pos (by omega), ofNat_eq first]
    omega
  | case4 => rfl

/-- What is read as octets is their text. -/
theorem eq_encode_of_decode? {text : List Char} {octets : List UInt8}
    (read : decode? text = some octets) : text = encode octets := by
  fun_induction decode? text generalizing octets with
  | case1 a b c d rest inductionHypothesis =>
    simp only [bind, Option.bind_eq_some_iff] at read
    obtain ⟨first, one, second, two, third, three, fourth, four, others, later, made⟩ := read
    have firstBound := lt_of_value? one
    have secondBound := lt_of_value? two
    have thirdBound := lt_of_value? three
    have fourthBound := lt_of_value? four
    rw [← Option.some.inj made, encode, ← inductionHypothesis later]
    simp only [UInt8.toNat_ofNat']
    rw [symbol_eq_of_value? one, symbol_eq_of_value? two, symbol_eq_of_value? three,
      symbol_eq_of_value? four] <;> omega
  | case2 a b c =>
    simp only [bind, Option.bind_eq_some_iff] at read
    obtain ⟨first, one, second, two, third, three, made⟩ := read
    have firstBound := lt_of_value? one
    have secondBound := lt_of_value? two
    have thirdBound := lt_of_value? three
    split at made
    · rw [← Option.some.inj made, encode]
      simp only [UInt8.toNat_ofNat']
      rw [symbol_eq_of_value? one, symbol_eq_of_value? two, symbol_eq_of_value? three] <;> omega
    · cases made
  | case3 a b =>
    simp only [bind, Option.bind_eq_some_iff] at read
    obtain ⟨first, one, second, two, made⟩ := read
    have firstBound := lt_of_value? one
    have secondBound := lt_of_value? two
    split at made
    · rw [← Option.some.inj made, encode]
      simp only [UInt8.toNat_ofNat']
      rw [symbol_eq_of_value? one, symbol_eq_of_value? two] <;> omega
    · cases made
  | case4 => cases read
  | case5 =>
    obtain rfl := Option.some.inj read
    rfl

/-- A text is read as octets exactly when it is theirs. -/
theorem decode?_eq_some_iff {text : List Char} {octets : List UInt8} :
    decode? text = some octets ↔ text = encode octets :=
  ⟨eq_encode_of_decode?, fun same => same ▸ decode?_encode octets⟩

end UserDashboard.Crypto.Base64Url
