/-
This file proves that the octets of a text are read as its characters.

A character has between one and four octets. The first of them says how many, so no other number of
octets from it on makes a character, and the reader finds the boundaries that the writer has set,
whatever follows.
-/

import UserDashboard.Text.Utf8

namespace UserDashboard.Text

variable {a b c d : UInt8} {character : Char} {rest : List UInt8}

/-! ### Octets that make a character -/

theorem toNat_ofNat_of_lt {value : Nat} (below : value < 256) :
    (UInt8.ofNat value).toNat = value := by
  rw [UInt8.toNat_ofNat']
  exact Nat.mod_eq_of_lt below

theorem isTail_iff : isTail a ↔ 128 ≤ a.toNat ∧ a.toNat ≤ 191 := by
  simp [isTail, UInt8.le_iff_toNat_le]

theorem twoOctets?_eq_some_iff :
    twoOctets? a b = some character ↔ (194 ≤ a.toNat ∧ a.toNat ≤ 223) ∧ isTail b ∧
      Char.ofNat (a.toNat % 32 * 64 + tailBits b) = character := by
  simp [twoOctets?, UInt8.le_iff_toNat_le, and_assoc]

theorem threeOctets?_eq_some_iff :
    threeOctets? a b c = some character ↔ (224 ≤ a.toNat ∧ a.toNat ≤ 239) ∧ isTail b ∧ isTail c ∧
      (let code := a.toNat % 16 * 4096 + tailBits b * 64 + tailBits c
       2048 ≤ code ∧ (code < 55296 ∨ 57343 < code) ∧ Char.ofNat code = character) := by
  simp [threeOctets?, UInt8.le_iff_toNat_le, and_assoc]

theorem fourOctets?_eq_some_iff :
    fourOctets? a b c d = some character ↔
      (240 ≤ a.toNat ∧ a.toNat ≤ 244) ∧ isTail b ∧ isTail c ∧ isTail d ∧
      (let code := a.toNat % 8 * 262144 + tailBits b * 4096 + tailBits c * 64 + tailBits d
       65536 ≤ code ∧ code ≤ 1114111 ∧ Char.ofNat code = character) := by
  simp [fourOctets?, UInt8.le_iff_toNat_le, and_assoc]

/-- The first octet of a character says how many more it has. -/
theorem threeOctets?_eq_none (first : a.toNat < 224 ∨ 239 < a.toNat) :
    threeOctets? a b c = none := by
  rw [Option.eq_none_iff_forall_ne_some]
  intro character read
  have bounds := (threeOctets?_eq_some_iff.mp read).1
  omega

theorem fourOctets?_eq_none (first : a.toNat < 240) : fourOctets? a b c d = none := by
  rw [Option.eq_none_iff_forall_ne_some]
  intro character read
  have bounds := (fourOctets?_eq_some_iff.mp read).1
  omega

/-! ### Characters at the beginning -/

theorem glyphsOfOctets_nil : glyphsOfOctets [] = [] := by
  rw [glyphsOfOctets]

theorem glyphsOfOctets_of_lt (small : a.toNat < 128) (rest : List UInt8) :
    glyphsOfOctets (a :: rest) = some (Char.ofNat a.toNat) :: glyphsOfOctets rest := by
  rw [glyphsOfOctets.eq_def]
  exact if_pos (UInt8.lt_iff_toNat_lt.mpr small)

theorem not_lt_of_le (large : 128 ≤ a.toNat) : ¬a < 128 := by
  rw [UInt8.lt_iff_toNat_lt]
  exact Nat.not_lt.mpr large

theorem glyphsOfOctets_of_two (read : twoOctets? a b = some character) (rest : List UInt8) :
    glyphsOfOctets (a :: b :: rest) = some character :: glyphsOfOctets rest := by
  obtain ⟨low, high⟩ := (twoOctets?_eq_some_iff.mp read).1
  have large : ¬a < 128 := not_lt_of_le (by omega)
  have three (c : UInt8) : threeOctets? a b c = none := threeOctets?_eq_none (by omega)
  have four (c d : UInt8) : fourOctets? a b c d = none := fourOctets?_eq_none (by omega)
  rw [glyphsOfOctets.eq_def (a :: b :: rest)]
  rcases rest with _ | ⟨c, _ | ⟨d, rest⟩⟩
  · simp only [if_neg large, read, glyphsOfOctets_nil]
  · simp only [if_neg large, read, three]
  · simp only [if_neg large, read, three, four]

theorem glyphsOfOctets_of_three (read : threeOctets? a b c = some character)
    (rest : List UInt8) :
    glyphsOfOctets (a :: b :: c :: rest) = some character :: glyphsOfOctets rest := by
  obtain ⟨low, high⟩ := (threeOctets?_eq_some_iff.mp read).1
  have large : ¬a < 128 := not_lt_of_le (by omega)
  have four (d : UInt8) : fourOctets? a b c d = none := fourOctets?_eq_none (by omega)
  rw [glyphsOfOctets.eq_def (a :: b :: c :: rest)]
  cases rest with
  | nil => simp only [if_neg large, read]
  | cons d rest => simp only [if_neg large, read, four]

theorem glyphsOfOctets_of_four (read : fourOctets? a b c d = some character)
    (rest : List UInt8) :
    glyphsOfOctets (a :: b :: c :: d :: rest) = some character :: glyphsOfOctets rest := by
  obtain ⟨low, high⟩ := (fourOctets?_eq_some_iff.mp read).1
  have large : ¬a < 128 := not_lt_of_le (by omega)
  rw [glyphsOfOctets.eq_def (a :: b :: c :: d :: rest)]
  simp only [if_neg large, read]

/-- The octets of a character are read as this character, whatever follows them. -/
theorem glyphsOfOctets_utf8EncodeChar (c : Char) (rest : List UInt8) :
    glyphsOfOctets (String.utf8EncodeChar c ++ rest) = some c :: glyphsOfOctets rest := by
  obtain ⟨code, value⟩ : ∃ code, c.val.toNat = code := ⟨_, rfl⟩
  have same : Char.ofNat code = c := value ▸ Char.ofNat_toNat c
  have valid : code < 55296 ∨ 57343 < code ∧ code < 1114112 := value ▸ c.valid
  have tail (part : Nat) : isTail (UInt8.ofNat (part % 64 + 128)) := by
    rw [isTail_iff, toNat_ofNat_of_lt (by omega)]
    omega
  have bits (part : Nat) : tailBits (UInt8.ofNat (part % 64 + 128)) = part % 64 := by
    rw [tailBits, toNat_ofNat_of_lt (by omega)]
    omega
  unfold String.utf8EncodeChar
  simp only [value]
  -- The number of octets depends on the character alone.
  split
  · have whole : (UInt8.ofNat code).toNat = code := toNat_ofNat_of_lt (by omega)
    have read := glyphsOfOctets_of_lt (a := UInt8.ofNat code) (by omega) rest
    rw [whole, same] at read
    exact read
  · split
    · have first : (UInt8.ofNat (code / 64 % 32 + 192)).toNat = code / 64 % 32 + 192 :=
        toNat_ofNat_of_lt (by omega)
      have whole : (code / 64 % 32 + 192) % 32 * 64 + code % 64 = code := by omega
      refine glyphsOfOctets_of_two (twoOctets?_eq_some_iff.mpr ⟨?_, tail _, ?_⟩) rest
      · omega
      · rw [first, bits, whole, same]
    · split
      · have first : (UInt8.ofNat (code / 4096 % 16 + 224)).toNat = code / 4096 % 16 + 224 :=
          toNat_ofNat_of_lt (by omega)
        have whole : (code / 4096 % 16 + 224) % 16 * 4096 + code / 64 % 64 * 64 + code % 64 =
            code := by omega
        refine glyphsOfOctets_of_three
          (threeOctets?_eq_some_iff.mpr ⟨?_, tail _, tail _, ?_⟩) rest
        · omega
        · simp only [first, bits, whole]
          exact ⟨by omega, by omega, same⟩
      · have first : (UInt8.ofNat (code / 262144 % 8 + 240)).toNat = code / 262144 % 8 + 240 :=
          toNat_ofNat_of_lt (by omega)
        have whole : (code / 262144 % 8 + 240) % 8 * 262144 + code / 4096 % 64 * 4096 +
            code / 64 % 64 * 64 + code % 64 = code := by omega
        refine glyphsOfOctets_of_four
          (fourOctets?_eq_some_iff.mpr ⟨?_, tail _, tail _, tail _, ?_⟩) rest
        · omega
        · simp only [first, bits, whole]
          exact ⟨by omega, by omega, same⟩

/-! ### Whole texts -/

theorem glyphsOfOctets_flatMap (characters : List Char) :
    glyphsOfOctets (characters.flatMap String.utf8EncodeChar) = characters.map some := by
  induction characters with
  | nil => exact glyphsOfOctets_nil
  | cons character rest inductionHypothesis =>
    rw [List.flatMap_cons, glyphsOfOctets_utf8EncodeChar, inductionHypothesis, List.map_cons]

theorem toList_loop_eq (octets : ByteArray) (index : Nat) (before : List UInt8) :
    ByteArray.toList.loop octets index before =
      before.reverse ++ octets.data.toList.drop index := by
  fun_induction ByteArray.toList.loop octets index before with
  | case1 index before inside inductionHypothesis =>
    have within : index < octets.data.toList.length := by simpa using inside
    rw [inductionHypothesis, List.drop_eq_getElem_cons within]
    simp [ByteArray.get!, inside]
  | case2 index before outside =>
    rw [List.drop_eq_nil_of_le (by simpa using Nat.le_of_not_lt outside), List.append_nil]

theorem toUTF8_toList (text : String) :
    text.toUTF8.toList = text.toList.flatMap String.utf8EncodeChar := by
  have whole : text.toUTF8 = text.toList.utf8Encode := by
    rw [String.toUTF8_eq_toByteArray, ← String.toByteArray_ofList, String.ofList_toList]
  rw [whole, ByteArray.toList, toList_loop_eq, List.utf8Encode, List.toList_data_toByteArray]
  rfl

/-- The octets of a text are read as its characters. -/
theorem glyphsOfOctets_toUTF8 (text : String) :
    glyphsOfOctets text.toUTF8.toList = glyphs text := by
  rw [toUTF8_toList, glyphsOfOctets_flatMap, glyphs]

end UserDashboard.Text
