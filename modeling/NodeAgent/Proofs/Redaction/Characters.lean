import NodeAgent.Proofs.Redaction.Spelling
/-!
The kinds of characters that the rules tell apart, and how they lie to each other: the characters
of names may stand in every secret, and blanks are neither in words nor in tokens.

Main results: `IsNameChar.kinds` and `blank_kinds`, which kinds such a character is of; the letters
of the words that the rules look for (`bearer_letters`, `secretNames_letters`).
-/

namespace NodeAgent.Redaction

/-- The characters of which the names of secrets are made. -/
def isNameLetter (k : Char) : Bool := k.isLower || k = '_' || k = '-'

/-- Whether a character may stand in the name of a secret, in some letter case. -/
def IsNameChar (c : Char) : Prop := isNameLetter (plainLetter c) = true

/-- The code points of the characters of names, in every letter case. -/
def nameCodes : List Nat :=
  List.range' 65 26 ++ List.range' 97 26 ++ [95, 45, 0x17f, 0x212a, 0x131, 0x130]

/-- The code points of the blanks. -/
def blankCodes : List Nat :=
  List.range' 9 5 ++ List.range' 28 5 ++ [0x85, 0xa0, 0x1680] ++ List.range' 0x2000 11 ++
    [0x2028, 0x2029, 0x202f, 0x205f, 0x3000]

/-! ## ASCII -/

theorem lt_of_le_ascii {c d : Char} (h : c.val ≤ d.val) (hd : d.toNat < 128) : c.toNat < 128 :=
  Nat.lt_of_le_of_lt (UInt32.le_iff_toNat_le.mp h) hd

theorem isUpper_lt {c : Char} (h : c.isUpper = true) : c.toNat < 128 := by
  have hbounds : c.val ≥ 'A'.val ∧ c.val ≤ 'Z'.val := of_decide_eq_true h
  exact lt_of_le_ascii hbounds.2 (by decide)

theorem isLower_lt {c : Char} (h : c.isLower = true) : c.toNat < 128 := by
  have hbounds : (decide (c.val ≥ 'a'.val) && decide (c.val ≤ 'z'.val)) = true := h
  rw [Bool.and_eq_true] at hbounds
  exact lt_of_le_ascii (of_decide_eq_true hbounds.2) (by decide)

theorem isDigit_lt {c : Char} (h : c.isDigit = true) : c.toNat < 128 := by
  have hbounds : (decide (c.val ≥ '0'.val) && decide (c.val ≤ '9'.val)) = true := h
  rw [Bool.and_eq_true] at hbounds
  exact lt_of_le_ascii (of_decide_eq_true hbounds.2) (by decide)

theorem isAlphanum_lt {c : Char} (h : c.isAlphanum = true) : c.toNat < 128 := by
  have hkinds : ((c.isUpper || c.isLower) || c.isDigit) = true := h
  rw [Bool.or_eq_true, Bool.or_eq_true] at hkinds
  rcases hkinds with (h | h) | h
  · exact isUpper_lt h
  · exact isLower_lt h
  · exact isDigit_lt h

theorem toLower_lt {c : Char} (h : c.toLower.toNat < 128) : c.toNat < 128 := by
  unfold Char.toLower at h
  split at h
  · rename_i hu
    exact lt_of_le_ascii hu.2 (by decide)
  · exact h

/-! ## Characters of names -/

namespace IsNameChar

theorem mem {c : Char} (h : IsNameChar c) : c ∈ nameCodes.map Char.ofNat := by
  by_cases hf : c ∈ ['ſ', '\u212a', 'ı', 'İ']
  · simp only [List.mem_cons, List.not_mem_nil, or_false] at hf
    rcases hf with rfl | rfl | rfl | rfl <;> decide
  · simp only [List.mem_cons, List.not_mem_nil, or_false, not_or] at hf
    obtain ⟨h1, h2, h3, h4⟩ := hf
    have hm : isNameLetter c.toLower = true := by
      simpa [IsNameChar, plainLetter, h1, h2, h3, h4] using h
    have hlt : c.toLower.toNat < 128 := by
      simp only [isNameLetter, Bool.or_eq_true, decide_eq_true_eq] at hm
      rcases hm with (hm | hm) | hm
      · exact isLower_lt hm
      · rw [hm]; decide
      · rw [hm]; decide
    have ascii : ∀ n : Fin 128, isNameLetter (Char.ofNat n).toLower = true →
        n.val ∈ nameCodes := by
      decide +kernel
    refine List.mem_map.mpr ⟨c.toNat, ?_, Char.ofNat_toNat c⟩
    exact ascii ⟨c.toNat, toLower_lt hlt⟩ (by simpa [Char.ofNat_toNat] using hm)

/-- What kinds of characters the characters of names are. -/
theorem kinds {c : Char} (h : IsNameChar c) :
    isTokenChar c = true ∧ isValueChar c = true ∧ isParameterChar c = true ∧
      Text.isBlank c = false ∧ c ∉ "[]:=?&".toList ∧ (c ≠ '-' → Text.isWord c = true) := by
  have table : ∀ n ∈ nameCodes, isTokenChar (Char.ofNat n) = true ∧
      isValueChar (Char.ofNat n) = true ∧ isParameterChar (Char.ofNat n) = true ∧
      Text.isBlank (Char.ofNat n) = false ∧ Char.ofNat n ∉ "[]:=?&".toList ∧
      (Char.ofNat n ≠ '-' → Text.isWord (Char.ofNat n) = true) := by
    decide +kernel
  obtain ⟨n, hn, rfl⟩ := List.mem_map.mp h.mem
  exact table n hn

theorem token {c : Char} (h : IsNameChar c) : isTokenChar c = true := h.kinds.1

theorem value {c : Char} (h : IsNameChar c) : isValueChar c = true := h.kinds.2.1

theorem parameter {c : Char} (h : IsNameChar c) : isParameterChar c = true := h.kinds.2.2.1

theorem not_blank {c : Char} (h : IsNameChar c) : Text.isBlank c = false := h.kinds.2.2.2.1

theorem not_delimiter {c : Char} (h : IsNameChar c) : c ∉ "[]:=?&".toList := h.kinds.2.2.2.2.1

theorem word {c : Char} (h : IsNameChar c) : c ≠ '-' → Text.isWord c = true := h.kinds.2.2.2.2.2

end IsNameChar

theorem Spells.nameChar {name : String} {word : List Char} (h : Spells name.toList word)
    (hn : ∀ k ∈ name.toList, isNameLetter k = true) {c : Char} (hc : c ∈ word) : IsNameChar c :=
  hn _ (h ▸ List.mem_map_of_mem hc)

theorem SpellsOne.nameChar {names : List String} {word : List Char} (h : SpellsOne names word)
    (hn : ∀ name ∈ names, ∀ k ∈ name.toList, isNameLetter k = true) {c : Char} (hc : c ∈ word) :
    IsNameChar c := by
  obtain ⟨name, hm, hs⟩ := h
  exact hs.nameChar (hn name hm) hc

theorem bearer_letters : ∀ k ∈ "bearer".toList, isNameLetter k = true :=
  List.all_eq_true.mp (by decide)

theorem secretNames_letters : ∀ name ∈ secretNames, ∀ k ∈ name.toList, isNameLetter k = true := by
  have table : ∀ name ∈ secretNames, name.toList.all isNameLetter = true := by decide
  exact fun name hm => List.all_eq_true.mp (table name hm)

theorem parameterNames_letters :
    ∀ name ∈ parameterNames, ∀ k ∈ name.toList, isNameLetter k = true := by
  have table : ∀ name ∈ parameterNames, name.toList.all isNameLetter = true := by decide
  exact fun name hm => List.all_eq_true.mp (table name hm)

/-! ## Blanks -/

theorem mem_of_blank {c : Char} (h : Text.isBlank c = true) : c ∈ blankCodes.map Char.ofNat := by
  refine List.mem_map.mpr ⟨c.toNat, ?_, Char.ofNat_toNat c⟩
  simp only [Text.isBlank, Bool.or_eq_true, Bool.and_eq_true, decide_eq_true_eq, beq_iff_eq] at h
  simp only [blankCodes, List.mem_append, List.mem_range'_1, List.mem_cons, List.not_mem_nil,
    or_false]
  omega

/-- What kinds of characters the blanks are. -/
theorem blank_kinds {c : Char} (h : Text.isBlank c = true) :
    Text.isWord c = false ∧ isTokenChar c = false ∧ c ∉ mark ∧ c ∉ ":=".toList := by
  have table : ∀ n ∈ blankCodes, Text.isWord (Char.ofNat n) = false ∧
      isTokenChar (Char.ofNat n) = false ∧ Char.ofNat n ∉ mark ∧ Char.ofNat n ∉ ":=".toList := by
    decide +kernel
  obtain ⟨n, hn, rfl⟩ := List.mem_map.mp (mem_of_blank h)
  exact table n hn

/-! ## Marks -/

theorem mark_value : ∀ c ∈ mark, isValueChar c = true := List.all_eq_true.mp (by decide)

theorem mark_parameter : ∀ c ∈ mark, isParameterChar c = true := List.all_eq_true.mp (by decide)

theorem mark_not_lead {c : Char} (h : c ∈ mark) : c ≠ '?' ∧ c ≠ '&' := by
  refine ⟨?_, ?_⟩
  · intro hc
    exact absurd (hc ▸ h) (by decide)
  · intro hc
    exact absurd (hc ▸ h) (by decide)

/-! ## Letters and digits -/

/-- What kinds of characters the letters and digits of ASCII are. -/
theorem alphanum_kinds {c : Char} (h : c.isAlphanum = true) :
    isTokenChar c = true ∧ isValueChar c = true ∧ isParameterChar c = true ∧
      Text.isWord c = true ∧ c ≠ '?' ∧ c ≠ '&' := by
  have ascii : ∀ n : Fin 128, (Char.ofNat n).isAlphanum = true →
      isTokenChar (Char.ofNat n) = true ∧ isValueChar (Char.ofNat n) = true ∧
        isParameterChar (Char.ofNat n) = true ∧ Text.isWord (Char.ofNat n) = true ∧
        Char.ofNat n ≠ '?' ∧ Char.ofNat n ≠ '&' := by
    decide +kernel
  have hc := ascii ⟨c.toNat, isAlphanum_lt h⟩
  simp only [Char.ofNat_toNat] at hc
  exact hc h

end NodeAgent.Redaction
