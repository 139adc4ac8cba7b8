import NodeAgent.Redaction
/-!
Words in any letter case. A word spells a name of ASCII when each of its characters is the letter
of the name in some case; the look-ahead of the rules finds exactly the words that spell a name,
and for names of which none begins another one it finds the only one there is.

Main results: `wordAhead_eq_some_iff`, one name; `someAhead_eq_some_iff`, names that lie apart.
-/

namespace NodeAgent.Redaction

/-- The small letter of ASCII that a character is in another case, else the character. -/
def plainLetter (c : Char) : Char :=
  if c = 'ſ' then 's'
  else if c = '\u212a' then 'k'
  else if c = 'ı' ∨ c = 'İ' then 'i'
  else c.toLower

/-- Whether a word is a name in any letter case. -/
def Spells (name word : List Char) : Prop := word.map plainLetter = name

/-- Whether a word is one of some names in any letter case. -/
def SpellsOne (names : List String) (word : List Char) : Prop :=
  ∃ name ∈ names, Spells name.toList word

instance (name word : List Char) : Decidable (Spells name word) :=
  inferInstanceAs (Decidable (_ = _))

instance (names : List String) (word : List Char) : Decidable (SpellsOne names word) :=
  inferInstanceAs (Decidable (∃ name ∈ names, _))

/-- A name of ASCII characters. -/
def IsAscii (name : List Char) : Prop := ∀ k ∈ name, k.toNat < 128

instance (name : List Char) : Decidable (IsAscii name) :=
  List.decidableBAll (fun k : Char => k.toNat < 128) name

/-! ## Letters -/

theorem isLetter_iff {k c : Char} (hk : k.toNat < 128) :
    isLetter k c = true ↔ plainLetter c = k := by
  have beyond : ∀ d : Char, ¬ d.toNat < 128 → k ≠ d := by
    intro d hd he
    exact hd (he ▸ hk)
  have long : k ≠ 'ſ' := beyond 'ſ' (by decide)
  have kelvin : k ≠ '\u212a' := beyond '\u212a' (by decide)
  have dotless : k ≠ 'ı' := beyond 'ı' (by decide)
  have dotted : k ≠ 'İ' := beyond 'İ' (by decide)
  simp only [isLetter, plainLetter, Bool.or_eq_true, Bool.and_eq_true, decide_eq_true_eq]
  by_cases h1 : c = 'ſ'
  · subst h1
    simp [show 'ſ'.toLower = 'ſ' by decide, long.symm, eq_comm]
  by_cases h2 : c = '\u212a'
  · subst h2
    simp [show '\u212a'.toLower = '\u212a' by decide, kelvin.symm, eq_comm]
  by_cases h3 : c = 'ı'
  · subst h3
    simp [show 'ı'.toLower = 'ı' by decide, dotless.symm, eq_comm]
  by_cases h4 : c = 'İ'
  · subst h4
    simp [show 'İ'.toLower = 'İ' by decide, dotted.symm, eq_comm]
  simp [h1, h2, h3, h4]

/-! ## Words -/

theorem wordAhead_eq_some_iff {name : List Char} (hn : IsAscii name) {cs word rest : List Char} :
    wordAhead? name cs = some (word, rest) ↔ cs = word ++ rest ∧ Spells name word := by
  -- The word is read letter by letter, so the induction is on the name that it spells.
  induction name generalizing cs word with
  | nil =>
    cases word with
    | nil => simp [wordAhead?, Spells]
    | cons c word => simp [wordAhead?, Spells]
  | cons k name ih =>
    have hk : k.toNat < 128 := hn k (by simp)
    replace ih := @ih (fun j hj => hn j (by simp [hj]))
    cases cs with
    | nil => cases word <;> simp [wordAhead?, Spells]
    | cons c cs =>
      by_cases hc : isLetter k c = true
      · simp only [wordAhead?, hc, if_true, Option.map_eq_some_iff, Prod.exists, Prod.mk.injEq]
        constructor
        · intro h
          obtain ⟨w, r, hw, rfl, rfl⟩ := h
          obtain ⟨rfl, hs⟩ := ih.mp hw
          refine ⟨by simp, ?_⟩
          simp only [Spells, List.map_cons] at hs ⊢
          rw [(isLetter_iff hk).mp hc, hs]
        · intro h
          obtain ⟨he, hs⟩ := h
          cases word with
          | nil => simp [Spells] at hs
          | cons d word =>
            simp only [List.cons_append, List.cons.injEq] at he
            obtain ⟨rfl, rfl⟩ := he
            simp only [Spells, List.map_cons, List.cons.injEq] at hs
            exact ⟨word, rest, ih.mpr ⟨rfl, hs.2⟩, rfl, rfl⟩
      · simp only [wordAhead?, hc]
        simp only [Bool.false_eq_true, if_false, reduceCtorEq, false_iff, not_and]
        intro he hs
        cases word with
        | nil => simp [Spells] at hs
        | cons d word =>
          simp only [List.cons_append, List.cons.injEq] at he
          simp only [Spells, List.map_cons, List.cons.injEq] at hs
          exact hc ((isLetter_iff hk).mpr (he.1 ▸ hs.1))

/-- Of two words at the same place one begins the other, and so do the names that they spell. -/
theorem Spells.prefix_or {name other word word' rest rest' : List Char} (h : Spells name word)
    (h' : Spells other word') (he : word ++ rest = word' ++ rest') :
    name <+: other ∨ other <+: name := by
  rcases List.append_eq_append_iff.mp he with ⟨w, rfl, _⟩ | ⟨w, rfl, _⟩
  · left
    exact ⟨w.map plainLetter, by rw [← h, ← h', List.map_append]⟩
  · right
    exact ⟨w.map plainLetter, by rw [← h, ← h', List.map_append]⟩

/-- Names of ASCII of which none begins another one. -/
structure Apart (names : List String) : Prop where
  ascii : ∀ name ∈ names, IsAscii name.toList
  prefix_eq : ∀ name ∈ names, ∀ other ∈ names, name.toList <+: other.toList → name = other

theorem secretNames_apart : Apart secretNames := ⟨by decide, by decide⟩

theorem parameterNames_apart : Apart parameterNames := ⟨by decide, by decide⟩

theorem someAhead_eq_some_iff {names : List String} (ha : Apart names)
    {cs word rest : List Char} :
    someAhead? names cs = some (word, rest) ↔ cs = word ++ rest ∧ SpellsOne names word := by
  constructor
  · intro h
    obtain ⟨name, hm, hw⟩ := List.exists_of_findSome?_eq_some h
    obtain ⟨he, hs⟩ := (wordAhead_eq_some_iff (ha.ascii name hm)).mp hw
    exact ⟨he, name, hm, hs⟩
  · intro h
    obtain ⟨he, name, hm, hs⟩ := h
    have hw := (wordAhead_eq_some_iff (ha.ascii name hm)).mpr ⟨he, hs⟩
    cases hf : someAhead? names cs with
    | none =>
      have := List.findSome?_eq_none_iff.mp hf name hm
      rw [hw] at this
      simp at this
    | some found =>
      obtain ⟨word', rest'⟩ := found
      obtain ⟨other, ho, hw'⟩ := List.exists_of_findSome?_eq_some hf
      obtain ⟨he', hs'⟩ := (wordAhead_eq_some_iff (ha.ascii other ho)).mp hw'
      -- Both names stand at the same place, so one begins the other and they are the same.
      have same : name = other := by
        rcases hs.prefix_or hs' (he.symm.trans he') with hp | hp
        · exact ha.prefix_eq name hm other ho hp
        · exact (ha.prefix_eq other ho name hm hp).symm
      rw [← same, hw] at hw'
      exact hw'.symm

end NodeAgent.Redaction
