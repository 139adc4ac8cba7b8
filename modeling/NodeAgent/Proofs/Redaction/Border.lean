import NodeAgent.Proofs.Redaction.Reach
/-!
Where the rules cannot reach over a border, and which texts they leave alone. A head of a rule
begins with a character of its own; and behind a text that does not end in a word no name goes on,
since the names of secrets have no hyphen in front of such a letter.

Main results: `Shape.meets_of_no_over`, when a pass meets a border; `bearer_meets`, `named_meets`
and `query_meets`, that the rules do; `Shape.pass_lacking`, texts in which a rule finds nothing.
-/

namespace NodeAgent.Redaction

/-! ## Characters that no head begins with -/

theorem Shape.none_of_first {rule : Rule} (s : Shape rule) {before : Option Char} {c : Char}
    {cs : List Char} (h : ∀ kept, ¬ s.heads before (c :: kept)) : rule before (c :: cs) = none := by
  cases hf : rule before (c :: cs) with
  | none => rfl
  | some found =>
    obtain ⟨rest, he, hh, -⟩ := s.found_iff.mp hf
    obtain ⟨d, kept, hk⟩ := List.exists_cons_of_ne_nil (s.heads_ne_nil hh)
    rw [hk] at he hh
    obtain ⟨rfl, -⟩ := List.cons.inj he
    exact absurd hh (h kept)

theorem bearerRule_none {before : Option Char} {c : Char} {cs : List Char}
    (h : plainLetter c ≠ 'b') : bearerRule before (c :: cs) = none := by
  refine bearerShape.none_of_first fun kept hh => ?_
  obtain ⟨d, tail, he, hd, -⟩ := BearerHead.first hh
  obtain ⟨rfl, -⟩ := List.cons.inj he
  exact h hd

theorem namedRule_none {before : Option Char} {c : Char} {cs : List Char} (h : ¬ IsNameChar c) :
    namedRule before (c :: cs) = none :=
  namedShape.none_of_first fun _ hh => h (namedHead_first hh)

theorem queryRule_none {before : Option Char} {c : Char} {cs : List Char}
    (h : c ≠ '?' ∧ c ≠ '&') : queryRule before (c :: cs) = none := by
  refine queryShape.none_of_first fun kept hh => ?_
  obtain ⟨d, tail, he, hd, -⟩ := QueryHead.first hh
  obtain ⟨rfl, -⟩ := List.cons.inj he
  exact hd.elim h.1 h.2

/-- A pass keeps a text of which no character begins a finding. -/
theorem pass_chars {rule : Rule} {before : Option Char} {xs ys : List Char}
    (h : ∀ x ∈ xs, ∀ before' cs, rule before' (x :: cs) = none) :
    pass rule before 0 (xs ++ ys) = xs ++ pass rule (lastOf before xs) 0 ys := by
  refine pass_quiet fun front back he hb => ?_
  obtain ⟨x, back, rfl⟩ := List.exists_cons_of_ne_nil hb
  exact h x (he ▸ by simp) _ _

theorem Shape.pass_mark {rule : Rule} (s : Shape rule) (before : Option Char) (ys : List Char) :
    pass rule before 0 (mark ++ ys) = mark ++ pass rule (lastOf before mark) 0 ys :=
  pass_quiet fun _ _ he hb => s.none_in_mark he hb _ _

/-! ## Borders -/

/-- A text that goes over the border into another one, as part of a word and what is not of the
word, does so inside the word. -/
theorem word_over {word others back zs : List Char} {c : Char}
    (h : word ++ others = back ++ c :: zs) (hc : c ∉ others) :
    ∃ ws, word = back ++ c :: ws := by
  rcases List.append_eq_append_iff.mp h with ⟨as, -, ho⟩ | ⟨ws, hw, hz⟩
  · exact absurd (ho ▸ by simp) hc
  · cases ws with
    | nil =>
      have hm : c ∈ others := by
        rw [show others = c :: zs from hz.symm]
        exact List.mem_cons_self
      exact absurd hm hc
    | cons d ws =>
      obtain ⟨rfl, -⟩ := List.cons.inj hz
      exact ⟨ws, hw⟩

/-- A head that stands neither in the text before the border nor behind it lies over it. -/
theorem over_border {kept back ys : List Char} {c : Char} (h : kept <+: back ++ c :: ys)
    (hn : ¬ kept <+: back) : ∃ zs, kept = back ++ c :: zs := by
  obtain ⟨rest, he⟩ := h
  rcases List.append_eq_append_iff.mp he with ⟨zs, hb, -⟩ | ⟨zs, hk, hz⟩
  · exact absurd ⟨zs, hb.symm⟩ hn
  · cases zs with
    | nil => exact absurd ⟨[], by simpa using hk⟩ hn
    | cons d zs =>
      obtain ⟨rfl, -⟩ := List.cons.inj hz
      exact ⟨zs, hk⟩

theorem exists_last {xs : List Char} (h : xs ≠ []) : ∃ init b, xs = init ++ [b] :=
  ⟨xs.dropLast, xs.getLast h, (List.dropLast_concat_getLast h).symm⟩

/-- No head lies across a border if none that begins before it holds the character behind it. -/
theorem Shape.parted_of_no_over {rule : Rule} (s : Shape rule) {xs ys : List Char} {c : Char}
    (h : ∀ front back before zs, xs = front ++ back → back ≠ [] →
      ¬ s.heads before (back ++ c :: zs)) :
    s.Parted xs (c :: ys) := by
  intro front back before kept he hb hh hp
  apply Classical.byContradiction
  intro hn
  obtain ⟨zs, hk⟩ := over_border hp hn
  rw [hk] at hh
  exact h front back before zs he hb hh

/-- Two texts meet where no head that begins in the first one holds the character behind it. -/
theorem Shape.meets_of_no_over {rule : Rule} (s : Shape rule) {xs ys : List Char} {c : Char}
    (hc : s.hides c = true)
    (h : ∀ front back before zs, xs = front ++ back → back ≠ [] →
      ¬ s.heads before (back ++ c :: zs)) :
    s.Meets xs (c :: ys) :=
  ⟨⟨c, ys, rfl, hc⟩, s.parted_of_no_over h⟩

/-- A pass keeps a text that no head lies across the end of, and that lacks a character of each
head. -/
theorem Shape.pass_lacking {rule : Rule} (s : Shape rule) {xs ys : List Char}
    (hp : s.Parted xs ys) (hx : ∀ before kept, s.heads before kept → ∃ c ∈ kept, c ∉ xs)
    (before : Option Char) :
    pass rule before 0 (xs ++ ys) = xs ++ pass rule (lastOf before xs) 0 ys := by
  refine pass_quiet fun front back he hb => ?_
  cases hf : rule (lastOf before front) (back ++ ys) with
  | none => rfl
  | some found =>
    obtain ⟨rest, hr, hh, -⟩ := s.found_iff.mp hf
    obtain ⟨c, hc, hcx⟩ := hx _ _ hh
    have hback : found.kept <+: back := hp front back _ _ he hb hh ⟨rest, hr.symm⟩
    exact absurd (he ▸ List.mem_append_right front (hback.mem hc)) hcx

/-- A text that does not end in a word has no word character at its end. -/
theorem not_word_at_end {xs front init : List Char} {b : Char}
    (hx : Text.endsInWord xs.getLast? = false) (he : xs = front ++ (init ++ [b])) :
    Text.isWord b = false := by
  rw [he, ← List.append_assoc, List.getLast?_concat] at hx
  exact hx

/-- No name of a secret has a hyphen in front of a letter that another one begins with. -/
theorem secretNames_hyphen : ∀ name ∈ secretNames, ∀ n < name.toList.length,
    name.toList[n]? = some '-' → name.toList[n + 1]? = some 'k' := by
  decide

/-- Inside the name of a secret, in front of a letter other than a `k`, stands a word character. -/
theorem SpellsOne.word_before {back ws : List Char} {b c : Char}
    (h : SpellsOne secretNames (back ++ b :: c :: ws)) (hc : plainLetter c ≠ 'k') :
    Text.isWord b = true := by
  refine (h.nameChar secretNames_letters (by simp)).word ?_
  intro hb
  obtain ⟨name, hm, hs⟩ := h
  have hname : name.toList =
      back.map plainLetter ++ '-' :: plainLetter c :: ws.map plainLetter := by
    rw [← hs, hb]
    simp [show plainLetter '-' = '-' by decide]
  have hk := secretNames_hyphen name hm (back.map plainLetter).length
    (by rw [hname]; simp) (by rw [hname]; simp)
  rw [hname, List.getElem?_append_right (by simp)] at hk
  simp at hk
  exact hc hk

/-- The word for a token does not go on behind a text that does not end in a word. -/
theorem bearer_meets {xs ys : List Char} {c : Char} (hx : Text.endsInWord xs.getLast? = false)
    (hc : IsNameChar c) : bearerShape.Meets xs (c :: ys) := by
  apply bearerShape.meets_of_no_over hc.token
  intro front back before zs he hb hh
  obtain ⟨word, blanks, hk, hs, -, hblank⟩ := hh
  -- The letter is no blank, so the border lies in the word, behind one of its letters.
  obtain ⟨ws, hw⟩ := word_over hk.symm fun hm => not_nameChar_of_blank (hblank c hm) hc
  obtain ⟨init, b, rfl⟩ := exists_last hb
  have hm : b ∈ word := by
    rw [hw]
    simp
  have hyphen : b ≠ '-' := by
    intro hb
    have hletter : plainLetter b ∈ "bearer".toList := hs ▸ List.mem_map_of_mem hm
    rw [hb] at hletter
    exact absurd hletter (by decide)
  have hword : Text.isWord b = true := (hs.nameChar bearer_letters hm).word hyphen
  rw [not_word_at_end hx he] at hword
  simp at hword

/-- The name of a secret does not go on behind a text that does not end in a word, with a letter
that such a name begins with. -/
theorem named_meets {xs ys : List Char} {c : Char} (hx : Text.endsInWord xs.getLast? = false)
    (hc : IsNameChar c) (hk : plainLetter c ≠ 'k') : namedShape.Meets xs (c :: ys) := by
  apply namedShape.meets_of_no_over hc.value
  intro front back before zs he hb hh
  obtain ⟨-, name, gap, sign, gap', hz, hs, hg, hsign, hg'⟩ := hh
  have hout : c ∉ gap ++ sign :: gap' := by
    intro hm
    simp only [List.mem_append, List.mem_cons] at hm
    rcases hm with hm | rfl | hm
    · exact not_nameChar_of_blank (hg c hm) hc
    · exact hc.not_delimiter (by rcases hsign with rfl | rfl <;> decide)
    · exact not_nameChar_of_blank (hg' c hm) hc
  rw [List.append_assoc] at hz
  obtain ⟨ws, hw⟩ := word_over hz.symm hout
  obtain ⟨init, b, rfl⟩ := exists_last hb
  rw [List.append_assoc] at hw
  have hword : Text.isWord b = true := SpellsOne.word_before (hw ▸ hs) hk
  rw [not_word_at_end hx he] at hword
  simp at hword

/-- No name of a secret goes on into a mark. -/
theorem named_meets_mark (xs ys : List Char) : namedShape.Meets xs (mark ++ ys) := by
  have meets : ∀ tail, namedShape.Meets xs ('[' :: tail) := by
    intro tail
    apply namedShape.meets_of_no_over (by decide)
    intro front back before zs _ _ hh
    exact absurd rfl (namedShape.no_bracket hh '[' (by simp)).1
  exact meets _

theorem not_nameChar_of_blank_or_sign {c : Char}
    (h : Text.isBlank c = true ∨ c = ':' ∨ c = '=') : ¬ IsNameChar c := by
  intro hn
  rcases h with h | rfl | rfl
  · exact not_nameChar_of_blank h hn
  · exact hn.not_delimiter (by decide)
  · exact hn.not_delimiter (by decide)

/-- The head of a parameter does not go on behind a blank or a sign. -/
theorem query_meets {xs ys : List Char} {b c : Char}
    (hb : Text.isBlank b = true ∨ b = ':' ∨ b = '=') (hc : isParameterChar c = true) :
    queryShape.Meets (xs ++ [b]) (c :: ys) := by
  apply queryShape.meets_of_no_over hc
  intro front back before zs he hne hh
  obtain ⟨lead, name, hz, hl, hs⟩ := hh
  obtain ⟨init, d, rfl⟩ := exists_last hne
  rw [← List.append_assoc] at he
  obtain ⟨-, hd⟩ := List.append_inj' he rfl
  obtain ⟨rfl, -⟩ := List.cons.inj hd
  -- The blank or sign would stand in the head before its last character.
  have hm : b ∈ lead :: name := by
    have hlast := congrArg List.dropLast hz
    rw [List.dropLast_concat, List.dropLast_append_cons] at hlast
    rw [← hlast]
    simp
  rcases List.mem_cons.mp hm with rfl | hm
  · rcases hl with rfl | rfl <;> revert hb <;> decide
  · exact not_nameChar_of_blank_or_sign hb (hs.nameChar parameterNames_letters hm)

end NodeAgent.Redaction
