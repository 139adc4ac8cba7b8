import NodeAgent.Proofs.Redaction.Border
/-!
Pairs of a secret's name and a value, and what each pass does with one when nothing before it
reaches over the border: the pass for tokens leaves it alone, the pass for names hides the value,
and a value without its name stays.

Main results: `pass_bearer_value`, `pass_named_pair`, `pass_named_value` and `pass_query_value`,
what each pass does with a pair or with a value that has lost its name.
-/

namespace NodeAgent.Redaction

open Text (Stops)

/-- The characters of separators: blanks and signs. -/
def isSeparatorChar (c : Char) : Bool := Text.isBlank c || c = ':' || c = '='

/-- A separator: a colon or an equals sign, with blanks around it. -/
def IsSeparator (sep : List Char) : Prop :=
  ∃ gap sign gap', sep = gap ++ sign :: gap' ∧ (∀ b ∈ gap, Text.isBlank b = true) ∧
    (sign = ':' ∨ sign = '=') ∧ ∀ b ∈ gap', Text.isBlank b = true

/-- A value of letters and digits in which the word for a token does not stand, in any case. -/
structure PlainValue (value : List Char) : Prop where
  nonempty : value ≠ []
  alphanum : ∀ c ∈ value, c.isAlphanum = true
  no_bearer : ¬ "bearer".toList <:+: value.map plainLetter

/-- The surroundings of a value: its name behind a text that does not end in a word, a separator,
and behind the value an end, a blank, a comma or a semicolon. -/
structure Pair (before name sep after : List Char) : Prop where
  boundary : Text.endsInWord before.getLast? = false
  spelled : SpellsOne secretNames name
  separator : IsSeparator sep
  ends : ∀ c ∈ after.head?, Text.isBlank c = true ∨ c = ',' ∨ c = ';'

/-! ## Characters -/

theorem separatorChar_cases {c : Char} (h : isSeparatorChar c = true) :
    Text.isBlank c = true ∨ c = ':' ∨ c = '=' := by
  simp only [isSeparatorChar, Bool.or_eq_true, decide_eq_true_eq] at h
  rw [← or_assoc]
  exact h

theorem separatorChar_not_name {c : Char} (h : isSeparatorChar c = true) : ¬ IsNameChar c :=
  not_nameChar_of_blank_or_sign (separatorChar_cases h)

theorem blank_not_lead {c : Char} (h : Text.isBlank c = true) : c ≠ '?' ∧ c ≠ '&' := by
  refine ⟨?_, ?_⟩
  · intro he
    rw [he] at h
    exact absurd h (by decide)
  · intro he
    rw [he] at h
    exact absurd h (by decide)

theorem separatorChar_not_lead {c : Char} (h : isSeparatorChar c = true) :
    c ≠ '?' ∧ c ≠ '&' := by
  rcases separatorChar_cases h with h | rfl | rfl
  · exact blank_not_lead h
  · decide
  · decide

theorem not_b_of_not_name {c : Char} (h : ¬ IsNameChar c) : plainLetter c ≠ 'b' := by
  intro hb
  apply h
  rw [IsNameChar, hb]
  decide

namespace IsSeparator

theorem chars {sep : List Char} (h : IsSeparator sep) : ∀ c ∈ sep, isSeparatorChar c = true := by
  obtain ⟨gap, sign, gap', rfl, hg, hsign, hg'⟩ := h
  intro c hc
  simp only [List.mem_append, List.mem_cons] at hc
  rcases hc with hc | rfl | hc
  · rw [isSeparatorChar, hg c hc]
    rfl
  · rcases hsign with rfl | rfl <;> decide
  · rw [isSeparatorChar, hg' c hc]
    rfl

end IsSeparator

theorem SpellsOne.not_b {name : List Char} (h : SpellsOne secretNames name) :
    ∀ c ∈ name, plainLetter c ≠ 'b' := by
  intro c hc hb
  obtain ⟨known, hm, hs⟩ := h
  have hk : plainLetter c ∈ known.toList := hs ▸ List.mem_map_of_mem hc
  rw [hb] at hk
  exact (show ∀ known ∈ secretNames, 'b' ∉ known.toList by decide) known hm hk

/-- The name of a secret begins with a letter that may follow no hyphen of another one. -/
theorem SpellsOne.first {name : List Char} (h : SpellsOne secretNames name) :
    ∃ c tail, name = c :: tail ∧ IsNameChar c ∧ plainLetter c ≠ 'k' := by
  obtain ⟨c, tail, rfl⟩ := List.exists_cons_of_ne_nil h.ne_nil
  refine ⟨c, tail, rfl, h.nameChar secretNames_letters (by simp), ?_⟩
  obtain ⟨known, hm, hs⟩ := h
  intro hc
  have hhead : known.toList.head? = some 'k' := by
    rw [← hs, ← hc]
    rfl
  exact (show ∀ known ∈ secretNames, known.toList.head? ≠ some 'k' by decide) known hm hhead

/-- What follows a value is of none of the kinds that go on behind it. -/
theorem Pair.stops {before name sep after : List Char} (h : Pair before name sep after) :
    Stops isValueChar after := by
  intro c hc
  rcases h.ends c hc with hb | rfl | rfl
  · simp [isValueChar, hb]
  · decide
  · decide

theorem Pair.token_stops {before name sep after : List Char} (h : Pair before name sep after) :
    Stops isTokenChar after := by
  intro c hc
  rcases h.ends c hc with hb | rfl | rfl
  · exact (blank_kinds hb).2.1
  · decide
  · decide

section

variable {cs : List Char}

theorem stops_alphanum (h : Stops isValueChar cs) : Stops Char.isAlphanum cs := by
  intro c hc
  rw [← Bool.not_eq_true]
  intro ha
  have := h c hc
  rw [(alphanum_kinds ha).2.1] at this
  simp at this

theorem stops_name (h : Stops isValueChar cs) : Stops (fun c => isNameLetter (plainLetter c)) cs := by
  intro c hc
  rw [← Bool.not_eq_true]
  intro hn
  have := h c hc
  rw [IsNameChar.value hn] at this
  simp at this

/-- A pass begins as its text does. -/
theorem stops_pass {rule : Rule} (s : Shape rule) {p : Char → Bool} (before : Option Char)
    (h : Stops p cs) : Stops p (pass rule before 0 cs) := by
  intro c hc
  rw [s.head_pass] at hc
  exact h c hc

/-- A pass keeps a text without a head in it, with something behind it of which the text is not
continued. Where a head goes over its end, the mark comes behind the head. -/
theorem Shape.pass_front {rule : Rule} (s : Shape rule) {p : Char → Bool} {xs ys : List Char}
    (hy : Stops p ys)
    (hx : ∀ front back before kept, xs = front ++ back → s.heads before kept → ¬ kept <+: back)
    (before : Option Char) :
    ∃ rest, Stops p rest ∧ pass rule before 0 (xs ++ ys) = xs ++ rest := by
  induction xs generalizing before with
  | nil => exact ⟨pass rule before 0 ys, stops_pass s before hy, rfl⟩
  | cons x xs ih =>
    cases hf : rule before (x :: (xs ++ ys)) with
    | none =>
      have inside : ∀ front back before kept, xs = front ++ back → s.heads before kept →
          ¬ kept <+: back :=
        fun front back before kept he => hx (x :: front) back before kept (by rw [he]; rfl)
      obtain ⟨rest, hrest, hpass⟩ := ih inside (some x)
      refine ⟨rest, hrest, ?_⟩
      rw [List.cons_append, pass_keep hf, hpass]
      rfl
    | some found =>
      obtain ⟨rest, he, hh, hne, hrun, hstop⟩ := s.found hf
      have hnot : ¬ found.kept <+: x :: xs := hx [] (x :: xs) before found.kept rfl hh
      rw [← List.cons_append] at he
      rcases List.append_eq_append_iff.mp he with ⟨zs, hz, hrest⟩ | ⟨zs, hz, -⟩
      · refine ⟨zs ++ mark ++ pass rule (lastOf before (found.kept ++ found.secret)) 0 rest, ?_, ?_⟩
        · cases zs with
          | nil => exact absurd ⟨[], by rw [hz, List.append_nil, List.append_nil]⟩ hnot
          | cons z zs =>
            rw [hrest] at hy
            exact Stops.cons hy.head
        · rw [he, s.pass_found hh hne hrun hstop, hz]
          simp only [List.append_assoc]
      · exact absurd ⟨zs, hz.symm⟩ hnot

end

/-! ## The pass for tokens -/

/-- The pass for tokens does not depend on the character before a text. -/
theorem bearer_rebase (before before' : Option Char) (cs : List Char) :
    pass bearerRule before 0 cs = pass bearerRule before' 0 cs :=
  pass_rebase rfl

/-- No token stands behind a word that is part of a plain value. -/
theorem bearerRule_none_in_value {before : Option Char} {front back after : List Char}
    (hv : PlainValue (front ++ back)) (ha : Stops isValueChar after) :
    bearerRule before (back ++ after) = none := by
  cases hf : bearerRule before (back ++ after) with
  | none => rfl
  | some found =>
    exfalso
    obtain ⟨rest, he, ⟨word, blanks, hk, hs, -, -⟩, -, -⟩ := bearerRule_eq_some_iff.mp hf
    have hp : word <+: back ++ after := by
      rw [he, hk, List.append_assoc]
      exact List.prefix_append _ _
    have hword : word <+: back :=
      prefix_run (fun c hc => hs.nameChar bearer_letters hc) (stops_name ha) hp
    have hinfix : word <:+: front ++ back :=
      hword.isInfix.trans (List.suffix_append front back).isInfix
    have hplain : word.map plainLetter <:+: (front ++ back).map plainLetter :=
      hinfix.map plainLetter
    rw [hs] at hplain
    exact hv.no_bearer hplain

/-- The pass for tokens leaves a plain value alone, behind a text without the letter that the word
for a token begins with. -/
theorem pass_bearer_value (before : Option Char) {front value after : List Char}
    (hf : ∀ c ∈ front, plainLetter c ≠ 'b') (hv : PlainValue value)
    (ha : Stops isValueChar after) :
    pass bearerRule before 0 (front ++ (value ++ after)) =
      front ++ (value ++ pass bearerRule none 0 after) := by
  have hvalue : pass bearerRule (lastOf before front) 0 (value ++ after) =
      value ++ pass bearerRule (lastOf (lastOf before front) value) 0 after := by
    refine pass_quiet fun head back he hb => ?_
    rw [he] at hv
    exact bearerRule_none_in_value hv ha
  rw [pass_chars fun c hc _ _ => bearerRule_none (hf c hc), hvalue, bearer_rebase _ none]

/-! ## The pass for names -/

/-- Behind a text that ends in a word, no name of a secret begins. -/
theorem namedRule_none_of_word {before : Option Char} {cs : List Char}
    (h : Text.endsInWord before = true) : namedRule before cs = none := by
  unfold namedRule
  rw [if_pos h]

theorem named_rebase_of_end {before : Option Char} (before' : Option Char) {cs : List Char}
    (h : Text.endsInWord before = Text.endsInWord before') :
    pass namedRule before 0 cs = pass namedRule before' 0 cs :=
  pass_rebase (by simp only [namedRule, h])

theorem named_rebase_of_head {before : Option Char} (before' : Option Char) {cs : List Char}
    (h : ∀ c ∈ cs.head?, ¬ IsNameChar c) :
    pass namedRule before 0 cs = pass namedRule before' 0 cs := by
  cases cs with
  | nil => rfl
  | cons c cs => exact pass_rebase (by rw [namedRule_none (h c rfl), namedRule_none (h c rfl)])

theorem named_rebase {before : Option Char} (before' : Option Char) {cs : List Char}
    (h : Stops isValueChar cs) : pass namedRule before 0 cs = pass namedRule before' 0 cs := by
  refine named_rebase_of_head _ fun c hc hn => ?_
  have := h c hc
  rw [hn.value] at this
  simp at this

/-- The pass for names hides the value of a pair. -/
theorem pass_named_pair {before : Option Char} {name sep value after : List Char}
    (hb : Text.endsInWord before = false) (hn : SpellsOne secretNames name)
    (hsep : IsSeparator sep) (hv : PlainValue value) (ha : Stops isValueChar after) :
    pass namedRule before 0 (name ++ sep ++ (value ++ after)) =
      name ++ sep ++ mark ++ pass namedRule none 0 after := by
  obtain ⟨gap, sign, gap', rfl, hg, hsign, hg'⟩ := hsep
  have hh : namedShape.heads before (name ++ (gap ++ sign :: gap')) := by
    refine ⟨hb, name, gap, sign, gap', ?_, hn, hg, hsign, hg'⟩
    rw [List.append_assoc]
  have hvalue : ∀ c ∈ value, isValueChar c = true :=
    fun c hc => (alphanum_kinds (hv.alphanum c hc)).2.1
  rw [namedShape.pass_found hh hv.nonempty hvalue ha, named_rebase _ ha]

/-- The pass for names keeps a value that has no name before it, even where it is a name itself. -/
theorem pass_named_value (before : Option Char) {value after : List Char}
    (hv : ∀ c ∈ value, c.isAlphanum = true) (ha : Stops isValueChar after) :
    ∃ rest, Stops Char.isAlphanum rest ∧
      pass namedRule before 0 (value ++ after) = value ++ rest := by
  refine namedShape.pass_front (stops_alphanum ha) ?_ before
  intro front back before' kept he hh hk
  -- A head inside the value would have its sign there.
  obtain ⟨-, name, gap, sign, gap', rfl, -, -, hsign, -⟩ := hh
  have hm : sign ∈ value := he ▸ List.mem_append_right front (hk.mem (by simp))
  have hsa := hv sign hm
  rcases hsign with rfl | rfl <;> exact absurd hsa (by decide)

/-! ## The pass for parameters -/

/-- The pass for parameters keeps a value that does not stand behind a parameter. -/
theorem pass_query_value (before : Option Char) {value after : List Char}
    (hv : ∀ c ∈ value, c.isAlphanum = true) (ha : Stops Char.isAlphanum after) :
    ∃ rest, Stops Char.isAlphanum rest ∧
      pass queryRule before 0 (value ++ after) = value ++ rest := by
  refine ⟨_, stops_pass queryShape _ ha, pass_chars fun c hc _ _ => queryRule_none ?_⟩
  exact (alphanum_kinds (hv c hc)).2.2.2.2

/-- The end of a text that does not hold one of its characters lies behind it. -/
theorem suffix_behind {xs front tail : List Char} {b : Char} (h : xs <:+ front ++ b :: tail)
    (hb : b ∉ xs) : xs <:+ tail := by
  obtain ⟨ys, he⟩ := h
  rcases List.append_eq_append_iff.mp he with ⟨zs, -, hz⟩ | ⟨zs, -, hz⟩
  · exact absurd (by rw [hz]; simp) hb
  · cases zs with
    | nil => exact absurd (by rw [← show b :: tail = xs from hz]; simp) hb
    | cons z zs => exact ⟨zs, (List.cons.inj hz).2.symm⟩

/-- A text behind which no parameter is open: it ends in a blank or a sign, and behind one of its
blanks stands no character that a parameter begins with. -/
def NoParameter (cs : List Char) : Prop :=
  (∃ front d, cs = front ++ [d] ∧ isSeparatorChar d = true) ∧
    ∃ front b tail, cs = front ++ b :: tail ∧ Text.isBlank b = true ∧
      ∀ c ∈ tail, c ≠ '?' ∧ c ≠ '&'

theorem noParameter_of_blank (front : List Char) {tail : List Char} {b : Char}
    (hb : Text.isBlank b = true)
    (hlead : ∀ c ∈ tail, c ≠ '?' ∧ c ≠ '&')
    (hlast : ∀ d ∈ tail.getLast?, isSeparatorChar d = true) :
    NoParameter (front ++ b :: tail) := by
  refine ⟨?_, front, b, tail, rfl, hb, hlead⟩
  by_cases hne : tail = []
  · refine ⟨front, b, by rw [hne], ?_⟩
    rw [isSeparatorChar, hb]
    rfl
  · obtain ⟨init, d, rfl⟩ := exists_last hne
    refine ⟨front ++ b :: init, d, by simp, hlast d ?_⟩
    rw [List.getLast?_concat]
    rfl

/-- Behind such a text the pass for parameters keeps every value. -/
theorem pass_query_behind {cs : List Char} (h : NoParameter cs) :
    ∃ out, ∀ value after, PlainValue value → Stops Char.isAlphanum after →
      ∃ rest, Stops Char.isAlphanum rest ∧
        pass queryRule none 0 (cs ++ (value ++ after)) = out ++ (value ++ rest) := by
  obtain ⟨⟨init, d, hd, hsep⟩, front, b, tail, hb, hblank, htail⟩ := h
  have meets : ∀ value after, PlainValue value → queryShape.Meets cs (value ++ after) := by
    intro value after hv
    obtain ⟨c, value, rfl⟩ := List.exists_cons_of_ne_nil hv.nonempty
    rw [hd]
    exact query_meets (separatorChar_cases hsep) (alphanum_kinds (hv.alphanum c (by simp))).2.2.1
  rcases queryShape.pass_border none cs with ⟨-, hleft⟩ | ⟨front', before', kept, run, -, he, hh,
    hrun, -⟩
  · refine ⟨pass queryRule none 0 cs, fun value after hv ha => ?_⟩
    obtain ⟨rest, hrest, hq⟩ := pass_query_value (lastOf none cs) hv.alphanum ha
    refine ⟨rest, hrest, ?_⟩
    rw [hleft _ (meets value after hv), hq]
  · -- A parameter that is open would stand behind the blank, with its first character.
    exfalso
    obtain ⟨lead, name, rfl, hl, hs⟩ := id hh
    have hout : b ∉ lead :: name ++ ['='] ++ run := by
      intro hm
      simp only [List.cons_append, List.mem_cons, List.mem_append, List.not_mem_nil, or_false]
        at hm
      rcases hm with rfl | (hm | rfl) | hm
      · exact hl.elim (blank_not_lead hblank).1 (blank_not_lead hblank).2
      · exact not_nameChar_of_blank hblank (hs.nameChar parameterNames_letters hm)
      · exact absurd hblank (by decide)
      · have hp : isParameterChar b = true := hrun b hm
        rw [isParameterChar, hblank] at hp
        simp at hp
    have hsuffix : lead :: name ++ ['='] ++ run <:+ front ++ b :: tail := by
      rw [← hb, he]
      exact List.suffix_append _ _
    have hm : lead ∈ tail := (suffix_behind hsuffix hout).mem (by simp)
    exact hl.elim (htail lead hm).1 (htail lead hm).2

end NodeAgent.Redaction
