import NodeAgent.Proofs.Redaction.Characters
import NodeAgent.Proofs.Text.Run
/-!
The shape of a rule: what stands in front of a secret, and of which characters a secret is made.
A rule finds a secret exactly where such a text is followed by such a character, and then takes
as many of them as there are.

Main results: `bearerShape`, `namedShape` and `queryShape`, the shapes of the three rules, each by
the iff of what its rule finds (`bearerRule_eq_some_iff` and its siblings).
-/

namespace NodeAgent.Redaction

open Text (Stops takeWhile_run dropWhile_run mem_takeWhile takeWhile_ne_nil)

/-! ## Shapes -/

/-- The shape of a rule. `heads` are the texts that stay in front of a secret, given the character
before them; `hides` are the characters of secrets. -/
structure Shape (rule : Rule) where
  heads : Option Char → List Char → Prop
  hides : Char → Bool
  found_iff : ∀ {before cs found}, rule before cs = some found ↔
    ∃ rest, cs = found.kept ++ rest ∧ heads before found.kept ∧
      found.secret = rest.takeWhile hides ∧ found.secret ≠ []
  no_bracket : ∀ {before kept}, heads before kept → ∀ c ∈ kept, c ≠ '[' ∧ c ≠ ']'
  last_not_mem : ∀ {before kept}, heads before kept → ∃ front c, kept = front ++ [c] ∧ c ∉ mark
  no_overlap : ∀ {before before' kept kept' front back}, heads before kept → heads before' kept' →
    kept = front ++ back → front ≠ [] → ¬ kept' <+: back

theorem finding_eq_some_iff {kept secret : List Char} {found : Finding} :
    finding? kept secret = some found ↔
      found.kept = kept ∧ found.secret = secret ∧ found.secret ≠ [] := by
  obtain ⟨k, s⟩ := found
  unfold finding?
  by_cases hs : secret = []
  · simp only [hs, List.isEmpty_nil, if_true, reduceCtorEq, false_iff]
    intro h
    obtain ⟨_, rfl, hne⟩ := h
    exact hne rfl
  · simp only [List.isEmpty_iff, hs, if_false, Option.some.injEq, Finding.mk.injEq]
    constructor
    · intro h
      obtain ⟨rfl, rfl⟩ := h
      exact ⟨rfl, rfl, hs⟩
    · intro h
      obtain ⟨rfl, rfl, _⟩ := h
      exact ⟨rfl, rfl⟩

theorem not_blank_of_token {c : Char} (h : isTokenChar c = true) : Text.isBlank c = false := by
  cases hb : Text.isBlank c with
  | false => rfl
  | true => rw [(blank_kinds hb).2.1] at h; simp at h

/-! ## The word for a token -/

/-- The word `bearer` and blanks. -/
def BearerHead (kept : List Char) : Prop :=
  ∃ word blanks, kept = word ++ blanks ∧ Spells "bearer".toList word ∧ blanks ≠ [] ∧
    ∀ b ∈ blanks, Text.isBlank b = true

theorem bearerRule_eq_some_iff {before : Option Char} {cs : List Char} {found : Finding} :
    bearerRule before cs = some found ↔
      ∃ rest, cs = found.kept ++ rest ∧ BearerHead found.kept ∧
        found.secret = rest.takeWhile isTokenChar ∧ found.secret ≠ [] := by
  have ascii : IsAscii "bearer".toList := by decide
  constructor
  · intro h
    unfold bearerRule at h
    split at h
    · rename_i word rest hw
      obtain ⟨rfl, hs⟩ := (wordAhead_eq_some_iff ascii).mp hw
      simp only [List.isEmpty_iff] at h
      split at h
      · simp at h
      · rename_i hb
        obtain ⟨hk, hsec, hne⟩ := finding_eq_some_iff.mp h
        refine ⟨rest.dropWhile Text.isBlank, ?_, ⟨word, _, hk, hs, hb, ?_⟩, hsec, hne⟩
        · rw [hk, List.append_assoc, List.takeWhile_append_dropWhile]
        · exact fun b => mem_takeWhile
    · simp at h
  · intro h
    obtain ⟨rest, rfl, ⟨word, blanks, hk, hs, hb, hblank⟩, hsec, hne⟩ := h
    -- The blanks end where the secret begins.
    have hstop : Stops Text.isBlank rest := by
      obtain ⟨c, tail, rfl, hc⟩ := takeWhile_ne_nil (hsec ▸ hne)
      exact Stops.cons (not_blank_of_token hc)
    have hw : wordAhead? "bearer".toList (found.kept ++ rest) = some (word, blanks ++ rest) :=
      (wordAhead_eq_some_iff ascii).mpr ⟨by rw [hk, List.append_assoc], hs⟩
    unfold bearerRule
    rw [hw]
    simp only [takeWhile_run hblank hstop, dropWhile_run hblank hstop, List.isEmpty_iff, hb,
      if_false]
    exact finding_eq_some_iff.mpr ⟨hk, hsec, hne⟩

/-! ## The name of a secret -/

/-- The name of a secret, not in the middle of a word, and a sign with blanks around it. -/
def NamedHead (before : Option Char) (kept : List Char) : Prop :=
  Text.endsInWord before = false ∧
    ∃ name gap sign gap', kept = name ++ gap ++ sign :: gap' ∧ SpellsOne secretNames name ∧
      (∀ b ∈ gap, Text.isBlank b = true) ∧ (sign = ':' ∨ sign = '=') ∧
      ∀ b ∈ gap', Text.isBlank b = true

theorem not_blank_of_value {c : Char} (h : isValueChar c = true) : Text.isBlank c = false := by
  simp only [isValueChar, Bool.and_eq_true, Bool.not_eq_true'] at h
  exact h.1.1

theorem sign_kinds {sign : Char} (h : sign = ':' ∨ sign = '=') :
    Text.isBlank sign = false ∧ Text.isWord sign = false ∧ sign ∉ mark := by
  rcases h with rfl | rfl <;> decide

theorem namedRule_eq_some_iff {before : Option Char} {cs : List Char} {found : Finding} :
    namedRule before cs = some found ↔
      ∃ rest, cs = found.kept ++ rest ∧ NamedHead before found.kept ∧
        found.secret = rest.takeWhile isValueChar ∧ found.secret ≠ [] := by
  constructor
  · intro h
    unfold namedRule at h
    split at h
    · simp at h
    · rename_i hbefore
      split at h
      · rename_i name rest hw
        obtain ⟨rfl, hs⟩ := (someAhead_eq_some_iff secretNames_apart).mp hw
        split at h
        · simp at h
        · split at h
          · rename_i sign rest' hd
            split at h
            · rename_i hsign
              obtain ⟨hk, hsec, hne⟩ := finding_eq_some_iff.mp h
              refine ⟨rest'.dropWhile Text.isBlank, ?_, ⟨by simpa using hbefore, name, _, sign, _,
                hk, hs, fun b => mem_takeWhile, hsign, fun b => mem_takeWhile⟩, hsec, hne⟩
              rw [hk, List.append_assoc, List.append_assoc, List.cons_append,
                List.takeWhile_append_dropWhile, ← hd, List.takeWhile_append_dropWhile]
            · simp at h
          · simp at h
      · simp at h
  · intro h
    obtain ⟨rest, rfl, hh, hsec, hne⟩ := h
    obtain ⟨hbefore, name, gap, sign, gap', hk, hs, hgap, hsign, hgap'⟩ := hh
    have hstop : Stops Text.isBlank rest := by
      obtain ⟨c, tail, rfl, hc⟩ := takeWhile_ne_nil (hsec ▸ hne)
      exact Stops.cons (not_blank_of_value hc)
    obtain ⟨hblank, hword, _⟩ := sign_kinds hsign
    have hw : someAhead? secretNames (found.kept ++ rest) =
        some (name, gap ++ (sign :: (gap' ++ rest))) :=
      (someAhead_eq_some_iff secretNames_apart).mpr ⟨by rw [hk]; simp, hs⟩
    have hbound : Text.endsInWord (gap ++ (sign :: (gap' ++ rest))).head? = false := by
      cases gap with
      | nil => exact hword
      | cons b gap => exact (blank_kinds (hgap b (by simp))).1
    have hstop' : Stops Text.isBlank (sign :: (gap' ++ rest)) := Stops.cons hblank
    unfold namedRule
    rw [hw]
    simp only [hbefore, hbound, Bool.false_eq_true, if_false, takeWhile_run hgap hstop',
      dropWhile_run hgap hstop', hsign, if_true, takeWhile_run hgap' hstop,
      dropWhile_run hgap' hstop]
    exact finding_eq_some_iff.mpr ⟨hk, hsec, hne⟩

/-! ## The parameter of a query -/

/-- A question mark or an ampersand, the name of a parameter and an equals sign. -/
def QueryHead (kept : List Char) : Prop :=
  ∃ lead name, kept = lead :: name ++ ['='] ∧ (lead = '?' ∨ lead = '&') ∧
    SpellsOne parameterNames name

theorem queryRule_eq_some_iff {before : Option Char} {cs : List Char} {found : Finding} :
    queryRule before cs = some found ↔
      ∃ rest, cs = found.kept ++ rest ∧ QueryHead found.kept ∧
        found.secret = rest.takeWhile isParameterChar ∧ found.secret ≠ [] := by
  constructor
  · intro h
    unfold queryRule at h
    split at h
    · rename_i lead rest
      split at h
      · rename_i hlead
        split at h
        · rename_i name rest' hw
          obtain ⟨rfl, hs⟩ := (someAhead_eq_some_iff parameterNames_apart).mp hw
          obtain ⟨hk, hsec, hne⟩ := finding_eq_some_iff.mp h
          exact ⟨rest', by rw [hk]; simp, ⟨lead, name, hk, hlead, hs⟩, hsec, hne⟩
        · simp at h
      · simp at h
    · simp at h
  · intro h
    obtain ⟨rest, rfl, ⟨lead, name, hk, hlead, hs⟩, hsec, hne⟩ := h
    have hw : someAhead? parameterNames (name ++ '=' :: rest) = some (name, '=' :: rest) :=
      (someAhead_eq_some_iff parameterNames_apart).mpr ⟨rfl, hs⟩
    rw [hk]
    simp only [queryRule, List.cons_append, List.append_assoc, List.nil_append, hlead, if_true, hw]
    exact finding_eq_some_iff.mpr ⟨by simpa using hk, hsec, hne⟩

/-! ## The three shapes -/

theorem prefix_run {p : Char → Bool} {xs run rest : List Char} (hx : ∀ c ∈ xs, p c = true)
    (hs : Stops p rest) (h : xs <+: run ++ rest) : xs <+: run := by
  obtain ⟨ys, he⟩ := h
  rcases List.append_eq_append_iff.mp he with ⟨zs, rfl, _⟩ | ⟨zs, rfl, hz⟩
  · exact ⟨zs, rfl⟩
  · cases zs with
    | nil => simp
    | cons z zs =>
      subst hz
      have := hx z (by simp)
      rw [hs.head] at this
      simp at this

theorem IsNameChar.no_bracket {c : Char} (h : IsNameChar c) : c ≠ '[' ∧ c ≠ ']' := by
  have := h.not_delimiter
  simp at this
  exact ⟨this.1, this.2.1⟩

theorem no_bracket_of_not_mem_mark {c : Char} (h : c ∉ mark) : c ≠ '[' ∧ c ≠ ']' :=
  ⟨fun he => h (he ▸ by decide), fun he => h (he ▸ by decide)⟩

theorem not_nameChar_of_blank {c : Char} (h : Text.isBlank c = true) : ¬ IsNameChar c := by
  intro hn
  rw [hn.not_blank] at h
  simp at h

/-- Behind its first character the word for a token has no character that it begins with. -/
theorem Spells.bearer_first {word : List Char} (h : Spells "bearer".toList word) :
    ∃ c tail, word = c :: tail ∧ plainLetter c = 'b' ∧ ∀ d ∈ tail, plainLetter d ≠ 'b' := by
  cases word with
  | nil => simp [Spells] at h
  | cons c word =>
    have he : plainLetter c :: word.map plainLetter = 'b' :: "earer".toList := h
    obtain ⟨hc, hw⟩ := List.cons.inj he
    refine ⟨c, word, rfl, hc, fun d hd hdb => ?_⟩
    have hm : plainLetter d ∈ "earer".toList := hw ▸ List.mem_map_of_mem hd
    rw [hdb] at hm
    exact absurd hm (by decide)

theorem BearerHead.first {kept : List Char} (h : BearerHead kept) :
    ∃ c tail, kept = c :: tail ∧ plainLetter c = 'b' ∧ ∀ d ∈ tail, plainLetter d ≠ 'b' := by
  obtain ⟨word, blanks, rfl, hs, -, hb⟩ := h
  obtain ⟨c, word, rfl, hc, hw⟩ := hs.bearer_first
  refine ⟨c, word ++ blanks, rfl, hc, fun d hd hdb => ?_⟩
  rcases List.mem_append.mp hd with hd | hd
  · exact hw d hd hdb
  · exact not_nameChar_of_blank (hb d hd) (by rw [IsNameChar, hdb]; decide)

/-- Behind its first character the head of a parameter has none that it begins with. -/
theorem QueryHead.first {kept : List Char} (h : QueryHead kept) :
    ∃ c tail, kept = c :: tail ∧ (c = '?' ∨ c = '&') ∧ ∀ d ∈ tail, d ≠ '?' ∧ d ≠ '&' := by
  obtain ⟨lead, name, rfl, hl, hs⟩ := h
  refine ⟨lead, name ++ ['='], rfl, hl, ?_⟩
  intro d hd
  rcases List.mem_append.mp hd with hd | hd
  · have := (hs.nameChar parameterNames_letters hd).not_delimiter
    simp at this
    exact ⟨this.2.2.2.2.1, this.2.2.2.2.2⟩
  · simp at hd
    subst hd
    decide

/-- A text that begins with a character which the rest of another text lacks does not stand in
that rest. -/
theorem not_prefix_of_first {c : Char} {tail kept front back : List Char}
    (h : ∀ d ∈ kept.tail, d ≠ c) (he : kept = front ++ back) (hf : front ≠ []) :
    ¬ c :: tail <+: back := by
  intro h
  obtain ⟨rest, rfl⟩ := h
  cases front with
  | nil => exact hf rfl
  | cons d front =>
    subst he
    exact h c (by simp) rfl

def bearerShape : Shape bearerRule where
  heads _ := BearerHead
  hides := isTokenChar
  found_iff := bearerRule_eq_some_iff
  no_bracket := by
    intro _ _ h c hc
    obtain ⟨word, blanks, rfl, hs, -, hb⟩ := h
    rcases List.mem_append.mp hc with hc | hc
    · exact (hs.nameChar bearer_letters hc).no_bracket
    · exact no_bracket_of_not_mem_mark (blank_kinds (hb c hc)).2.2.1
  last_not_mem := by
    intro _ _ h
    obtain ⟨word, blanks, rfl, -, hne, hb⟩ := h
    have hl := List.dropLast_concat_getLast hne
    refine ⟨word ++ blanks.dropLast, blanks.getLast hne, by rw [List.append_assoc, hl], ?_⟩
    exact (blank_kinds (hb _ (List.getLast_mem hne))).2.2.1
  no_overlap := by
    intro _ _ kept kept' front back h h' he hf
    obtain ⟨c, tail, rfl, hc, -⟩ := h'.first
    obtain ⟨d, tail', hk, -, ht⟩ := h.first
    refine not_prefix_of_first ?_ he hf
    intro e hm heq
    rw [hk] at hm
    exact ht e hm (heq ▸ hc)

/-- No name of a secret stands in another one behind its first letter. -/
theorem secretNames_no_overlap : ∀ name ∈ secretNames, ∀ n < name.toList.length,
    ∀ other ∈ secretNames, ¬ other.toList <+: name.toList.drop (n + 1) := by
  decide

/-- A word that spells a secret's name stands in no other such word behind its first letter. -/
theorem SpellsOne.not_prefix {name name' front back : List Char} (h : SpellsOne secretNames name)
    (h' : SpellsOne secretNames name') (he : name = front ++ back) (hf : front ≠ []) :
    ¬ name' <+: back := by
  intro hp
  obtain ⟨rest, rfl⟩ := hp
  obtain ⟨known, hm, hs⟩ := h
  obtain ⟨other, hm', hs'⟩ := h'
  obtain ⟨c, front, rfl⟩ := List.exists_cons_of_ne_nil hf
  subst he
  have hk : known.toList = plainLetter c :: (front.map plainLetter ++
      (other.toList ++ rest.map plainLetter)) := by
    rw [← hs, ← hs']
    simp
  have hd : known.toList.drop ((front.map plainLetter).length + 1) =
      other.toList ++ rest.map plainLetter := by
    rw [hk, List.drop_succ_cons, List.drop_left]
  have hl : (front.map plainLetter).length < known.toList.length := by
    rw [hk, List.length_cons, List.length_append]
    omega
  exact secretNames_no_overlap known hm _ hl other hm' (hd ▸ List.prefix_append _ _)

theorem SpellsOne.ne_nil {word : List Char} (h : SpellsOne secretNames word) : word ≠ [] := by
  intro he
  subst he
  obtain ⟨name, hm, hs⟩ := h
  exact (show ∀ name ∈ secretNames, name.toList ≠ [] by decide) name hm hs.symm

theorem namedHead_first {before : Option Char} {c : Char} {kept : List Char}
    (h : NamedHead before (c :: kept)) : IsNameChar c := by
  obtain ⟨-, name, gap, sign, gap', he, hs, -⟩ := h
  obtain ⟨d, name, rfl⟩ := List.exists_cons_of_ne_nil hs.ne_nil
  obtain ⟨rfl, -⟩ := List.cons.inj he
  exact hs.nameChar secretNames_letters (by simp)

def namedShape : Shape namedRule where
  heads := NamedHead
  hides := isValueChar
  found_iff := namedRule_eq_some_iff
  no_bracket := by
    intro _ _ h c hc
    obtain ⟨-, name, gap, sign, gap', rfl, hs, hg, hsign, hg'⟩ := h
    simp only [List.mem_append, List.mem_cons] at hc
    rcases hc with (hc | hc) | rfl | hc
    · exact (hs.nameChar secretNames_letters hc).no_bracket
    · exact no_bracket_of_not_mem_mark (blank_kinds (hg c hc)).2.2.1
    · exact no_bracket_of_not_mem_mark (sign_kinds hsign).2.2
    · exact no_bracket_of_not_mem_mark (blank_kinds (hg' c hc)).2.2.1
  last_not_mem := by
    intro _ _ h
    obtain ⟨-, name, gap, sign, gap', rfl, -, -, hsign, hg'⟩ := h
    by_cases hne : gap' = []
    · exact ⟨name ++ gap, sign, by rw [hne], (sign_kinds hsign).2.2⟩
    · have hl := List.dropLast_concat_getLast hne
      refine ⟨name ++ gap ++ sign :: gap'.dropLast, gap'.getLast hne, by simp [hl], ?_⟩
      exact (blank_kinds (hg' _ (List.getLast_mem hne))).2.2.1
  no_overlap := by
    intro _ _ _ _ front back h h' he hf hp
    obtain ⟨-, name, gap, sign, gap', rfl, hs, hg, hsign, hg'⟩ := h
    obtain ⟨-, name', gap₁, sign₁, gap₁', rfl, hs', -⟩ := h'
    have hp' : name' <+: back :=
      (List.append_assoc name' .. ▸ List.prefix_append name' _).trans hp
    have names : ∀ c ∈ name', isNameLetter (plainLetter c) = true :=
      fun c => hs'.nameChar secretNames_letters
    -- What stands behind the name is made of blanks and a sign, which no name begins with.
    have others : ∀ c ∈ gap ++ sign :: gap', isNameLetter (plainLetter c) = false := by
      intro c hc
      rw [← Bool.not_eq_true]
      simp only [List.mem_append, List.mem_cons] at hc
      rcases hc with hc | rfl | hc
      · exact not_nameChar_of_blank (hg c hc)
      · rcases hsign with rfl | rfl <;> decide
      · exact not_nameChar_of_blank (hg' c hc)
    rw [List.append_assoc] at he
    rcases List.append_eq_append_iff.mp he with ⟨zs, rfl, hz⟩ | ⟨zs, rfl, rfl⟩
    · obtain ⟨c, hc⟩ := List.exists_mem_of_ne_nil name' hs'.ne_nil
      have hm : c ∈ gap ++ sign :: gap' := hz ▸ List.mem_append_right zs (hp'.mem hc)
      have := others c hm
      rw [names c hc] at this
      simp at this
    · have hstop : Stops (fun c => isNameLetter (plainLetter c)) (gap ++ sign :: gap') :=
        fun c hc => others c (List.mem_of_mem_head? hc)
      exact hs.not_prefix hs' rfl hf (prefix_run names hstop hp')

def queryShape : Shape queryRule where
  heads _ := QueryHead
  hides := isParameterChar
  found_iff := queryRule_eq_some_iff
  no_bracket := by
    intro _ _ h c hc
    obtain ⟨lead, name, rfl, hl, hs⟩ := h
    simp only [List.mem_append, List.mem_cons, List.cons_append, List.not_mem_nil, or_false] at hc
    rcases hc with rfl | hc | rfl
    · rcases hl with rfl | rfl <;> decide
    · exact (hs.nameChar parameterNames_letters hc).no_bracket
    · decide
  last_not_mem := by
    intro _ _ h
    obtain ⟨lead, name, rfl, -, -⟩ := h
    exact ⟨lead :: name, '=', rfl, by decide⟩
  no_overlap := by
    intro _ _ kept kept' front back h h' he hf
    obtain ⟨c, tail, rfl, hc, -⟩ := h'.first
    obtain ⟨d, tail', hk, -, ht⟩ := h.first
    refine not_prefix_of_first ?_ he hf
    intro e hm he
    subst he
    rw [hk] at hm
    obtain ⟨hq, ha⟩ := ht e hm
    exact hc.elim hq ha

end NodeAgent.Redaction
