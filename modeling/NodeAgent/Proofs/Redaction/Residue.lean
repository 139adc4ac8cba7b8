import NodeAgent.Proofs.Redaction.Pass
/-!
What redaction leaves: a redacted text has no bearer token, behind each name of a secret stands a
mark, and each secret parameter of a query has a mark for its value. A pass settles what its own
rule finds, and no later pass unsettles it: heads hold no brackets, so a head in the outcome of a
pass was one in its text, and a mark is all that can have come behind it.

Main results:
* `Shape.settled_pass`: a pass settles what its rule finds.
* `marked_stays`, `bearer_stays`, `named_stays`: no later pass unsettles it.
* `redact_residue_free`: what all three leave.
-/

namespace NodeAgent.Redaction

open Text (Stops takeWhile_run takeWhile_ne_nil)

/-! ## Places of a text -/

/-- Whether something holds at every place of a text, given the character before the place. -/
def Everywhere (p : Option Char → List Char → Prop) (before : Option Char) : List Char → Prop
  | [] => p before []
  | c :: cs => p before (c :: cs) ∧ Everywhere p (some c) cs

/-- Whether what a rule finds at a place has a secret of some kind. -/
def Settled (rule : Rule) (good : List Char → Prop) (before : Option Char) (cs : List Char) :
    Prop :=
  ∀ found, rule before cs = some found → good found.secret

namespace Everywhere

variable {p : Option Char → List Char → Prop}

theorem here {before : Option Char} {cs : List Char} (h : Everywhere p before cs) :
    p before cs := by
  cases cs with
  | nil => exact h
  | cons c cs => exact h.1

theorem behind {before : Option Char} {xs ys : List Char} (h : Everywhere p before (xs ++ ys)) :
    Everywhere p (lastOf before xs) ys := by
  induction xs generalizing before with
  | nil => exact h
  | cons x xs ih => exact ih h.2

theorem append {before : Option Char} {xs ys : List Char}
    (inside : ∀ front back, xs = front ++ back → back ≠ [] → p (lastOf before front) (back ++ ys))
    (h : Everywhere p (lastOf before xs) ys) : Everywhere p before (xs ++ ys) := by
  induction xs generalizing before with
  | nil => exact h
  | cons x xs ih =>
    refine ⟨inside [] (x :: xs) rfl (by simp), ih ?_ h⟩
    intro front back he hb
    exact inside (x :: front) back (by rw [he]; rfl) hb

theorem mono {q : Option Char → List Char → Prop} {before : Option Char} {cs : List Char}
    (hpq : ∀ before cs, p before cs → q before cs) (h : Everywhere p before cs) :
    Everywhere q before cs := by
  induction cs generalizing before with
  | nil => exact hpq _ _ h
  | cons c cs ih => exact ⟨hpq _ _ h.1, ih h.2⟩

/-- Only the first place of a text depends on the character before it. -/
theorem rebase {before before' : Option Char} {cs : List Char} (hp : p before cs → p before' cs)
    (h : Everywhere p before cs) : Everywhere p before' cs := by
  cases cs with
  | nil => exact hp h
  | cons c cs => exact ⟨hp h.1, h.2⟩

end Everywhere

namespace Shape

variable {rule : Rule} (s : Shape rule)

/-- Whether a head that begins with a character which another rule does not hide may stand behind
any character. -/
def Free (hides : Char → Bool) : Prop :=
  ∀ {before before' c kept}, s.heads before (c :: kept) → hides c = false →
    s.heads before' (c :: kept)

theorem settled_free {hides : Char → Bool} {good : List Char → Prop} (hf : s.Free hides)
    {before before' : Option Char} {cs : List Char} (hs : Stops hides cs)
    (h : Settled rule good before cs) : Settled rule good before' cs := by
  intro found hfound
  obtain ⟨rest, rfl, hh, hsec, hne⟩ := s.found_iff.mp hfound
  obtain ⟨c, kept, hk⟩ := List.exists_cons_of_ne_nil (s.heads_ne_nil hh)
  rw [hk] at hs hh
  have hh' : s.heads before found.kept := hk ▸ hf hh hs.head
  exact h found (s.found_iff.mpr ⟨rest, rfl, hh', hsec, hne⟩)

end Shape

/-! ## A pass settles its own rule -/

/-- A text without an opening bracket that a text with a mark begins with ends before the mark. -/
theorem prefix_before_mark {xs tail ys out : List Char} (h : ys ++ (mark ++ out) = xs ++ tail)
    (hx : '[' ∉ xs) : ∃ zs, ys = xs ++ zs ∧ tail = zs ++ (mark ++ out) := by
  rcases List.append_eq_append_iff.mp h with ⟨zs, rfl, hz⟩ | ⟨zs, rfl, hz⟩
  · cases zs with
    | nil => exact ⟨[], by simp, by simpa using hz.symm⟩
    | cons z zs =>
      obtain ⟨rfl, -⟩ : '[' = z ∧ _ := List.cons.inj hz
      simp at hx
  · exact ⟨zs, rfl, hz⟩

theorem Shape.settled_pass {rule : Rule} (s : Shape rule) {good : List Char → Prop}
    (hf : s.Free s.hides)
    (hgood : ∀ out, Stops s.hides out → (mark ++ out).takeWhile s.hides ≠ [] →
      good ((mark ++ out).takeWhile s.hides))
    (before : Option Char) (cs : List Char) :
    Everywhere (Settled rule good) before (pass rule before 0 cs) := by
  induction before, cs using s.scan with
  | done before =>
    intro found h
    rw [s.found_nil] at h
    simp at h
  | keep before c cs h ih =>
    have ha := s.aligned_pass before (c :: cs)
    rw [pass_keep h] at ha ⊢
    refine ⟨?_, ih⟩
    intro found hfound
    -- What is found in the outcome has its head in the text, where something follows that hides.
    obtain ⟨rest, he, hh, hsec, hne⟩ := s.found_iff.mp hfound
    rw [he] at ha
    obtain ⟨tail, ht, ha'⟩ := ha.of_prefix fun hm => (s.no_bracket hh _ hm).1 rfl
    obtain ⟨d, rest, rfl, hd⟩ := takeWhile_ne_nil (hsec ▸ hne)
    obtain ⟨e, tail, rfl, hd'⟩ := ha'.head_hides hd
    have := s.found_head hh (by simp [hd'] : (e :: tail).takeWhile s.hides ≠ [])
    rw [← ht, h] at this
    simp at this
  | hide before kept secret rest hh hne hs hr ih =>
    rw [s.pass_found hh hne hs hr, List.append_assoc]
    have hout : Stops s.hides (pass rule (lastOf before (kept ++ secret)) 0 rest) := by
      intro c hc
      rw [s.head_pass] at hc
      exact hr c hc
    generalize pass rule (lastOf before (kept ++ secret)) 0 rest = out at ih hout ⊢
    apply Everywhere.append
    · intro front back he hb found hfound
      obtain ⟨tail, ht, hh', hsec, hne'⟩ := s.found_iff.mp hfound
      obtain ⟨zs, hz, hz'⟩ := prefix_before_mark ht fun hm => (s.no_bracket hh' _ hm).1 rfl
      by_cases hfront : front = []
      · subst hfront
        -- The two heads at this place are one: a shorter one would have been found in the text.
        have hkept : found.kept ++ (zs ++ (secret ++ rest)) = kept ++ (secret ++ rest) := by
          rw [he, List.nil_append, hz, List.append_assoc]
        cases zs with
        | nil =>
          rw [hsec] at hne' ⊢
          rw [hz'] at hne' ⊢
          exact hgood out hout hne'
        | cons z zs =>
          obtain ⟨d, _, hd, hd'⟩ := takeWhile_ne_nil (hsec ▸ hne')
          obtain ⟨rfl, -⟩ := List.cons.inj (hz'.symm.trans hd)
          have h₁ := s.found_run hh hne hs hr
          have h₂ := s.found_head hh'
            (by simp [hd'] : (z :: zs ++ (secret ++ rest)).takeWhile s.hides ≠ [])
          rw [hkept] at h₂
          have := (Finding.mk.inj (Option.some.inj (h₁.symm.trans h₂))).1
          rw [he, List.nil_append, hz] at this
          simp at this
      · exact absurd ⟨zs, hz.symm⟩ (s.no_overlap hh hh' he hfront)
    · apply Everywhere.append
      · intro front back he hb found hfound
        rw [s.none_in_mark he hb] at hfound
        simp at hfound
      · exact ih.rebase (s.settled_free hf hout)

/-! ## A pass keeps what is settled -/

theorem Aligned.settled {rule : Rule} (s : Shape rule) {hides : Char → Bool}
    {good : List Char → Prop} (hf : s.Free hides)
    (hgood : ∀ before cs out, Aligned hides before cs out →
      (cs.takeWhile s.hides ≠ [] → good (cs.takeWhile s.hides)) →
      out.takeWhile s.hides ≠ [] → good (out.takeWhile s.hides))
    {before : Option Char} {cs out : List Char} (ha : Aligned hides before cs out)
    (h : Everywhere (Settled rule good) before cs) :
    Everywhere (Settled rule good) before out := by
  induction ha with
  | done => exact h
  | @keep before c cs out rest ih =>
    refine ⟨?_, ih h.2⟩
    intro found hfound
    obtain ⟨tail, he, hh, hsec, hne⟩ := s.found_iff.mp hfound
    have ha : Aligned hides before (c :: cs) (found.kept ++ tail) := he ▸ .keep rest
    obtain ⟨tail', ht, ha'⟩ := ha.of_prefix fun hm => (s.no_bracket hh _ hm).1 rfl
    rw [hsec] at hne ⊢
    refine hgood _ _ _ ha' ?_ hne
    intro hn
    exact h.1 _ (ht ▸ s.found_head hh hn)
  | @hide c secret cs out behind nonempty run stop rest ih =>
    apply Everywhere.append
    · intro front back he hb found hfound
      rw [s.none_in_mark he hb] at hfound
      simp at hfound
    · exact (ih h.behind).rebase (s.settled_free hf (rest.stops stop))

/-! ## The three rules one after the other -/

theorem namedShape_free {hides : Char → Bool} (h : ∀ c, IsNameChar c → hides c = true) :
    namedShape.Free hides := by
  intro before before' c kept hh hc
  rw [h c (namedHead_first hh)] at hc
  simp at hc

theorem bearer_settled (before : Option Char) (cs : List Char) :
    Everywhere (Settled bearerRule fun _ => False) before (pass bearerRule before 0 cs) := by
  refine bearerShape.settled_pass (fun h _ => h) ?_ before cs
  intro out _ hn
  exact hn (Stops.takeWhile_eq (Stops.cons (by decide)))

namespace Shape

variable {rule : Rule} (s : Shape rule)

/-- Behind a pass every secret of its rule is a mark, if marks may stand for secrets of the rule. -/
theorem settled_mark (hf : s.Free s.hides) (hm : ∀ c ∈ mark, s.hides c = true)
    (before : Option Char) (cs : List Char) :
    Everywhere (Settled rule (· = mark)) before (pass rule before 0 cs) :=
  s.settled_pass hf (fun _ hs _ => takeWhile_run hm hs) before cs

/-- No pass takes a mark away from the secrets of another rule. -/
theorem marked_stays {hides : Char → Bool} (hf : s.Free hides)
    (hm : ∀ c ∈ mark, s.hides c = true) {before : Option Char} {cs out : List Char}
    (ha : Aligned hides before cs out) (h : Everywhere (Settled rule (mark <+: ·)) before cs) :
    Everywhere (Settled rule (mark <+: ·)) before out := by
  have marked : ∀ out : List Char, mark <+: out → mark <+: out.takeWhile s.hides := by
    intro _ hp
    obtain ⟨out, rfl⟩ := hp
    rw [List.takeWhile_append_of_pos hm]
    exact List.prefix_append _ _
  refine ha.settled s hf ?_ h
  intro before' cs out ha hcs hout
  apply marked
  cases ha with
  | done => exact absurd rfl hout
  | @keep _ c cs out rest =>
    have hmark : mark <+: c :: cs := by
      obtain ⟨d, _, he, hd⟩ := takeWhile_ne_nil hout
      obtain ⟨rfl, -⟩ := List.cons.inj he
      exact (hcs (by simp [hd])).trans (List.takeWhile_prefix _)
    obtain ⟨tail, ht⟩ := hmark
    -- The text goes on with a mark, and so does the outcome.
    obtain ⟨hc, rfl⟩ : '[' = c ∧ "REDACTED]".toList ++ tail = cs := List.cons.inj ht
    subst hc
    obtain ⟨tail', rfl, -⟩ := rest.of_mark (by decide) fun x hx => List.mem_cons_of_mem '[' hx
    exact ⟨tail', rfl⟩
  | hide _ _ _ _ _ => exact List.prefix_append _ _

end Shape

theorem marked_of_exact {rule : Rule} {before : Option Char} {cs : List Char}
    (h : Everywhere (Settled rule (· = mark)) before cs) :
    Everywhere (Settled rule (mark <+: ·)) before cs := by
  apply h.mono
  intro before cs hs found hfound
  exact ⟨[], (List.append_nil mark).trans (hs found hfound).symm⟩

theorem named_exact (before : Option Char) (cs : List Char) :
    Everywhere (Settled namedRule (· = mark)) before (pass namedRule before 0 cs) :=
  namedShape.settled_mark (namedShape_free fun _ h => h.value) mark_value before cs

theorem named_settled (before : Option Char) (cs : List Char) :
    Everywhere (Settled namedRule (mark <+: ·)) before (pass namedRule before 0 cs) :=
  marked_of_exact (named_exact before cs)

theorem query_settled (before : Option Char) (cs : List Char) :
    Everywhere (Settled queryRule (· = mark)) before (pass queryRule before 0 cs) :=
  queryShape.settled_mark (fun h _ => h) mark_parameter before cs

/-- No pass brings back a token. -/
theorem bearer_stays {rule : Rule} (s : Shape rule) {before : Option Char} {cs : List Char}
    (h : Everywhere (Settled bearerRule fun _ => False) before cs) :
    Everywhere (Settled bearerRule fun _ => False) before (pass rule before 0 cs) := by
  refine (s.aligned_pass before cs).settled bearerShape (fun h _ => h) ?_ h
  intro before' cs out ha hcs hout
  obtain ⟨d, rest, rfl, hd⟩ := takeWhile_ne_nil hout
  generalize hy : d :: rest = ys at ha
  cases ha with
  | done => simp at hy
  | keep _ =>
    obtain ⟨rfl, -⟩ := List.cons.inj hy
    exact hcs (by simp [hd])
  | hide _ _ _ _ _ =>
    obtain ⟨rfl, -⟩ : d = '[' ∧ _ := List.cons.inj hy
    exact absurd hd (by decide)

/-- The pass over queries leaves the marks behind the names of secrets. -/
theorem named_stays {before : Option Char} {cs : List Char}
    (h : Everywhere (Settled namedRule (mark <+: ·)) before cs) :
    Everywhere (Settled namedRule (mark <+: ·)) before (pass queryRule before 0 cs) :=
  namedShape.marked_stays (namedShape_free fun _ h => h.parameter) mark_value
    (queryShape.aligned_pass before cs) h

/-! ## Redacted texts -/

theorem SpellsOne.endsInWord_head {word : List Char} (h : SpellsOne secretNames word) :
    Text.endsInWord word.head? = true := by
  obtain ⟨c, word, rfl⟩ := List.exists_cons_of_ne_nil h.ne_nil
  refine (h.nameChar secretNames_letters (by simp)).word ?_
  intro he
  subst he
  obtain ⟨name, hm, hs⟩ := h
  have hd : name.toList.head? = some '-' := by rw [← hs]; rfl
  exact (show ∀ name ∈ secretNames, name.toList.head? ≠ some '-' by decide) name hm hd

/-- No token stands behind the word `bearer`. -/
def BearerFree (cs : List Char) : Prop :=
  ∀ front word blanks c back, cs = front ++ (word ++ blanks ++ c :: back) →
    Spells "bearer".toList word → blanks ≠ [] → (∀ b ∈ blanks, Text.isBlank b = true) →
    isTokenChar c = false

/-- Behind each name of a secret that is a word of its own, a value begins with a mark. -/
def NamesMarked (cs : List Char) : Prop :=
  ∀ front name gap sign gap' value, cs = front ++ (name ++ gap ++ sign :: gap' ++ value) →
    SpellsOne secretNames name → Text.isBoundary front.getLast? name.head? = true →
    (∀ b ∈ gap, Text.isBlank b = true) → (sign = ':' ∨ sign = '=') →
    (∀ b ∈ gap', Text.isBlank b = true) →
    value.takeWhile isValueChar ≠ [] → mark <+: value.takeWhile isValueChar

/-- The value of each secret parameter of a query is a mark. -/
def ParametersMarked (cs : List Char) : Prop :=
  ∀ front lead name value, cs = front ++ (lead :: name ++ '=' :: value) →
    (lead = '?' ∨ lead = '&') → SpellsOne parameterNames name →
    value.takeWhile isParameterChar ≠ [] → value.takeWhile isParameterChar = mark

theorem bearerFree_of_settled {cs : List Char}
    (h : Everywhere (Settled bearerRule fun _ => False) none cs) : BearerFree cs := by
  intro front word blanks c back he hs hne hb
  subst he
  rw [← Bool.not_eq_true]
  intro hc
  have hh : bearerShape.heads (lastOf none front) (word ++ blanks) :=
    ⟨word, blanks, rfl, hs, hne, hb⟩
  exact h.behind.here _ (bearerShape.found_head hh (by simp [bearerShape, hc]))

theorem namesMarked_of_settled {cs : List Char}
    (h : Everywhere (Settled namedRule (mark <+: ·)) none cs) : NamesMarked cs := by
  intro front name gap sign gap' value he hs hbound hgap hsign hgap' hv
  subst he
  have hbefore : Text.endsInWord (lastOf none front) = false := by
    rw [lastOf_eq_getLast, Option.or_none]
    simpa [Text.isBoundary, hs.endsInWord_head] using hbound
  have hh : namedShape.heads (lastOf none front) (name ++ gap ++ sign :: gap') :=
    ⟨hbefore, name, gap, sign, gap', rfl, hs, hgap, hsign, hgap'⟩
  exact h.behind.here _ (namedShape.found_head hh hv)

theorem parametersMarked_of_settled {cs : List Char}
    (h : Everywhere (Settled queryRule (· = mark)) none cs) : ParametersMarked cs := by
  intro front lead name value he hl hs hv
  subst he
  have hh : queryShape.heads (lastOf none front) (lead :: name ++ ['=']) :=
    ⟨lead, name, rfl, hl, hs⟩
  have he : lead :: name ++ '=' :: value = lead :: name ++ ['='] ++ value := by simp
  rw [he] at h
  exact h.behind.here _ (queryShape.found_head hh hv)

/-- **Nothing is left of a secret.** Whatever the text, a redacted text has no bearer token, at no
place a secret behind its name, and no value of a secret parameter. -/
theorem redact_residue_free (t : String) :
    BearerFree (redact t).toList ∧ NamesMarked (redact t).toList ∧
      ParametersMarked (redact t).toList := by
  have he : (redact t).toList = redactChars t.toList := by simp [redact]
  rw [he]
  have hb := bearer_settled none t.toList
  have hn := named_settled none (pass bearerRule none 0 t.toList)
  have hq := query_settled none (pass namedRule none 0 (pass bearerRule none 0 t.toList))
  exact ⟨bearerFree_of_settled (bearer_stays queryShape (bearer_stays namedShape hb)),
    namesMarked_of_settled (named_stays hn), parametersMarked_of_settled hq⟩

end NodeAgent.Redaction
