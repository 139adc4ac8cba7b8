import NodeAgent.Proofs.Redaction.Pass
/-!
How far a pass reaches over the border between two texts. Either nothing that is found before the
border reaches over it, and the pass over the whole is the passes over the parts; or a secret is
open at the border, and the pass hides with it what it may of the text behind. Which of the two it
is depends on the text before the border alone.

Main results: `Shape.pass_border`, the two cases; `Shape.pass_closed` and `Shape.pass_open`, what a
pass over the whole is in each.
-/

namespace NodeAgent.Redaction

open Text (Stops mem_takeWhile)

/-- Whether a letter behind a text would be hidden, as part of a secret that begins in the text. -/
def hidesNext (rule : Rule) (cs : List Char) : Prop :=
  pass rule none 0 (cs ++ ['x']) ≠ pass rule none 0 cs ++ ['x']

instance (rule : Rule) (cs : List Char) : Decidable (hidesNext rule cs) :=
  inferInstanceAs (Decidable (_ ≠ _))

/-- Only the first step of a pass depends on the character before the text. -/
theorem pass_rebase {rule : Rule} {before before' : Option Char} {cs : List Char}
    (h : rule before cs = rule before' cs) : pass rule before 0 cs = pass rule before' 0 cs := by
  cases cs with
  | nil => rfl
  | cons c cs => rw [pass, pass, h]

/-- A pass keeps a text in which nothing is found. -/
theorem pass_quiet {rule : Rule} {before : Option Char} {xs ys : List Char}
    (h : ∀ front back, xs = front ++ back → back ≠ [] →
      rule (lastOf before front) (back ++ ys) = none) :
    pass rule before 0 (xs ++ ys) = xs ++ pass rule (lastOf before xs) 0 ys := by
  induction xs generalizing before with
  | nil => rfl
  | cons x xs ih =>
    have hx : rule before (x :: (xs ++ ys)) = none := h [] (x :: xs) rfl (by simp)
    rw [List.cons_append, pass_keep hx, ih]
    · rfl
    · intro front back he hb
      exact h (x :: front) back (by rw [he]; rfl) hb

namespace Shape

variable {rule : Rule} (s : Shape rule)

/-- Whether no head lies across the border of two texts. -/
def Parted (xs ys : List Char) : Prop :=
  ∀ front back before kept, xs = front ++ back → back ≠ [] → s.heads before kept →
    kept <+: back ++ ys → kept <+: back

theorem Parted.of_append {front xs ys : List Char} (h : s.Parted (front ++ xs) ys) :
    s.Parted xs ys := by
  intro front' back before kept he hb
  exact h (front ++ front') back before kept (by rw [he, List.append_assoc]) hb

/-- Whether two texts meet in such a way that no head lies across the border, and the second one
begins with a character of secrets. -/
structure Meets (xs ys : List Char) : Prop where
  hidden : ∃ c rest, ys = c :: rest ∧ s.hides c = true
  no_head : ∀ front back before kept, xs = front ++ back → back ≠ [] → s.heads before kept →
    kept <+: back ++ ys → kept <+: back

theorem Meets.of_append {front xs ys : List Char} (h : s.Meets (front ++ xs) ys) :
    s.Meets xs ys :=
  ⟨h.hidden, Parted.of_append s h.no_head⟩

/-- A secret that is open at the border goes on behind it. -/
theorem pass_over {before : Option Char} {kept run ys : List Char}
    (hm : s.Meets (kept ++ run) ys) (hh : s.heads before kept)
    (hrun : ∀ c ∈ run, s.hides c = true) :
    pass rule before 0 (kept ++ run ++ ys) =
      [] ++ kept ++ mark ++ pass rule (lastOf (lastOf before (kept ++ run))
        (ys.takeWhile s.hides)) 0 (ys.dropWhile s.hides) := by
  have hne : run ++ ys.takeWhile s.hides ≠ [] := by
    obtain ⟨c, rest, rfl, hc⟩ := hm.hidden
    simp [hc]
  have hall : ∀ c ∈ run ++ ys.takeWhile s.hides, s.hides c = true := by
    intro c hc
    rcases List.mem_append.mp hc with hc | hc
    · exact hrun c hc
    · exact mem_takeWhile hc
  have hsplit : kept ++ run ++ ys =
      kept ++ ((run ++ ys.takeWhile s.hides) ++ ys.dropWhile s.hides) := by
    rw [List.append_assoc run, List.takeWhile_append_dropWhile, List.append_assoc]
  rw [hsplit, s.pass_found hh hne hall Stops.dropWhile, ← List.append_assoc kept run, lastOf_append]
  rfl

/-- Where nothing is found before the border and no secret begins at it, nothing is found in the
whole text either. -/
theorem none_over {before : Option Char} {c : Char} {cs ys : List Char}
    (hp : s.Parted (c :: cs) ys) (h : rule before (c :: cs) = none)
    (hborder : s.heads before (c :: cs) → Stops s.hides ys) :
    rule before (c :: (cs ++ ys)) = none := by
  cases hf : rule before (c :: (cs ++ ys)) with
  | none => rfl
  | some found =>
    exfalso
    obtain ⟨rest, he, hh, hs, hne⟩ := s.found_iff.mp hf
    obtain ⟨run, hrun⟩ := hp [] (c :: cs) before found.kept rfl (by simp) hh ⟨rest, he.symm⟩
    have hrest : rest = run ++ ys := by
      have hboth : found.kept ++ rest = found.kept ++ (run ++ ys) := by
        rw [← he, ← List.append_assoc, hrun]
        rfl
      exact List.append_cancel_left hboth
    cases run with
    | nil =>
      rw [List.append_nil] at hrun
      rw [hs, hrest, List.nil_append, (hborder (hrun ▸ hh)).takeWhile_eq] at hne
      exact hne rfl
    | cons d run =>
      by_cases hd : s.hides d = true
      · -- The secret begins before the border, where it is found already.
        have hrun' : (d :: run).takeWhile s.hides ≠ [] := by simp [hd]
        have hfound := s.found_head hh hrun'
        rw [hrun, h] at hfound
        simp at hfound
      · rw [hs, hrest] at hne
        simp [hd] at hne

/-- A pass goes over a border with nothing open where no head lies across it and no secret goes on
behind it. -/
theorem pass_parted {xs ys : List Char} (hp : s.Parted xs ys) (hy : Stops s.hides ys)
    (before : Option Char) :
    pass rule before 0 (xs ++ ys) =
      pass rule before 0 xs ++ pass rule (lastOf before xs) 0 ys := by
  induction before, xs using s.scan with
  | done before => rfl
  | keep before c cs h ih =>
    have quiet := s.none_over hp h fun _ => hy
    have ih := ih (Parted.of_append s (show s.Parted ([c] ++ cs) ys from hp))
    rw [List.cons_append, pass_keep quiet, pass_keep h, ih]
    rfl
  | hide before kept secret rest hh hne hs hr ih =>
    have hstop : Stops s.hides (rest ++ ys) := by
      cases rest with
      | nil => exact hy
      | cons c rest => exact Stops.cons hr.head
    rw [← List.append_assoc] at hp
    rw [List.append_assoc, List.append_assoc, s.pass_found hh hne hs hstop,
      s.pass_found hh hne hs hr, ih hp.of_append, ← lastOf_append]
    simp only [List.append_assoc]

/-- The two ways in which a pass comes to the border behind a text: with nothing open, or behind a
head and a run of a secret that goes on as far as it may. -/
theorem pass_border (before : Option Char) (xs : List Char) :
    ((pass rule before 0 xs).getLast? = xs.getLast? ∧
      ∀ ys, s.Meets xs ys →
        pass rule before 0 (xs ++ ys) =
          pass rule before 0 xs ++ pass rule (lastOf before xs) 0 ys) ∨
    ∃ front before' kept run out, xs = front ++ (kept ++ run) ∧ s.heads before' kept ∧
      (∀ c ∈ run, s.hides c = true) ∧
      ∀ ys, s.Meets xs ys →
        pass rule before 0 (xs ++ ys) =
          out ++ kept ++ mark ++
            pass rule (lastOf (lastOf before xs) (ys.takeWhile s.hides)) 0
              (ys.dropWhile s.hides) := by
  induction before, xs using s.scan with
  | done before =>
    left
    exact ⟨rfl, fun ys _ => rfl⟩
  | keep before c cs h ih =>
    by_cases hopen : ∃ kept run, c :: cs = kept ++ run ∧ s.heads before kept ∧
        ∀ d ∈ run, s.hides d = true
    · -- A head reaches to the border, so the secret behind it is open there.
      right
      obtain ⟨kept, run, he, hh, hrun⟩ := hopen
      refine ⟨[], before, kept, run, [], he, hh, hrun, ?_⟩
      intro ys hm
      rw [he] at hm ⊢
      exact s.pass_over hm hh hrun
    · have quiet : ∀ ys, s.Meets (c :: cs) ys → rule before (c :: (cs ++ ys)) = none :=
        fun ys hm => s.none_over hm.no_head h fun hh =>
          absurd ⟨c :: cs, [], by simp, hh, by simp⟩ hopen
      have meets : ∀ ys, s.Meets (c :: cs) ys → s.Meets cs ys :=
        fun ys hm => Meets.of_append s (show s.Meets ([c] ++ cs) ys from hm)
      rcases ih with ⟨hl, ih⟩ | ⟨front, before', kept, run, out, he, hh, hrun, ih⟩
      · left
        refine ⟨?_, ?_⟩
        · rw [pass_keep h, List.getLast?_cons, List.getLast?_cons, hl]
        · intro ys hm
          rw [List.cons_append, pass_keep (quiet ys hm), pass_keep h, ih ys (meets ys hm)]
          rfl
      · right
        refine ⟨c :: front, before', kept, run, c :: out, by rw [he]; rfl, hh, hrun, ?_⟩
        intro ys hm
        rw [List.cons_append, pass_keep (quiet ys hm), ih ys (meets ys hm)]
        rfl
  | hide before kept secret rest hh hne hs hr ih =>
    by_cases hrest : rest = []
    · right
      refine ⟨[], before, kept, secret, [], by rw [hrest, List.append_nil]; rfl, hh, hs, ?_⟩
      intro ys hm
      rw [hrest, List.append_nil] at hm ⊢
      exact s.pass_over hm hh hs
    · have meets : ∀ ys, s.Meets (kept ++ (secret ++ rest)) ys → s.Meets rest ys := by
        intro ys hm
        rw [← List.append_assoc] at hm
        exact hm.of_append
      have step : ∀ ys, pass rule before 0 (kept ++ (secret ++ rest) ++ ys) =
          kept ++ mark ++ pass rule (lastOf before (kept ++ secret)) 0 (rest ++ ys) := by
        intro ys
        have hstop : Stops s.hides (rest ++ ys) := by
          obtain ⟨c, rest, rfl⟩ := List.exists_cons_of_ne_nil hrest
          exact Stops.cons hr.head
        rw [List.append_assoc, List.append_assoc]
        exact s.pass_found hh hne hs hstop
      have lasts : lastOf (lastOf before (kept ++ secret)) rest =
          lastOf before (kept ++ (secret ++ rest)) := by
        rw [← lastOf_append, List.append_assoc]
      rcases ih with ⟨hl, ih⟩ | ⟨front, before', kept', run, out, he, hh', hrun, ih⟩
      · left
        refine ⟨?_, ?_⟩
        · rw [s.pass_found hh hne hs hr]
          simp only [List.getLast?_append, hl]
          cases hlast : rest.getLast? with
          | none => exact absurd (List.getLast?_eq_none_iff.mp hlast) hrest
          | some c => rfl
        · intro ys hm
          rw [step ys, ih ys (meets ys hm), s.pass_found hh hne hs hr, lasts]
          simp only [List.append_assoc]
      · right
        refine ⟨kept ++ secret ++ front, before', kept', run, kept ++ mark ++ out, ?_, hh', hrun,
          ?_⟩
        · rw [he]
          simp only [List.append_assoc]
        · intro ys hm
          rw [step ys, ih ys (meets ys hm), lasts]
          simp only [List.append_assoc]

/-! ## A letter behind a text -/

include s in
/-- A single character holds no secret with its head. -/
theorem found_singleton (before : Option Char) (c : Char) : rule before [c] = none := by
  cases h : rule before [c] with
  | none => rfl
  | some found =>
    obtain ⟨rest, he, hh, hne, -⟩ := s.found h
    have hlen : [c].length = found.kept.length + (found.secret.length + rest.length) := by
      rw [he, List.length_append, List.length_append]
    have hkept := List.length_pos_iff.mpr (s.heads_ne_nil hh)
    have hsecret := List.length_pos_iff.mpr hne
    simp only [List.length_singleton] at hlen
    omega

/-- Where a letter behind a text would stay, the pass goes over the border with nothing open. -/
theorem pass_closed {xs : List Char} (hx : s.Meets xs ['x']) (h : ¬ hidesNext rule xs) :
    (pass rule none 0 xs).getLast? = xs.getLast? ∧
      ∀ ys, s.Meets xs ys → pass rule none 0 (xs ++ ys) =
        pass rule none 0 xs ++ pass rule (lastOf none xs) 0 ys := by
  rcases s.pass_border none xs with hleft | ⟨front, before', kept, run, out, -, -, -, hright⟩
  · exact hleft
  · exfalso
    refine h fun he => ?_
    have hhides : s.hides 'x' = true := by
      obtain ⟨c, rest, hc, hhides⟩ := hx.hidden
      rw [(List.cons.inj hc).1]
      exact hhides
    rw [hright ['x'] hx] at he
    simp only [List.takeWhile, List.dropWhile, hhides, pass, List.append_nil] at he
    -- The one text ends in a mark, and the other one in the letter.
    have hmark : mark.getLast? = some ']' := by decide
    have hlast := congrArg List.getLast? he
    rw [List.getLast?_append, List.getLast?_concat, hmark] at hlast
    simp at hlast

/-- Where a letter behind a text would be hidden, a secret is open at the border. -/
theorem pass_open {xs : List Char} (hx : s.Meets xs ['x']) (h : hidesNext rule xs) :
    ∃ front before' kept run out, xs = front ++ (kept ++ run) ∧ s.heads before' kept ∧
      (∀ c ∈ run, s.hides c = true) ∧
      ∀ ys, s.Meets xs ys → pass rule none 0 (xs ++ ys) =
        out ++ kept ++ mark ++
          pass rule (lastOf (lastOf none xs) (ys.takeWhile s.hides)) 0
            (ys.dropWhile s.hides) := by
  rcases s.pass_border none xs with ⟨-, hleft⟩ | hright
  · exfalso
    refine h ?_
    rw [hleft ['x'] hx, pass_keep (s.found_singleton _ _)]
    rfl
  · exact hright

end Shape

end NodeAgent.Redaction
