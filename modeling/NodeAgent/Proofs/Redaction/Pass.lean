import NodeAgent.Proofs.Redaction.Shape
/-!
A pass of a rule, step by step. At each place a pass either keeps a character or hides a secret
behind its head and goes on behind the secret; `Shape.scan` is the induction over these steps.
`Aligned` says how the outcome of a pass lies to its text: characters stand for themselves, and
marks stand for secrets.

Main results: `pass_keep` and `pass_hide`, the two steps; `Shape.scan`, the induction over them;
`Shape.aligned_pass`, how the outcome lies to the text.
-/

namespace NodeAgent.Redaction

open Text (Stops takeWhile_run mem_takeWhile)

/-- The character before a place, behind a text that follows another character. -/
def lastOf (before : Option Char) : List Char → Option Char
  | [] => before
  | c :: cs => lastOf (some c) cs

theorem lastOf_append (before : Option Char) (xs ys : List Char) :
    lastOf before (xs ++ ys) = lastOf (lastOf before xs) ys := by
  induction xs generalizing before with
  | nil => rfl
  | cons x xs ih => exact ih (some x)

theorem lastOf_eq_getLast (before : Option Char) (xs : List Char) :
    lastOf before xs = xs.getLast?.or before := by
  induction xs generalizing before with
  | nil => rfl
  | cons x xs ih => rw [lastOf, ih, List.getLast?_cons]; cases xs.getLast? <;> rfl

/-! ## Steps -/

theorem pass_skip (rule : Rule) (before : Option Char) (xs ys : List Char) :
    pass rule before xs.length (xs ++ ys) = pass rule (lastOf before xs) 0 ys := by
  induction xs generalizing before with
  | nil => rfl
  | cons x xs ih => simp [pass, lastOf, ih]

theorem pass_keep {rule : Rule} {before : Option Char} {c : Char} {cs : List Char}
    (h : rule before (c :: cs) = none) :
    pass rule before 0 (c :: cs) = c :: pass rule (some c) 0 cs := by
  rw [pass, h]

theorem pass_hide {rule : Rule} {before : Option Char} {kept secret rest : List Char}
    (hk : kept ≠ []) (h : rule before (kept ++ (secret ++ rest)) = some ⟨kept, secret⟩) :
    pass rule before 0 (kept ++ (secret ++ rest)) =
      kept ++ mark ++ pass rule (lastOf before (kept ++ secret)) 0 rest := by
  obtain ⟨c, kept, rfl⟩ := List.exists_cons_of_ne_nil hk
  rw [List.cons_append] at h
  have hs : (c :: kept).length + secret.length - 1 = (kept ++ secret).length := by simp
  rw [List.cons_append, pass, h]
  simp only [hs]
  rw [← List.append_assoc kept, pass_skip]
  rfl

namespace Shape

variable {rule : Rule} (s : Shape rule)
include s

theorem heads_ne_nil {before : Option Char} {kept : List Char} (h : s.heads before kept) :
    kept ≠ [] := by
  obtain ⟨front, c, rfl, -⟩ := s.last_not_mem h
  simp

/-- What a finding says of the text ahead: its head, its secret, and what follows the secret. -/
theorem found {before : Option Char} {cs : List Char} {found : Finding}
    (h : rule before cs = some found) :
    ∃ rest, cs = found.kept ++ (found.secret ++ rest) ∧ s.heads before found.kept ∧
      found.secret ≠ [] ∧ (∀ c ∈ found.secret, s.hides c = true) ∧ Stops s.hides rest := by
  obtain ⟨rest, rfl, hh, hs, hne⟩ := s.found_iff.mp h
  refine ⟨rest.dropWhile s.hides, ?_, hh, hne, ?_, Stops.dropWhile⟩
  · rw [hs, List.takeWhile_append_dropWhile]
  · exact fun c hc => mem_takeWhile (hs ▸ hc)

/-- A head with a character of secrets behind it is found. -/
theorem found_head {before : Option Char} {kept rest : List Char} (hh : s.heads before kept)
    (hn : rest.takeWhile s.hides ≠ []) :
    rule before (kept ++ rest) = some ⟨kept, rest.takeWhile s.hides⟩ :=
  s.found_iff.mpr ⟨rest, rfl, hh, rfl, hn⟩

theorem found_run {before : Option Char} {kept secret rest : List Char}
    (hh : s.heads before kept) (hne : secret ≠ []) (hs : ∀ c ∈ secret, s.hides c = true)
    (hr : Stops s.hides rest) :
    rule before (kept ++ (secret ++ rest)) = some ⟨kept, secret⟩ := by
  have hrun : (secret ++ rest).takeWhile s.hides = secret := takeWhile_run hs hr
  have hn : (secret ++ rest).takeWhile s.hides ≠ [] := by
    rw [hrun]
    exact hne
  rw [s.found_head hh hn, hrun]

theorem found_nil (before : Option Char) : rule before [] = none := by
  cases h : rule before [] with
  | none => rfl
  | some found =>
    obtain ⟨rest, he, hh, -⟩ := s.found_iff.mp h
    exact absurd (List.append_eq_nil_iff.mp he.symm).1 (s.heads_ne_nil hh)

/-- Induction over the steps of a pass: a character is kept, or a secret is hidden. -/
theorem scan {motive : Option Char → List Char → Prop}
    (done : ∀ before, motive before [])
    (keep : ∀ before c cs, rule before (c :: cs) = none → motive (some c) cs →
      motive before (c :: cs))
    (hide : ∀ before kept secret rest, s.heads before kept → secret ≠ [] →
      (∀ c ∈ secret, s.hides c = true) → Stops s.hides rest →
      motive (lastOf before (kept ++ secret)) rest → motive before (kept ++ (secret ++ rest)))
    (before : Option Char) (cs : List Char) : motive before cs := by
  cases cs with
  | nil => exact done before
  | cons c cs =>
    cases h : rule before (c :: cs) with
    | none => exact keep before c cs h (scan done keep hide (some c) cs)
    | some found =>
      obtain ⟨rest, he, hh, hne, hs, hr⟩ := s.found h
      -- A head is not empty, so what is left behind the secret is shorter.
      have hlt : rest.length < (c :: cs).length := by
        have hkept := List.length_pos_iff.mpr (s.heads_ne_nil hh)
        rw [he, List.length_append, List.length_append]
        omega
      rw [he]
      exact hide before _ _ rest hh hne hs hr (scan done keep hide _ rest)
termination_by cs.length
decreasing_by
  · exact Nat.lt_succ_self _
  · exact hlt

theorem pass_found {before : Option Char} {kept secret rest : List Char}
    (hh : s.heads before kept) (hne : secret ≠ []) (hs : ∀ c ∈ secret, s.hides c = true)
    (hr : Stops s.hides rest) :
    pass rule before 0 (kept ++ (secret ++ rest)) =
      kept ++ mark ++ pass rule (lastOf before (kept ++ secret)) 0 rest :=
  pass_hide (s.heads_ne_nil hh) (s.found_run hh hne hs hr)

/-- The outcome of a pass begins as its text does. -/
theorem head_pass (before : Option Char) (cs : List Char) :
    (pass rule before 0 cs).head? = cs.head? := by
  induction before, cs using s.scan with
  | done before => rfl
  | keep before c cs h ih => rw [pass_keep h]; rfl
  | hide before kept secret rest hh hne hs hr ih =>
    obtain ⟨c, kept, rfl⟩ := List.exists_cons_of_ne_nil (s.heads_ne_nil hh)
    rw [s.pass_found hh hne hs hr]
    rfl

/-- Nothing is found in a mark. -/
theorem none_in_mark {front back : List Char} (he : mark = front ++ back) (hb : back ≠ [])
    (before : Option Char) (out : List Char) : rule before (back ++ out) = none := by
  cases h : rule before (back ++ out) with
  | none => rfl
  | some found =>
    obtain ⟨rest, hr, hh, -⟩ := s.found_iff.mp h
    rcases List.append_eq_append_iff.mp hr with ⟨zs, hz, -⟩ | ⟨zs, hz, -⟩
    · -- the mark ends in the head, which would hold its closing bracket
      have hl : ']' ∈ back := by
        have : mark.getLast? = some ']' := by decide
        rw [he, List.getLast?_append, List.getLast?_eq_some_getLast hb] at this
        simp only [Option.some_or, Option.some.injEq] at this
        exact this ▸ List.getLast_mem hb
      exact absurd rfl (s.no_bracket hh ']' (hz ▸ List.mem_append_left zs hl)).2
    · -- the head ends in the mark, of which its last character is not
      obtain ⟨kept, c, hk, hc⟩ := s.last_not_mem hh
      refine absurd ?_ hc
      rw [he, hz, hk]
      simp

end Shape

/-! ## How an outcome lies to its text -/

/-- A text beside the outcome of a pass: characters stand for themselves, and a mark stands for a
secret, which does not begin behind a character of a mark. -/
inductive Aligned (hides : Char → Bool) : Option Char → List Char → List Char → Prop
  | done {before} : Aligned hides before [] []
  | keep {before c cs out} (rest : Aligned hides (some c) cs out) :
    Aligned hides before (c :: cs) (c :: out)
  | hide {c secret cs out} (behind : c ∉ mark) (nonempty : secret ≠ [])
    (run : ∀ d ∈ secret, hides d = true) (stop : Stops hides cs)
    (rest : Aligned hides (lastOf (some c) secret) cs out) :
    Aligned hides (some c) (secret ++ cs) (mark ++ out)

namespace Aligned

variable {hides : Char → Bool}

theorem keep_all {before : Option Char} {xs cs out : List Char}
    (h : Aligned hides (lastOf before xs) cs out) :
    Aligned hides before (xs ++ cs) (xs ++ out) := by
  induction xs generalizing before with
  | nil => exact h
  | cons x xs ih => exact .keep (ih h)

/-- A text without an opening bracket stands for itself. -/
theorem of_prefix {before : Option Char} {xs cs out : List Char}
    (h : Aligned hides before cs (xs ++ out)) (hx : '[' ∉ xs) :
    ∃ rest, cs = xs ++ rest ∧ Aligned hides (lastOf before xs) rest out := by
  induction xs generalizing before cs with
  | nil => exact ⟨cs, rfl, h⟩
  | cons x xs ih =>
    simp only [List.mem_cons, not_or] at hx
    rw [List.cons_append] at h
    generalize hy : x :: (xs ++ out) = ys at h
    cases h with
    | done => simp at hy
    | keep rest =>
      obtain ⟨rfl, rfl⟩ := List.cons.inj hy
      obtain ⟨tail, rfl, ht⟩ := ih rest hx.2
      exact ⟨tail, rfl, ht⟩
    | hide behind nonempty run stop rest =>
      obtain ⟨he, -⟩ := List.cons.inj hy
      exact absurd he.symm hx.1

theorem stops {before : Option Char} {cs out : List Char} (h : Aligned hides before cs out)
    (hs : Stops hides cs) : Stops hides out := by
  cases h with
  | done => exact hs
  | keep _ => exact Stops.cons hs.head
  | hide _ nonempty run _ _ =>
    obtain ⟨e, secret, rfl⟩ := List.exists_cons_of_ne_nil nonempty
    have := run e (by simp)
    rw [Stops.head hs] at this
    simp at this

/-- Where an outcome begins with a character of secrets, so does its text. -/
theorem head_hides {before : Option Char} {d : Char} {cs out : List Char}
    (h : Aligned hides before cs (d :: out)) (hd : hides d = true) :
    ∃ e rest, cs = e :: rest ∧ hides e = true := by
  generalize hy : d :: out = ys at h
  cases h with
  | done => simp at hy
  | keep _ =>
    obtain ⟨rfl, -⟩ := List.cons.inj hy
    exact ⟨d, _, rfl, hd⟩
  | hide _ nonempty run _ _ =>
    obtain ⟨e, secret, rfl⟩ := List.exists_cons_of_ne_nil nonempty
    exact ⟨e, _, rfl, run e (by simp)⟩

/-- Behind a character of a mark, the characters of a mark stand for themselves. -/
theorem of_mark {d : Char} {xs cs out : List Char} (h : Aligned hides (some d) (xs ++ cs) out)
    (hd : d ∈ mark) (hx : ∀ x ∈ xs, x ∈ mark) :
    ∃ rest, out = xs ++ rest ∧ Aligned hides (lastOf (some d) xs) cs rest := by
  induction xs generalizing d out with
  | nil => exact ⟨out, rfl, h⟩
  | cons x xs ih =>
    rw [List.cons_append] at h
    generalize hy : x :: (xs ++ cs) = ys at h
    cases h with
    | done => simp at hy
    | keep rest =>
      obtain ⟨rfl, rfl⟩ := List.cons.inj hy
      obtain ⟨tail, rfl, ht⟩ := ih rest (hx x (by simp)) (fun y hm => hx y (by simp [hm]))
      exact ⟨tail, rfl, ht⟩
    | hide behind => exact absurd hd behind

/-- Behind a character of a mark, an outcome goes on as its text does. -/
theorem head_of_mark {d : Char} {cs out : List Char} (h : Aligned hides (some d) cs out)
    (hd : d ∈ mark) : out.head? = cs.head? := by
  cases h with
  | done => rfl
  | keep _ => rfl
  | hide behind => exact absurd hd behind

end Aligned

theorem Shape.aligned_pass {rule : Rule} (s : Shape rule) (before : Option Char)
    (cs : List Char) : Aligned s.hides before cs (pass rule before 0 cs) := by
  induction before, cs using s.scan with
  | done before => exact .done
  | keep before c cs h ih =>
    rw [pass_keep h]
    exact .keep ih
  | hide before kept secret rest hh hne hs hr ih =>
    rw [s.pass_found hh hne hs hr, List.append_assoc]
    -- The head stands for itself; its last character is none of a mark.
    apply Aligned.keep_all
    obtain ⟨front, c, rfl, hc⟩ := s.last_not_mem hh
    have hl : lastOf before (front ++ [c]) = some c := lastOf_append before front [c]
    rw [lastOf_append, hl] at ih
    rw [hl, lastOf_append, hl]
    exact .hide hc hne hs hr ih

theorem redactChars_eq (cs : List Char) :
    redactChars cs = pass queryRule none 0 (pass namedRule none 0 (pass bearerRule none 0 cs)) :=
  rfl

end NodeAgent.Redaction
