import Mathlib.Data.List.Forall2
import NodeAgent.Text.Blank
/-!
The parts of a text between separators, and its words, which are the parts between blanks that are
not empty. Parts are added to at the front by what separates nothing, and words are parted by every
blank.

Main results: `splitWhere_eq`, the parts as those of the library; `words_append` and `words_run`.
-/

namespace NodeAgent.Text

variable {α : Type} {p : α → Bool}

/-! ## Parts -/

/-- The parts of a list are those into which it is split. -/
theorem splitWhere_eq (p : α → Bool) (xs : List α) : splitWhere p xs = xs.splitOnP p := by
  have aux : ∀ part : List α,
      splitAux p part xs = (xs.splitOnP p).modifyHead (part.reverse ++ ·) := by
    induction xs with
    | nil => simp [splitAux]
    | cons x xs ih =>
      intro part
      rw [splitAux, List.splitOnP_cons_eq_if_modifyHead]
      split
      · rw [ih, List.modifyHead_cons, List.append_nil]
        exact congrArg (part.reverse :: ·) (congrFun List.modifyHead_id _)
      · rw [ih, List.modifyHead_modifyHead]
        congr 1
        funext front
        simp
  exact (aux []).trans (congrFun List.modifyHead_id _)

theorem splitWhere_cons {x : α} (h : p x = true) (xs : List α) :
    splitWhere p (x :: xs) = [] :: splitWhere p xs := by
  rw [splitWhere_eq, splitWhere_eq, List.splitOnP_cons_eq_if_modifyHead, if_pos h]

/-- What separates nothing stands in front of the first part. -/
theorem splitWhere_run {run : List α} (h : ∀ x ∈ run, p x = false) (xs : List α) :
    splitWhere p (run ++ xs) = (splitWhere p xs).modifyHead (run ++ ·) := by
  induction run with
  | nil => exact (congrFun List.modifyHead_id _).symm
  | cons x run ih =>
    have hx : ¬ p x = true := by simp [h x List.mem_cons_self]
    have ih := ih fun y hy => h y (List.mem_cons_of_mem x hy)
    rw [List.cons_append, splitWhere_eq, List.splitOnP_cons_eq_if_modifyHead, if_neg hx,
      ← splitWhere_eq, ih, List.modifyHead_modifyHead]
    rfl

/-- A list has one part more than it has separators. -/
theorem length_splitWhere (p : α → Bool) (xs : List α) :
    (splitWhere p xs).length = (xs.filter p).length + 1 := by
  induction xs with
  | nil => rfl
  | cons x xs ih =>
    cases hx : p x with
    | true => simp [splitWhere_cons hx, hx, ih]
    | false =>
      have hrun : ∀ y ∈ [x], p y = false := by simp [hx]
      have hsplit : splitWhere p (x :: xs) = (splitWhere p xs).modifyHead ([x] ++ ·) :=
        splitWhere_run hrun xs
      simp [hsplit, hx, ih]

/-! ## Words -/

/-- A blank parts the words in front of it from those behind it. -/
theorem words_append {b : Char} (h : isBlank b = true) (xs ys : List Char) :
    words (xs ++ b :: ys) = words xs ++ words ys := by
  simp only [words, splitWhere_eq]
  rw [List.splitOnP_append_cons xs ys h, List.filter_append]

/-- A text without blanks is a word. -/
theorem words_run {run : List Char} (hne : run ≠ []) (h : ∀ c ∈ run, isBlank c = false) :
    words run = [run] := by
  rw [words, splitWhere_eq, List.splitOnP_eq_singleton h]
  simp [hne]

end NodeAgent.Text
