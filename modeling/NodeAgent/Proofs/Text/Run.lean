import NodeAgent.Text.Blank
/-!
Runs of characters of a kind: what a reader takes that goes on as long as there is one more of them,
and what is left when they are dropped.

Main results: `takeWhile_run` and `dropWhile_run`, a run and what is behind it; `Stops`, where none
goes on.
-/

namespace NodeAgent.Text

/-- Whether a text does not begin with a character of a kind. -/
def Stops (p : Char → Bool) (cs : List Char) : Prop := ∀ c ∈ cs.head?, p c = false

namespace Stops

variable {p : Char → Bool} {cs : List Char}

theorem cons {c : Char} (h : p c = false) : Stops p (c :: cs) := by
  intro d hd
  simp at hd
  exact hd ▸ h

theorem head {c : Char} (h : Stops p (c :: cs)) : p c = false := h c rfl

theorem takeWhile_eq (h : Stops p cs) : cs.takeWhile p = [] := by
  cases cs with
  | nil => rfl
  | cons c cs => simp [h.head]

theorem dropWhile_eq (h : Stops p cs) : cs.dropWhile p = cs := by
  cases cs with
  | nil => rfl
  | cons c cs => simp [h.head]

theorem dropWhile : Stops p (cs.dropWhile p) := by
  intro c hc
  have := List.head?_dropWhile_not p cs
  rw [Option.mem_def.mp hc] at this
  simpa using this

end Stops

theorem takeWhile_run {p : Char → Bool} {run rest : List Char} (hr : ∀ c ∈ run, p c = true)
    (hs : Stops p rest) : (run ++ rest).takeWhile p = run := by
  rw [List.takeWhile_append_of_pos hr, hs.takeWhile_eq, List.append_nil]

theorem dropWhile_run {p : Char → Bool} {run rest : List Char} (hr : ∀ c ∈ run, p c = true)
    (hs : Stops p rest) : (run ++ rest).dropWhile p = rest := by
  rw [List.dropWhile_append_of_pos hr, hs.dropWhile_eq]

theorem mem_takeWhile {p : Char → Bool} {cs : List Char} {c : Char} (h : c ∈ cs.takeWhile p) :
    p c = true :=
  List.all_eq_true.mp List.all_takeWhile c h

theorem takeWhile_ne_nil {p : Char → Bool} {cs : List Char} (h : cs.takeWhile p ≠ []) :
    ∃ c rest, cs = c :: rest ∧ p c = true := by
  cases cs with
  | nil => simp at h
  | cons c rest =>
    refine ⟨c, rest, rfl, ?_⟩
    by_cases hc : p c = true
    · exact hc
    · simp [hc] at h

theorem stops_dropEnds (p : Char → Bool) (cs : List Char) : Stops p (dropEnds p cs) := by
  have hkept : dropEnds p cs <+: cs.dropWhile p := by
    rw [← List.reverse_suffix, dropEnds, dropTrailing, List.reverse_reverse]
    exact List.dropWhile_suffix p
  obtain ⟨dropped, happend⟩ := hkept
  have hstops : Stops p (cs.dropWhile p) := Stops.dropWhile
  rw [← happend] at hstops
  intro c hc
  exact hstops c (by rw [List.head?_append, Option.mem_def.mp hc]; rfl)

theorem stops_dropEnds_reverse (p : Char → Bool) (cs : List Char) :
    Stops p (dropEnds p cs).reverse := by
  rw [dropEnds, dropTrailing, List.reverse_reverse]
  exact Stops.dropWhile

/-- What has nothing to drop at either end stays as it is. -/
theorem dropEnds_of_stops {p : Char → Bool} {cs : List Char} (hfront : Stops p cs)
    (hback : Stops p cs.reverse) : dropEnds p cs = cs := by
  rw [dropEnds, hfront.dropWhile_eq, dropTrailing, hback.dropWhile_eq, List.reverse_reverse]

end NodeAgent.Text
