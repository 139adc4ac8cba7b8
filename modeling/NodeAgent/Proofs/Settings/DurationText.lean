import NodeAgent.Proofs.Duration.Grammar
import NodeAgent.Settings.Load
/-!
What the text of a duration comes to. It is read exactly if it is spelled by the grammar, as the sum
of the parts of its one spelling; each other text is refused for one reason, and only a sum that no
span is long enough for is refused as out of range.

Main results: `read_seconds`, the outcome by the sum of the parts; `duration_text_follows_grammar`,
the outcome by the grammar.
-/

namespace NodeAgent.Settings

open Duration (Spelling microsOf? ofMicros? dayMicros dayLimit)
open Text (dropEnds isBlank)

/-- A text without the blanks around it. -/
def trimmed (value : String) : List Char := dropEnds isBlank value.toList

/-- A text without the blanks around it and the plus signs in front. -/
def unsigned (value : String) : List Char := (trimmed value).dropWhile (· == '+')

/-- What so many seconds are read as. -/
inductive Measured (value : String) (seconds : Binary64) : Prop
  | span (micros : Int) (hmicros : microsOf? seconds = some micros)
    (hdays : (micros.fdiv dayMicros).natAbs ≤ dayLimit) (hread : readDuration value = .ok ⟨micros⟩)
  | tooLong (micros : Int) (hmicros : microsOf? seconds = some micros)
    (hdays : dayLimit < (micros.fdiv dayMicros).natAbs)
    (hread : readDuration value = .error (.durationOutOfRange value))
  | unbounded (hseconds : seconds = .infinite false)
    (hread : readDuration value = .error (.durationOutOfRange value))

/-- What the text of a duration comes to. -/
structure FollowsGrammar (value : String) : Prop where
  empty : trimmed value = [] → readDuration value = .error .durationEmpty
  negative : (trimmed value).head? = some '-' →
    readDuration value = .error (.durationNegative value)
  malformed : trimmed value ≠ [] → (trimmed value).head? ≠ some '-' →
    (∀ spelling : Spelling, spelling.text ≠ unsigned value) →
    readDuration value = .error (.durationMalformed value)
  /-- A spelled text has one spelling, and its seconds are what is read. -/
  spelled : ∀ spelling : Spelling, spelling.text = unsigned value →
    (∀ other : Spelling, other.text = unsigned value → other = spelling) ∧
      Measured value spelling.seconds

/-- A text that is neither empty nor negative is read by its seconds. -/
theorem read_seconds {value : String} (hsome : trimmed value ≠ [])
    (hsign : (trimmed value).head? ≠ some '-') :
    Duration.read value =
      match Duration.seconds? (unsigned value) with
      | some seconds =>
        match Duration.ofBinary64? seconds with
        | some duration => .ok duration
        | none => .error .outOfRange
      | none => .error .malformed := by
  unfold Duration.read
  split
  · rename_i htext
    exact absurd htext hsome
  · rename_i htext
    exact absurd (congrArg List.head? htext) hsign
  · rfl

theorem measured_of_seconds {value : String} {seconds : Binary64}
    (hnonneg : Binary64.IsNonneg seconds)
    (hread : readDuration value =
      match Duration.ofBinary64? seconds with
      | some duration => .ok duration
      | none => .error (.durationOutOfRange value)) : Measured value seconds := by
  cases hnonneg with
  | infinite => exact .unbounded rfl hread
  | finite m e =>
    obtain ⟨micros, hmicros⟩ := Duration.microsOf?_finite m e
    simp only [Duration.ofBinary64?, hmicros, Option.bind_some, ofMicros?] at hread
    by_cases hdays : (micros.fdiv dayMicros).natAbs ≤ dayLimit
    · rw [if_pos hdays] at hread
      exact .span micros hmicros hdays hread
    · rw [if_neg hdays] at hread
      exact .tooLong micros hmicros (by omega) hread

/-- A spelled text is neither empty nor negative. -/
theorem trimmed_of_spelling {value : String} {spelling : Spelling}
    (h : spelling.text = unsigned value) :
    trimmed value ≠ [] ∧ (trimmed value).head? ≠ some '-' := by
  obtain ⟨c, cs, htext, hc⟩ := spelling.first
  rw [htext, unsigned] at h
  cases htrimmed : trimmed value with
  | nil => simp [htrimmed] at h
  | cons d ds =>
    refine ⟨by simp, ?_⟩
    simp only [List.head?_cons, ne_eq, Option.some.injEq]
    rintro rfl
    rw [htrimmed, List.dropWhile_cons_of_neg (by decide)] at h
    rw [(List.cons.inj h).1] at hc
    exact absurd hc (by decide)

/-- The text of a duration is read exactly if it is spelled by the grammar of durations, and as the
sum of the parts of its one spelling; it is refused as out of range only if that sum is no span. -/
theorem duration_text_follows_grammar (value : String) : FollowsGrammar value where
  empty h := by
    unfold readDuration Duration.read
    rw [show dropEnds isBlank value.toList = [] from h]
  negative h := by
    obtain ⟨cs, htext⟩ := List.head?_eq_some_iff.mp h
    unfold readDuration Duration.read
    rw [show dropEnds isBlank value.toList = '-' :: cs from htext]
    rfl
  malformed hsome hsign hspelling := by
    cases hseconds : Duration.seconds? (unsigned value) with
    | none => simp only [readDuration, read_seconds hsome hsign, hseconds]
    | some seconds =>
      obtain ⟨spelling, htext, -⟩ := Duration.seconds?_spelling hseconds
      exact absurd htext (hspelling spelling)
  spelled spelling htext := by
    refine ⟨fun other hother => Spelling.text_injective (hother.trans htext.symm), ?_⟩
    obtain ⟨hsome, hsign⟩ := trimmed_of_spelling htext
    refine measured_of_seconds spelling.seconds_nonneg ?_
    simp only [readDuration, read_seconds hsome hsign, ← htext, Duration.seconds?_text]
    cases Duration.ofBinary64? spelling.seconds with
    | some duration => rfl
    | none => rfl

example : (readDuration " +1h.5ms ").toOption = some ⟨3600000500⟩ := by decide +kernel

end NodeAgent.Settings
