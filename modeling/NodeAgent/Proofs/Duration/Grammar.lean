import NodeAgent.Proofs.Duration.Seconds
import NodeAgent.Proofs.Text.Run
/-!
The grammar of durations. A duration is spelled as a bare numeral or as numerals with units, in one
way only. The search for parts accepts the spelled texts and no others, and adds up the parts of the
spelling, each once and in their order.

Main results: `Spelling.text_injective`, one spelling for a text; `seconds?_text` and
`seconds?_spelling`, the search by the grammar.
-/

namespace NodeAgent.Duration

open Text (Stops takeWhile_run dropWhile_run mem_takeWhile isDecimal)

/-! ## Spellings -/

/-- Decimal digits of any script, at least one. -/
structure IsDigits (cs : List Char) : Prop where
  some : cs ≠ []
  all : ∀ c ∈ cs, isDecimal c = true

/-- How numerals are spelled: as digits with an optional point and optional further digits, or as a
point and digits. -/
inductive Numeral.Spells : Numeral → List Char → Prop
  | whole {digits : List Char} (h : IsDigits digits) : Spells ⟨digits, []⟩ digits
  | pointed {digits further : List Char} (h : IsDigits digits)
    (hfurther : ∀ c ∈ further, isDecimal c = true) :
    Spells ⟨digits, further⟩ (digits ++ '.' :: further)
  | bare {digits : List Char} (h : IsDigits digits) : Spells ⟨[], digits⟩ ('.' :: digits)

/-- The units by their names. -/
def unitNames : List (List Char × Measure) :=
  [(['n', 's'], .nanosecond), (['u', 's'], .microsecond), (['µ', 's'], .microsecond),
   (['m', 's'], .millisecond), (['s'], .second), (['m'], .minute), (['h'], .hour)]

/-- A part as it is spelled: a numeral and the name of a unit. -/
structure SpelledPart where
  part : Part
  numeral : List Char
  unit : List Char
  spells : part.number.Spells numeral
  named : (unit, part.measure) ∈ unitNames

def SpelledPart.text (spelled : SpelledPart) : List Char := spelled.numeral ++ spelled.unit

/-- How a duration is spelled: as a bare numeral, which counts seconds, or as at least one part. -/
inductive Spelling
  | bare (number : Numeral) (numeral : List Char) (spells : number.Spells numeral)
  | parts (spelled : List SpelledPart) (some : spelled ≠ [])

namespace Spelling

def text : Spelling → List Char
  | bare _ numeral _ => numeral
  | parts spelled _ => spelled.flatMap SpelledPart.text

/-- The seconds that a spelling denotes: those of its numeral, or the sum of its parts. -/
def seconds : Spelling → Binary64
  | bare number _ _ => number.value
  | parts spelled _ => sum (spelled.map fun spelled => spelled.part.seconds)

end Spelling

/-! ## Numerals -/

/-- Whether a character goes on with a numeral, or begins one. -/
def isOfNumeral (c : Char) : Bool := isDecimal c || c == '.'

theorem stops_decimal {cs : List Char} (h : Stops isOfNumeral cs) : Stops isDecimal cs := by
  intro c hc
  have := h c hc
  simp only [isOfNumeral, Bool.or_eq_false_iff] at this
  exact this.1

theorem stops_point (cs : List Char) : Stops isDecimal ('.' :: cs) := Stops.cons (by decide)

namespace Numeral.Spells

theorem first {number : Numeral} {numeral : List Char} (h : number.Spells numeral) :
    ∃ c cs, numeral = c :: cs ∧ isOfNumeral c = true := by
  have hdigits : ∀ {digits : List Char}, IsDigits digits →
      ∃ c cs, digits = c :: cs ∧ isOfNumeral c = true := by
    intro digits h
    obtain ⟨c, cs, rfl⟩ := List.exists_cons_of_ne_nil h.some
    exact ⟨c, cs, rfl, by simp [isOfNumeral, h.all c List.mem_cons_self]⟩
  cases h with
  | whole h => exact hdigits h
  | pointed h hfurther =>
    obtain ⟨c, cs, rfl, hc⟩ := hdigits h
    exact ⟨c, _, rfl, hc⟩
  | bare h => exact ⟨'.', _, rfl, rfl⟩

/-- A numeral is read to its end. -/
theorem numeral?_append {number : Numeral} {numeral : List Char} (h : number.Spells numeral)
    {rest : List Char} (hrest : Stops isOfNumeral rest) :
    numeral? (numeral ++ rest) = some (number, rest) := by
  have hstop := stops_decimal hrest
  cases h with
  | whole h =>
    unfold numeral?
    rw [takeWhile_run h.all hstop, dropWhile_run h.all hstop]
    dsimp only
    split
    · exact absurd hrest.head (by decide)
    · simp [h.some]
  | @pointed digits further h hfurther =>
    have happend : digits ++ '.' :: further ++ rest = digits ++ '.' :: (further ++ rest) := by simp
    unfold numeral?
    rw [happend, takeWhile_run h.all (stops_point _), dropWhile_run h.all (stops_point _)]
    simp [takeWhile_run hfurther hstop, dropWhile_run hfurther hstop, h.some]
  | bare h =>
    unfold numeral?
    rw [List.cons_append, (stops_point _).takeWhile_eq, (stops_point _).dropWhile_eq]
    simp [takeWhile_run h.all hstop, dropWhile_run h.all hstop, h.some]

theorem numeral?_whole {number : Numeral} {numeral : List Char} (h : number.Spells numeral) :
    numeral? numeral = some (number, []) := by
  have hstop : Stops isOfNumeral [] := nofun
  simpa using h.numeral?_append hstop

end Numeral.Spells

/-- What is read as a numeral is spelled as one. -/
theorem numeral?_spells {cs rest : List Char} {number : Numeral}
    (h : numeral? cs = some (number, rest)) :
    ∃ numeral, number.Spells numeral ∧ cs = numeral ++ rest := by
  have hdigits : ∀ c ∈ cs.takeWhile isDecimal, isDecimal c = true := fun c => mem_takeWhile
  have hcs : cs = cs.takeWhile isDecimal ++ cs.dropWhile isDecimal :=
    List.takeWhile_append_dropWhile.symm
  unfold numeral? at h
  dsimp only at h
  generalize cs.takeWhile isDecimal = whole at h hdigits hcs
  split at h
  · rename_i behind hpoint
    have hfurther : ∀ c ∈ behind.takeWhile isDecimal, isDecimal c = true := fun c => mem_takeWhile
    have hbehind : behind = behind.takeWhile isDecimal ++ behind.dropWhile isDecimal :=
      List.takeWhile_append_dropWhile.symm
    generalize behind.takeWhile isDecimal = further at h hfurther hbehind
    split at h
    · simp at h
    · rename_i hsome
      simp only [Option.some.injEq, Prod.mk.injEq] at h
      obtain ⟨rfl, rfl⟩ := h
      rw [hpoint] at hcs
      by_cases hwhole : whole = []
      · subst hwhole
        refine ⟨'.' :: further, .bare ⟨by simpa using hsome, hfurther⟩, ?_⟩
        rw [hcs, List.nil_append, List.cons_append, ← hbehind]
      · refine ⟨whole ++ '.' :: further, .pointed ⟨hwhole, hdigits⟩ hfurther, ?_⟩
        rw [hcs, List.append_assoc, List.cons_append, ← hbehind]
  · split at h
    · simp at h
    · rename_i hsome
      simp only [Option.some.injEq, Prod.mk.injEq] at h
      obtain ⟨rfl, rfl⟩ := h
      exact ⟨whole, .whole ⟨by simpa using hsome, hdigits⟩, hcs⟩

/-! ## Units -/

theorem unit_stops {unit : List Char} {measure : Measure} (h : (unit, measure) ∈ unitNames)
    (rest : List Char) : Stops isOfNumeral (unit ++ rest) := by
  simp only [unitNames, List.mem_cons, Prod.mk.injEq, List.not_mem_nil, or_false] at h
  rcases h with ⟨rfl, -⟩ | ⟨rfl, -⟩ | ⟨rfl, -⟩ | ⟨rfl, -⟩ | ⟨rfl, -⟩ | ⟨rfl, -⟩ | ⟨rfl, -⟩
  all_goals exact Stops.cons (by decide)

theorem unit_ne_nil {unit : List Char} {measure : Measure} (h : (unit, measure) ∈ unitNames) :
    unit ≠ [] := by
  rintro rfl
  exact absurd h (by simp [unitNames])

theorem measure?_append {unit : List Char} {measure : Measure} (h : (unit, measure) ∈ unitNames)
    {rest : List Char} (hrest : Stops (· == 's') rest) :
    measure? (unit ++ rest) = some (measure, rest) := by
  simp only [unitNames, List.mem_cons, Prod.mk.injEq, List.not_mem_nil, or_false] at h
  rcases h with ⟨rfl, rfl⟩ | ⟨rfl, rfl⟩ | ⟨rfl, rfl⟩ | ⟨rfl, rfl⟩ | ⟨rfl, rfl⟩ | ⟨rfl, rfl⟩ |
    ⟨rfl, rfl⟩
  case inr.inr.inr.inr.inr.inl =>
    -- The name of the minute is the only one that another name goes on from.
    cases rest with
    | nil => rfl
    | cons c rest =>
      have hc : c ≠ 's' := by simpa using hrest.head
      simp [measure?, hc]
  all_goals rfl

theorem measure?_named {cs rest : List Char} {measure : Measure}
    (h : measure? cs = some (measure, rest)) :
    ∃ unit, (unit, measure) ∈ unitNames ∧ cs = unit ++ rest := by
  unfold measure? at h
  split at h
  case h_8 => simp at h
  all_goals
    simp only [Option.some.injEq, Prod.mk.injEq] at h
    obtain ⟨rfl, rfl⟩ := h
  · exact ⟨['n', 's'], by simp [unitNames], rfl⟩
  · exact ⟨['u', 's'], by simp [unitNames], rfl⟩
  · exact ⟨['µ', 's'], by simp [unitNames], rfl⟩
  · exact ⟨['m', 's'], by simp [unitNames], rfl⟩
  · exact ⟨['s'], by simp [unitNames], rfl⟩
  · exact ⟨['m'], by simp [unitNames], rfl⟩
  · exact ⟨['h'], by simp [unitNames], rfl⟩

/-! ## Parts -/

theorem part?_eq_some_iff {cs rest : List Char} {part : Part} :
    part? cs = some (part, rest) ↔
      ∃ behind, numeral? cs = some (part.number, behind) ∧
        measure? behind = some (part.measure, rest) := by
  unfold part?
  cases hnumeral : numeral? cs with
  | none => simp
  | some found =>
    obtain ⟨number, behind⟩ := found
    cases hmeasure : measure? behind with
    | none => simp [hmeasure]
    | some found =>
      obtain ⟨measure, after⟩ := found
      cases part
      simp [hmeasure, and_assoc]

namespace SpelledPart

theorem first (spelled : SpelledPart) (rest : List Char) :
    ∃ c cs, spelled.text ++ rest = c :: cs ∧ isOfNumeral c = true := by
  obtain ⟨c, cs, hnumeral, hc⟩ := spelled.spells.first
  exact ⟨c, cs ++ spelled.unit ++ rest, by simp [text, hnumeral], hc⟩

/-- Behind a spelled part the text ends, or another part begins. -/
theorem stops (spelled : List SpelledPart) : Stops (· == 's') (spelled.flatMap text) := by
  cases spelled with
  | nil => exact nofun
  | cons next rest =>
    obtain ⟨c, cs, htext, hc⟩ := next.first (rest.flatMap text)
    rw [List.flatMap_cons, htext]
    refine Stops.cons ?_
    rw [beq_eq_false_iff_ne]
    rintro rfl
    exact absurd hc (by decide)

theorem part?_append (spelled : SpelledPart) {rest : List Char} (hrest : Stops (· == 's') rest) :
    numeral? (spelled.text ++ rest) = some (spelled.part.number, spelled.unit ++ rest) ∧
      part? (spelled.text ++ rest) = some (spelled.part, rest) := by
  have hnumeral : numeral? (spelled.text ++ rest) =
      some (spelled.part.number, spelled.unit ++ rest) := by
    rw [text, List.append_assoc]
    exact spelled.spells.numeral?_append (unit_stops spelled.named rest)
  exact ⟨hnumeral, part?_eq_some_iff.mpr ⟨_, hnumeral, measure?_append spelled.named hrest⟩⟩

end SpelledPart

theorem part?_spelled {cs rest : List Char} {part : Part} (h : part? cs = some (part, rest)) :
    ∃ spelled : SpelledPart, spelled.part = part ∧ cs = spelled.text ++ rest := by
  obtain ⟨behind, hnumeral, hmeasure⟩ := part?_eq_some_iff.mp h
  obtain ⟨numeral, spells, hcs⟩ := numeral?_spells hnumeral
  obtain ⟨unit, named, hbehind⟩ := measure?_named hmeasure
  refine ⟨⟨part, numeral, unit, spells, named⟩, rfl, ?_⟩
  rw [hcs, hbehind, SpelledPart.text, List.append_assoc]

/-! ## Uniqueness -/

/-- In front of texts that do not go on with a unit, one part only is spelled. -/
theorem SpelledPart.eq_of_append {p q : SpelledPart} {pRest qRest : List Char}
    (hp : Stops (· == 's') pRest) (hq : Stops (· == 's') qRest)
    (h : p.text ++ pRest = q.text ++ qRest) : p = q ∧ pRest = qRest := by
  obtain ⟨hpNumeral, hpPart⟩ := p.part?_append hp
  obtain ⟨hqNumeral, hqPart⟩ := q.part?_append hq
  rw [h, hqNumeral] at hpNumeral
  rw [h, hqPart] at hpPart
  simp only [Option.some.injEq, Prod.mk.injEq] at hpNumeral hpPart
  obtain ⟨hpart, rfl⟩ := hpPart
  have hunit : q.unit = p.unit := List.append_cancel_right hpNumeral.2
  have hnumeral : p.numeral = q.numeral := by
    simp only [SpelledPart.text, hunit, List.append_assoc] at h
    exact List.append_cancel_right h
  obtain ⟨part, numeral, unit, _, _⟩ := p
  obtain ⟨part', numeral', unit', _, _⟩ := q
  simp only at hpart hunit hnumeral
  subst hpart hunit hnumeral
  exact ⟨rfl, rfl⟩

/-- Parts that follow one another are spelled by no other parts. -/
theorem SpelledPart.eq_of_flatMap {ps qs : List SpelledPart}
    (h : ps.flatMap SpelledPart.text = qs.flatMap SpelledPart.text) : ps = qs := by
  induction ps generalizing qs with
  | nil =>
    cases qs with
    | nil => rfl
    | cons q qs =>
      obtain ⟨c, cs, htext, -⟩ := q.first (qs.flatMap SpelledPart.text)
      simp [List.flatMap_cons, htext] at h
  | cons p ps ih =>
    cases qs with
    | nil =>
      obtain ⟨c, cs, htext, -⟩ := p.first (ps.flatMap SpelledPart.text)
      simp [List.flatMap_cons, htext] at h
    | cons q qs =>
      rw [List.flatMap_cons, List.flatMap_cons] at h
      obtain ⟨rfl, hrest⟩ := SpelledPart.eq_of_append (stops ps) (stops qs) h
      rw [ih hrest]

/-- A bare numeral spells no parts: behind the first numeral of parts stands a unit. -/
theorem Spelling.bare_ne_parts {number : Numeral} {numeral : List Char}
    (spells : number.Spells numeral) {spelled : List SpelledPart} (some : spelled ≠ []) :
    numeral ≠ spelled.flatMap SpelledPart.text := by
  intro h
  obtain ⟨first, rest, rfl⟩ := List.exists_cons_of_ne_nil some
  have hbare := spells.numeral?_whole
  have hparts := (first.part?_append (SpelledPart.stops rest)).1
  rw [h, List.flatMap_cons, hparts] at hbare
  simp only [Option.some.injEq, Prod.mk.injEq, List.append_eq_nil_iff] at hbare
  exact unit_ne_nil first.named hbare.2.1

/-- A text spells a duration in one way at most. -/
theorem Spelling.text_injective : Function.Injective Spelling.text := by
  intro s t h
  cases s with
  | bare number numeral spells =>
    cases t with
    | bare number' numeral' spells' =>
      change numeral = numeral' at h
      have hs := spells.numeral?_whole
      have ht := spells'.numeral?_whole
      rw [h, ht] at hs
      simp only [Option.some.injEq, Prod.mk.injEq, and_true] at hs
      subst h hs
      rfl
    | parts spelled some => exact absurd h (bare_ne_parts spells some)
  | parts spelled some =>
    cases t with
    | bare number numeral spells => exact absurd h.symm (bare_ne_parts spells some)
    | parts spelled' some' =>
      obtain rfl := SpelledPart.eq_of_flatMap h
      rfl

/-! ## The search for parts -/

/-- The next part has no gap before it exactly if it is ahead. -/
theorem nextPart?_zero_iff {cs rest : List Char} {part : Part} :
    nextPart? cs = some (0, part, rest) ↔ part? cs = some (part, rest) := by
  cases cs with
  | nil => simp [nextPart?, part?, numeral?]
  | cons c cs =>
    unfold nextPart?
    cases part? (c :: cs) with
    | some found =>
      obtain ⟨found, behind⟩ := found
      simp
    | none => simp

/-- The sum of spelled parts, on top of another sum. -/
def sumFrom (total : Binary64) (spelled : List SpelledPart) : Binary64 :=
  (spelled.map fun spelled => spelled.part.seconds).foldl Binary64.add total

/-- Parts that follow one another are all added up. -/
theorem addParts_spelled (spelled : List SpelledPart) {fuel : Nat} (total : Binary64)
    (hfuel : (spelled.flatMap SpelledPart.text).length ≤ fuel) :
    addParts fuel total (spelled.flatMap SpelledPart.text) = (sumFrom total spelled, []) := by
  induction spelled generalizing fuel total with
  | nil =>
    cases fuel with
    | zero => rfl
    | succ fuel => rfl
  | cons next rest ih =>
    obtain ⟨c, cs, htext, -⟩ := next.first (rest.flatMap SpelledPart.text)
    rw [List.flatMap_cons] at hfuel ⊢
    cases fuel with
    | zero => simp [htext] at hfuel
    | succ fuel =>
      have hpart := (next.part?_append (SpelledPart.stops rest)).2
      have hshort : (rest.flatMap SpelledPart.text).length ≤ fuel := by
        obtain ⟨d, ds, hnext, -⟩ := next.first []
        rw [List.append_nil] at hnext
        rw [hnext] at hfuel
        simp only [List.cons_append, List.length_cons, List.length_append] at hfuel
        omega
      unfold addParts
      rw [nextPart?_zero_iff.mpr hpart]
      exact ih _ hshort

/-- What the search adds up are parts that follow one another from the beginning of the text on. -/
theorem addParts_adds (fuel : Nat) (total : Binary64) (cs : List Char) :
    ∃ spelled : List SpelledPart,
      cs = spelled.flatMap SpelledPart.text ++ (addParts fuel total cs).2 ∧
        (addParts fuel total cs).1 = sumFrom total spelled := by
  induction fuel generalizing total cs with
  | zero => exact ⟨[], rfl, rfl⟩
  | succ fuel ih =>
    unfold addParts
    split
    · rename_i part rest hnext
      obtain ⟨first, rfl, hcs⟩ := part?_spelled (nextPart?_zero_iff.mp hnext)
      obtain ⟨spelled, hrest, hsum⟩ := ih (total.add first.part.seconds) rest
      refine ⟨first :: spelled, ?_, hsum⟩
      rw [List.flatMap_cons, List.append_assoc, ← hrest, hcs]
    · exact ⟨[], rfl, rfl⟩

/-! ## Reading -/

/-- A spelled duration is read as the seconds of its spelling. -/
theorem seconds?_text (spelling : Spelling) :
    seconds? spelling.text = some spelling.seconds := by
  cases spelling with
  | bare number numeral spells =>
    simp only [seconds?, Spelling.text, spells.numeral?_whole]
    rfl
  | parts spelled some =>
    obtain ⟨first, rest, rfl⟩ := List.exists_cons_of_ne_nil some
    have hnumeral := (first.part?_append (SpelledPart.stops rest)).1
    have hsum := addParts_spelled (first :: rest) (Binary64.zero false) (Nat.le_refl _)
    obtain ⟨c, cs, hunit⟩ := List.exists_cons_of_ne_nil (unit_ne_nil first.named)
    obtain ⟨d, ds, htext, -⟩ := first.first (rest.flatMap SpelledPart.text)
    rw [hunit, List.cons_append] at hnumeral
    rw [List.flatMap_cons] at hsum
    unfold seconds?
    simp only [Spelling.text, List.flatMap_cons, hnumeral, hsum]
    simp [htext, sumFrom, Spelling.seconds, sum]

/-- What a duration is spelled with first is a digit or a point. -/
theorem Spelling.first (spelling : Spelling) :
    ∃ c cs, spelling.text = c :: cs ∧ isOfNumeral c = true := by
  cases spelling with
  | bare number numeral spells => exact spells.first
  | parts spelled some =>
    obtain ⟨first, rest, rfl⟩ := List.exists_cons_of_ne_nil some
    exact first.first (rest.flatMap SpelledPart.text)

theorem Spelling.seconds_nonneg (spelling : Spelling) : Binary64.IsNonneg spelling.seconds := by
  cases spelling with
  | bare number numeral spells => exact number.value_nonneg
  | parts spelled some =>
    refine sum_nonneg fun x hx => ?_
    obtain ⟨part, -, rfl⟩ := List.mem_map.mp hx
    exact part.part.seconds_nonneg

/-- What is read as a duration is spelled as one, and its seconds are those of its spelling. -/
theorem seconds?_spelling {cs : List Char} {seconds : Binary64} (h : seconds? cs = some seconds) :
    ∃ spelling : Spelling, spelling.text = cs ∧ spelling.seconds = seconds := by
  unfold seconds? at h
  split at h
  · rename_i number hnumeral
    obtain ⟨numeral, spells, hcs⟩ := numeral?_spells hnumeral
    rw [List.append_nil] at hcs
    exact ⟨.bare number numeral spells, hcs.symm, Option.some.inj h⟩
  · dsimp only at h
    obtain ⟨spelled, hcs, hsum⟩ := addParts_adds cs.length (Binary64.zero false) cs
    split at h
    · simp at h
    · rename_i htaken
      -- Nothing is left of the text, but something was taken of it.
      simp only [Bool.or_eq_true, decide_eq_true_eq, Bool.not_eq_eq_eq_not, Bool.not_true,
        not_or, Bool.not_eq_false, List.isEmpty_iff] at htaken
      obtain ⟨hsome, hrest⟩ := htaken
      rw [hrest, List.append_nil] at hcs
      have hspelled : spelled ≠ [] := by
        rintro rfl
        rw [hrest, hcs] at hsome
        exact hsome rfl
      refine ⟨.parts spelled hspelled, hcs.symm, ?_⟩
      rw [← Option.some.inj h, hsum]
      rfl

end NodeAgent.Duration
