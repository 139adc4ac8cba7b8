import NodeAgent.Number.Power
import NodeAgent.Number.Whole
/-!
The grammar of whole numbers: digits with single underscores between them, a sign in front. A number
is read exactly as it is spelled, and is small enough to be written.

Main results: `ofText?_eq_some_iff`, what is read; `Spells.natAbs_lt`, that it can be written.
-/

namespace NodeAgent.Number

open Text (isDecimal digitValue? ofDigits dropEnds)

/-! ## Digits -/

/-- A text of digits, any two of them joined by an underscore or by none, with the digits alone. -/
inductive Grouped : List Char → List Char → Prop
  | last {c : Char} (h : isDecimal c = true) : Grouped [c] [c]
  | next {c : Char} {cs digits : List Char} (h : isDecimal c = true) (hcs : Grouped cs digits) :
    Grouped (c :: cs) (c :: digits)
  | joined {c : Char} {cs digits : List Char} (h : isDecimal c = true) (hcs : Grouped cs digits) :
    Grouped (c :: '_' :: cs) (c :: digits)

/-- What may stand behind a digit. -/
inductive GroupedBehind : List Char → List Char → Prop
  | nothing : GroupedBehind [] []
  | digits {cs digits : List Char} (h : Grouped cs digits) : GroupedBehind cs digits
  | joined {cs digits : List Char} (h : Grouped cs digits) : GroupedBehind ('_' :: cs) digits

theorem Grouped.first {cs digits : List Char} (h : Grouped cs digits) :
    ∃ c rest, cs = c :: rest ∧ isDecimal c = true := by
  cases h with
  | last h => exact ⟨_, _, rfl, h⟩
  | next h hcs => exact ⟨_, _, rfl, h⟩
  | joined h hcs => exact ⟨_, _, rfl, h⟩

theorem grouped_cons_iff {c : Char} {cs digits : List Char} :
    Grouped (c :: cs) digits ↔
      isDecimal c = true ∧ ∃ behind, digits = c :: behind ∧ GroupedBehind cs behind := by
  constructor
  · intro h
    cases h with
    | last h => exact ⟨h, [], rfl, .nothing⟩
    | next h hcs => exact ⟨h, _, rfl, .digits hcs⟩
    | joined h hcs => exact ⟨h, _, rfl, .joined hcs⟩
  · rintro ⟨h, behind, rfl, hbehind⟩
    cases hbehind with
    | nothing => exact .last h
    | digits hcs => exact .next h hcs
    | joined hcs => exact .joined h hcs

theorem groupedBehind_cons_iff {c : Char} {cs digits : List Char} :
    GroupedBehind (c :: cs) digits ↔ Grouped (c :: cs) digits ∨ (c = '_' ∧ Grouped cs digits) := by
  constructor
  · intro h
    cases h with
    | digits h => exact .inl h
    | joined h => exact .inr ⟨rfl, h⟩
  · rintro (h | ⟨rfl, h⟩)
    · exact .digits h
    · exact .joined h

theorem isDecimal_underscore : isDecimal '_' = false := by decide

/-- Digits are taken exactly as they are grouped. -/
theorem digitRun?_eq_some_iff (cs digits : List Char) :
    (digitRun? false cs = some digits ↔ Grouped cs digits) ∧
      (digitRun? true cs = some digits ↔ GroupedBehind cs digits) := by
  induction cs generalizing digits with
  | nil =>
    constructor
    · simp only [digitRun?, Bool.false_eq_true, if_false, reduceCtorEq, false_iff]
      exact nofun
    · simp only [digitRun?, if_true, Option.some.injEq]
      constructor
      · rintro rfl
        exact .nothing
      · rintro (_ | h | h)
        · rfl
        · exact nomatch h
  | cons c cs ih =>
    rw [groupedBehind_cons_iff, grouped_cons_iff]
    by_cases hc : isDecimal c = true
    · have hne : c ≠ '_' := by
        rintro rfl
        exact absurd hc (by decide)
      have hrun : (digitRun? true cs).map (c :: ·) = some digits ↔
          ∃ behind, digits = c :: behind ∧ GroupedBehind cs behind := by
        simp only [Option.map_eq_some_iff, (ih _).2]
        constructor
        · rintro ⟨behind, h, rfl⟩
          exact ⟨behind, rfl, h⟩
        · rintro ⟨behind, rfl, h⟩
          exact ⟨behind, h, rfl⟩
      simp [digitRun?, hc, hne, hrun]
    · by_cases hne : c = '_'
      · simp [digitRun?, hne, isDecimal_underscore, (ih digits).1]
      · simp [digitRun?, hc, hne]

/-! ## Numbers -/

/-- How whole numbers are spelled: as grouped digits, not too many, with a sign or none. -/
inductive Spells : List Char → Int → Prop
  | unsigned {cs digits : List Char} (h : Grouped cs digits) (hlimit : digits.length ≤ digitLimit) :
    Spells cs (ofDigits digits)
  | positive {cs digits : List Char} (h : Grouped cs digits) (hlimit : digits.length ≤ digitLimit) :
    Spells ('+' :: cs) (ofDigits digits)
  | negative {cs digits : List Char} (h : Grouped cs digits) (hlimit : digits.length ≤ digitLimit) :
    Spells ('-' :: cs) (-(ofDigits digits : Int))

theorem ofNumeral?_eq_some_iff {cs : List Char} {n : Nat} :
    ofNumeral? cs = some n ↔
      ∃ digits, Grouped cs digits ∧ digits.length ≤ digitLimit ∧ ofDigits digits = n := by
  unfold ofNumeral?
  cases hrun : digitRun? false cs with
  | none =>
    simp only [reduceCtorEq, false_iff, not_exists]
    rintro digits ⟨h, -⟩
    rw [(digitRun?_eq_some_iff cs digits).1.mpr h] at hrun
    exact nomatch hrun
  | some found =>
    have hfound := (digitRun?_eq_some_iff cs found).1.mp hrun
    have honly : ∀ digits, Grouped cs digits → digits = found := by
      intro digits h
      rw [(digitRun?_eq_some_iff cs digits).1.mpr h] at hrun
      exact Option.some.inj hrun
    dsimp only
    constructor
    · intro h
      split at h
      · rename_i hlimit
        exact ⟨found, hfound, hlimit, Option.some.inj h⟩
      · exact nomatch h
    · rintro ⟨digits, h, hlimit, rfl⟩
      obtain rfl := honly digits h
      rw [if_pos hlimit]

/-- What begins with a sign is no group of digits. -/
theorem Grouped.unsigned {c : Char} {cs digits : List Char} (h : Grouped (c :: cs) digits) :
    c ≠ '-' ∧ c ≠ '+' := by
  have hc := (grouped_cons_iff.mp h).1
  constructor
  · rintro rfl
    exact absurd hc (by decide)
  · rintro rfl
    exact absurd hc (by decide)

theorem Spells.read {s : String} {n : Int} (h : Spells (dropEnds isMargin s.toList) n) :
    ofText? s = some n := by
  unfold ofText?
  generalize dropEnds isMargin s.toList = cs at h
  cases h with
  | unsigned h hlimit =>
    have hread := ofNumeral?_eq_some_iff.mpr ⟨_, h, hlimit, rfl⟩
    split
    · exact absurd rfl h.unsigned.1
    · exact absurd rfl h.unsigned.2
    · rw [hread]
      rfl
  | positive h hlimit =>
    exact Option.map_eq_some_iff.mpr ⟨_, ofNumeral?_eq_some_iff.mpr ⟨_, h, hlimit, rfl⟩, rfl⟩
  | negative h hlimit =>
    exact Option.map_eq_some_iff.mpr ⟨_, ofNumeral?_eq_some_iff.mpr ⟨_, h, hlimit, rfl⟩, rfl⟩

/-- A text is read as a whole number exactly if it is spelled as one between its margins. -/
theorem ofText?_eq_some_iff {s : String} {n : Int} :
    ofText? s = some n ↔ Spells (dropEnds isMargin s.toList) n := by
  refine ⟨fun hread => ?_, Spells.read⟩
  unfold ofText? at hread
  split at hread
  all_goals
    obtain ⟨m, hm, rfl⟩ := Option.map_eq_some_iff.mp hread
    obtain ⟨digits, hdigits, hlimit, rfl⟩ := ofNumeral?_eq_some_iff.mp hm
  case h_1 cs htext => exact htext ▸ .negative hdigits hlimit
  case h_2 cs htext => exact htext ▸ .positive hdigits hlimit
  case h_3 => exact .unsigned hdigits hlimit

/-! ## Size -/

theorem digitValue?_lt {c : Char} {n : Nat} (h : digitValue? c = some n) : n < 10 := by
  unfold digitValue? at h
  split at h
  · split at h
    · rename_i hdigit
      obtain ⟨-, hlast⟩ := Char.isDigit_iff_toNat.mp hdigit
      rw [show '9'.toNat = 57 from rfl] at hlast
      obtain rfl := Option.some.inj h
      omega
    · exact nomatch h
  · obtain ⟨nought, hfind, rfl⟩ := Option.map_eq_some_iff.mp h
    have := List.find?_some hfind
    simp only [Bool.and_eq_true, decide_eq_true_eq] at this
    omega

theorem tenTo_succ (n : Nat) : tenTo (n + 1) = 10 * tenTo n := by
  rw [tenTo, Nat.pow_eq, Nat.pow_succ, Nat.mul_comm]
  rfl

theorem tenTo_le {n m : Nat} (h : n ≤ m) : tenTo n ≤ tenTo m := Nat.pow_le_pow_right (by decide) h

theorem ofDigits_lt (digits : List Char) : ofDigits digits < tenTo digits.length := by
  have hfold : ∀ (ds : List Char) (n : Nat),
      ds.foldl (fun n c => 10 * n + (digitValue? c).getD 0) n < (n + 1) * tenTo ds.length := by
    intro ds
    induction ds with
    | nil =>
      intro n
      exact Nat.lt_of_lt_of_eq (Nat.lt_succ_self n) (Nat.mul_one (n + 1)).symm
    | cons c ds ih =>
      intro n
      have hc : (digitValue? c).getD 0 < 10 := by
        cases hvalue : digitValue? c with
        | none => decide
        | some d => exact digitValue?_lt hvalue
      calc
        (c :: ds).foldl (fun n c => 10 * n + (digitValue? c).getD 0) n
          < (10 * n + (digitValue? c).getD 0 + 1) * tenTo ds.length := ih _
        _ ≤ ((n + 1) * 10) * tenTo ds.length := Nat.mul_le_mul_right _ (by omega)
        _ = (n + 1) * tenTo (c :: ds).length := by
          rw [List.length_cons, tenTo_succ, Nat.mul_assoc]
  have hall := hfold digits 0
  rwa [Nat.zero_add, Nat.one_mul] at hall

/-- What is read as a whole number is small enough to be written. -/
theorem Spells.natAbs_lt {cs : List Char} {n : Int} (h : Spells cs n) :
    n.natAbs < tenTo digitLimit := by
  have hdigits : ∀ digits : List Char, digits.length ≤ digitLimit →
      ofDigits digits < tenTo digitLimit :=
    fun digits hlimit => Nat.lt_of_lt_of_le (ofDigits_lt digits) (tenTo_le hlimit)
  cases h with
  | unsigned h hlimit => exact hdigits _ hlimit
  | positive h hlimit => exact hdigits _ hlimit
  | negative h hlimit =>
    rw [Int.natAbs_neg]
    exact hdigits _ hlimit

end NodeAgent.Number
