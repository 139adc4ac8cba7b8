import NodeAgent.Number.Shortest
import NodeAgent.Text.Quoted
/-!
Visible characters: the blank and the characters of ASCII that leave a mark. Numbers in every
notation are written in them, and so are escapes.

Main results: `visible_int`, `visible_real` and `visible_codeEscape`.
-/

namespace NodeAgent.Text

/-- Whether a character is the blank or a character of ASCII that leaves a mark. -/
def isVisible (c : Char) : Bool := 0x20 ≤ c.toNat && c.toNat ≤ 0x7e

/-- Whether all characters of a text are visible. -/
def Visible (cs : List Char) : Prop := ∀ c ∈ cs, isVisible c = true

instance (cs : List Char) : Decidable (Visible cs) :=
  decidable_of_iff (cs.all isVisible = true) List.all_eq_true

@[simp] theorem visible_nil : Visible [] := by simp [Visible]

@[simp] theorem visible_cons {c : Char} {cs : List Char} :
    Visible (c :: cs) ↔ isVisible c = true ∧ Visible cs := by
  simp [Visible]

@[simp] theorem visible_append {cs ds : List Char} :
    Visible (cs ++ ds) ↔ Visible cs ∧ Visible ds := by
  simp [Visible, or_imp, forall_and]

theorem visible_flatMap {α : Type} {xs : List α} {f : α → List Char} (h : ∀ x ∈ xs, Visible (f x)) :
    Visible (xs.flatMap f) := by
  intro c hc
  obtain ⟨x, hx, hmem⟩ := List.mem_flatMap.mp hc
  exact h x hx c hmem

theorem visible_replicate {c : Char} (h : isVisible c = true) (n : Nat) :
    Visible (List.replicate n c) := by
  intro d hd
  rw [List.eq_of_mem_replicate hd]
  exact h

theorem Visible.of_subset {cs ds : List Char} (h : Visible ds) (hsub : cs ⊆ ds) : Visible cs :=
  fun c hc => h c (hsub hc)

/-! ## Digits -/

theorem visible_digitChar : ∀ d < 16, isVisible (Nat.digitChar d) = true := by decide

theorem visible_hexDigits (width n : Nat) : Visible (hexDigits width n) := by
  induction width generalizing n with
  | zero => simp [hexDigits]
  | succ width ih =>
    simp only [hexDigits, visible_append, visible_cons]
    exact ⟨ih (n / 16), visible_digitChar _ (Nat.mod_lt n (by decide)), visible_nil⟩

theorem visible_codeEscape (n : Nat) : Visible (codeEscape n) := by
  unfold codeEscape
  split
  · simp [visible_hexDigits, isVisible]
  split
  · simp [visible_hexDigits, isVisible]
  · simp [visible_hexDigits, isVisible]

/-- The digits of a number in a base are below the base. -/
theorem mem_toDigits {base n : Nat} {c : Char} (hbase : 1 < base) (h : c ∈ Nat.toDigits base n) :
    ∃ d < base, c = d.digitChar := by
  induction n using Nat.strongRecOn with
  | ind n ih =>
    by_cases hn : n < base
    · rw [Nat.toDigits_of_lt_base hn, List.mem_singleton] at h
      exact ⟨n, hn, h⟩
    · rw [Nat.toDigits_of_base_le hbase (Nat.le_of_not_lt hn), List.mem_append,
        List.mem_singleton] at h
      obtain h | h := h
      · exact ih (n / base) (Nat.div_lt_self (by omega) hbase) h
      · exact ⟨n % base, Nat.mod_lt n (by omega), h⟩

theorem visible_toDigits {base : Nat} (hlow : 1 < base) (hhigh : base ≤ 16) (n : Nat) :
    Visible (Nat.toDigits base n) := by
  intro c hc
  obtain ⟨d, hd, rfl⟩ := mem_toDigits hlow hc
  exact visible_digitChar d (Nat.lt_of_lt_of_le hd hhigh)

theorem visible_nat (n : Nat) : Visible (toString n).toList := by
  rw [Nat.toString_eq_repr, Nat.toList_repr]
  exact visible_toDigits (by decide) (by decide) n

theorem visible_int (n : Int) : Visible (toString n).toList := by
  rw [Int.toString_eq_repr, Int.repr_eq_if]
  split
  · rw [Nat.toList_repr]
    exact visible_toDigits (by decide) (by decide) _
  · rw [String.toList_append, Nat.toList_repr, visible_append]
    exact ⟨by decide, visible_toDigits (by decide) (by decide) _⟩

/-! ## Numbers with a fraction -/

theorem visible_exponentText (exponent : Int) : Visible (Binary64.exponentText exponent) := by
  have hdigits : Visible (Binary64.digitsText exponent.natAbs) :=
    visible_toDigits (by decide) (by decide) _
  unfold Binary64.exponentText
  simp only [visible_cons]
  refine ⟨?_, ?_⟩
  · split <;> decide
  · split
    · exact visible_cons.mpr ⟨by decide, hdigits⟩
    · exact hdigits

theorem visible_positional {digits : List Char} (h : Visible digits) (place : Int) :
    Visible (Binary64.positional digits place) := by
  have htake : Visible (digits.take place.toNat) := h.of_subset (List.take_subset _ _)
  have hdrop : Visible (digits.drop place.toNat) := h.of_subset (List.drop_subset _ _)
  have hzeros (n : Nat) : Visible (List.replicate n '0') := visible_replicate (by decide) n
  unfold Binary64.positional
  simp only
  split
  · simp [h, hzeros, isVisible]
  · split
    · simp [h, hzeros, isVisible]
    · simp [htake, hdrop, isVisible]

theorem visible_scientific {digits : List Char} (h : Visible digits) (place : Int) :
    Visible (Binary64.scientific digits place) := by
  have hexponent := visible_exponentText (place - 1)
  have hletter : isVisible 'e' = true := by decide
  unfold Binary64.scientific
  match digits, h with
  | [], _ => simp [hexponent, hletter]
  | [d], h => simp_all
  | d :: e :: rest, h =>
    have hpoint : isVisible '.' = true := by decide
    simp_all

theorem visible_real (value : Binary64) : Visible value.text.toList := by
  have hmagnitude (m : Nat) (e : Int) : Visible (Binary64.magnitudeText m e) := by
    have hdigits (n : Nat) : Visible (Binary64.digitsText n) :=
      visible_toDigits (by decide) (by decide) n
    unfold Binary64.magnitudeText
    split
    · decide
    · simp only
      split
      · exact visible_positional (hdigits _) _
      · exact visible_scientific (hdigits _) _
  cases value with
  | nan => decide
  | infinite negative => cases negative <;> decide
  | finite negative m e =>
    rw [Binary64.text, String.toList_ofList]
    split
    · exact visible_cons.mpr ⟨by decide, hmagnitude m e⟩
    · exact hmagnitude m e

end NodeAgent.Text
