import Mathlib.Tactic.Ring
import NodeAgent.Number.Binary64
/-!
What rounding to the binary64 format keeps. A quotient below a power of two does not become
infinite, and one below one stays at most one. Sums and products of numbers that are not negative
are none either, and they are always numbers.

Main results: `ofRatio_finite`, `ofRatio_le_one`, and `IsNonneg` with its closure under sums and
products.
-/

namespace NodeAgent.Binary64

open Number (twoTo)

/-! ## Bounds -/

theorem twoTo_eq (exponent : Nat) : twoTo exponent = 2 ^ exponent := rfl

theorem floorLog2_lt {num den k : Nat} (h : num < den * 2 ^ k) : floorLog2 num den < k := by
  have hlog : num.log2 < den.log2 + k + 1 := by
    rcases Nat.eq_zero_or_pos num with hzero | hpos
    · rw [hzero, Nat.log2_zero]
      omega
    · rw [Nat.log2_lt (Nat.ne_of_gt hpos)]
      calc
        num < den * 2 ^ k := h
        _ ≤ 2 ^ (den.log2 + 1) * 2 ^ k := Nat.mul_le_mul_right _ (Nat.le_of_lt Nat.lt_log2_self)
        _ = 2 ^ (den.log2 + k + 1) := by ring
  unfold floorLog2
  dsimp only
  split
  · rename_i hle
    by_contra hk
    -- The estimate reaches the bound only if the quotient does.
    have hneg : (-((num.log2 : Int) - den.log2)).toNat = 0 := by omega
    rw [hneg] at hle
    have hpow : 2 ^ k ≤ 2 ^ ((num.log2 : Int) - den.log2).toNat :=
      Nat.pow_le_pow_right (by omega) (by omega)
    have hnum : den * 2 ^ k ≤ num := by
      calc
        den * 2 ^ k ≤ den * 2 ^ ((num.log2 : Int) - den.log2).toNat := Nat.mul_le_mul_left _ hpow
        _ ≤ num * twoTo 0 := hle
        _ = num := Nat.mul_one num
    omega
  · omega

theorem halfEven_le {num den bound : Nat} (hden : 0 < den) (h : num ≤ bound * den) :
    halfEven num den ≤ bound := by
  have hquotient : num / den ≤ bound := Nat.div_le_of_le_mul (by rwa [Nat.mul_comm])
  rcases Nat.lt_or_eq_of_le hquotient with hlt | heq
  · unfold halfEven
    dsimp only
    split
    · omega
    · split <;> omega
  · -- The bound itself is met without a rest.
    have hrest : num % den = 0 := by
      have hsplit := Nat.div_add_mod num den
      rw [heq, Nat.mul_comm] at hsplit
      omega
    unfold halfEven
    simp [hrest, hden, heq]

theorem pack_cases (negative : Bool) (significand : Nat) {exponent : Int}
    (h : exponent < greatestExponent) :
    pack negative significand exponent = finite negative significand exponent ∨
      significand = 2 ^ 53 ∧
        pack negative significand exponent = finite negative (2 ^ 52) (exponent + 1) := by
  unfold pack
  dsimp only
  by_cases hcarried : significand = twoTo 53
  · right
    rw [if_pos hcarried, if_pos hcarried, if_neg (by omega)]
    exact ⟨hcarried, rfl⟩
  · left
    rw [if_neg hcarried, if_neg hcarried, if_neg (by omega)]

/-- The exponent at which a quotient is rounded. -/
def roundingExponent (num den : Nat) : Int := max (floorLog2 num den - 52) leastExponent

theorem ofRatio_eq {negative : Bool} {num den : Nat} (h : num ≠ 0) :
    ofRatio negative num den =
      pack negative
        (halfEven (num * twoTo (-roundingExponent num den).toNat)
          (den * twoTo (roundingExponent num den).toNat)) (roundingExponent num den) := by
  unfold ofRatio
  rw [if_neg h]
  rfl

/-- A quotient that is not too large stays finite. -/
theorem ofRatio_finite {num den k : Nat} (negative : Bool) (h : num < den * 2 ^ k)
    (hk : k ≤ 1000) : ∃ m e, ofRatio negative num den = finite negative m e := by
  by_cases hnum : num = 0
  · exact ⟨0, leastExponent, by rw [ofRatio, if_pos hnum]; rfl⟩
  · have hlog := floorLog2_lt h
    have hexponent : roundingExponent num den < greatestExponent := by
      unfold roundingExponent greatestExponent leastExponent
      omega
    rw [ofRatio_eq hnum]
    rcases pack_cases negative _ hexponent with hpack | ⟨-, hpack⟩
    · exact ⟨_, _, hpack⟩
    · exact ⟨_, _, hpack⟩

/-- A proper fraction is rounded to at most one. -/
theorem ofRatio_le_one {num den : Nat} (negative : Bool) (h : num < den) :
    ∃ m e, ofRatio negative num den = finite negative m e ∧ e ≤ 0 ∧ m ≤ 2 ^ (-e).toNat := by
  by_cases hnum : num = 0
  · refine ⟨0, leastExponent, by rw [ofRatio, if_pos hnum]; rfl, ?_, Nat.zero_le _⟩
    exact Int.le_of_lt (by decide)
  · have hlog : floorLog2 num den < 0 := floorLog2_lt (k := 0) (by omega)
    have hexponent : roundingExponent num den < -52 := by
      unfold roundingExponent leastExponent
      omega
    have htoNat : (roundingExponent num den).toNat = 0 := by omega
    have hrounded : halfEven (num * twoTo (-roundingExponent num den).toNat)
        (den * twoTo (roundingExponent num den).toNat) ≤
          2 ^ (-roundingExponent num den).toNat := by
      rw [htoNat]
      refine halfEven_le (Nat.mul_pos (by omega) (by decide)) ?_
      calc
        num * twoTo (-roundingExponent num den).toNat ≤
            den * twoTo (-roundingExponent num den).toNat :=
          Nat.mul_le_mul_right _ (Nat.le_of_lt h)
        _ = 2 ^ (-roundingExponent num den).toNat * (den * twoTo 0) := by
          rw [twoTo_eq, twoTo_eq]
          ring
    rw [ofRatio_eq hnum]
    have hgreatest : roundingExponent num den < greatestExponent := by
      unfold greatestExponent
      omega
    rcases pack_cases negative _ hgreatest with hpack | ⟨hcarried, hpack⟩
    · exact ⟨_, _, hpack, by omega, hrounded⟩
    · refine ⟨_, _, hpack, by omega, ?_⟩
      -- A carry halves the significand and doubles the unit.
      rw [hcarried] at hrounded
      have hexp : (-roundingExponent num den).toNat =
          (-(roundingExponent num den + 1)).toNat + 1 := by
        omega
      rw [hexp] at hrounded
      omega

/-! ## Numbers that are not negative -/

/-- A number that is not below nought; infinity is one. -/
inductive IsNonneg : Binary64 → Prop
  | infinite : IsNonneg (.infinite false)
  | finite (significand : Nat) (exponent : Int) : IsNonneg (.finite false significand exponent)

/-- Whether a number is finite and above nought. -/
def isPositive : Binary64 → Bool
  | .finite false significand _ => significand ≠ 0
  | _ => false

namespace IsNonneg

theorem zero : IsNonneg (Binary64.zero false) := .finite 0 leastExponent

theorem pack (significand : Nat) (exponent : Int) :
    IsNonneg (Binary64.pack false significand exponent) := by
  unfold Binary64.pack
  dsimp only
  generalize (if significand = twoTo 53 then exponent + 1 else exponent) = packed
  split
  · exact .infinite
  · exact .finite _ _

theorem ofRatio (num den : Nat) : IsNonneg (Binary64.ofRatio false num den) := by
  unfold Binary64.ofRatio
  split
  · exact .zero
  · exact .pack _ _

theorem ofDecimal (digits : Nat) (exponent : Int) :
    IsNonneg (Binary64.ofDecimal false digits exponent) := by
  unfold Binary64.ofDecimal
  repeat' split
  · exact .zero
  · exact .infinite
  · exact .zero
  · exact .ofRatio _ _

theorem add {a b : Binary64} (ha : IsNonneg a) (hb : IsNonneg b) : IsNonneg (a.add b) := by
  cases ha with
  | infinite =>
    cases hb with
    | infinite => exact .infinite
    | finite n f => exact .infinite
  | finite m e =>
    cases hb with
    | infinite => exact .infinite
    | finite n f =>
      simp only [Binary64.add, signed, Bool.false_eq_true, if_false, Bool.and_self]
      split
      · exact .zero
      · rw [decide_eq_false (by omega)]
        exact .ofRatio _ _

/-- The factor has to be finite and above nought: infinity times nought is no number. -/
theorem mul {a b : Binary64} (ha : IsNonneg a) (hb : b.isPositive = true) : IsNonneg (a.mul b) := by
  unfold isPositive at hb
  split at hb
  · rename_i n f
    cases ha with
    | infinite =>
      simp only [Binary64.mul, if_neg (of_decide_eq_true hb)]
      exact .infinite
    | finite m e => exact .ofRatio _ _
  · simp at hb

end IsNonneg

end NodeAgent.Binary64
