import NodeAgent.Duration.Reader
import NodeAgent.Proofs.Number.Rounding
/-!
Seconds as numbers of the binary64 format. What a text is read as is never negative and never
undefined, and each finite number of seconds has a number of microseconds, so that the length of a
span is the only thing that can keep it from being one.

Main results: `microsOf?_finite`, and `sum_nonneg` for the sum of the parts.
-/

namespace NodeAgent

open Binary64 (IsNonneg)
open Number (twoTo)

namespace Binary64

theorem ofInt_million : ofInt 1000000 = finite false 8589934592000000 (-33) := by decide

/-- A million times a number that is at most one is finite. -/
theorem mul_million {m : Nat} {e : Int} (he : e ≤ 0) (hm : m ≤ 2 ^ (-e).toNat) :
    ∃ n f, (finite false m e).mul (ofInt 1000000) = finite false n f := by
  rw [ofInt_million]
  have hnum : (e + -33).toNat = 0 := by omega
  have hden : (-(e + -33)).toNat = (-e).toNat + 33 := by omega
  have hbound : m * 8589934592000000 * twoTo (e + -33).toNat <
      twoTo (-(e + -33)).toNat * 2 ^ 20 := by
    rw [hnum, hden, twoTo_eq, twoTo_eq]
    calc
      m * 8589934592000000 * 2 ^ 0 ≤ 2 ^ (-e).toNat * 8589934592000000 * 2 ^ 0 := by gcongr
      _ < 2 ^ (-e).toNat * 2 ^ 33 * 2 ^ 20 := by
        have hpos : 0 < 2 ^ (-e).toNat := Nat.two_pow_pos _
        omega
      _ = 2 ^ ((-e).toNat + 33) * 2 ^ 20 := by ring
  exact ofRatio_finite false hbound (by omega)

end Binary64

namespace Duration

theorem Measure.seconds_positive (measure : Measure) : measure.seconds.isPositive = true := by
  cases measure <;> decide

theorem Numeral.value_nonneg (number : Numeral) : IsNonneg number.value := .ofDecimal _ _

theorem Part.seconds_nonneg (part : Part) : IsNonneg part.seconds :=
  part.number.value_nonneg.mul part.measure.seconds_positive

/-- Each finite number of seconds has its microseconds. -/
theorem microsOf?_finite (m : Nat) (e : Int) :
    ∃ micros, microsOf? (.finite false m e) = some micros := by
  have hden : 0 < (Binary64.magnitude m e).2 := Nat.two_pow_pos (-e).toNat
  obtain ⟨n, f, hratio, hf, hn⟩ := Binary64.ofRatio_le_one false
    (Nat.mod_lt (Binary64.magnitude m e).1 hden)
  obtain ⟨p, g, hproduct⟩ := Binary64.mul_million hf hn
  refine Option.isSome_iff_exists.mp ?_
  unfold microsOf? Binary64.truncate? Binary64.fraction?
  dsimp only
  rw [hratio, hproduct]
  rfl

/-- The sum of some numbers of seconds, from left to right. -/
def sum (seconds : List Binary64) : Binary64 := seconds.foldl Binary64.add (Binary64.zero false)

theorem sum_nonneg {seconds : List Binary64} (h : ∀ x ∈ seconds, IsNonneg x) :
    IsNonneg (sum seconds) := by
  have hfold : ∀ total, IsNonneg total → IsNonneg (seconds.foldl Binary64.add total) := by
    induction seconds with
    | nil => exact fun total htotal => htotal
    | cons x rest ih =>
      intro total htotal
      obtain ⟨hx, hrest⟩ := List.forall_mem_cons.mp h
      exact ih hrest _ (htotal.add hx)
  exact hfold _ .zero

end Duration

end NodeAgent
