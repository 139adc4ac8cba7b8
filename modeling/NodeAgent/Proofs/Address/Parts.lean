import Mathlib.Algebra.Ring.Nat
import NodeAgent.Address
import NodeAgent.Proofs.Json.Number
import NodeAgent.Proofs.Text.Visible
import NodeAgent.Proofs.Text.Words
/-!
The parts of the text of an address. A number is put together from its groups of digits, a text from
its parts between marks, and a part from the digits of its group; each of the three is taken apart
again.

Main results: `parts_joinParts`, `ofDigits?_toDigits`, `octet?_toDigits` and `group?_groupText`.
-/

namespace NodeAgent.Address

/-! ## Numbers in groups -/

theorem ofGroups_append (base : Nat) (groups : List Nat) (g : Nat) :
    ofGroups base (groups ++ [g]) = base * ofGroups base groups + g := by
  rw [ofGroups, List.foldl_append]
  rfl

theorem ofGroups_toGroups {base width n : Nat} (h : n < base ^ width) :
    ofGroups base (toGroups base width n) = n := by
  induction width generalizing n with
  | zero =>
    rw [Nat.pow_zero, Nat.lt_one_iff] at h
    rw [h]
    rfl
  | succ width ih =>
    have hdiv : n / base < base ^ width := by
      apply Nat.div_lt_of_lt_mul
      rwa [Nat.pow_succ, Nat.mul_comm] at h
    rw [toGroups, ofGroups_append, ih hdiv, Nat.div_add_mod]

theorem length_toGroups (base width n : Nat) : (toGroups base width n).length = width := by
  induction width generalizing n with
  | zero => rfl
  | succ width ih => simp [toGroups, ih]

theorem toGroups_lt {base : Nat} (hbase : 0 < base) {width n g : Nat}
    (h : g ∈ toGroups base width n) : g < base := by
  induction width generalizing n with
  | zero => exact absurd h List.not_mem_nil
  | succ width ih =>
    rw [toGroups, List.mem_append, List.mem_singleton] at h
    obtain h | rfl := h
    · exact ih h
    · exact Nat.mod_lt n hbase

/-! ## Texts in parts -/

theorem joinParts_eq (mark : Char) (css : List (List Char)) :
    joinParts mark css = [mark].intercalate css := by
  induction css with
  | nil => rfl
  | cons cs css ih =>
    cases css with
    | nil => simp [joinParts]
    | cons ds css =>
      rw [joinParts, ih, List.intercalate_cons_cons]
      · simp
      · simp

theorem parts_eq (mark : Char) (cs : List Char) : parts mark cs = cs.splitOn mark := by
  rw [parts, Text.splitWhere_eq, List.splitOn_eq_splitOnP]

/-- Parts in which the mark does not stand are found again. -/
theorem parts_joinParts {mark : Char} {css : List (List Char)} (h : ∀ cs ∈ css, mark ∉ cs)
    (hne : css ≠ []) : parts mark (joinParts mark css) = css := by
  rw [parts_eq, joinParts_eq, List.splitOn_intercalate mark h hne]

theorem joinParts_parts (mark : Char) (cs : List Char) : joinParts mark (parts mark cs) = cs := by
  rw [parts_eq, joinParts_eq, List.intercalate_splitOn]

theorem mem_joinParts {mark c : Char} {css : List (List Char)} (h : c ∈ joinParts mark css) :
    c = mark ∨ ∃ cs ∈ css, c ∈ cs := by
  fun_induction joinParts mark css with
  | case1 => exact absurd h List.not_mem_nil
  | case2 cs => exact .inr ⟨cs, List.mem_singleton_self cs, h⟩
  | case3 cs css _ ih =>
    rw [List.mem_append, List.mem_cons] at h
    obtain h | rfl | h := h
    · exact .inr ⟨cs, List.mem_cons_self, h⟩
    · exact .inl rfl
    · obtain hmark | ⟨ds, hds, hc⟩ := ih h
      · exact .inl hmark
      · exact .inr ⟨ds, List.mem_cons_of_mem cs hds, hc⟩

theorem mark_mem_joinParts (mark : Char) (cs ds : List Char) (css : List (List Char)) :
    mark ∈ joinParts mark (cs :: ds :: css) := by
  simp [joinParts]

/-- What does not mark the parts of a text stands in one of them. -/
theorem exists_part {mark c : Char} {cs : List Char} (h : c ∈ cs) (hc : c ≠ mark) :
    ∃ part ∈ parts mark cs, c ∈ part := by
  rw [← joinParts_parts mark cs] at h
  exact (mem_joinParts h).resolve_left hc

/-! ## Digits -/

section

variable {base : Nat} {value? : Char → Option Nat}

theorem ofDigits?_append (cs ds : List Char) (n : Nat) :
    ofDigits? base value? (cs ++ ds) n =
      (ofDigits? base value? cs n).bind (ofDigits? base value? ds) := by
  induction cs generalizing n with
  | nil => rfl
  | cons c cs ih =>
    rw [List.cons_append, ofDigits?, ofDigits?]
    cases value? c with
    | none => rfl
    | some d => exact ih _

/-- A number is read from its digits if each digit is read. -/
theorem ofDigits?_toDigits (hbase : 1 < base)
    (hvalue : ∀ d < base, value? d.digitChar = some d) (n : Nat) :
    ofDigits? base value? (Nat.toDigits base n) 0 = some n := by
  induction n using Nat.strongRecOn with
  | ind n ih =>
    have hone : ∀ d < base, ∀ m, ofDigits? base value? [d.digitChar] m = some (base * m + d) := by
      intro d hd m
      simp [ofDigits?, hvalue d hd]
    by_cases hn : n < base
    · rw [Nat.toDigits_of_lt_base hn, hone n hn, Nat.mul_zero, Nat.zero_add]
    · have hdiv : n / base < n := Nat.div_lt_self (by omega) hbase
      have hmod : n % base < base := Nat.mod_lt n (by omega)
      rw [Nat.toDigits_of_base_le hbase (Nat.le_of_not_lt hn), ofDigits?_append, ih _ hdiv,
        Option.bind_some, hone _ hmod, Nat.div_add_mod]

/-- Whatever is read as digits has a value. -/
theorem value_of_ofDigits? {cs : List Char} {n m : Nat} (h : ofDigits? base value? cs n = some m) :
    ∀ c ∈ cs, value? c ≠ none := by
  induction cs generalizing n with
  | nil => simp
  | cons c cs ih =>
    obtain ⟨d, hd, hrest⟩ := Option.bind_eq_some_iff.mp h
    exact List.forall_mem_cons.mpr ⟨by simp [hd], ih hrest⟩

end

theorem hexValue_digitChar : ∀ d < 16, Text.hexValue? d.digitChar = some d := by decide

/-- A character that is no digit does not stand in a number. -/
theorem not_mem_toDigits {base : Nat} (hlow : 1 < base) (hhigh : base ≤ 16) {c : Char}
    (hc : ∀ d < 16, d.digitChar ≠ c) (n : Nat) : c ∉ Nat.toDigits base n := by
  intro hmem
  obtain ⟨d, hd, rfl⟩ := Text.mem_toDigits hlow hmem
  exact hc d (Nat.lt_of_lt_of_le hd hhigh) rfl

/-! ## Groups -/

theorem octet?_toDigits {n : Nat} (h : n ≤ 255) : octet? (Nat.toDigits 10 n) = some n := by
  have hempty : (Nat.toDigits 10 n).isEmpty = false :=
    List.isEmpty_eq_false_iff.mpr Nat.toDigits_ne_nil
  have hshort : ¬3 < (Nat.toDigits 10 n).length :=
    Nat.not_lt.mpr ((Nat.length_toDigits_le_iff (by decide) (by decide)).mpr (by omega))
  have hlead : ((Nat.toDigits 10 n).head? == some '0' && Nat.toDigits 10 n != ['0']) = false := by
    cases n with
    | zero => rfl
    | succ n => simp [Json.head_toDigits (Nat.succ_pos n)]
  have hread := @ofDigits?_toDigits 10 (fun c => if c.isDigit then some (c.toNat - 48) else none)
    (by decide) (by decide) n
  simp [octet?, hempty, hshort, hlead, hread, h]

theorem isDigit_of_octet? {cs : List Char} {n : Nat} (h : octet? cs = some n) :
    ∀ c ∈ cs, c.isDigit = true := by
  unfold octet? at h
  split at h
  · exact nomatch h
  · split at h
    · rename_i hread
      intro c hc
      simpa using value_of_ofDigits? hread c hc
    · exact nomatch h

theorem group?_groupText {g : Nat} (h : g < 65536) : group? (groupText g) = some g := by
  have hempty : (Nat.toDigits 16 g).isEmpty = false :=
    List.isEmpty_eq_false_iff.mpr Nat.toDigits_ne_nil
  have hshort : ¬4 < (Nat.toDigits 16 g).length :=
    Nat.not_lt.mpr ((Nat.length_toDigits_le_iff (by decide) (by decide)).mpr h)
  have hread := ofDigits?_toDigits (by decide) hexValue_digitChar g
  simp [group?, groupText, hempty, hshort, hread]

/-! ## Texts of groups -/

/-- The text of groups is made of digits and of colons. -/
theorem mem_groupsText {groups : List Nat} {c : Char} (h : c ∈ groupsText groups) :
    c = ':' ∨ ∃ d < 16, c = d.digitChar := by
  have hjoined : ∀ part : List Nat, c ∈ joinParts ':' (part.map groupText) →
      c = ':' ∨ ∃ d < 16, c = d.digitChar := by
    intro part hc
    obtain hcolon | ⟨cs, hcs, hc⟩ := mem_joinParts hc
    · exact .inl hcolon
    · obtain ⟨g, -, rfl⟩ := List.mem_map.mp hcs
      exact .inr (Text.mem_toDigits (by decide) hc)
  unfold groupsText at h
  dsimp only at h
  split at h
  · exact hjoined groups h
  · simp only [List.mem_append, List.mem_cons] at h
    obtain h | rfl | rfl | h := h
    · exact hjoined _ h
    · exact .inl rfl
    · exact .inl rfl
    · exact hjoined _ h

theorem colon_mem_groupsText (g k : Nat) (groups : List Nat) :
    ':' ∈ groupsText (g :: k :: groups) := by
  unfold groupsText
  dsimp only
  split
  · exact mark_mem_joinParts ':' _ _ _
  · simp

end NodeAgent.Address
