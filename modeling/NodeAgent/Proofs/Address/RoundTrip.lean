import NodeAgent.Proofs.Address.Parts
import NodeAgent.Proofs.Text.Run
/-!
Addresses are read back from their texts. Of version four the octets are; of version six the groups
are, the longest run of zeros from the double colon that stands for it, and the scope if it can be
written behind them. No text of one version is read as an address of the other.

Main results: `ofText?_dotted` and `ofText?_colons`, one for each version; `ofText?_text_iff`, which
addresses are read back; `legible_of_ofText?`, that all that are read are.
-/

namespace NodeAgent.Address

/-! ## Version four -/

theorem mapM_map_some {α β : Type} {f : β → α} {g : α → Option β} {xs : List β}
    (h : ∀ x ∈ xs, g (f x) = some x) : (xs.map f).mapM g = some xs := by
  induction xs with
  | nil => rfl
  | cons x xs ih =>
    obtain ⟨hx, hxs⟩ := List.forall_mem_cons.mp h
    rw [List.map_cons, List.mapM_cons, hx, ih hxs]
    rfl

theorem some_of_mapM {α β : Type} {g : α → Option β} {xs : List α} {ys : List β}
    (h : xs.mapM g = some ys) : ∀ x ∈ xs, ∃ y, g x = some y := by
  induction xs generalizing ys with
  | nil => simp
  | cons x xs ih =>
    rw [List.mapM_cons] at h
    obtain ⟨y, hy, h⟩ := Option.bind_eq_some_iff.mp h
    obtain ⟨rest, hrest, -⟩ := Option.bind_eq_some_iff.mp h
    exact List.forall_mem_cons.mpr ⟨⟨y, hy⟩, ih hrest⟩

/-- The text of an address of version four. -/
def dottedText (n : Nat) : List Char := joinParts '.' ((toGroups 256 4 n).map (Nat.toDigits 10))

theorem dottedNumber?_dottedText {n : Nat} (h : n < 2 ^ 32) :
    dottedNumber? (dottedText n) = some n := by
  have hoctets : ∀ cs ∈ (toGroups 256 4 n).map (Nat.toDigits 10), '.' ∉ cs := by
    intro cs hcs
    obtain ⟨octet, -, rfl⟩ := List.mem_map.mp hcs
    exact not_mem_toDigits (by decide) (by decide) (by decide) octet
  have hparts := parts_joinParts hoctets (by simp [toGroups])
  have hread : ((toGroups 256 4 n).map (Nat.toDigits 10)).mapM octet? = some (toGroups 256 4 n) :=
    mapM_map_some fun octet hoctet =>
      octet?_toDigits (Nat.le_of_lt_succ (toGroups_lt (by decide) hoctet))
  have hnumber : ofGroups 256 (toGroups 256 4 n) = n := ofGroups_toGroups (by omega)
  obtain ⟨a, b, c, d, hfour⟩ : ∃ a b c d, toGroups 256 4 n = [a, b, c, d] := ⟨_, _, _, _, rfl⟩
  rw [hfour] at hnumber
  rw [dottedNumber?, dottedText, hparts, hread, hfour]
  exact congrArg some hnumber

theorem ofDotted?_of_colon {cs : List Char} (h : ':' ∈ cs) : ofDotted? cs = none := by
  have hnone : (parts '.' cs).mapM octet? = none := by
    by_contra hread
    obtain ⟨octets, hoctets⟩ := Option.ne_none_iff_exists'.mp hread
    obtain ⟨part, hpart, hcolon⟩ := exists_part h (by decide : ':' ≠ '.')
    obtain ⟨octet, hoctet⟩ := some_of_mapM hoctets part hpart
    exact absurd (isDigit_of_octet? hoctet ':' hcolon) (by decide)
  rw [ofDotted?, dottedNumber?, hnone]
  rfl

/-! ## The gap -/

/-- A gap that is found behind a front. -/
def gapBehind (front : List Char) (gap? : Option (List Char × List Char)) :
    Option (List Char × List Char) :=
  gap?.map fun (left, right) => (front ++ left, right)

theorem gapBehind_nil (gap? : Option (List Char × List Char)) : gapBehind [] gap? = gap? := by
  cases gap? <;> rfl

theorem gapBehind_append (front back : List Char) (gap? : Option (List Char × List Char)) :
    gapBehind (front ++ back) gap? = gapBehind front (gapBehind back gap?) := by
  cases gap? <;> simp [gapBehind]

theorem splitGap?_cons {c : Char} {cs : List Char} (h : c ≠ ':' ∨ cs.head? ≠ some ':') :
    splitGap? (c :: cs) = gapBehind [c] (splitGap? cs) := by
  rw [splitGap?]
  · rfl
  · rintro rest rfl rfl
    simp at h

theorem splitGap?_run {run : List Char} (h : ':' ∉ run) (cs : List Char) :
    splitGap? (run ++ cs) = gapBehind run (splitGap? cs) := by
  induction run with
  | nil => exact (gapBehind_nil _).symm
  | cons c run ih =>
    rw [List.mem_cons, not_or] at h
    rw [List.cons_append, splitGap?_cons (.inl (Ne.symm h.1)), ih h.2, ← gapBehind_append]
    rfl

/-- The text of parts begins as the first of them does, if there is anything in it. -/
theorem head?_joinParts (mark : Char) {cs : List Char} (hne : cs ≠ []) (css : List (List Char)) :
    (joinParts mark (cs :: css)).head? = cs.head? := by
  cases cs with
  | nil => exact absurd rfl hne
  | cons c cs => cases css <;> rfl

/-- There is no gap between parts that are not empty, nor at the end of them. -/
theorem splitGap?_joinParts {css : List (List Char)} (h : ∀ cs ∈ css, cs ≠ [] ∧ ':' ∉ cs)
    (rest : List Char) :
    splitGap? (joinParts ':' css ++ rest) = gapBehind (joinParts ':' css) (splitGap? rest) := by
  induction css with
  | nil => exact (gapBehind_nil _).symm
  | cons cs css ih =>
    obtain ⟨⟨-, hcs⟩, hcss⟩ := List.forall_mem_cons.mp h
    cases css with
    | nil => exact splitGap?_run hcs rest
    | cons ds css =>
      have hhead : (joinParts ':' (ds :: css) ++ rest).head? ≠ some ':' := by
        obtain ⟨hne, hds⟩ := hcss ds List.mem_cons_self
        intro hcolon
        rw [List.head?_append, head?_joinParts ':' hne, Option.or_of_isSome (by simpa using hne)]
          at hcolon
        exact hds (List.mem_of_head? hcolon)
      calc
        splitGap? (joinParts ':' (cs :: ds :: css) ++ rest)
          = splitGap? (cs ++ ':' :: (joinParts ':' (ds :: css) ++ rest)) := by simp [joinParts]
        _ = gapBehind cs (gapBehind [':'] (splitGap? (joinParts ':' (ds :: css) ++ rest))) := by
          rw [splitGap?_run hcs, splitGap?_cons (.inr hhead)]
        _ = gapBehind (cs ++ ([':'] ++ joinParts ':' (ds :: css))) (splitGap? rest) := by
          rw [ih hcss, gapBehind_append, gapBehind_append]
        _ = gapBehind (joinParts ':' (cs :: ds :: css)) (splitGap? rest) := by simp [joinParts]

/-! ## The longest run of zeros -/

theorem zerosAhead_split (groups : List Nat) :
    groups = List.replicate (zerosAhead groups) 0 ++ groups.drop (zerosAhead groups) := by
  fun_induction zerosAhead groups with
  | case1 rest ih =>
    rw [List.replicate_succ, List.drop_succ_cons, List.cons_append, ← ih]
  | case2 => rfl

/-- Groups are those before their longest run of zeros, the zeros, and those behind. -/
theorem longestZeros_split {groups : List Nat} {start length : Nat}
    (h : longestZeros groups = (start, length)) :
    groups = groups.take start ++ (List.replicate length 0 ++ groups.drop (start + length)) := by
  induction groups generalizing start length with
  | nil =>
    obtain ⟨rfl, rfl⟩ := Prod.mk.inj h
    rfl
  | cons g rest ih =>
    cases hrest : longestZeros rest with
    | mk start' length' =>
      rw [longestZeros, hrest] at h
      dsimp only at h
      split at h
      · obtain ⟨rfl, rfl⟩ := Prod.mk.inj h
        rw [List.take_zero, List.nil_append, Nat.zero_add]
        exact zerosAhead_split (g :: rest)
      · obtain ⟨rfl, rfl⟩ := Prod.mk.inj h
        rw [List.take_succ_cons, Nat.add_right_comm, List.drop_succ_cons, List.cons_append,
          ← ih hrest]

/-! ## Groups of version six -/

theorem groupText_colonless (groups : List Nat) :
    ∀ cs ∈ groups.map groupText, cs ≠ [] ∧ ':' ∉ cs := by
  intro cs hcs
  obtain ⟨g, -, rfl⟩ := List.mem_map.mp hcs
  exact ⟨Nat.toDigits_ne_nil, not_mem_toDigits (by decide) (by decide) (by decide) g⟩

theorem groupsOf?_texts (tail : Bool) {groups : List Nat} (h : ∀ g ∈ groups, g < 65536) :
    groupsOf? tail (groups.map groupText) = some groups := by
  induction groups with
  | nil => rfl
  | cons g groups ih =>
    obtain ⟨hg, hgroups⟩ := List.forall_mem_cons.mp h
    have hread := group?_groupText hg
    cases groups with
    | nil =>
      have hpoint : '.' ∉ groupText g :=
        not_mem_toDigits (by decide) (by decide) (by decide) g
      simp [groupsOf?, hread, hpoint]
    | cons k groups =>
      have hrest := ih hgroups
      rw [List.map_cons] at hrest
      simp [groupsOf?, hread, hrest]

theorem groups?_texts (tail : Bool) (groups : List Nat) (h : ∀ g ∈ groups, g < 65536) :
    groups? tail (joinParts ':' (groups.map groupText)) = some groups := by
  cases groups with
  | nil => rfl
  | cons g groups =>
    have htexts := groupText_colonless (g :: groups)
    have hfirst : groupText g ≠ [] := Nat.toDigits_ne_nil
    have hempty : joinParts ':' ((g :: groups).map groupText) ≠ [] := by
      intro hnil
      have hhead := head?_joinParts ':' hfirst (groups.map groupText)
      rw [← List.map_cons, hnil] at hhead
      exact hfirst (List.head?_eq_none_iff.mp hhead.symm)
    have hparts := parts_joinParts (fun cs hcs => (htexts cs hcs).2) (by simp)
    rw [groups?, if_neg (by simpa using hempty), hparts]
    exact groupsOf?_texts tail h

/-- Eight groups are read back from their text. -/
theorem eightGroups?_groupsText {groups : List Nat} (hlength : groups.length = 8)
    (hsmall : ∀ g ∈ groups, g < 65536) : eightGroups? (groupsText groups) = some groups := by
  cases hzeros : longestZeros groups with
  | mk start length =>
    rw [groupsText, hzeros]
    dsimp only
    split
    · -- The groups are all written, so there are no two colons in a row.
      have hgap := splitGap?_joinParts (groupText_colonless groups) []
      rw [List.append_nil] at hgap
      rw [eightGroups?, hgap]
      simp [gapBehind, splitGap?, groups?_texts true groups hsmall, hlength]
    · -- The groups on both sides leave as many to eight as there are zeros between them.
      have hgap := splitGap?_joinParts (groupText_colonless (groups.take start))
        (':' :: ':' :: joinParts ':' ((groups.drop (start + length)).map groupText))
      have hsplit := longestZeros_split hzeros
      have hbefore := groups?_texts false (groups.take start)
        fun g hg => hsmall g (List.mem_of_mem_take hg)
      have hafter := groups?_texts true (groups.drop (start + length))
        fun g hg => hsmall g (List.mem_of_mem_drop hg)
      have hcount := congrArg List.length hsplit
      rw [List.length_append, List.length_append, List.length_replicate, hlength] at hcount
      rw [eightGroups?, hgap]
      simp only [gapBehind, splitGap?, Option.map_some, List.append_nil, hbefore, hafter]
      have hzeros : 8 - ((groups.take start).length + (groups.drop (start + length)).length) =
          length := by omega
      rw [if_pos (by omega), hzeros, List.append_assoc, ← hsplit]

/-! ## Scopes -/

theorem run_before_scope {digits : List Char} (h : '%' ∉ digits) :
    ∀ c ∈ digits, (c != '%') = true := by
  intro c hc
  have hne : c ≠ '%' := by
    rintro rfl
    exact h hc
  simpa using hne

theorem splitScope?_none {digits : List Char} (h : '%' ∉ digits) :
    splitScope? digits = some (digits, none) := by
  have hstops : Text.Stops (· != '%') [] := by simp [Text.Stops]
  have hdrop := Text.dropWhile_run (run_before_scope h) hstops
  rw [List.append_nil] at hdrop
  rw [splitScope?, hdrop]

theorem splitScope?_scope {digits scope : List Char} (h : '%' ∉ digits) (hne : scope ≠ [])
    (hscope : '%' ∉ scope) : splitScope? (digits ++ '%' :: scope) = some (digits, some scope) := by
  have hstops : Text.Stops (· != '%') ('%' :: scope) := .cons rfl
  rw [splitScope?, Text.dropWhile_run (run_before_scope h) hstops,
    Text.takeWhile_run (run_before_scope h) hstops]
  simp [hne, hscope]

/-- A scope that is split off stands behind the first mark, and is not empty. -/
theorem scope_of_splitScope? {cs digits scope : List Char}
    (h : splitScope? cs = some (digits, some scope)) : scope ≠ [] ∧ '%' ∉ scope ∧ scope ⊆ cs := by
  unfold splitScope? at h
  split at h
  · simp at h
  · rename_i c found hdrop
    split at h
    · exact nomatch h
    · rename_i hfound
      simp only [Option.some.injEq, Prod.mk.injEq] at h
      obtain ⟨-, rfl⟩ := h
      simp only [Bool.or_eq_true, List.isEmpty_iff, List.contains_iff_mem, not_or] at hfound
      refine ⟨hfound.1, hfound.2, fun d hd => ?_⟩
      apply (List.dropWhile_suffix (· != '%')).subset
      rw [hdrop]
      exact List.mem_cons_of_mem c hd

/-! ## Addresses -/

/-- Whether the text of an address tells it: a scope, if there is one, is not empty, and holds no
second mark of a scope and no mark of a network. -/
def Legible : Address → Prop
  | v4 _ => True
  | v6 _ none => True
  | v6 _ (some scope) => scope ≠ "" ∧ '%' ∉ scope.toList ∧ '/' ∉ scope.toList

/-- What is read from a text is legible. -/
theorem legible_of_ofText? {s : String} {address : Address} (h : ofText? s = some address) :
    address.Legible := by
  unfold ofText? at h
  dsimp only at h
  split at h
  · exact nomatch h
  · rename_i hslash
    split at h
    · rename_i found hdotted
      obtain ⟨n, -, rfl⟩ := Option.map_eq_some_iff.mp hdotted
      obtain rfl := Option.some.inj h
      trivial
    · unfold ofColons? at h
      split at h
      · rename_i digits scope hscope
        obtain ⟨groups, -, rfl⟩ := Option.map_eq_some_iff.mp h
        cases scope with
        | none => trivial
        | some scope =>
          obtain ⟨hne, hmark, hsubset⟩ := scope_of_splitScope? hscope
          simp only [List.contains_iff_mem] at hslash
          refine ⟨?_, ?_, ?_⟩
          · simpa using hne
          · rwa [String.toList_ofList]
          · rw [String.toList_ofList]
            exact fun hmem => hslash (hsubset hmem)
      · exact nomatch h

theorem ofText?_dotted (bits : BitVec 32) : ofText? (v4 bits).text = some (v4 bits) := by
  have hslash : '/' ∉ dottedText bits.toNat := by
    intro hmem
    obtain h | ⟨cs, hcs, hc⟩ := mem_joinParts hmem
    · exact absurd h (by decide)
    · obtain ⟨octet, -, rfl⟩ := List.mem_map.mp hcs
      exact not_mem_toDigits (by decide) (by decide) (by decide) octet hc
  have hread := dottedNumber?_dottedText bits.isLt
  have htext : (v4 bits).text.toList = dottedText bits.toNat := String.toList_ofList
  simp [ofText?, htext, hslash, ofDotted?, hread]

/-- The text of an address of version six without its scope. -/
def colonText (n : Nat) : List Char := groupsText (toGroups 65536 8 n)

theorem not_mem_colonText {c : Char} (hcolon : c ≠ ':') (hc : ∀ d < 16, d.digitChar ≠ c)
    (n : Nat) : c ∉ colonText n := by
  intro hmem
  obtain ⟨d, hd, rfl⟩ := (mem_groupsText hmem).resolve_left hcolon
  exact hc d hd rfl

/-- What begins with eight groups is read as an address of version six. -/
theorem ofText?_colonText {bits : BitVec 128} {s : String} {rest : List Char}
    {scope : Option (List Char)} (htext : s.toList = colonText bits.toNat ++ rest)
    (hslash : '/' ∉ rest)
    (hscope : splitScope? (colonText bits.toNat ++ rest) = some (colonText bits.toNat, scope)) :
    ofText? s = some (v6 bits (scope.map String.ofList)) := by
  have hgroups : eightGroups? (colonText bits.toNat) = some (toGroups 65536 8 bits.toNat) :=
    eightGroups?_groupsText (length_toGroups 65536 8 _) fun g hg => toGroups_lt (by decide) hg
  have hnumber : ofGroups 65536 (toGroups 65536 8 bits.toNat) = bits.toNat :=
    ofGroups_toGroups bits.isLt
  have hcolon : ':' ∈ colonText bits.toNat ++ rest :=
    List.mem_append_left rest (colon_mem_groupsText _ _ _)
  have hnetwork : '/' ∉ colonText bits.toNat ++ rest := by
    rw [List.mem_append, not_or]
    exact ⟨not_mem_colonText (by decide) (by decide) _, hslash⟩
  simp [ofText?, htext, hnetwork, ofDotted?_of_colon hcolon, ofColons?, hscope, hgroups, hnumber]

theorem ofText?_colons {bits : BitVec 128} {scope : Option String}
    (h : (v6 bits scope).Legible) : ofText? (v6 bits scope).text = some (v6 bits scope) := by
  have hpercent : '%' ∉ colonText bits.toNat := not_mem_colonText (by decide) (by decide) _
  have htext : ∀ scope, (v6 bits scope).text.toList = (v6 bits scope).chars :=
    fun _ => String.toList_ofList
  cases scope with
  | none =>
    have hscope : splitScope? (colonText bits.toNat ++ []) = some (colonText bits.toNat, none) := by
      rw [List.append_nil]
      exact splitScope?_none hpercent
    exact ofText?_colonText (htext none) List.not_mem_nil hscope
  | some scope =>
    obtain ⟨hne, hmark, hslash⟩ := h
    have hread := ofText?_colonText (htext (some scope)) (by simpa using hslash)
      (splitScope?_scope hpercent (by simpa using hne) hmark)
    rwa [Option.map_some, String.ofList_toList] at hread

/-- An address is read back from its text exactly if the text tells it. -/
theorem ofText?_text_iff {address : Address} :
    ofText? address.text = some address ↔ address.Legible := by
  refine ⟨legible_of_ofText?, fun h => ?_⟩
  cases address with
  | v4 bits => exact ofText?_dotted bits
  | v6 bits scope => exact ofText?_colons h

end NodeAgent.Address
