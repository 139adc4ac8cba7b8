import Mathlib.Data.List.Basic
import NodeAgent.Proofs.Log.Fields
/-!
Overlays of named values. However often rows of bindings are laid over one another, they come to
one row: every name stands where it was bound first and has the value that it was bound to last.

Main results: `settled_snoc`, one more binding; `overlay_eq_settled`, an overlay as a settled row.
-/

namespace NodeAgent.Log.Fields

/-- The value of the last binding of a name. -/
def last? (bindings : Fields) (name : String) : Option Datum :=
  (bindings.reverse.find? fun field => field.1 == name).map Prod.snd

/-- What a row of bindings comes to: every name where it is bound first, with the value that it is
bound to last. -/
def settled (bindings : Fields) : Fields :=
  bindings.names.eraseDups.filterMap fun name =>
    (bindings.last? name).map fun value => (name, value)

/-! ## Last values -/

theorem last?_snoc (bindings : Fields) (field : String × Datum) (name : String) :
    last? (bindings ++ [field]) name =
      if field.1 = name then some field.2 else bindings.last? name := by
  unfold last?
  rw [List.reverse_append, List.reverse_singleton, List.singleton_append, List.find?_cons]
  by_cases hname : field.1 = name
  · rw [if_pos hname, beq_iff_eq.mpr hname]
    rfl
  · rw [if_neg hname, beq_eq_false_iff_ne.mpr hname]

theorem last?_eq_none_iff {bindings : Fields} {name : String} :
    bindings.last? name = none ↔ name ∉ bindings.names := by
  unfold last?
  rw [Option.map_eq_none_iff, List.find?_eq_none, names, List.mem_map]
  constructor
  · intro h hmem
    obtain ⟨field, hfield, hname⟩ := hmem
    exact h field (List.mem_reverse.mpr hfield) (beq_iff_eq.mpr hname)
  · intro h field hfield hname
    exact h ⟨field, List.mem_reverse.mp hfield, beq_iff_eq.mp hname⟩

/-! ## Settled rows -/

theorem names_settled (bindings : Fields) :
    (settled bindings).names = bindings.names.eraseDups := by
  unfold settled
  rw [names, List.map_filterMap]
  refine Eq.trans (List.filterMap_congr fun name hname => ?_) List.filterMap_some
  rw [List.mem_eraseDups] at hname
  cases hlast : bindings.last? name with
  | none => exact absurd hname (last?_eq_none_iff.mp hlast)
  | some value => rfl

theorem mem_names_settled {bindings : Fields} {name : String} :
    name ∈ (settled bindings).names ↔ name ∈ bindings.names := by
  rw [names_settled, List.mem_eraseDups]

/-- The names of a row with one more binding, each once. -/
theorem eraseDups_names_snoc (bindings : Fields) (field : String × Datum) :
    (names (bindings ++ [field])).eraseDups =
      if field.1 ∈ bindings.names then bindings.names.eraseDups
      else bindings.names.eraseDups ++ [field.1] := by
  rw [names_append, List.eraseDups_append, show names [field] = [field.1] from rfl, List.removeAll]
  by_cases hmem : field.1 ∈ bindings.names
  · rw [if_pos hmem, List.filter_cons_of_neg (by simp [hmem])]
    exact List.append_nil _
  · rw [if_neg hmem, List.filter_cons_of_pos (by simp [hmem])]
    rfl

/-- One more binding replaces the value of its name in place, or stands last. -/
theorem settled_snoc {bindings : Fields} (h : (settled bindings).names.Nodup)
    (field : String × Datum) :
    settled (bindings ++ [field]) = (settled bindings).bind field.1 field.2 := by
  by_cases hmem : field.1 ∈ bindings.names
  · rw [bind_bound (mem_names_settled.mpr hmem) h, settled, settled, eraseDups_names_snoc,
      if_pos hmem, List.map_filterMap]
    refine List.filterMap_congr fun name hname => ?_
    rw [last?_snoc, Option.map_map]
    by_cases hsame : field.1 = name
    · -- The name is bound already, so it has a value to be replaced.
      cases hlast : bindings.last? name with
      | none => exact absurd (List.mem_eraseDups.mp hname) (last?_eq_none_iff.mp hlast)
      | some value => simp [hsame]
    · cases hlast : bindings.last? name with
      | none => simp [hsame]
      | some value => simp [hsame, Ne.symm hsame]
  · rw [bind_new fun hname => hmem (mem_names_settled.mp hname), settled, eraseDups_names_snoc,
      if_neg hmem, List.filterMap_append]
    congr 1
    · refine List.filterMap_congr fun name hname => ?_
      have hne : field.1 ≠ name := fun hsame => hmem (hsame ▸ List.mem_eraseDups.mp hname)
      rw [last?_snoc, if_neg hne]
    · simp [last?_snoc]

/-- Laying a row over a settled one is the same as settling both in a row. -/
theorem overlay_settled {bindings : Fields} (h : (settled bindings).names.Nodup) (more : Fields) :
    (settled bindings).overlay more = settled (bindings ++ more) := by
  induction more generalizing bindings with
  | nil =>
    rw [List.append_nil]
    rfl
  | cons field more ih =>
    have hbind := settled_snoc h field
    have hnodup : (settled (bindings ++ [field])).names.Nodup := by
      rw [hbind]
      exact nodup_bind h field.1 field.2
    have hrest := ih hnodup
    rw [hbind, List.append_assoc, List.singleton_append] at hrest
    exact hrest

theorem settled_eq_overlay (bindings : Fields) : settled bindings = overlay [] bindings :=
  (@overlay_settled [] .nil bindings).symm

theorem nodup_settled (bindings : Fields) : (settled bindings).names.Nodup := by
  rw [settled_eq_overlay]
  exact @nodup_overlay [] .nil bindings

/-- Laying a row over another one puts it behind, if no name is bound twice. -/
theorem overlay_of_nodup {front back : Fields} (h : (names (front ++ back)).Nodup) :
    front.overlay back = front ++ back := by
  induction back generalizing front with
  | nil =>
    rw [List.append_nil]
    rfl
  | cons field back ih =>
    have hnew : field.1 ∉ front.names := by
      intro hmem
      rw [names_append, List.nodup_append] at h
      exact h.2.2 field.1 hmem field.1 (by simp [names]) rfl
    have hrest := @ih (front ++ [field]) (by rwa [List.append_assoc, List.singleton_append])
    rw [List.append_assoc, List.singleton_append, ← bind_new hnew] at hrest
    exact hrest

/-- A row in which no name is bound twice is settled. -/
theorem settled_of_nodup {bindings : Fields} (h : bindings.names.Nodup) :
    settled bindings = bindings :=
  (settled_eq_overlay bindings).trans (@overlay_of_nodup [] bindings h)

/-- What an overlay on a row without repetitions comes to. -/
theorem overlay_eq_settled {fields : Fields} (h : fields.names.Nodup) (more : Fields) :
    fields.overlay more = settled (fields ++ more) := by
  have hsettled := settled_of_nodup h
  rw [← overlay_settled (hsettled.symm ▸ h), hsettled]

end NodeAgent.Log.Fields
