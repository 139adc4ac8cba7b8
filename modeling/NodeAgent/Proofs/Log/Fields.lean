import NodeAgent.Log.Fields
/-!
Laws of named values. Binding a name replaces its value in place or puts it last; binding the names
of another list unless they are bound puts those that are new behind the ones that are there.

Main results: `bind_new` and `bind_bound`, what binding one name comes to; `nodup_bind`, that names
stay distinct; `foldl_bindNew`, what binding many unless they are bound comes to.
-/

namespace NodeAgent.Log.Fields

/-- The names that are bound, in order. -/
def names (fields : Fields) : List String := fields.map Prod.fst

theorem has_eq_true_iff {fields : Fields} {name : String} :
    fields.has name = true ↔ name ∈ fields.names := by
  simp only [has, names, List.any_eq_true, beq_iff_eq, List.mem_map]

theorem has_eq_false_iff {fields : Fields} {name : String} :
    fields.has name = false ↔ name ∉ fields.names := by
  rw [← has_eq_true_iff, Bool.not_eq_true]

theorem names_append (fields more : Fields) : names (fields ++ more) = fields.names ++ more.names :=
  List.map_append

/-- Another value under a name leaves the names as they are. -/
theorem names_replace {α : Type} (members : List (String × α)) (name : String) (value : α) :
    (members.map fun member => if member.1 = name then (name, value) else member).map Prod.fst =
      members.map Prod.fst := by
  rw [List.map_map]
  refine List.map_congr_left fun member _ => ?_
  by_cases hname : member.1 = name
  · simp [hname]
  · simp [hname]

/-! ## Binding one name -/

/-- A name that is not bound among the first values is bound behind them. -/
theorem bind_append {fields : Fields} {name : String} (h : name ∉ fields.names) (more : Fields)
    (value : Datum) : bind (fields ++ more) name value = fields ++ bind more name value := by
  induction fields with
  | nil => rfl
  | cons field fields ih =>
    simp only [names, List.map_cons, List.mem_cons, not_or] at h
    rw [List.cons_append, bind, if_neg (Ne.symm h.1), ih h.2]
    rfl

theorem bind_new {fields : Fields} {name : String} (h : name ∉ fields.names) (value : Datum) :
    fields.bind name value = fields ++ [(name, value)] := by
  have hbind := bind_append h [] value
  rw [List.append_nil] at hbind
  exact hbind

/-- A name that is bound keeps its place, and the other values stay. -/
theorem bind_bound {fields : Fields} {name : String} (h : name ∈ fields.names)
    (hnodup : fields.names.Nodup) (value : Datum) :
    fields.bind name value =
      fields.map fun field => if field.1 = name then (name, value) else field := by
  induction fields with
  | nil => simp [names] at h
  | cons field fields ih =>
    simp only [names, List.map_cons, List.nodup_cons] at hnodup
    rw [bind, List.map_cons]
    by_cases hname : field.1 = name
    · -- The name stands nowhere behind its place.
      have hrest : fields.map (fun field => if field.1 = name then (name, value) else field) =
          fields := by
        refine (List.map_congr_left fun other hother => ?_).trans (List.map_id fields)
        refine if_neg fun he => hnodup.1 ?_
        rw [hname, ← he]
        exact List.mem_map_of_mem hother
      rw [if_pos hname, if_pos hname, hrest]
    · have hmem : name ∈ names fields := by
        simp only [names, List.map_cons, List.mem_cons] at h
        exact h.resolve_left (Ne.symm hname)
      rw [if_neg hname, if_neg hname, ih hmem hnodup.2]

/-! ## Distinct names -/

theorem nodup_bind {fields : Fields} (h : fields.names.Nodup) (name : String) (value : Datum) :
    (fields.bind name value).names.Nodup := by
  by_cases hmem : name ∈ fields.names
  · have hsame : (fields.bind name value).names = fields.names := by
      rw [bind_bound hmem h]
      exact names_replace fields name value
    rw [hsame]
    exact h
  · rw [bind_new hmem, names_append, List.nodup_append]
    refine ⟨h, by simp [names], ?_⟩
    intro other hother new hnew hsame
    rw [hsame, List.mem_singleton.mp hnew] at hother
    exact hmem hother

/-- The names that a logger binds and those that a call adds stay distinct. -/
theorem nodup_overlay {fields : Fields} (h : fields.names.Nodup) (more : Fields) :
    (fields.overlay more).names.Nodup := by
  unfold overlay
  induction more generalizing fields with
  | nil => exact h
  | cons field more ih => exact ih (nodup_bind h field.1 field.2)

/-! ## Binding the names of another list -/

/-- Binding the names of a list unless they are bound puts the new ones behind, in their order. -/
theorem foldl_bindNew (base : Fields) {fields : Fields} (hnodup : fields.names.Nodup) :
    fields.foldl (fun fields field => fields.bindNew field.1 field.2) base =
      base ++ fields.filter fun field => !base.has field.1 := by
  induction fields generalizing base with
  | nil => simp
  | cons field fields ih =>
    simp only [names, List.map_cons, List.nodup_cons] at hnodup
    rw [List.foldl_cons, ih _ hnodup.2, bindNew]
    cases hhas : base.has field.1 with
    | true =>
      rw [if_pos rfl, List.filter_cons_of_neg (by simp [hhas])]
    | false =>
      have hnew := bind_new (has_eq_false_iff.mp hhas) field.2
      have hsame : (fields.filter fun other => !has (base ++ [field]) other.1) =
          fields.filter fun other => !base.has other.1 := by
        refine List.filter_congr fun other hother => ?_
        have hne : field.1 ≠ other.1 := by
          intro he
          exact hnodup.1 (he ▸ List.mem_map_of_mem hother)
        simp [has, hne]
      rw [if_neg (by decide), hnew, List.filter_cons_of_pos (by simp [hhas]), hsame,
        List.append_assoc]
      rfl

end NodeAgent.Log.Fields
