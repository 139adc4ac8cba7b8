import NodeAgent.Proofs.Json.RoundTrip
import NodeAgent.Proofs.Text.Visible
/-!
JSON documents are written in visible characters. Whatever characters are in its texts and names,
and however deep they stand, a document has no others, so it stands on one line.

Main result: `visible_render`, by induction along the printer (`visible_chars`).
-/

namespace NodeAgent.Json

open Text (isVisible Visible)

theorem visible_unitEscape (n : Nat) : Visible (unitEscape n) := by
  simp only [unitEscape, Text.visible_cons]
  exact ⟨by decide, by decide, Text.visible_hexDigits 4 n⟩

/-- A character is written as itself only if it is visible. -/
theorem visible_charText (c : Char) : Visible (charText c) := by
  unfold charText
  simp only
  -- Seven characters have escapes of their own.
  iterate 7
    split
    · decide
  split
  · rename_i h
    have hvisible : isVisible c = true := by
      simp [isVisible]
      omega
    simp [hvisible]
  split
  · exact visible_unitEscape _
  · simp [visible_unitEscape]

theorem visible_textChars (s : String) : Visible (textChars s) := by
  have hbody : Visible (s.toList.flatMap charText) :=
    Text.visible_flatMap fun c _ => visible_charText c
  have hquote : isVisible '"' = true := by decide
  simp [textChars, hbody, hquote]

theorem visible_realChars (value : Binary64) : Visible (realChars value) := by
  cases value with
  | nan => decide
  | infinite negative => cases negative <;> decide
  | finite negative m e => exact Text.visible_real (.finite negative m e)

mutual

theorem visible_chars : ∀ document : Json, Visible document.chars
  | .null => by decide
  | .bool value => by cases value <;> decide
  | .int value => Text.visible_int value
  | .real value => visible_realChars value
  | .text value => visible_textChars value
  | .list items => by
    rw [chars, Text.visible_cons]
    exact ⟨by decide, visible_itemsChars items⟩
  | .object members => by
    rw [chars, Text.visible_cons]
    exact ⟨by decide, visible_membersChars members⟩

theorem visible_itemsChars : ∀ items : List Json, Visible (itemsChars items)
  | [] => by decide
  | [item] => by
    have hitem := visible_chars item
    simp [itemsChars, hitem, isVisible]
  | item :: next :: items => by
    have hitem := visible_chars item
    have hitems := visible_itemsChars (next :: items)
    simp [itemsChars_cons, hitem, hitems, isVisible]

theorem visible_membersChars : ∀ members : List (String × Json), Visible (membersChars members)
  | [] => by decide
  | [(name, value)] => by
    have hvalue := visible_chars value
    simp [membersChars, visible_textChars, hvalue, isVisible]
  | (name, value) :: next :: members => by
    have hvalue := visible_chars value
    have hmembers := visible_membersChars (next :: members)
    simp [membersChars_cons, visible_textChars, hvalue, hmembers, isVisible]

end

/-- All characters of a document are visible. -/
theorem visible_render (document : Json) : Visible document.render.toList := by
  rw [render, String.toList_ofList]
  exact visible_chars document

end NodeAgent.Json
