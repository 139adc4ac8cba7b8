import NodeAgent.Datum
import NodeAgent.Proofs.Address.Parts
/-!
Values that count as given have a text that is not empty, so a setting that is read from one is told
apart from a setting that is left at its default.

Main result: `Datum.plain_ne_empty`, from which `resolved_settings_stand_iff` tells what is given.
-/

namespace NodeAgent

theorem toString_int_ne_empty (value : Int) : toString value ≠ "" := by
  intro hempty
  have hdigits := Json.toList_toString_int value
  rw [hempty] at hdigits
  split at hdigits
  · exact Nat.toDigits_ne_nil hdigits.symm
  · exact nomatch hdigits

theorem Binary64.magnitudeText_ne_nil (m : Nat) (e : Int) : magnitudeText m e ≠ [] := by
  unfold magnitudeText
  split
  · simp
  · simp only
    split
    · unfold positional
      split
      · simp
      · simp only
        split <;> simp
    · simp [scientific]

theorem Binary64.text_ne_empty (value : Binary64) : value.text ≠ "" := by
  cases value with
  | nan => decide
  | infinite negative => cases negative <;> decide
  | finite negative m e =>
    rw [text, Ne, String.ofList_eq_empty_iff]
    split
    · simp
    · exact magnitudeText_ne_nil m e

theorem Address.text_ne_empty (address : Address) : address.text ≠ "" := by
  rw [text, Ne, String.ofList_eq_empty_iff]
  cases address with
  | v4 bits => exact List.ne_nil_of_mem (mark_mem_joinParts '.' _ _ _)
  | v6 bits scope =>
    exact List.append_ne_nil_of_left_ne_nil (List.ne_nil_of_mem (colon_mem_groupsText _ _ _)) _

theorem Duration.text_ne_empty (duration : Duration) : duration.text ≠ "" := by
  simp [Duration.text, String.append_eq_empty_iff]

/-- The text of a value that counts as given is not empty. -/
theorem Datum.plain_ne_empty {value : Datum} (h : value.isGiven = true) : value.plain ≠ "" := by
  cases value with
  | null => simp [isGiven] at h
  | bool value => cases value <;> decide
  | int value => exact toString_int_ne_empty value
  | real value => exact value.text_ne_empty
  | text value => simpa [isGiven, plain] using h
  | list items => simp [plain, literal, literalBy, String.append_eq_empty_iff]
  | dict entries => simp [plain, literal, literalBy, String.append_eq_empty_iff]
  | address value => exact value.text_ne_empty
  | duration value => exact value.text_ne_empty

end NodeAgent
