import NodeAgent.Proofs.Json.Escaped
import NodeAgent.Proofs.Log.Lines
/-!
A JSON line is one line. Whatever a record holds, its line is made of visible characters of ASCII,
so it neither ends early nor goes on behind its end.

Main results:
* `standsAlone_of_visible`: what is made of visible characters is one line.
* `json_line_stands_alone`: every JSON line is, and which records have one.
-/

namespace NodeAgent.Log

open Text (isVisible Visible)

/-- Whether a character ends a line for some reader: line feed, carriage return, the tabulators and
separators that are taken for them, next line, and the separators of lines and paragraphs. -/
def isLineEnd (c : Char) : Bool :=
  [0x0a, 0x0b, 0x0c, 0x0d, 0x1c, 0x1d, 0x1e, 0x85, 0x2028, 0x2029].contains c.toNat

theorem not_lineEnd_of_visible {c : Char} (h : isVisible c = true) : isLineEnd c = false := by
  simp only [isVisible, Bool.and_eq_true, decide_eq_true_eq] at h
  simp [isLineEnd]
  omega

/-- A line of visible characters, which is parted from what follows by its end alone. -/
structure StandsAlone (line : String) : Prop where
  ascii : ∀ c ∈ line.toList, 0x20 ≤ c.toNat ∧ c.toNat ≤ 0x7e
  one_line : ∀ rest : String, (line ++ "\n" ++ rest).toList.splitOnP isLineEnd =
    line.toList :: rest.toList.splitOnP isLineEnd

theorem standsAlone_of_visible {line : String} (h : Visible line.toList) : StandsAlone line where
  ascii := by
    intro c hc
    simpa [isVisible] using h c hc
  one_line := by
    intro rest
    have hnone : ∀ c ∈ line.toList, isLineEnd c = false := by
      intro c hc
      exact not_lineEnd_of_visible (h c hc)
    have hshape : (line ++ "\n" ++ rest).toList = line.toList ++ '\n' :: rest.toList := by simp
    rw [hshape]
    exact List.splitOnP_append_cons_of_forall_mem hnone '\n' rfl rest.toList

theorem standsAlone_of_json {pattern : Option String} {record : Record} {line : String}
    (h : Format.json.line pattern record = .ok line) : StandsAlone line := by
  obtain ⟨moment, message, -, -, rfl⟩ := Format.line_eq_ok_iff.mp h
  exact standsAlone_of_visible (Json.visible_render _)

/-- Every JSON line is one line of visible characters, and every record with a message has one,
unless its moment or one of the numbers to be shown has no text. -/
theorem json_line_stands_alone (pattern : Option String) (record : Record) :
    (∀ line, Format.json.line pattern record = .ok line → StandsAlone line) ∧
      (record.fields.names.Nodup →
        ((∃ line, Format.json.line pattern record = .ok line) ↔
          (Datum.int record.level).isWritable = true ∧
          (∃ moment, momentText pattern record.origin.moment = .ok moment) ∧
          (Datum.int record.origin.line).isWritable = true ∧
          (∃ message, record.message = .ok message) ∧
          ∀ field ∈ Format.json.valuesOf record, field.2.isWritable = true)) :=
  ⟨fun _ => standsAlone_of_json, Format.exists_line_iff⟩

/-- A record with line ends of three kinds, in its message, in the name and the value of a field,
and in the report of its failure. -/
def brokenUp : Record :=
  { logger := "kubeip", level := 20
    template := "ok\nlevel=%s", arguments := .positional [.text "\r"]
    fields := [("a\u2028b", .dict [("\u0085", .list [.text "😀\n", .real .nan])])]
    failure := some (.alone .value "first\nsecond") }

theorem json_line_stands_alone_broken_up :
    brokenUp.fields.names.Nodup ∧ brokenUp.message = .ok "ok\nlevel=\r" ∧
      ∃ line, Format.json.line none brokenUp = .ok line ∧ StandsAlone line ∧
        (line ++ "\n").toList.splitOnP isLineEnd = [line.toList, []] := by
  have hnames : brokenUp.fields.names.Nodup := by decide
  have hmessage : brokenUp.message = .ok "ok\nlevel=\r" := by rfl
  obtain ⟨halone, hexists⟩ := json_line_stands_alone none brokenUp
  obtain ⟨line, hline⟩ := (hexists hnames).mpr
    ⟨by decide +kernel, ⟨_, rfl⟩, by decide +kernel, ⟨_, hmessage⟩, by decide +kernel⟩
  refine ⟨hnames, hmessage, line, hline, halone line hline, ?_⟩
  simpa using (halone line hline).one_line ""

end NodeAgent.Log
