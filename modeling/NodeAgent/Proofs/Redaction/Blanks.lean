import NodeAgent.Proofs.Redaction.Pass
/-!
Redaction keeps the blanks of a text. No secret and no mark holds a blank, so every pass leaves the
row of blanks as it is, line ends among them.

Main result: `blanks_redactChars`, by `Shape.blanks_pass` for each rule.
-/

namespace NodeAgent.Redaction

/-- The blanks of a text, in order. -/
def blanks (cs : List Char) : List Char := cs.filter Text.isBlank

theorem blanks_append (cs ds : List Char) : blanks (cs ++ ds) = blanks cs ++ blanks ds :=
  List.filter_append cs ds

theorem blanks_eq_nil {cs : List Char} (h : ∀ c ∈ cs, Text.isBlank c = false) : blanks cs = [] := by
  simpa [blanks] using h

theorem not_blank_of_parameter {c : Char} (h : isParameterChar c = true) :
    Text.isBlank c = false := by
  simp only [isParameterChar, Bool.and_eq_true, Bool.not_eq_true'] at h
  exact h.1

/-- A pass keeps the blanks if no secret of its rule holds one. -/
theorem Shape.blanks_pass {rule : Rule} (s : Shape rule)
    (hides : ∀ c, s.hides c = true → Text.isBlank c = false) (before : Option Char)
    (cs : List Char) : blanks (pass rule before 0 cs) = blanks cs := by
  induction before, cs using s.scan with
  | done before => rfl
  | keep before c cs h ih =>
    rw [pass_keep h]
    show blanks ([c] ++ _) = blanks ([c] ++ _)
    rw [blanks_append, blanks_append, ih]
  | hide before kept secret rest hh hne hs hr ih =>
    have hsecret : blanks secret = [] := blanks_eq_nil fun c hc => hides c (hs c hc)
    have hmark : blanks mark = [] := by decide
    rw [s.pass_found hh hne hs hr]
    simp only [blanks_append, ih, hsecret, hmark, List.append_nil, List.nil_append]

/-- Redaction keeps the blanks. -/
theorem blanks_redactChars (cs : List Char) : blanks (redactChars cs) = blanks cs := by
  rw [redactChars_eq, queryShape.blanks_pass fun _ => not_blank_of_parameter,
    namedShape.blanks_pass fun _ => not_blank_of_value,
    bearerShape.blanks_pass fun _ => not_blank_of_token]

end NodeAgent.Redaction
