import NodeAgent.Proofs.Address.Parts
import NodeAgent.Proofs.Log.Agreement
import NodeAgent.Proofs.Redaction.Blanks
import NodeAgent.Proofs.Text.Visible
/-!
Line breaks of text lines. A text line has the breaks of what goes into it as it is: the name of the
file, the message, the names of the fields, the texts among their values, and the scopes of
addresses. Nothing else in a line without a report can break it, and nothing in it hides a break.

Main results:
* `breaks_redact`, `breaks_plain`: the breaks that redaction and the text of a value leave.
* `breaks_textLine`: the breaks of a text line, in order.
* `text_line_single_iff`: when a text line is one line, and which records have one.
-/

namespace NodeAgent.Log

open Text (isVisible Visible)

/-- Whether a character breaks a line: line feed or carriage return. -/
def isBreak (c : Char) : Bool := c = '\n' || c = '\r'

theorem isBreak_iff {c : Char} : isBreak c = true ↔ c = '\n' ∨ c = '\r' := by
  simp [isBreak]

theorem isBlank_of_isBreak {c : Char} (h : isBreak c = true) : Text.isBlank c = true := by
  rcases isBreak_iff.mp h with rfl | rfl
  · rfl
  · rfl

/-- The breaks of a text, in order. -/
def breaks (s : String) : List Char := s.toList.filter isBreak

@[simp] theorem breaks_append (s t : String) : breaks (s ++ t) = breaks s ++ breaks t := by
  simp [breaks]

theorem breaks_of_visible {s : String} (h : Visible s.toList) : breaks s = [] := by
  rw [breaks, List.filter_eq_nil_iff]
  intro c hc hbreak
  have hvisible := h c hc
  rcases isBreak_iff.mp hbreak with rfl | rfl
  · simp [isVisible] at hvisible
  · simp [isVisible] at hvisible

theorem breaks_join (texts : List String) : breaks (String.join texts) = texts.flatMap breaks := by
  induction texts with
  | nil => simp [breaks]
  | cons text texts ih => simp [ih]

theorem breaks_intercalate {mark : String} (hmark : breaks mark = []) (texts : List String) :
    breaks (String.intercalate mark texts) = texts.flatMap breaks := by
  induction texts with
  | nil => simp [breaks]
  | cons text texts ih =>
    cases texts with
    | nil => simp
    | cons other texts => simp_all [String.intercalate_cons_cons]

theorem filter_isBreak_blanks (cs : List Char) :
    (Redaction.blanks cs).filter isBreak = cs.filter isBreak := by
  rw [Redaction.blanks, List.filter_filter]
  apply List.filter_congr
  intro c _
  by_cases hc : isBreak c = true
  · simp [hc, isBlank_of_isBreak hc]
  · simp [hc]

/-- Redaction neither adds nor takes a break, since breaks are blanks. -/
theorem breaks_redact (s : String) : breaks (Redaction.redact s) = breaks s :=
  calc breaks (Redaction.redact s)
      = (Redaction.redactChars s.toList).filter isBreak := by
        rw [breaks, Redaction.redact, String.toList_ofList]
    _ = (Redaction.blanks (Redaction.redactChars s.toList)).filter isBreak :=
        (filter_isBreak_blanks _).symm
    _ = (Redaction.blanks s.toList).filter isBreak := by rw [Redaction.blanks_redactChars]
    _ = breaks s := filter_isBreak_blanks _

/-! ## Values -/

theorem breaks_ofList (cs : List Char) : breaks (String.ofList cs) = cs.filter isBreak := by
  rw [breaks, String.toList_ofList]

theorem filter_isBreak_of_visible {cs : List Char} (h : Visible cs) : cs.filter isBreak = [] := by
  rw [← breaks_ofList]
  exact breaks_of_visible (by rwa [String.toList_ofList])

theorem quotedChar_breaks (shows : Char → Bool) {mark : Char} (hmark : isBreak mark = false)
    (c : Char) : (Text.quotedChar shows mark c).filter isBreak = [] := by
  have hslash : isBreak '\\' = false := rfl
  unfold Text.quotedChar
  split
  · rename_i h
    rcases h with rfl | rfl
    · simp [hmark, hslash]
    · rfl
  split
  · rfl
  split
  · rfl
  split
  · rfl
  split
  · rename_i hfeed hreturn _ _
    simp [isBreak, hfeed, hreturn]
  · exact filter_isBreak_of_visible (Text.visible_codeEscape c.toNat)

/-- A quoted text has no breaks: they are escaped. -/
theorem breaks_quoted (s : String) : breaks (Text.quoted s) = [] := by
  have hmark : isBreak (Text.quoteMark s.toList) = false := by
    unfold Text.quoteMark
    split <;> rfl
  rw [Text.quoted, breaks_ofList, Text.quotedChars]
  simp [List.filter_flatMap, quotedChar_breaks _ hmark, hmark]

theorem visible_joinParts {mark : Char} (hmark : isVisible mark = true) {parts : List (List Char)}
    (h : ∀ part ∈ parts, Visible part) : Visible (Address.joinParts mark parts) := by
  intro c hc
  obtain rfl | ⟨part, hpart, hc⟩ := Address.mem_joinParts hc
  · exact hmark
  · exact h part hpart c hc

theorem visible_groupsText (groups : List Nat) : Visible (Address.groupsText groups) := by
  intro c hc
  obtain rfl | ⟨d, hd, rfl⟩ := Address.mem_groupsText hc
  · decide
  · exact Text.visible_digitChar d hd

/-- The text that a value puts into a line as it is: a text itself, and the scope of an address. -/
def bareText : Datum → String
  | .text value => value
  | .address (.v6 _ (some scope)) => scope
  | _ => ""

theorem breaks_address (value : Address) :
    breaks value.text = breaks (bareText (.address value)) := by
  cases value with
  | v4 bits =>
    apply breaks_of_visible
    rw [Address.text, String.toList_ofList]
    apply visible_joinParts (by decide)
    intro part hpart
    obtain ⟨octet, -, rfl⟩ := List.mem_map.mp hpart
    exact Text.visible_toDigits (by decide) (by decide) octet
  | v6 bits scope =>
    have hgroups := filter_isBreak_of_visible
      (visible_groupsText (Address.toGroups 65536 8 bits.toNat))
    cases scope with
    | none =>
      rw [Address.text, breaks_ofList, Address.chars, List.append_nil, hgroups]
      rfl
    | some scope =>
      rw [Address.text, breaks_ofList, Address.chars, List.filter_append, hgroups]
      rfl

theorem breaks_nat (n : Nat) : breaks (toString n) = [] := breaks_of_visible (Text.visible_nat n)

theorem breaks_int (n : Int) : breaks (toString n) = [] := breaks_of_visible (Text.visible_int n)

theorem breaks_replicate {c : Char} (h : isBreak c = false) (n : Nat) :
    breaks (String.ofList (List.replicate n c)) = [] := by
  rw [breaks_ofList, List.filter_eq_nil_iff]
  intro d hd
  simp [List.eq_of_mem_replicate hd, h]

theorem breaks_duration (value : Duration) : breaks value.text = [] := by
  have hpadded (width n : Nat) : breaks (Duration.padded width n) = [] := by
    have hzeros := breaks_replicate (show isBreak '0' = false from rfl)
    simp only [Duration.padded, breaks_append, hzeros, breaks_nat, List.append_nil]
  have hnone : breaks "" = [] := rfl
  have hday : breaks " day, " = [] := rfl
  have hdays : breaks " days, " = [] := rfl
  have hcolon : breaks ":" = [] := rfl
  have hpoint : breaks "." = [] := rfl
  simp only [Duration.text, apply_ite breaks, breaks_append, hpadded, breaks_nat, breaks_int, hnone,
    hday, hdays, hcolon, hpoint, List.append_nil, ite_self]

theorem breaks_duration_literal (value : Duration) : breaks value.literal = [] := by
  have hpart {p : Prop} [Decidable p] {text : String} (h : breaks text = []) :
      List.flatMap breaks (if p then [] else [text]) = [] := by
    split <;> simp [h]
  have hnamed {name text : String} (hname : breaks name = []) (htext : breaks text = []) :
      breaks (name ++ text) = [] := by
    rw [breaks_append, hname, htext]
    rfl
  unfold Duration.literal
  simp only
  generalize hparts : (_ : List String) ++ _ ++ _ = parts
  have hnone : parts.flatMap breaks = [] := by
    rw [← hparts, List.flatMap_append, List.flatMap_append, hpart (hnamed rfl (breaks_int _)),
      hpart (hnamed rfl (breaks_nat _)), hpart (hnamed rfl (breaks_nat _))]
    rfl
  rw [breaks_append, breaks_append]
  split
  · rfl
  · rw [breaks_intercalate rfl, hnone]
    rfl

theorem breaks_address_literal (value : Address) : breaks value.literal = [] := by
  cases value with
  | v4 bits =>
    rw [Address.literal, breaks_append, breaks_append, breaks_quoted]
    rfl
  | v6 bits scope =>
    rw [Address.literal, breaks_append, breaks_append, breaks_quoted]
    rfl

mutual

/-- A value whose texts are quoted has no breaks, however deep they stand. -/
theorem breaks_literal : ∀ value : Datum, breaks value.literal = []
  | .null => rfl
  | .bool value => by cases value <;> rfl
  | .int value => breaks_int value
  | .real value => breaks_of_visible (Text.visible_real value)
  | .text value => breaks_quoted value
  | .list items => by
    show breaks ("[" ++ String.intercalate ", " (Datum.literalsBy Text.quoted items) ++ "]") = []
    rw [breaks_append, breaks_append, breaks_intercalate rfl, breaks_literals items]
    rfl
  | .dict entries => by
    show breaks ("\x7b" ++ String.intercalate ", " (Datum.entriesBy Text.quoted entries) ++
      "\x7d") = []
    rw [breaks_append, breaks_append, breaks_intercalate rfl, breaks_entries entries]
    rfl
  | .address value => breaks_address_literal value
  | .duration value => breaks_duration_literal value

theorem breaks_literals : ∀ items : List Datum,
    (Datum.literalsBy Text.quoted items).flatMap breaks = []
  | [] => rfl
  | item :: items => by
    have hitem : breaks (Datum.literalBy Text.quoted item) = [] := breaks_literal item
    rw [Datum.literalsBy, List.flatMap_cons, hitem, breaks_literals items]
    rfl

theorem breaks_entries : ∀ entries : List (String × Datum),
    (Datum.entriesBy Text.quoted entries).flatMap breaks = []
  | [] => rfl
  | (key, value) :: entries => by
    have hvalue : breaks (Datum.literalBy Text.quoted value) = [] := breaks_literal value
    rw [Datum.entriesBy, List.flatMap_cons, breaks_entries entries, breaks_append, breaks_append,
      breaks_quoted, hvalue]
    rfl

end

/-- What breaks the text of a value is what it puts there as it is. -/
theorem breaks_plain (value : Datum) : breaks value.plain = breaks (bareText value) := by
  cases value with
  | text value => rfl
  | address value => exact breaks_address value
  | duration value => exact breaks_duration value
  | null => rfl
  | bool value => exact breaks_literal (.bool value)
  | int value => exact breaks_literal (.int value)
  | real value => exact breaks_literal (.real value)
  | list items => exact breaks_literal (.list items)
  | dict entries => exact breaks_literal (.dict entries)

/-! ## Lines -/

theorem breaks_stamp {moment : Time.Moment} {text : String} (h : Time.stamp moment = .ok text) :
    breaks text = [] := by
  have hpadded (width : Nat) (n : Int) : breaks (Time.padded width n) = [] := by
    have hzeros := breaks_replicate (show isBreak '0' = false from rfl)
    have hsign : breaks "-" = [] := rfl
    have hnone : breaks "" = [] := rfl
    simp only [Time.padded, Time.paddedWith, breaks_append, apply_ite breaks, hzeros, hsign, hnone,
      breaks_nat, List.append_nil, ite_self]
  have hdash : breaks "-" = [] := rfl
  have hblank : breaks " " = [] := rfl
  have hcolon : breaks ":" = [] := rfl
  have hcomma : breaks "," = [] := rfl
  unfold Time.stamp at h
  split at h
  · simp at h
  · rw [← Except.ok.inj h]
    simp only [Time.dateText, Time.clockText, Time.hourText, breaks_append, breaks_int, hpadded,
      hdash, hblank, hcolon, hcomma, List.append_nil]

theorem breaks_levelName (number : Int) : breaks (levelName number) = [] := by
  unfold levelName
  split
  · rename_i level _
    cases level <;> rfl
  · split
    · rfl
    · rw [breaks_append, breaks_int]
      rfl

theorem breaks_caller (origin : Origin) :
    breaks (callerText origin) = breaks (Path.lastPart origin.path) := by
  have hcolon : breaks ":" = [] := rfl
  simp only [callerText, breaks_append, breaks_int, hcolon, List.append_nil]

/-- The breaks that a field brings into a line. -/
def fieldBreaks (field : String × Datum) : List Char := breaks field.1 ++ breaks (bareText field.2)

theorem breaks_fieldsPart (fields : Fields) :
    breaks (fieldsPart fields) = fields.flatMap fieldBreaks := by
  have hblank : breaks " " = [] := rfl
  have hequals : breaks "=" = [] := rfl
  rw [fieldsPart, breaks_join, List.flatMap_map]
  congr 1
  funext field
  simp only [breaks_append, breaks_plain, hblank, hequals, fieldBreaks, List.append_nil,
    List.nil_append]

/-- The breaks of a text line, in order. -/
theorem breaks_textLine {moment : String} (hmoment : breaks moment = []) (record : Record)
    (message : String) : breaks (textLine moment record (Redaction.redact message)) =
      breaks (Path.lastPart record.origin.path) ++ breaks message ++
        record.shownFields.sortByName.flatMap fieldBreaks ++
        breaks (failurePart record.failure) := by
  have hblanks := breaks_replicate (show isBreak ' ' = false from rfl)
  have hblank : breaks " " = [] := rfl
  have hopen : breaks " [" = [] := rfl
  have hclose : breaks "] " = [] := rfl
  rw [textLine_eq]
  simp only [headText, padRight, breaks_append, breaks_caller, breaks_levelName, breaks_redact,
    breaks_fieldsPart, hmoment, hblanks, hblank, hopen, hclose, List.append_nil, List.nil_append]

/-- Whether a text is one line: it holds no line feed and no carriage return. -/
def SingleLine (s : String) : Prop := '\n' ∉ s.toList ∧ '\r' ∉ s.toList

theorem breaks_eq_nil_iff {s : String} : breaks s = [] ↔ SingleLine s := by
  simp only [breaks, List.filter_eq_nil_iff, isBreak_iff, SingleLine]
  constructor
  · intro h
    exact ⟨fun hmem => h _ hmem (.inl rfl), fun hmem => h _ hmem (.inr rfl)⟩
  · rintro ⟨hfeed, hreturn⟩ c hc (rfl | rfl)
    · exact hfeed hc
    · exact hreturn hc

/-- The breaks of a text line are those of what is logged: none is escaped, and none is new. -/
structure BreaksAsLogged (record : Record) (message line : String) : Prop where
  single_iff : SingleLine line ↔ SingleLine (Path.lastPart record.origin.path) ∧
    SingleLine message ∧
    ∀ field ∈ record.shownFields, SingleLine field.1 ∧ SingleLine (bareText field.2)
  in_order : breaks line = breaks (Path.lastPart record.origin.path) ++ breaks message ++
    record.shownFields.sortByName.flatMap fieldBreaks

theorem textLine_breaksAsLogged {moment : String} (hmoment : breaks moment = []) {record : Record}
    (hfailure : record.failure = none) (message : String) :
    BreaksAsLogged record message (textLine moment record (Redaction.redact message)) := by
  have horder : breaks (textLine moment record (Redaction.redact message)) =
      breaks (Path.lastPart record.origin.path) ++ breaks message ++
        record.shownFields.sortByName.flatMap fieldBreaks := by
    rw [breaks_textLine hmoment, hfailure]
    exact List.append_nil _
  refine ⟨?_, horder⟩
  rw [← breaks_eq_nil_iff, horder]
  simp only [List.append_eq_nil_iff, List.flatMap_eq_nil_iff, fieldBreaks, breaks_eq_nil_iff,
    and_assoc, (Fields.sortByName_perm record.shownFields).mem_iff]

/-- The text line of a record without a failure is one line exactly if the name of the file, the
message, and the names and bare texts of the fields that show are. Every such record has one, unless
its moment or one of the numbers to be shown has no text. -/
theorem text_line_single_iff {record : Record} {message : String} (hfailure : record.failure = none)
    (hmessage : record.message = .ok message) :
    (∀ line, Format.text.line none record = .ok line → BreaksAsLogged record message line) ∧
      ((∃ line, Format.text.line none record = .ok line) ↔
        (Datum.int record.level).isWritable = true ∧
        (∃ moment, Time.stamp record.origin.moment = .ok moment) ∧
        (Datum.int record.origin.line).isWritable = true ∧
        ∀ field ∈ record.shownFields, field.2.isWritable = true) := by
  constructor
  · intro line hline
    obtain ⟨moment, filled, hhead, -, rfl⟩ := Format.line_eq_ok_iff.mp hline
    obtain rfl : message = filled := Except.ok.inj (hmessage.symm.trans hhead.message)
    exact textLine_breaksAsLogged (breaks_stamp hhead.moment) hfailure message
  · have hshows (moment message : String) : Format.text.canShow moment record message = true ↔
        ∀ field ∈ record.shownFields, field.2.isWritable = true := by
      simp [Format.canShow]
    rw [Format.exists_line_iff_of_shows hshows, hmessage]
    simp [momentText]

/-- A record whose message goes on as the line of another one. -/
def forgingRecord : Record :=
  { logger := "kubeip", level := 20
    template := "ready\n1970-01-01 00:00:00,000 CRITICAL [:0] lost" }

/-- The record that is forged. -/
def forgedRecord : Record := { logger := "kubeip", level := 50, template := "lost" }

/-- The line of one record may be the lines of two. -/
theorem text_line_single_iff_forging :
    forgingRecord.failure = none ∧ ∃ message, forgingRecord.message = .ok message ∧
      ∃ line, Format.text.line none forgingRecord = .ok line ∧ ¬ SingleLine line ∧
        ∃ front forged, Format.text.line none forgedRecord = .ok forged ∧
          line = front ++ "\n" ++ forged := by
  have hmessage : forgingRecord.message =
      .ok "ready\n1970-01-01 00:00:00,000 CRITICAL [:0] lost" := by rfl
  have hforged : Format.text.line none forgedRecord =
      .ok "1970-01-01 00:00:00,000 CRITICAL [:0] lost" := by decide +kernel
  have hline : Format.text.line none forgingRecord =
      .ok ("1970-01-01 00:00:00,000 INFO     [:0] ready" ++ "\n" ++
        "1970-01-01 00:00:00,000 CRITICAL [:0] lost") := by decide +kernel
  obtain ⟨hbreaks, -⟩ := text_line_single_iff rfl hmessage
  refine ⟨rfl, _, hmessage, _, hline, ?_, _, _, hforged, rfl⟩
  intro hsingle
  have hnone := ((hbreaks _ hline).single_iff.mp hsingle).2.1.1
  exact absurd hnone (by decide)

end NodeAgent.Log
