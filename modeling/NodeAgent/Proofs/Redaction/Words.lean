import NodeAgent.Proofs.Redaction.Blanks
import NodeAgent.Proofs.Redaction.Reach
import NodeAgent.Proofs.Text.Words
/-!
What redaction leaves alone. Its blanks are those of the text, so it has as many lines and words as
before; each word stays as it is or holds a mark; and a text in which the word for a token and the
names of secrets do not stand, in any letter case, stays as a whole.

Main results:
* `parts_redactChars`: each word stands or holds a mark.
* `redactChars_untold`: a text without the telling words stays.
* `redact_keeps_shape`: blanks, lines, words, and such texts as a whole.
-/

namespace NodeAgent.Redaction

open Text (Stops splitWhere splitWhere_cons splitWhere_run)

/-! ## Parts between blanks -/

/-- Whether a part of an outcome stands for a part of its text: it is the same, or there was
something to hide and it holds a mark. -/
def StandsFor (part out : List Char) : Prop := out = part ∨ (part ≠ [] ∧ mark <:+: out)

namespace StandsFor

theorem trans {part mid out : List Char} (h : StandsFor part mid) (h' : StandsFor mid out) :
    StandsFor part out := by
  rcases h' with rfl | ⟨hmid, hmark⟩
  · exact h
  · rcases h with rfl | ⟨hpart, -⟩
    · exact .inr ⟨hmid, hmark⟩
    · exact .inr ⟨hpart, hmark⟩

/-- The same text may stand in front of both. -/
theorem append {part out : List Char} (h : StandsFor part out) (front : List Char) :
    StandsFor (front ++ part) (front ++ out) := by
  rcases h with rfl | ⟨hpart, hmark⟩
  · exact .inl rfl
  · right
    exact ⟨List.append_ne_nil_of_right_ne_nil front hpart,
      hmark.trans (List.suffix_append front out).isInfix⟩

theorem of_secret {secret : List Char} (h : secret ≠ []) (part out : List Char) :
    StandsFor (secret ++ part) (mark ++ out) :=
  .inr ⟨List.append_ne_nil_of_left_ne_nil h part, (List.prefix_append mark out).isInfix⟩

theorem isEmpty_eq {part out : List Char} (h : StandsFor part out) :
    part.isEmpty = out.isEmpty := by
  rcases h with rfl | ⟨hpart, hmark⟩
  · rfl
  · have hout : out ≠ [] := by
      intro he
      rw [he, List.infix_nil] at hmark
      exact absurd hmark (by decide)
    rw [List.isEmpty_eq_false_iff.mpr hpart, List.isEmpty_eq_false_iff.mpr hout]

end StandsFor

/-- Whether the parts of an outcome stand for the parts of its text, one by one. -/
abbrev PartsStand (parts outs : List (List Char)) : Prop := List.Forall₂ StandsFor parts outs

namespace PartsStand

theorem trans {parts mids outs : List (List Char)} (h : PartsStand parts mids)
    (h' : PartsStand mids outs) : PartsStand parts outs := by
  induction h generalizing outs with
  | nil => exact h'
  | cons hpart _ ih =>
    cases h' with
    | cons hmid hrest => exact .cons (hpart.trans hmid) (ih hrest)

theorem modifyHead {parts outs : List (List Char)} {f g : List Char → List Char}
    (h : PartsStand parts outs) (hfg : ∀ part out, StandsFor part out → StandsFor (f part) (g out)) :
    PartsStand (parts.modifyHead f) (outs.modifyHead g) := by
  cases h with
  | nil => exact .nil
  | cons hpart hrest => exact .cons (hfg _ _ hpart) hrest

/-- The same text may stand in front of both, blanks or not. -/
theorem append {cs out : List Char}
    (h : PartsStand (splitWhere Text.isBlank cs) (splitWhere Text.isBlank out)) (front : List Char) :
    PartsStand (splitWhere Text.isBlank (front ++ cs)) (splitWhere Text.isBlank (front ++ out)) := by
  induction front with
  | nil => exact h
  | cons c front ih =>
    cases hc : Text.isBlank c with
    | true =>
      rw [List.cons_append, List.cons_append, splitWhere_cons hc, splitWhere_cons hc]
      exact .cons (.inl rfl) ih
    | false =>
      have hrun : ∀ x ∈ [c], Text.isBlank x = false := by simp [hc]
      show PartsStand (splitWhere _ ([c] ++ _)) (splitWhere _ ([c] ++ _))
      rw [splitWhere_run hrun, splitWhere_run hrun]
      exact ih.modifyHead fun part out hpart => hpart.append [c]

/-- A mark in the place of a secret makes one part stand for another. -/
theorem hide {cs out secret : List Char}
    (h : PartsStand (splitWhere Text.isBlank cs) (splitWhere Text.isBlank out))
    (hne : secret ≠ []) (hs : ∀ c ∈ secret, Text.isBlank c = false) :
    PartsStand (splitWhere Text.isBlank (secret ++ cs)) (splitWhere Text.isBlank (mark ++ out)) := by
  have hmark : ∀ c ∈ mark, Text.isBlank c = false :=
    fun c hc => not_blank_of_value (mark_value c hc)
  rw [splitWhere_run hs, splitWhere_run hmark]
  exact h.modifyHead fun part out _ => .of_secret hne part out

end PartsStand

/-- A pass leaves parts that stand for those of its text if no secret of its rule holds a blank. -/
theorem Shape.parts_pass {rule : Rule} (s : Shape rule)
    (hides : ∀ c, s.hides c = true → Text.isBlank c = false) (before : Option Char)
    (cs : List Char) :
    PartsStand (splitWhere Text.isBlank cs)
      (splitWhere Text.isBlank (pass rule before 0 cs)) := by
  induction before, cs using s.scan with
  | done before => exact .cons (.inl rfl) .nil
  | keep before c cs h ih =>
    rw [pass_keep h]
    exact ih.append [c]
  | hide before kept secret rest hh hne hs hr ih =>
    rw [s.pass_found hh hne hs hr, List.append_assoc]
    exact (ih.hide hne fun c hc => hides c (hs c hc)).append kept

theorem parts_redactChars (cs : List Char) :
    PartsStand (splitWhere Text.isBlank cs) (splitWhere Text.isBlank (redactChars cs)) := by
  rw [redactChars_eq]
  have hbearer := bearerShape.parts_pass (fun _ => not_blank_of_token) none cs
  have hnamed := namedShape.parts_pass (fun _ => not_blank_of_value) none
    (pass bearerRule none 0 cs)
  have hquery := queryShape.parts_pass (fun _ => not_blank_of_parameter) none
    (pass namedRule none 0 (pass bearerRule none 0 cs))
  exact (hbearer.trans hnamed).trans hquery

/-! ## Texts without a name -/

/-- Whether a name stands in a text, in any letter case. -/
def Mentions (name : String) (cs : List Char) : Prop := name.toList <:+: cs.map plainLetter

instance (name : String) (cs : List Char) : Decidable (Mentions name cs) :=
  inferInstanceAs (Decidable (_ <:+: _))

theorem Spells.mentions {name : String} {word cs : List Char} (h : Spells name.toList word)
    (hw : word <:+: cs) : Mentions name cs := by
  have hplain := hw.map plainLetter
  rw [h] at hplain
  exact hplain

/-- The words that redaction goes by. -/
def telltales : List String := "bearer" :: secretNames

/-- The name of each secret parameter holds the name of a secret. -/
theorem parameterNames_secret : ∀ name ∈ parameterNames, ∃ secret ∈ secretNames,
    secret.toList <:+: name.toList := by
  intro name hname
  simp only [parameterNames, List.mem_cons, List.not_mem_nil, or_false] at hname
  rcases hname with rfl | rfl | rfl | rfl
  · exact ⟨"token", by decide, List.infix_rfl⟩
  · exact ⟨"token", by decide, "access_".toList, [], rfl⟩
  · exact ⟨"api_key", by decide, List.infix_rfl⟩
  · exact ⟨"password", by decide, List.infix_rfl⟩

namespace Shape

variable {rule : Rule} (s : Shape rule)

/-- Whether each head of a rule mentions one of the words that redaction goes by. -/
def Telling : Prop :=
  ∀ {before kept}, s.heads before kept → ∃ name ∈ telltales, Mentions name kept

/-- A pass keeps a text that has none of the words. -/
theorem pass_untold (ht : s.Telling) {cs : List Char}
    (h : ∀ name ∈ telltales, ¬ Mentions name cs) (before : Option Char) :
    pass rule before 0 cs = cs := by
  have hquiet : pass rule before 0 (cs ++ []) = cs ++ pass rule (lastOf before cs) 0 [] := by
    refine pass_quiet fun front back he _ => ?_
    cases hf : rule (lastOf before front) (back ++ []) with
    | none => rfl
    | some found =>
      exfalso
      obtain ⟨rest, hr, hh, -⟩ := s.found_iff.mp hf
      obtain ⟨name, hname, hmention⟩ := ht hh
      have hkept : found.kept <:+: cs := by
        rw [List.append_nil] at hr
        rw [he, hr]
        exact ⟨front, rest, by rw [List.append_assoc]⟩
      exact h name hname (hmention.trans (hkept.map plainLetter))
  rw [List.append_nil] at hquiet
  rw [hquiet]
  exact List.append_nil cs

end Shape

theorem bearerShape_telling : bearerShape.Telling := by
  intro _ kept hh
  obtain ⟨word, blanks, rfl, hs, -⟩ := hh
  exact ⟨"bearer", List.mem_cons_self, hs.mentions (List.prefix_append word blanks).isInfix⟩

theorem namedShape_telling : namedShape.Telling := by
  intro _ kept hh
  obtain ⟨-, word, gap, sign, gap', rfl, ⟨name, hname, hs⟩, -⟩ := hh
  refine ⟨name, List.mem_cons_of_mem "bearer" hname, hs.mentions ?_⟩
  rw [List.append_assoc]
  exact (List.prefix_append word _).isInfix

theorem queryShape_telling : queryShape.Telling := by
  intro _ kept hh
  obtain ⟨lead, word, rfl, -, parameter, hp, hs⟩ := hh
  obtain ⟨name, hname, hin⟩ := parameterNames_secret parameter hp
  refine ⟨name, List.mem_cons_of_mem "bearer" hname, hin.trans (hs.mentions ?_)⟩
  exact ⟨[lead], ['='], rfl⟩

theorem redactChars_untold {cs : List Char} (h : ∀ name ∈ telltales, ¬ Mentions name cs) :
    redactChars cs = cs := by
  rw [redactChars_eq, bearerShape.pass_untold bearerShape_telling h,
    namedShape.pass_untold namedShape_telling h, queryShape.pass_untold queryShape_telling h]

/-! ## Redacted texts -/

/-- What a redacted text has in common with its text. -/
structure KeepsShape (cs out : List Char) : Prop where
  blanks : blanks out = blanks cs
  /-- Whatever blanks are taken for the ends of lines, there are as many lines. -/
  lines : ∀ ends : Char → Bool, (∀ c, ends c = true → Text.isBlank c = true) →
    (splitWhere ends out).length = (splitWhere ends cs).length
  words : List.Forall₂ (fun word word' => word' = word ∨ mark <:+: word')
    (Text.words cs) (Text.words out)

theorem lines_of_blanks {cs out : List Char} (h : blanks out = blanks cs) {ends : Char → Bool}
    (he : ∀ c, ends c = true → Text.isBlank c = true) :
    (splitWhere ends out).length = (splitWhere ends cs).length := by
  have among : ∀ xs : List Char, (blanks xs).filter ends = xs.filter ends := by
    intro xs
    rw [Redaction.blanks, List.filter_filter]
    refine List.filter_congr fun c _ => ?_
    cases hc : ends c with
    | true => rw [he c hc]; rfl
    | false => rfl
  rw [Text.length_splitWhere, Text.length_splitWhere, ← among out, h, among cs]

theorem PartsStand.words {cs out : List Char}
    (h : PartsStand (splitWhere Text.isBlank cs) (splitWhere Text.isBlank out)) :
    List.Forall₂ (fun word word' => word' = word ∨ mark <:+: word')
      (Text.words cs) (Text.words out) := by
  have hfilter : List.Forall₂ StandsFor (Text.words cs) (Text.words out) := by
    refine List.rel_filter (fun part part' hpart => ?_) h
    show (!part.isEmpty) = true ↔ (!part'.isEmpty) = true
    rw [hpart.isEmpty_eq]
  exact hfilter.imp fun word word' hword => hword.imp id And.right

/-- Redaction keeps the blanks of a text, and with them its lines and words; a word changes only by
a mark; and a text stays as it is if none of the words that redaction goes by stands in it. -/
theorem redact_keeps_shape (t : String) :
    KeepsShape t.toList (redact t).toList ∧
      ((∀ name ∈ telltales, ¬ Mentions name t.toList) → redact t = t) := by
  have he : (redact t).toList = redactChars t.toList := String.toList_ofList
  have hblanks := blanks_redactChars t.toList
  refine ⟨?_, fun h => ?_⟩
  · rw [he]
    exact ⟨hblanks, fun ends hends => lines_of_blanks hblanks hends,
      (parts_redactChars t.toList).words⟩
  · rw [← String.toList_inj, he]
    exact redactChars_untold h

/-- Names that are broken up are none, whatever signs stand behind them. -/
theorem redact_keeps_shape_near_names :
    (∀ name ∈ telltales, ¬ Mentions name "bear er x, tok-en=y api key: z".toList) ∧
      redact "bear er x, tok-en=y api key: z" = "bear er x, tok-en=y api key: z" := by
  have none_stands : ∀ name ∈ telltales,
      ¬ Mentions name "bear er x, tok-en=y api key: z".toList := by
    decide +kernel
  exact ⟨none_stands, (redact_keeps_shape _).2 none_stands⟩

end NodeAgent.Redaction
