import NodeAgent.Proofs.Redaction.Pair
/-!
Tokens behind the word for one, and the values of secret parameters: no text around them brings them
to light. To the first word for a token its pass comes with nothing open. A parameter may stand in a
secret that is open already, but such a secret goes on over the whole of the value.

Main results:
* `TokenPlace.redactChars_hides`: one redaction for all tokens at a place.
* `ParameterPlace.redactChars_hides`: one redaction for all values of a parameter at a place.
* `redact_hides_tokens_and_parameters`: both, for texts.
-/

namespace NodeAgent.Redaction

open Text (Stops dropWhile_run takeWhile_run mem_takeWhile)

/-! ## Tokens -/

/-- The place of a token: its word behind a text without such a word, blanks, and behind the token
an end or a character of another kind. -/
structure TokenPlace (before word blanks after : List Char) : Prop where
  no_bearer : ¬ "bearer".toList <:+: before.map plainLetter
  spelled : Spells "bearer".toList word
  nonempty : blanks ≠ []
  blank : ∀ b ∈ blanks, Text.isBlank b = true
  ends : Stops isTokenChar after

/-- A token: characters of tokens, at least one of them. -/
structure IsToken (token : List Char) : Prop where
  nonempty : token ≠ []
  chars : ∀ c ∈ token, isTokenChar c = true

namespace TokenPlace

variable {before word blanks after : List Char}

/-- Nothing is found in front of the first word for a token. -/
theorem none_before (h : TokenPlace before word blanks after) {front back ys : List Char}
    (he : before = front ++ back) (hb : back ≠ []) (place : Option Char) :
    bearerRule place (back ++ (word ++ ys)) = none := by
  cases hf : bearerRule place (back ++ (word ++ ys)) with
  | none => rfl
  | some found =>
    exfalso
    obtain ⟨rest, hr, ⟨word', blanks', hk, hs, -, -⟩, -⟩ := bearerRule_eq_some_iff.mp hf
    obtain ⟨c, tail, hw, hc, -⟩ := h.spelled.bearer_first
    have hprefix : word' <+: back ++ c :: (tail ++ ys) := by
      rw [hw, List.cons_append] at hr
      rw [hr, hk, List.append_assoc]
      exact List.prefix_append _ _
    by_cases hback : word' <+: back
    · -- The word would stand in the text before.
      have hinfix : word' <:+: before :=
        hback.isInfix.trans (he ▸ (List.suffix_append front back).isInfix)
      have hplain := hinfix.map plainLetter
      rw [hs] at hplain
      exact h.no_bearer hplain
    · -- The word would hold its first letter once more.
      obtain ⟨zs, hz⟩ := over_border hprefix hback
      obtain ⟨d, tail', hw', -, hothers⟩ := hs.bearer_first
      obtain ⟨e, back, rfl⟩ := List.exists_cons_of_ne_nil hb
      rw [hw', List.cons_append] at hz
      exact hothers c (by rw [(List.cons.inj hz).2]; simp) hc

/-- The pass for tokens hides the token. -/
theorem pass_bearer (h : TokenPlace before word blanks after) {token : List Char}
    (ht : IsToken token) :
    pass bearerRule none 0 (before ++ (word ++ (blanks ++ (token ++ after)))) =
      before ++ (word ++ (blanks ++ (mark ++ pass bearerRule none 0 after))) := by
  have hh : bearerShape.heads (lastOf none before) (word ++ blanks) :=
    ⟨word, blanks, rfl, h.spelled, h.nonempty, h.blank⟩
  have hfound := bearerShape.pass_found hh ht.nonempty ht.chars h.ends
  rw [bearer_rebase (lastOf _ _) none after] at hfound
  simp only [List.append_assoc] at hfound
  rw [pass_quiet fun front back he hb => h.none_before he hb _, hfound]

/-- A redacted text does not depend on the token. -/
theorem redactChars_hides (h : TokenPlace before word blanks after) :
    ∃ out, ∀ token, IsToken token →
      redactChars (before ++ (word ++ (blanks ++ (token ++ after)))) = out := by
  refine ⟨pass queryRule none 0 (pass namedRule none 0
    (before ++ (word ++ (blanks ++ (mark ++ pass bearerRule none 0 after))))), fun token ht => ?_⟩
  rw [redactChars_eq, h.pass_bearer ht]

end TokenPlace

/-! ## Parameters -/

/-- The characters that a query holds as they are. -/
def isUnreserved (c : Char) : Bool := c.isAlphanum || c = '-' || c = '.' || c = '_' || c = '~'

/-- A value that a query holds as it is. -/
structure IsUnreserved (value : List Char) : Prop where
  nonempty : value ≠ []
  chars : ∀ c ∈ value, isUnreserved c = true

/-- The place of a secret parameter's value: behind a question mark or an ampersand with the name,
and in front of the end or of the next parameter. -/
structure ParameterPlace (lead : Char) (name after : List Char) : Prop where
  lead : lead = '?' ∨ lead = '&'
  spelled : SpellsOne parameterNames name
  ends : ∀ c ∈ after.head?, c = '&'

theorem unreserved_kinds {c : Char} (h : isUnreserved c = true) :
    isValueChar c = true ∧ isParameterChar c = true ∧ c ≠ ':' ∧ c ≠ '=' := by
  simp only [isUnreserved, Bool.or_eq_true, decide_eq_true_eq] at h
  rcases h with (((h | rfl) | rfl) | rfl) | rfl
  · obtain ⟨-, hv, hp, hw, -⟩ := alphanum_kinds h
    refine ⟨hv, hp, ?_, ?_⟩
    · intro he
      rw [he] at hw
      exact absurd hw (by decide)
    · intro he
      rw [he] at hw
      exact absurd hw (by decide)
  all_goals decide

section

variable {lead : Char} (hl : lead = '?' ∨ lead = '&')
include hl

theorem lead_not_name : ¬ IsNameChar lead :=
  fun hn => hn.not_delimiter (by rcases hl with rfl | rfl <;> decide)

theorem lead_not_blank : Text.isBlank lead = false := by
  rcases hl with rfl | rfl <;> decide

theorem lead_not_mem_blanks {gap : List Char} (hg : ∀ b ∈ gap, Text.isBlank b = true) :
    lead ∉ gap := by
  intro hm
  have := hg lead hm
  rw [lead_not_blank hl] at this
  simp at this

/-- The word for a token with its blanks holds no character that a parameter begins with. -/
theorem BearerHead.no_lead {kept : List Char} (h : BearerHead kept) : lead ∉ kept := by
  obtain ⟨word, blanks, rfl, hs, -, hblank⟩ := h
  simp only [List.mem_append, not_or]
  exact ⟨fun hm => lead_not_name hl (hs.nameChar bearer_letters hm), lead_not_mem_blanks hl hblank⟩

/-- Neither does the name of a secret with its sign. -/
theorem NamedHead.no_lead {before : Option Char} {kept : List Char} (h : NamedHead before kept) :
    lead ∉ kept := by
  obtain ⟨-, name, gap, sign, gap', rfl, hs, hg, hsign, hg'⟩ := h
  have hne : lead ≠ sign := by
    rcases hl with rfl | rfl <;> rcases hsign with rfl | rfl <;> decide
  simp only [List.mem_append, List.mem_cons, not_or]
  exact ⟨⟨fun hm => lead_not_name hl (hs.nameChar secretNames_letters hm),
    lead_not_mem_blanks hl hg⟩, hne, lead_not_mem_blanks hl hg'⟩

/-- No head of a parameter lies across a character that one begins with. -/
theorem query_parted {xs ys : List Char} : queryShape.Parted xs (lead :: ys) := by
  refine queryShape.parted_of_no_over fun front back before zs _ hb hh => ?_
  obtain ⟨c, tail, hk, -, hothers⟩ := QueryHead.first hh
  obtain ⟨d, back, rfl⟩ := List.exists_cons_of_ne_nil hb
  have hm : lead ∈ tail := by
    rw [← (List.cons.inj hk).2]
    simp
  exact hl.elim (hothers lead hm).1 (hothers lead hm).2

end

theorem Shape.parted_of_lacking {rule : Rule} (s : Shape rule) {xs ys : List Char} {c : Char}
    (h : ∀ before kept, s.heads before kept → c ∉ kept) : s.Parted xs (c :: ys) :=
  s.parted_of_no_over fun _ _ _ _ _ _ hh => h _ _ hh (by simp)

namespace ParameterPlace

variable {lead : Char} {name after : List Char}

theorem pass_after {rule : Rule} (s : Shape rule) (h : ParameterPlace lead name after) :
    ParameterPlace lead name (pass rule none 0 after) :=
  ⟨h.lead, h.spelled, by rw [s.head_pass]; exact h.ends⟩

/-- No head that lacks the ampersand lies across the end of the value. -/
theorem parted_after {rule : Rule} (s : Shape rule) (h : ParameterPlace lead name after)
    (hs : ∀ before kept, s.heads before kept → '&' ∉ kept) (xs : List Char) :
    s.Parted xs after := by
  cases hafter : after with
  | nil =>
    intro front back before kept _ _ _ hp
    simpa using hp
  | cons c after =>
    obtain rfl : c = '&' := h.ends c (by rw [hafter]; rfl)
    exact s.parted_of_lacking hs

theorem names_cases (h : ParameterPlace lead name after) :
    SpellsOne secretNames name ∨ Spells "access_token".toList name := by
  obtain ⟨known, hm, hs⟩ := h.spelled
  have table : ∀ known ∈ parameterNames, known ∈ secretNames ∨ known = "access_token" := by decide
  rcases table known hm with hm | rfl
  · exact .inl ⟨known, hm, hs⟩
  · exact .inr hs

/-- The pass for tokens leaves a parameter alone. -/
theorem pass_bearer (h : ParameterPlace lead name after) {value : List Char}
    (hv : IsUnreserved value) (before : List Char) :
    pass bearerRule none 0 (before ++ lead :: (name ++ '=' :: (value ++ after))) =
      pass bearerRule none 0 before ++
        lead :: (name ++ '=' :: (value ++ pass bearerRule none 0 after)) := by
  have hleft : bearerShape.Parted before (lead :: (name ++ '=' :: (value ++ after))) :=
    bearerShape.parted_of_lacking fun _ _ hh => BearerHead.no_lead h.lead hh
  have hstops : Stops bearerShape.hides (lead :: (name ++ '=' :: (value ++ after))) :=
    Stops.cons (by rcases h.lead with hl | hl <;> rw [hl] <;> decide)
  have hright : bearerShape.Parted (lead :: name ++ '=' :: value) after :=
    h.parted_after bearerShape (fun _ _ hh => BearerHead.no_lead (.inr rfl) hh) _
  have blankless : ∀ c ∈ lead :: name ++ '=' :: value, Text.isBlank c = false := by
    intro c hc
    simp only [List.cons_append, List.mem_cons, List.mem_append] at hc
    rcases hc with rfl | hc | rfl | hc
    · exact lead_not_blank h.lead
    · exact (h.spelled.nameChar parameterNames_letters hc).not_blank
    · decide
    · exact not_blank_of_value (unreserved_kinds (hv.chars c hc)).1
  have lacks : ∀ before' kept, bearerShape.heads before' kept →
      ∃ c ∈ kept, c ∉ lead :: name ++ '=' :: value := by
    intro _ _ hh
    obtain ⟨word, blanks, rfl, -, hne, hb⟩ := hh
    obtain ⟨b, hm⟩ := List.exists_mem_of_ne_nil blanks hne
    refine ⟨b, List.mem_append_right word hm, fun hin => ?_⟩
    have := blankless b hin
    rw [hb b hm] at this
    simp at this
  have hpass := bearerShape.pass_lacking hright lacks (lastOf none before)
  rw [bearer_rebase _ none after] at hpass
  rw [bearerShape.pass_parted hleft hstops]
  simpa using hpass

/-- A secret that is open at a parameter goes on over its value. -/
theorem dropWhile_value {p : Char → Bool} {value : List Char} (hl : p lead = true)
    (hn : ∀ c ∈ name, p c = true) (he : p '=' = true) (hv : ∀ c ∈ value, p c = true) :
    (lead :: (name ++ '=' :: (value ++ after))).dropWhile p = after.dropWhile p := by
  rw [List.dropWhile_cons_of_pos hl, List.dropWhile_append_of_pos hn,
    List.dropWhile_cons_of_pos he, List.dropWhile_append_of_pos hv]

theorem named_meets (h : ParameterPlace lead name after) (before ys : List Char) :
    namedShape.Meets before (lead :: ys) := by
  refine ⟨⟨lead, ys, rfl, ?_⟩, ?_⟩
  · rcases h.lead with hl | hl <;> rw [hl] <;> decide
  · exact namedShape.parted_of_lacking fun _ _ hh => NamedHead.no_lead h.lead hh

/-- The pass for names hides the value of a parameter that has the name of a secret. -/
theorem pass_named_secret (h : ParameterPlace lead name after) (hs : SpellsOne secretNames name)
    {value : List Char} (hv : IsUnreserved value) :
    pass namedRule (some lead) 0 (name ++ '=' :: (value ++ after)) =
      name ++ '=' :: (mark ++ pass namedRule none 0 (after.dropWhile isValueChar)) := by
  have hh : namedShape.heads (some lead) (name ++ ['=']) := by
    refine ⟨?_, name, [], '=', [], by simp, hs, by simp, .inr rfl, by simp⟩
    rcases h.lead with hl | hl <;> rw [hl] <;> decide
  have hrun : ∀ c ∈ value ++ after.takeWhile isValueChar, isValueChar c = true := by
    intro c hc
    rcases List.mem_append.mp hc with hc | hc
    · exact (unreserved_kinds (hv.chars c hc)).1
    · exact mem_takeWhile hc
  have hstop : Stops isValueChar (after.dropWhile isValueChar) := Stops.dropWhile
  have hfound := namedShape.pass_found hh (by simp [hv.nonempty]) hrun hstop
  rw [named_rebase none hstop] at hfound
  simpa [List.takeWhile_append_dropWhile] using hfound

/-- The pass for names goes over the one name that is no name of a secret. -/
theorem pass_named_access (hs : Spells "access_token".toList name) (before : Option Char)
    (ys : List Char) :
    pass namedRule before 0 (name ++ '=' :: ys) =
      name ++ '=' :: pass namedRule (some '=') 0 ys := by
  have hequals : ¬ IsNameChar '=' := fun hn => hn.not_delimiter (by decide)
  have hletters : ∀ c ∈ "access_token".toList, isNameLetter c = true :=
    List.all_eq_true.mp (by decide)
  have hname : ∀ c ∈ name, IsNameChar c := fun c hc => hs.nameChar hletters hc
  have hword : ∀ c ∈ name, Text.isWord c = true := by
    refine fun c hc => (hname c hc).word fun he => ?_
    have hm : plainLetter c ∈ "access_token".toList := hs ▸ List.mem_map_of_mem hc
    rw [he] at hm
    exact absurd hm (by decide)
  rw [pass_quiet, pass_keep (namedRule_none hequals)]
  intro front back he _
  rcases List.eq_nil_or_concat front with rfl | ⟨init, c, rfl⟩
  · -- No name of a secret begins the name.
    cases hf : namedRule (lastOf before []) (back ++ '=' :: ys) with
    | none => rfl
    | some found =>
      obtain ⟨rest, hr, ⟨-, known, gap, sign, gap', hk, ⟨secret, hm, hspelled⟩, -⟩, -⟩ :=
        namedRule_eq_some_iff.mp hf
      have hprefix : known <+: name ++ '=' :: ys := by
        rw [he, List.nil_append, hr, hk, List.append_assoc, List.append_assoc]
        exact List.prefix_append _ _
      have hbegins : known <+: name :=
        prefix_run (p := fun c => isNameLetter (plainLetter c))
          (fun c hc => hspelled.nameChar (secretNames_letters secret hm) hc)
          (Stops.cons (by decide)) hprefix
      have hletters := hbegins.map plainLetter
      rw [hspelled, hs] at hletters
      exact absurd hletters
        ((show ∀ secret ∈ secretNames, ¬ secret.toList <+: "access_token".toList by decide)
          secret hm)
  · -- Behind its first letter stands a character of a word.
    refine namedRule_none_of_word ?_
    rw [List.concat_eq_append, lastOf_append]
    exact hword c (he ▸ by simp)

/-- The pass for names goes over a value without a sign. -/
theorem pass_named_value (h : ParameterPlace lead name after) {value : List Char}
    (hv : IsUnreserved value) (before : Option Char) :
    pass namedRule before 0 (value ++ after) = value ++ pass namedRule none 0 after := by
  have hparted : namedShape.Parted value after :=
    h.parted_after namedShape (fun _ _ hh => NamedHead.no_lead (.inr rfl) hh) value
  have lacks : ∀ before' kept, namedShape.heads before' kept → ∃ c ∈ kept, c ∉ value := by
    intro _ _ hh
    obtain ⟨-, name, gap, sign, gap', rfl, -, -, hsign, -⟩ := hh
    refine ⟨sign, by simp, fun hm => ?_⟩
    obtain ⟨-, -, hcolon, hequals⟩ := unreserved_kinds (hv.chars sign hm)
    exact hsign.elim hcolon hequals
  have hafter : ∀ c ∈ after.head?, ¬ IsNameChar c := by
    intro c hc
    rw [h.ends c hc]
    exact lead_not_name (.inr rfl)
  rw [namedShape.pass_lacking hparted lacks, named_rebase_of_head none hafter]

/-- The pass for names hides the value of a parameter, or it leaves the parameter as it is. -/
theorem pass_named (h : ParameterPlace lead name after) (before : List Char) :
    (∃ out, ∀ value, IsUnreserved value →
      pass namedRule none 0 (before ++ lead :: (name ++ '=' :: (value ++ after))) = out) ∨
    ∃ before', ∀ value, IsUnreserved value →
      pass namedRule none 0 (before ++ lead :: (name ++ '=' :: (value ++ after))) =
        before' ++ lead :: (name ++ '=' :: (value ++ pass namedRule none 0 after)) := by
  rcases namedShape.pass_border none before with ⟨-, hclosed⟩ |
    ⟨front, before', kept, run, out, -, -, -, hopen⟩
  · -- Nothing is open at the parameter, so its name decides.
    have keep : ∀ ys, pass namedRule none 0 (before ++ lead :: ys) =
        pass namedRule none 0 before ++ lead :: pass namedRule (some lead) 0 ys := by
      intro ys
      rw [hclosed _ (h.named_meets before ys), pass_keep (namedRule_none (lead_not_name h.lead))]
    rcases h.names_cases with hs | hs
    · left
      refine ⟨pass namedRule none 0 before ++ lead :: (name ++ '=' ::
        (mark ++ pass namedRule none 0 (after.dropWhile isValueChar))), fun value hv => ?_⟩
      rw [keep, h.pass_named_secret hs hv]
    · right
      refine ⟨pass namedRule none 0 before, fun value hv => ?_⟩
      rw [keep, pass_named_access hs, h.pass_named_value hv]
  · left
    refine ⟨out ++ kept ++ mark ++ pass namedRule none 0 (after.dropWhile isValueChar),
      fun value hv => ?_⟩
    have hlead : isValueChar lead = true := by
      rcases h.lead with hl | hl <;> rw [hl] <;> decide
    have hdrop : (lead :: (name ++ '=' :: (value ++ after))).dropWhile namedShape.hides =
        after.dropWhile isValueChar :=
      dropWhile_value hlead
        (fun c hc => (h.spelled.nameChar parameterNames_letters hc).value) (by decide)
        fun c hc => (unreserved_kinds (hv.chars c hc)).1
    rw [hopen _ (h.named_meets before _), hdrop, named_rebase none Stops.dropWhile]

/-- The pass for parameters hides the value. -/
theorem pass_query (h : ParameterPlace lead name after) (before : List Char) :
    ∃ out, ∀ value, IsUnreserved value →
      pass queryRule none 0 (before ++ lead :: (name ++ '=' :: (value ++ after))) = out := by
  have hafter : Stops isParameterChar after := by
    intro c hc
    rw [h.ends c hc]
    decide
  have hvalue : ∀ value, IsUnreserved value → ∀ c ∈ value, isParameterChar c = true :=
    fun value hv c hc => (unreserved_kinds (hv.chars c hc)).2.1
  -- The pass does not depend on the character before a text.
  have rebase : ∀ before' cs, pass queryRule before' 0 cs = pass queryRule none 0 cs :=
    fun _ _ => pass_rebase rfl
  have hides : ∀ before' value, IsUnreserved value →
      pass queryRule before' 0 (lead :: (name ++ '=' :: (value ++ after))) =
        lead :: (name ++ '=' :: (mark ++ pass queryRule none 0 after)) := by
    intro before' value hv
    have hh : queryShape.heads before' (lead :: name ++ ['=']) :=
      ⟨lead, name, rfl, h.lead, h.spelled⟩
    have hfound := queryShape.pass_found hh hv.nonempty (hvalue value hv) hafter
    rw [rebase (lastOf _ _)] at hfound
    simpa using hfound
  by_cases hl : isParameterChar lead = true
  · -- A value may be open at a question mark.
    have meets : ∀ ys, queryShape.Meets before (lead :: ys) :=
      fun ys => ⟨⟨lead, ys, rfl, hl⟩, query_parted h.lead⟩
    rcases queryShape.pass_border none before with ⟨-, hclosed⟩ |
      ⟨front, before', kept, run, out, -, -, -, hopen⟩
    · exact ⟨_, fun value hv => by rw [hclosed _ (meets _), hides _ value hv]⟩
    · refine ⟨out ++ kept ++ mark ++ pass queryRule none 0 (after.dropWhile isParameterChar),
        fun value hv => ?_⟩
      have hdrop : (lead :: (name ++ '=' :: (value ++ after))).dropWhile queryShape.hides =
          after.dropWhile isParameterChar :=
        dropWhile_value hl
          (fun c hc => (h.spelled.nameChar parameterNames_letters hc).parameter) (by decide)
          (hvalue value hv)
      rw [hopen _ (meets _), hdrop, rebase]
  · refine ⟨pass queryRule none 0 before ++
      lead :: (name ++ '=' :: (mark ++ pass queryRule none 0 after)), fun value hv => ?_⟩
    have hstops : Stops queryShape.hides (lead :: (name ++ '=' :: (value ++ after))) :=
      Stops.cons (Bool.not_eq_true _ ▸ hl)
    rw [queryShape.pass_parted (query_parted h.lead) hstops, hides _ value hv]

/-- A redacted text does not depend on the value of a secret parameter. -/
theorem redactChars_hides (h : ParameterPlace lead name after) (before : List Char) :
    ∃ out, ∀ value, IsUnreserved value →
      redactChars (before ++ lead :: (name ++ '=' :: (value ++ after))) = out := by
  have hbearer := h.pass_after bearerShape
  rcases hbearer.pass_named (pass bearerRule none 0 before) with ⟨out, hnamed⟩ | ⟨left, hnamed⟩
  · refine ⟨pass queryRule none 0 out, fun value hv => ?_⟩
    rw [redactChars_eq, h.pass_bearer hv, hnamed value hv]
  · obtain ⟨out, hquery⟩ := (hbearer.pass_after namedShape).pass_query left
    refine ⟨out, fun value hv => ?_⟩
    rw [redactChars_eq, h.pass_bearer hv, hnamed value hv, hquery value hv]

end ParameterPlace

/-! ## Redacted texts -/

/-- A redacted text tells neither the token behind the first word for one nor, in whatever text it
stands, the value of a secret parameter. -/
theorem redact_hides_tokens_and_parameters :
    (∀ before word blanks after token token' : String,
      TokenPlace before.toList word.toList blanks.toList after.toList → IsToken token.toList →
      IsToken token'.toList →
      redact (before ++ word ++ blanks ++ token ++ after) =
        redact (before ++ word ++ blanks ++ token' ++ after)) ∧
    ∀ (before : String) (lead : Char) (name after value value' : String),
      ParameterPlace lead name.toList after.toList → IsUnreserved value.toList →
      IsUnreserved value'.toList →
      redact (before ++ String.singleton lead ++ name ++ "=" ++ value ++ after) =
        redact (before ++ String.singleton lead ++ name ++ "=" ++ value' ++ after) := by
  constructor
  · intro before word blanks after token token' h ht ht'
    obtain ⟨out, hhidden⟩ := h.redactChars_hides
    simp only [redact, String.toList_append, List.append_assoc, hhidden _ ht, hhidden _ ht']
  · intro before lead name after value value' h hv hv'
    obtain ⟨out, hhidden⟩ := h.redactChars_hides before.toList
    have chars : ∀ v : String,
        (before ++ String.singleton lead ++ name ++ "=" ++ v ++ after).toList =
          before.toList ++ lead :: (name.toList ++ '=' :: (v.toList ++ after.toList)) := by
      intro v
      simp
    simp only [redact, chars, hhidden _ hv, hhidden _ hv']

/-- A token in front of a comma, and a parameter inside a value that is open. -/
theorem redact_hides_tokens_and_parameters_open :
    TokenPlace "login: ".toList "Bearer".toList " ".toList ", done".toList ∧
      redact ("login: " ++ "Bearer" ++ " " ++ "abc.def=" ++ ", done") =
        redact ("login: " ++ "Bearer" ++ " " ++ "token" ++ ", done") ∧
      ParameterPlace '?' "access_Token".toList "&page=2".toList ∧
      redact ("secret: x" ++ String.singleton '?' ++ "access_Token" ++ "=" ++ "a.b" ++ "&page=2") =
        redact ("secret: x" ++ String.singleton '?' ++ "access_Token" ++ "=" ++ "~" ++ "&page=2") := by
  have place : TokenPlace "login: ".toList "Bearer".toList " ".toList ", done".toList :=
    ⟨by decide +kernel, by decide, by decide, List.all_eq_true.mp (by decide),
      by simp [Stops, isTokenChar]⟩
  have place' : ParameterPlace '?' "access_Token".toList "&page=2".toList :=
    ⟨.inl rfl, by decide, by simp⟩
  have token : IsToken "abc.def=".toList := ⟨by decide, List.all_eq_true.mp (by decide)⟩
  have token' : IsToken "token".toList := ⟨by decide, List.all_eq_true.mp (by decide)⟩
  have value : IsUnreserved "a.b".toList := ⟨by decide, List.all_eq_true.mp (by decide)⟩
  have value' : IsUnreserved "~".toList := ⟨by decide, List.all_eq_true.mp (by decide)⟩
  exact ⟨place,
    redact_hides_tokens_and_parameters.1 "login: " "Bearer" " " ", done" "abc.def=" "token"
      place token token',
    place',
    redact_hides_tokens_and_parameters.2 "secret: x" '?' "access_Token" "&page=2" "a.b" "~"
      place' value value'⟩

end NodeAgent.Redaction
