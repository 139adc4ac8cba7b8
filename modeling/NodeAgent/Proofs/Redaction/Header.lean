import NodeAgent.Proofs.Redaction.Hidden
/-!
Authorization headers: a scheme in a word and the credentials behind it. The name of the header
counts as the name of a secret, whose value ends at the blank, so it is the scheme that is hidden.
The credentials are hidden as a token if the scheme ends in the word for one, and stand as a text of
their own else: most of them are shown.

Main results:
* `Header.redactChars_other`, `Header.redactChars_token`: what becomes of a header, by its scheme.
* `header_hides_credentials_iff`: exactly when the credentials are hidden.
* `header_shows_basic_credentials`: a header whose credentials are shown.
-/

namespace NodeAgent.Redaction

open Text (Stops takeWhile_run)

/-- The surroundings of the credentials in an authorization header: the name, a scheme of letters,
and behind the credentials an end or a blank. -/
structure Header (name scheme after : List Char) : Prop where
  spelled : Spells "authorization".toList name
  nonempty : scheme ≠ []
  letters : ∀ c ∈ scheme, c.isAlpha = true
  ends : ∀ c ∈ after.head?, Text.isBlank c = true

/-- Whether a scheme ends in the word for a token, in any letter case. -/
def EndsInBearer (scheme : List Char) : Prop :=
  ∃ front word, scheme = front ++ word ∧ Spells "bearer".toList word

/-- Credentials in which no name of a secret stands with an equals sign. -/
def Unkeyed (credentials : List Char) : Prop :=
  ∀ front name back, credentials = front ++ (name ++ '=' :: back) → ¬ SpellsOne secretNames name

/-! ## The scheme -/

/-- A word for a token that a run of other characters than blanks begins with is all of the run. -/
theorem BearerHead.run {kept run ys : List Char} {b : Char} (h : BearerHead kept)
    (hr : ∀ c ∈ run, Text.isBlank c = false) (hb : Text.isBlank b = true)
    (hp : kept <+: run ++ b :: ys) : Spells "bearer".toList run := by
  obtain ⟨word, blanks, rfl, hs, hne, hblank⟩ := h
  obtain ⟨d, blanks, rfl⟩ := List.exists_cons_of_ne_nil hne
  obtain ⟨rest, he⟩ := hp
  have hword : ∀ c ∈ word, Text.isBlank c = false :=
    fun c hc => (hs.nameChar bearer_letters hc).not_blank
  have first : ∀ (xs : List Char) (c : Char) (cs : List Char),
      (∀ x ∈ xs, Text.isBlank x = false) → Text.isBlank c = true →
      (xs ++ c :: cs).takeWhile (fun x => !Text.isBlank x) = xs := by
    intro xs c cs hxs hc
    exact takeWhile_run (fun x hx => by rw [hxs x hx]; rfl) (Stops.cons (by rw [hc]; rfl))
  have hsides : word ++ d :: (blanks ++ rest) = run ++ b :: ys := by
    rw [← he]
    simp
  have hrun := congrArg (List.takeWhile fun x => !Text.isBlank x) hsides
  rw [first word d _ hword (hblank d (by simp)), first run b _ hr hb] at hrun
  exact hrun ▸ hs

theorem bearerRule_none_in_run {before : Option Char} {run ys : List Char} {b : Char}
    (hr : ∀ c ∈ run, Text.isBlank c = false) (hb : Text.isBlank b = true)
    (hs : ¬ Spells "bearer".toList run) : bearerRule before (run ++ b :: ys) = none := by
  cases hf : bearerRule before (run ++ b :: ys) with
  | none => rfl
  | some found =>
    obtain ⟨rest, he, hh, -⟩ := bearerRule_eq_some_iff.mp hf
    exact absurd (hh.run hr hb ⟨rest, he.symm⟩) hs

theorem alpha_kinds {c : Char} (h : c.isAlpha = true) :
    Text.isBlank c = false ∧ isValueChar c = true := by
  have hvalue := (alphanum_kinds (by rw [Char.isAlphanum, h]; rfl : c.isAlphanum = true)).2.1
  exact ⟨not_blank_of_value hvalue, hvalue⟩

namespace Header

variable {name scheme after : List Char}

theorem secret (h : Header name scheme after) : SpellsOne secretNames name :=
  ⟨"authorization", by decide, h.spelled⟩

theorem not_blank (h : Header name scheme after) : ∀ c ∈ scheme, Text.isBlank c = false :=
  fun c hc => (alpha_kinds (h.letters c hc)).1

/-- The pass for tokens leaves the name of the header alone. -/
theorem pass_bearer_name (h : Header name scheme after) (ys : List Char) :
    pass bearerRule none 0 (name ++ ": ".toList ++ ys) =
      name ++ ": ".toList ++ pass bearerRule none 0 ys := by
  have hletters : ∀ c ∈ name ++ ": ".toList, plainLetter c ≠ 'b' := by
    intro c hc
    rcases List.mem_append.mp hc with hc | hc
    · exact h.secret.not_b c hc
    · exact (show ∀ c ∈ ": ".toList, plainLetter c ≠ 'b' by simp [plainLetter]) c hc
  rw [pass_chars fun c hc _ _ => bearerRule_none (hletters c hc), bearer_rebase _ none ys]

/-- Behind another scheme the pass for tokens begins anew. -/
theorem pass_bearer_other (h : Header name scheme after) (hs : ¬ EndsInBearer scheme)
    (ys : List Char) :
    pass bearerRule none 0 (scheme ++ ' ' :: ys) =
      scheme ++ ' ' :: pass bearerRule none 0 ys := by
  rw [pass_quiet, pass_keep (bearerRule_none (by decide)), bearer_rebase _ none ys]
  intro front back he _
  refine bearerRule_none_in_run (fun c hc => h.not_blank c (he ▸ by simp [hc])) (by decide) ?_
  exact fun hspelled => hs ⟨front, back, he, hspelled⟩

/-- Behind a scheme that ends in the word for a token the pass for tokens hides the credentials. -/
theorem pass_bearer_token (h : Header name scheme after) (hs : EndsInBearer scheme)
    {credentials : List Char} (hc : IsToken credentials) :
    pass bearerRule none 0 (scheme ++ ' ' :: (credentials ++ after)) =
      scheme ++ ' ' :: (mark ++ pass bearerRule none 0 after) := by
  obtain ⟨front, word, rfl, hword⟩ := hs
  have hafter : Stops isTokenChar after := fun c hc => (blank_kinds (h.ends c hc)).2.1
  have hquiet : pass bearerRule none 0 (front ++ (word ++ ' ' :: (credentials ++ after))) =
      front ++ pass bearerRule (lastOf none front) 0 (word ++ ' ' :: (credentials ++ after)) := by
    refine pass_quiet fun front' back he hb => ?_
    rw [← List.append_assoc]
    refine bearerRule_none_in_run ?_ (by decide) ?_
    · intro c hc
      refine h.not_blank c ?_
      rw [he, List.append_assoc]
      exact List.mem_append_right front' hc
    · -- The word alone is as long as what would be the word with more in front of it.
      intro hspelled
      have hlength := congrArg List.length (hspelled.trans hword.symm)
      have hpos := List.length_pos_iff.mpr hb
      simp only [List.map_append, List.length_append, List.length_map] at hlength
      omega
  have hh : bearerShape.heads (lastOf none front) (word ++ [' ']) :=
    ⟨word, [' '], rfl, hword, by simp, by simp [Text.isBlank]⟩
  have hfound := bearerShape.pass_found hh hc.nonempty hc.chars hafter
  rw [bearer_rebase (lastOf _ _) none after] at hfound
  simp only [List.append_assoc, List.cons_append, List.nil_append] at hfound ⊢
  rw [hquiet, hfound]

/-! ## The header -/

/-- The pass for names hides the scheme. -/
theorem pass_named (h : Header name scheme after) (ys : List Char) :
    pass namedRule none 0 (name ++ ": ".toList ++ (scheme ++ ' ' :: ys)) =
      name ++ ": ".toList ++ mark ++ ' ' :: pass namedRule none 0 ys := by
  have hh : namedShape.heads none (name ++ ": ".toList) :=
    ⟨rfl, name, [], ':', [' '], by simp, h.secret, by simp, .inl rfl, by simp [Text.isBlank]⟩
  have hscheme : ∀ c ∈ scheme, isValueChar c = true := fun c hc => (alpha_kinds (h.letters c hc)).2
  have hstop : Stops isValueChar (' ' :: ys) := Stops.cons (by decide)
  have hblank : pass namedRule none 0 (' ' :: ys) = ' ' :: pass namedRule none 0 ys := by
    rw [pass_keep (namedRule_none (not_nameChar_of_blank (by decide))),
      named_rebase_of_end none (by decide)]
  rw [namedShape.pass_found hh h.nonempty hscheme hstop, named_rebase none hstop, hblank]

/-- The pass for parameters leaves the header alone. -/
theorem pass_query (h : Header name scheme after) (ys : List Char) :
    pass queryRule none 0 (name ++ ": ".toList ++ mark ++ ' ' :: ys) =
      name ++ ": ".toList ++ mark ++ ' ' :: pass queryRule none 0 ys := by
  have hlead : ∀ c ∈ name ++ ": ".toList ++ mark, c ≠ '?' ∧ c ≠ '&' := by
    intro c hc
    rcases List.mem_append.mp hc with hc | hc
    · rcases List.mem_append.mp hc with hc | hc
      · have := (h.secret.nameChar secretNames_letters hc).not_delimiter
        simp at this
        exact ⟨this.2.2.2.2.1, this.2.2.2.2.2⟩
      · exact (show ∀ c ∈ ": ".toList, c ≠ '?' ∧ c ≠ '&' by simp) c hc
    · exact mark_not_lead hc
  rw [pass_chars fun c hc _ _ => queryRule_none (hlead c hc),
    pass_keep (queryRule_none (by decide))]
  exact congrArg (name ++ ": ".toList ++ mark ++ ' ' :: ·) (pass_rebase rfl)

/-- Behind another scheme the credentials are redacted as a text of their own. -/
theorem redactChars_other (h : Header name scheme after) (hs : ¬ EndsInBearer scheme)
    (ys : List Char) :
    redactChars (name ++ ": ".toList ++ (scheme ++ ' ' :: ys)) =
      name ++ ": ".toList ++ mark ++ ' ' :: redactChars ys := by
  rw [redactChars_eq, h.pass_bearer_name, h.pass_bearer_other hs, h.pass_named, h.pass_query,
    redactChars_eq]

theorem redactChars_mark (cs : List Char) :
    pass queryRule none 0 (pass namedRule none 0 (mark ++ pass bearerRule none 0 cs)) =
      mark ++ redactChars cs := by
  rw [namedShape.pass_mark, named_rebase_of_end none (by decide),
    queryShape.pass_mark, redactChars_eq]
  exact congrArg (mark ++ ·) (pass_rebase rfl)

/-- Behind a scheme that ends in the word for a token nothing is told of the credentials. -/
theorem redactChars_token (h : Header name scheme after) (hs : EndsInBearer scheme)
    {credentials : List Char} (hc : IsToken credentials) :
    redactChars (name ++ ": ".toList ++ (scheme ++ ' ' :: (credentials ++ after))) =
      name ++ ": ".toList ++ mark ++ ' ' :: (mark ++ redactChars after) := by
  rw [redactChars_eq, h.pass_bearer_name, h.pass_bearer_token hs hc, h.pass_named, h.pass_query,
    redactChars_mark]

end Header

/-! ## Credentials as a text of their own -/

namespace IsToken

variable {credentials after : List Char}

theorem no_bearer_head (hc : IsToken credentials) :
    ∀ (front back : List Char) (before : Option Char) (kept : List Char),
      credentials = front ++ back → bearerShape.heads before kept → ¬ kept <+: back := by
  intro front back before kept he hh hp
  obtain ⟨word, blanks, rfl, -, hne, hb⟩ := hh
  obtain ⟨b, hm⟩ := List.exists_mem_of_ne_nil blanks hne
  have hin : b ∈ credentials := he ▸ List.mem_append_right front (hp.mem (by simp [hm]))
  have := hb b hm
  rw [not_blank_of_token (hc.chars b hin)] at this
  simp at this

theorem no_named_head (hc : IsToken credentials) (hk : Unkeyed credentials) :
    ∀ (front back : List Char) (before : Option Char) (kept : List Char),
      credentials = front ++ back → namedShape.heads before kept → ¬ kept <+: back := by
  intro front back before kept he hh hp
  obtain ⟨-, name, gap, sign, gap', rfl, hs, hg, hsign, -⟩ := hh
  obtain ⟨tail, rfl⟩ := hp
  -- Credentials hold neither blanks nor colons, so the equals sign stands behind the name.
  have hsplit : credentials = front ++ (name ++ (gap ++ sign :: (gap' ++ tail))) := by
    rw [he]
    simp
  have htoken : ∀ c ∈ gap ++ sign :: (gap' ++ tail), isTokenChar c = true := by
    intro c hm
    refine hc.chars c ?_
    rw [hsplit]
    exact List.mem_append_right front (List.mem_append_right name hm)
  cases gap with
  | nil =>
    rcases hsign with rfl | rfl
    · exact absurd (htoken ':' (by simp)) (by decide)
    · exact hk front name (gap' ++ tail) hsplit hs
  | cons b gap =>
    have := hg b (by simp)
    rw [not_blank_of_token (htoken b (by simp))] at this
    simp at this

theorem no_query_head (hc : IsToken credentials) :
    ∀ (front back : List Char) (before : Option Char) (kept : List Char),
      credentials = front ++ back → queryShape.heads before kept → ¬ kept <+: back := by
  intro front back before kept he hh hp
  obtain ⟨lead, name, rfl, hl, -⟩ := hh
  have hm : lead ∈ credentials := he ▸ List.mem_append_right front (hp.mem (by simp))
  have := hc.chars lead hm
  rcases hl with rfl | rfl <;> exact absurd this (by decide)

/-- Credentials stay if no name of a secret stands in them with an equals sign. -/
theorem redactChars_front (hc : IsToken credentials) (hk : Unkeyed credentials)
    (ha : Stops isTokenChar after) :
    ∃ rest, Stops isTokenChar rest ∧ redactChars (credentials ++ after) = credentials ++ rest := by
  obtain ⟨left, hleft, hbearer⟩ := bearerShape.pass_front ha hc.no_bearer_head none
  obtain ⟨left', hleft', hnamed⟩ := namedShape.pass_front hleft (hc.no_named_head hk) none
  obtain ⟨rest, hrest, hquery⟩ := queryShape.pass_front hleft' hc.no_query_head none
  exact ⟨rest, hrest, by rw [redactChars_eq, hbearer, hnamed, hquery]⟩

end IsToken

/-- A redacted header does not tell the credentials exactly if its scheme ends in the word for a
token, or what stands behind the scheme does not tell them by itself; and by itself it tells all
credentials apart in which no name of a secret stands with an equals sign. -/
theorem header_hides_credentials_iff {name scheme after credentials credentials' : String}
    (h : Header name.toList scheme.toList after.toList) (hc : IsToken credentials.toList)
    (hc' : IsToken credentials'.toList) :
    (redact (name ++ ": " ++ scheme ++ " " ++ credentials ++ after) =
        redact (name ++ ": " ++ scheme ++ " " ++ credentials' ++ after) ↔
      EndsInBearer scheme.toList ∨ redact (credentials ++ after) = redact (credentials' ++ after)) ∧
    (Unkeyed credentials.toList → Unkeyed credentials'.toList →
      (redact (credentials ++ after) = redact (credentials' ++ after) ↔
        credentials = credentials')) := by
  have chars : ∀ c : String, (name ++ ": " ++ scheme ++ " " ++ c ++ after).toList =
      name.toList ++ ": ".toList ++ (scheme.toList ++ ' ' :: (c.toList ++ after.toList)) := by
    intro c
    simp
  simp only [redact, chars, String.toList_append, String.ofList_inj]
  refine ⟨?_, fun hk hk' => ?_⟩
  · by_cases hs : EndsInBearer scheme.toList
    · simp only [h.redactChars_token hs hc, h.redactChars_token hs hc', hs, true_or]
    · simp only [h.redactChars_other hs, hs, false_or, List.append_cancel_left_eq, List.cons.injEq,
        true_and]
  · constructor
    · intro he
      have hafter : Stops isTokenChar after.toList := fun c hm => (blank_kinds (h.ends c hm)).2.1
      obtain ⟨rest, hrest, hfront⟩ := hc.redactChars_front hk hafter
      obtain ⟨rest', hrest', hfront'⟩ := hc'.redactChars_front hk' hafter
      rw [hfront, hfront'] at he
      have hends := congrArg (List.takeWhile isTokenChar) he
      rw [takeWhile_run hc.chars hrest, takeWhile_run hc'.chars hrest'] at hends
      exact String.toList_inj.mp hends
    · rintro rfl
      rfl

/-- A header of another scheme shows the credentials. -/
theorem header_shows_basic_credentials :
    Header "Authorization".toList "Basic".toList "".toList ∧
      redact ("Authorization" ++ ": " ++ "Basic" ++ " " ++ "dXNlcjpwYXNz" ++ "") ≠
        redact ("Authorization" ++ ": " ++ "Basic" ++ " " ++ "cm9vdDpyb290" ++ "") := by
  have header : Header "Authorization".toList "Basic".toList "".toList :=
    ⟨by decide, by decide, List.all_eq_true.mp (by decide), by simp⟩
  have user : IsToken "dXNlcjpwYXNz".toList := ⟨by decide, List.all_eq_true.mp (by decide)⟩
  have root : IsToken "cm9vdDpyb290".toList := ⟨by decide, List.all_eq_true.mp (by decide)⟩
  have unkeyed : ∀ credentials : String, '=' ∉ credentials.toList → Unkeyed credentials.toList :=
    fun _ hn _ _ _ he _ => hn (he ▸ by simp)
  obtain ⟨hiff, hplain⟩ := header_hides_credentials_iff header user root
  refine ⟨header, fun he => ?_⟩
  rcases hiff.mp he with ⟨front, word, hw, hs⟩ | hsame
  · -- The scheme is shorter than the word for a token.
    have hlength := congrArg List.length hw
    have hword := congrArg List.length hs
    simp at hlength hword
    omega
  · have := (hplain (unkeyed _ (by decide)) (unkeyed _ (by decide))).mp hsame
    exact absurd this (by decide)

end NodeAgent.Redaction
