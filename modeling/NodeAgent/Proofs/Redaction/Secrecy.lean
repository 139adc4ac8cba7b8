import NodeAgent.Proofs.Redaction.Pair
/-!
Whether a redacted text tells the value of a pair. It does not as long as the pass for names comes
to the name of the pair. Where an earlier secret is still open at the name, that secret takes the
name with it; and if it ends in the separator, the value behind it has no name any more and stays.

Main results:
* `Pair.redactChars_hides`, `Pair.redactChars_shows`: one redaction for all values, or one for each.
* `redact_hides_value_iff`: exactly when the value is hidden.
* `redact_tells_behind_bearer`: a pair whose value is told.
-/

namespace NodeAgent.Redaction

open Text (Stops takeWhile_run dropWhile_run)

/-- Whether the name of a pair behind a text is hidden as part of another secret, of a token or of
a pair before, which ends inside the separator. -/
def Swallowed (before sep : List Char) : Prop :=
  (hidesNext bearerRule before ∧ ∃ c ∈ sep, isTokenChar c = false) ∨
    (¬ hidesNext bearerRule before ∧ hidesNext namedRule (pass bearerRule none 0 before) ∧
      ∃ c ∈ sep, isValueChar c = false)

/-! ## Behind an open secret -/

/-- A secret that is open takes a separator of its characters with it, and the value behind it. -/
theorem dropWhile_through {p : Char → Bool} {sep value after : List Char}
    (hsep : ∀ c ∈ sep, p c = true) (hv : ∀ c ∈ value, p c = true) (ha : Stops p after) :
    (sep ++ (value ++ after)).dropWhile p = after := by
  rw [List.dropWhile_append_of_pos hsep, dropWhile_run hv ha]

/-- A secret that is open ends inside a separator with another character. -/
theorem dropWhile_inside {p : Char → Bool} {sep : List Char} (h : ∃ c ∈ sep, p c = false) :
    ∃ c tail, p c = false ∧ (∀ d ∈ c :: tail, d ∈ sep) ∧
      ∀ ys, (sep ++ ys).dropWhile p = c :: tail ++ ys := by
  induction sep with
  | nil =>
    obtain ⟨c, hc, -⟩ := h
    simp at hc
  | cons d sep ih =>
    cases hd : p d with
    | false =>
      refine ⟨d, sep, hd, fun _ he => he, fun ys => ?_⟩
      simp [hd]
    | true =>
      obtain ⟨e, he, hp⟩ := h
      have hs : e ∈ sep := by
        rcases List.mem_cons.mp he with rfl | hs
        · rw [hd] at hp
          simp at hp
        · exact hs
      obtain ⟨c, tail, hc, hm, hdrop⟩ := ih ⟨e, hs, hp⟩
      refine ⟨c, tail, hc, fun f hf => List.mem_cons_of_mem d (hm f hf), fun ys => ?_⟩
      rw [List.cons_append, List.dropWhile_cons, hd, if_pos rfl, hdrop]

/-- The pass for names keeps what is left of a separator, and the value behind it. -/
theorem pass_named_left (before : Option Char) {left value after : List Char}
    (hl : ∀ c ∈ left, isSeparatorChar c = true) (hv : PlainValue value)
    (ha : Stops isValueChar after) :
    ∃ rest, Stops Char.isAlphanum rest ∧
      pass namedRule before 0 (left ++ (value ++ after)) = left ++ (value ++ rest) := by
  obtain ⟨rest, hrest, hpass⟩ :=
    pass_named_value (lastOf before left) hv.alphanum ha
  refine ⟨rest, hrest, ?_⟩
  rw [pass_chars fun c hc _ _ => namedRule_none (separatorChar_not_name (hl c hc)), hpass]

/-- In front of the blanks at the end of a text stands one character. -/
theorem last_before_blanks {xs ys blanks blanks' : List Char} {c d : Char}
    (h : xs ++ c :: blanks = ys ++ d :: blanks') (hc : Text.isBlank c = false)
    (hd : Text.isBlank d = false) (hb : ∀ b ∈ blanks, Text.isBlank b = true)
    (hb' : ∀ b ∈ blanks', Text.isBlank b = true) : c = d := by
  have drop : ∀ (zs : List Char) (e : Char) (tail : List Char), Text.isBlank e = false →
      (∀ b ∈ tail, Text.isBlank b = true) →
      ((zs ++ e :: tail).reverse.dropWhile Text.isBlank).head? = some e := by
    intro zs e tail he ht
    have hr : (zs ++ e :: tail).reverse = tail.reverse ++ (e :: zs.reverse) := by simp
    rw [hr, dropWhile_run (fun b hb => ht b (List.mem_reverse.mp hb)) (Stops.cons he)]
    rfl
  have hhead := drop xs c blanks hc hb
  rw [h, drop ys d blanks' hd hb'] at hhead
  exact (Option.some.inj hhead).symm

/-- The word for a token with its blanks leaves no value open, for want of a sign. -/
theorem named_not_open {front front' kept kept' run : List Char} {before : Option Char}
    (hb : BearerHead kept) (hn : NamedHead before kept') (hrun : ∀ c ∈ run, isValueChar c = true) :
    front ++ kept ≠ front' ++ (kept' ++ run) := by
  intro he
  obtain ⟨word, blanks, rfl, hs, hne, hblank⟩ := hb
  obtain ⟨-, name, gap, sign, gap', rfl, -, -, hsign, hg'⟩ := hn
  obtain ⟨init, b, rfl⟩ := exists_last hne
  have hword : word ≠ [] := by
    intro hw
    rw [hw] at hs
    simp [Spells] at hs
  obtain ⟨init', r, rfl⟩ := exists_last hword
  have hr : IsNameChar r := hs.nameChar bearer_letters (by simp)
  cases List.eq_nil_or_concat run with
  | inl hnil =>
    have hsides : (front ++ init') ++ r :: (init ++ [b]) =
        (front' ++ (name ++ gap)) ++ sign :: gap' := by
      rw [hnil] at he
      simpa using he
    have hrs := last_before_blanks hsides hr.not_blank (sign_kinds hsign).1 hblank hg'
    refine hr.not_delimiter ?_
    rw [hrs]
    rcases hsign with rfl | rfl <;> decide
  | inr hlast =>
    obtain ⟨run, d, rfl⟩ := hlast
    have hends : (front ++ (init' ++ [r] ++ init)) ++ [b] =
        (front' ++ (name ++ gap ++ sign :: gap') ++ run) ++ [d] := by
      simpa using he
    have hd : b = d := (List.cons.inj (List.append_inj' hends rfl).2).1
    have hvalue : isValueChar d = true := hrun d (by simp)
    rw [← hd, isValueChar, hblank b (by simp)] at hvalue
    simp at hvalue

/-- The pass for names keeps a mark behind the word for a token, and begins anew behind it. -/
theorem pass_named_bearer (out : List Char) {kept : List Char} (hb : BearerHead kept) :
    ∃ front b, Text.isBlank b = true ∧ ∀ ys, ∃ before,
      pass namedRule none 0 (out ++ kept ++ mark ++ ys) =
        front ++ b :: (mark ++ pass namedRule before 0 ys) := by
  rcases namedShape.pass_border none (out ++ kept) with ⟨hlast, hleft⟩ |
    ⟨front, before', kept', run, -, he, hh, hrun, -⟩
  · obtain ⟨word, blanks, hk, -, hne, hblank⟩ := hb
    obtain ⟨init, b, rfl⟩ := exists_last hne
    have hout : (pass namedRule none 0 (out ++ kept)).getLast? = some b := by
      rw [hlast, hk]
      simp
    obtain ⟨front, hfront⟩ := List.getLast?_eq_some_iff.mp hout
    refine ⟨front, b, hblank b (by simp), fun ys => ?_⟩
    refine ⟨lastOf (lastOf none (out ++ kept)) mark, ?_⟩
    rw [List.append_assoc (out ++ kept), hleft _ (named_meets_mark _ ys), namedShape.pass_mark,
      hfront]
    simp
  · exact absurd he (named_not_open hb hh hrun)

namespace Pair

variable {before name sep after : List Char}

/-! ## The border at the name -/

theorem bearer_meets (h : Pair before name sep after) (ys : List Char) :
    bearerShape.Meets before (name ++ ys) := by
  obtain ⟨c, tail, rfl, hc, -⟩ := h.spelled.first
  exact Redaction.bearer_meets h.boundary hc

theorem named_meets (h : Pair before name sep after) (ys : List Char) :
    namedShape.Meets before (name ++ ys) := by
  obtain ⟨c, tail, rfl, hc, hk⟩ := h.spelled.first
  exact Redaction.named_meets h.boundary hc hk

/-- Where no token is open, the pass for tokens leaves the pair alone. -/
theorem bearer_closed (h : Pair before name sep after) (hb : ¬ hidesNext bearerRule before) :
    Pair (pass bearerRule none 0 before) name sep (pass bearerRule none 0 after) ∧
      ∀ value, PlainValue value →
        pass bearerRule none 0 (before ++ (name ++ (sep ++ (value ++ after)))) =
          pass bearerRule none 0 before ++
            (name ++ (sep ++ (value ++ pass bearerRule none 0 after))) := by
  obtain ⟨hlast, hpass⟩ :=
    bearerShape.pass_closed (Redaction.bearer_meets h.boundary (by rfl)) hb
  refine ⟨⟨?_, h.spelled, h.separator, ?_⟩, fun value hv => ?_⟩
  · rw [hlast]
    exact h.boundary
  · rw [bearerShape.head_pass]
    exact h.ends
  · have hfront : ∀ c ∈ name ++ sep, plainLetter c ≠ 'b' := by
      intro c hc
      rcases List.mem_append.mp hc with hc | hc
      · exact h.spelled.not_b c hc
      · exact not_b_of_not_name (separatorChar_not_name (h.separator.chars c hc))
    have hvalue := pass_bearer_value (lastOf none before) hfront hv h.stops
    rw [List.append_assoc, List.append_assoc] at hvalue
    rw [hpass _ (h.bearer_meets _), hvalue]

/-- Where a token is open, the pass for tokens hides the name and what it may of the separator. -/
theorem bearer_open (h : Pair before name sep after) (hb : hidesNext bearerRule before) :
    ∃ out kept, BearerHead kept ∧ ∀ ys,
      pass bearerRule none 0 (before ++ (name ++ ys)) =
        out ++ kept ++ mark ++ pass bearerRule none 0 (ys.dropWhile isTokenChar) := by
  obtain ⟨front, before', kept, run, out, -, hh, -, hpass⟩ :=
    bearerShape.pass_open (Redaction.bearer_meets h.boundary (by rfl)) hb
  refine ⟨out, kept, hh, fun ys => ?_⟩
  have hname : ∀ c ∈ name, isTokenChar c = true :=
    fun c hc => (h.spelled.nameChar secretNames_letters hc).token
  rw [hpass _ (h.bearer_meets ys), bearer_rebase _ none]
  show _ ++ pass bearerRule none 0 ((name ++ ys).dropWhile isTokenChar) = _
  rw [List.dropWhile_append_of_pos hname]

/-- Where no value is open, the pass for names hides the value of the pair. -/
theorem named_closed (h : Pair before name sep after) (hn : ¬ hidesNext namedRule before)
    {value : List Char} (hv : PlainValue value) :
    pass namedRule none 0 (before ++ (name ++ (sep ++ (value ++ after)))) =
      pass namedRule none 0 before ++ (name ++ sep ++ mark ++ pass namedRule none 0 after) := by
  obtain ⟨-, hpass⟩ :=
    namedShape.pass_closed (Redaction.named_meets h.boundary (by rfl) (by decide)) hn
  have hbefore : Text.endsInWord (lastOf none before) = false := by
    rw [lastOf_eq_getLast, Option.or_none]
    exact h.boundary
  have hpair := pass_named_pair hbefore h.spelled h.separator hv h.stops
  rw [List.append_assoc name sep (value ++ after)] at hpair
  rw [hpass _ (h.named_meets _), hpair]

/-- Where a value is open, the pass for names hides the name and what it may of the separator. -/
theorem named_open (h : Pair before name sep after) (hn : hidesNext namedRule before) :
    ∃ out, ∀ ys, pass namedRule none 0 (before ++ (name ++ ys)) =
      out ++ pass namedRule none 0 (ys.dropWhile isValueChar) := by
  obtain ⟨front, before', kept, run, out, -, -, -, hpass⟩ :=
    namedShape.pass_open (Redaction.named_meets h.boundary (by rfl) (by decide)) hn
  refine ⟨out ++ kept ++ mark, fun ys => ?_⟩
  have hname : ∀ c ∈ name, isValueChar c = true :=
    fun c hc => (h.spelled.nameChar secretNames_letters hc).value
  have hdrop : (name ++ ys).dropWhile isValueChar = ys.dropWhile isValueChar :=
    List.dropWhile_append_of_pos hname
  rw [hpass _ (h.named_meets ys)]
  show _ ++ pass namedRule _ 0 ((name ++ ys).dropWhile isValueChar) = _
  rw [hdrop, named_rebase _ Stops.dropWhile]

/-! ## The two outcomes -/

/-- Unless its name is swallowed, a redacted pair does not depend on its value. -/
theorem redactChars_hides (h : Pair before name sep after) (hs : ¬ Swallowed before sep) :
    ∃ out, ∀ value, PlainValue value →
      redactChars (before ++ (name ++ (sep ++ (value ++ after)))) = out := by
  by_cases hb : hidesNext bearerRule before
  · -- The token that is open takes the name, the separator and the value.
    obtain ⟨out, kept, -, hpass⟩ := h.bearer_open hb
    refine ⟨pass queryRule none 0 (pass namedRule none 0
      (out ++ kept ++ mark ++ pass bearerRule none 0 after)), fun value hv => ?_⟩
    have hsep : ∀ c ∈ sep, isTokenChar c = true := by
      intro c hc
      rw [← Bool.not_eq_false]
      intro hf
      exact hs (.inl ⟨hb, c, hc, hf⟩)
    have hvalue : ∀ c ∈ value, isTokenChar c = true :=
      fun c hc => (alphanum_kinds (hv.alphanum c hc)).1
    rw [redactChars_eq, hpass, dropWhile_through hsep hvalue h.token_stops]
  · obtain ⟨hpair, hbearer⟩ := h.bearer_closed hb
    by_cases hn : hidesNext namedRule (pass bearerRule none 0 before)
    · -- The value that is open takes the name, the separator and the value of the pair.
      obtain ⟨out, hpass⟩ := hpair.named_open hn
      refine ⟨pass queryRule none 0 (out ++ pass namedRule none 0 (pass bearerRule none 0 after)),
        fun value hv => ?_⟩
      have hsep : ∀ c ∈ sep, isValueChar c = true := by
        intro c hc
        rw [← Bool.not_eq_false]
        intro hf
        exact hs (.inr ⟨hb, hn, c, hc, hf⟩)
      have hvalue : ∀ c ∈ value, isValueChar c = true :=
        fun c hc => (alphanum_kinds (hv.alphanum c hc)).2.1
      rw [redactChars_eq, hbearer value hv, hpass, dropWhile_through hsep hvalue hpair.stops]
    · refine ⟨pass queryRule none 0 (pass namedRule none 0 (pass bearerRule none 0 before) ++
        (name ++ sep ++ mark ++ pass namedRule none 0 (pass bearerRule none 0 after))),
        fun value hv => ?_⟩
      rw [redactChars_eq, hbearer value hv, hpair.named_closed hn hv]

/-- Where a token takes the name and ends in the separator, a redacted pair shows its value. -/
theorem shows_behind_token (h : Pair before name sep after) (hb : hidesNext bearerRule before)
    (hs : ∃ c ∈ sep, isTokenChar c = false) :
    ∃ out, ∀ value, PlainValue value → ∃ rest, Stops Char.isAlphanum rest ∧
      redactChars (before ++ (name ++ (sep ++ (value ++ after)))) = out ++ (value ++ rest) := by
  obtain ⟨c, tail, -, hm, hdrop⟩ := dropWhile_inside hs
  have hleft : ∀ d ∈ c :: tail, isSeparatorChar d = true :=
    fun d hd => h.separator.chars d (hm d hd)
  have hletters : ∀ d ∈ c :: tail, plainLetter d ≠ 'b' :=
    fun d hd => not_b_of_not_name (separatorChar_not_name (hleft d hd))
  obtain ⟨out, kept, hhead, hpass⟩ := h.bearer_open hb
  obtain ⟨front, b, hblank, hnamed⟩ := pass_named_bearer out hhead
  have hlead : ∀ d ∈ mark ++ c :: tail, d ≠ '?' ∧ d ≠ '&' := by
    intro d hd
    rcases List.mem_append.mp hd with hd | hd
    · exact mark_not_lead hd
    · exact separatorChar_not_lead (hleft d hd)
  have hlast : ∀ d ∈ (mark ++ c :: tail).getLast?, isSeparatorChar d = true := by
    intro d hd
    rw [List.getLast?_append, List.getLast?_eq_some_getLast (List.cons_ne_nil c tail)] at hd
    have he : (c :: tail).getLast (List.cons_ne_nil c tail) = d := Option.some.inj hd
    rw [← he]
    exact hleft _ (List.getLast_mem _)
  obtain ⟨out', hquery⟩ :=
    pass_query_behind (noParameter_of_blank front hblank hlead hlast)
  refine ⟨out', fun value hv => ?_⟩
  have hstops : Stops isValueChar (pass bearerRule none 0 after) :=
    stops_pass bearerShape none h.stops
  obtain ⟨before', hbefore⟩ := hnamed (c :: tail ++ (value ++ pass bearerRule none 0 after))
  obtain ⟨rest, hrest, hkept⟩ := pass_named_left before' hleft hv hstops
  obtain ⟨rest', hrest', hshown⟩ := hquery value rest hv hrest
  refine ⟨rest', hrest', ?_⟩
  calc redactChars (before ++ (name ++ (sep ++ (value ++ after))))
      = pass queryRule none 0 (pass namedRule none 0 (out ++ kept ++ mark ++
          (c :: tail ++ (value ++ pass bearerRule none 0 after)))) := by
        rw [redactChars_eq, hpass, hdrop, pass_bearer_value none hletters hv h.stops]
    _ = pass queryRule none 0 (front ++ b :: (mark ++ (c :: tail ++ (value ++ rest)))) := by
        rw [hbefore, hkept]
    _ = out' ++ (value ++ rest') := by
        simpa using hshown

/-- Where another value takes the name and ends in the separator, a redacted pair shows its
value. -/
theorem shows_behind_value (h : Pair before name sep after) (hn : hidesNext namedRule before)
    (hs : ∃ c ∈ sep, isValueChar c = false) :
    ∃ out, ∀ value, PlainValue value → ∃ rest, Stops Char.isAlphanum rest ∧
      pass queryRule none 0 (pass namedRule none 0
        (before ++ (name ++ (sep ++ (value ++ after))))) = out ++ (value ++ rest) := by
  obtain ⟨c, tail, hc, hm, hdrop⟩ := dropWhile_inside hs
  have hleft : ∀ d ∈ c :: tail, isSeparatorChar d = true :=
    fun d hd => h.separator.chars d (hm d hd)
  have hblank : Text.isBlank c = true := by
    rcases separatorChar_cases (hleft c (by simp)) with hb | rfl | rfl
    · exact hb
    · exact absurd hc (by decide)
    · exact absurd hc (by decide)
  have hlead : ∀ d ∈ tail, d ≠ '?' ∧ d ≠ '&' :=
    fun d hd => separatorChar_not_lead (hleft d (List.mem_cons_of_mem c hd))
  have hlast : ∀ d ∈ tail.getLast?, isSeparatorChar d = true :=
    fun d hd => hleft d (List.mem_cons_of_mem c (List.mem_of_getLast? hd))
  obtain ⟨out, hpass⟩ := h.named_open hn
  obtain ⟨out', hquery⟩ :=
    pass_query_behind (noParameter_of_blank out hblank hlead hlast)
  refine ⟨out', fun value hv => ?_⟩
  obtain ⟨rest, hrest, hkept⟩ := pass_named_left none hleft hv h.stops
  obtain ⟨rest', hrest', hshown⟩ := hquery value rest hv hrest
  refine ⟨rest', hrest', ?_⟩
  rw [hpass, hdrop, hkept]
  simpa using hshown

/-- Where its name is swallowed, a redacted pair shows its value. -/
theorem redactChars_shows (h : Pair before name sep after) (hs : Swallowed before sep) :
    ∃ out, ∀ value, PlainValue value → ∃ rest, Stops Char.isAlphanum rest ∧
      redactChars (before ++ (name ++ (sep ++ (value ++ after)))) = out ++ (value ++ rest) := by
  rcases hs with ⟨hb, hsep⟩ | ⟨hb, hn, hsep⟩
  · exact h.shows_behind_token hb hsep
  · obtain ⟨hpair, hbearer⟩ := h.bearer_closed hb
    obtain ⟨out, hshown⟩ := hpair.shows_behind_value hn hsep
    refine ⟨out, fun value hv => ?_⟩
    rw [redactChars_eq, hbearer value hv]
    exact hshown value hv

end Pair

/-- A redacted text tells the value of a pair in no context but where the name of the pair is
swallowed by a secret that ends in the separator; there it tells every value apart. -/
theorem redact_hides_value_iff {before name sep after value value' : String}
    (h : Pair before.toList name.toList sep.toList after.toList)
    (hv : PlainValue value.toList) (hv' : PlainValue value'.toList) :
    redact (before ++ name ++ sep ++ value ++ after) =
        redact (before ++ name ++ sep ++ value' ++ after) ↔
      value = value' ∨ ¬ Swallowed before.toList sep.toList := by
  have chars : ∀ v : String, (before ++ name ++ sep ++ v ++ after).toList =
      before.toList ++ (name.toList ++ (sep.toList ++ (v.toList ++ after.toList))) := by
    intro v
    simp only [String.toList_append, List.append_assoc]
  simp only [redact, chars, String.ofList_inj]
  constructor
  · intro he
    by_cases hs : Swallowed before.toList sep.toList
    · left
      obtain ⟨out, hshown⟩ := h.redactChars_shows hs
      obtain ⟨rest, hrest, hout⟩ := hshown _ hv
      obtain ⟨rest', hrest', hout'⟩ := hshown _ hv'
      rw [hout, hout'] at he
      -- Both outcomes go on with their value, up to the first character of another kind.
      have hends := congrArg (List.takeWhile Char.isAlphanum) (List.append_cancel_left he)
      rw [takeWhile_run hv.alphanum hrest, takeWhile_run hv'.alphanum hrest'] at hends
      exact String.toList_inj.mp hends
    · right
      exact hs
  · intro hcases
    rcases hcases with rfl | hs
    · rfl
    · obtain ⟨out, hhidden⟩ := h.redactChars_hides hs
      rw [hhidden _ hv, hhidden _ hv']

/-- Behind the word for a token, a name is taken for the token and its value stays. -/
theorem redact_tells_behind_bearer :
    Pair "bearer ".toList "token".toList ": ".toList "".toList ∧
      PlainValue "abc".toList ∧ PlainValue "xyz".toList ∧
      redact ("bearer " ++ "token" ++ ": " ++ "abc" ++ "") ≠
        redact ("bearer " ++ "token" ++ ": " ++ "xyz" ++ "") := by
  have pair : Pair "bearer ".toList "token".toList ": ".toList "".toList := by
    refine ⟨by decide, by decide, ?_, by simp⟩
    exact ⟨[], ':', [' '], rfl, by simp, by decide, by simp [Text.isBlank]⟩
  have abc : PlainValue "abc".toList :=
    ⟨by decide, List.all_eq_true.mp (by decide), by decide⟩
  have xyz : PlainValue "xyz".toList :=
    ⟨by decide, List.all_eq_true.mp (by decide), by decide⟩
  have swallowed : Swallowed "bearer ".toList ": ".toList :=
    .inl ⟨by decide, ':', by decide, by decide⟩
  refine ⟨pair, abc, xyz, ?_⟩
  intro he
  rcases (redact_hides_value_iff pair abc xyz).mp he with hv | hs
  · exact absurd hv (by decide)
  · exact hs swallowed

end NodeAgent.Redaction
