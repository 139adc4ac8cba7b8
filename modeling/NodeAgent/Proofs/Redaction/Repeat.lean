import NodeAgent.Proofs.Redaction.Pair
import NodeAgent.Proofs.Redaction.Residue
/-!
A redacted text that is redacted again. The three rules end their secrets at different characters,
so what one of them leaves behind a mark may be a part of the secret to another one: the rule for
queries stops at an ampersand, at which the rule for names goes on. Where an ampersand stands right
behind the mark of a name, a second redaction takes what follows it; elsewhere it changes nothing,
and nowhere does it bring anything back.

Main results:
* `IsRedacted.redactChars_eq_iff`: when a redacted text stays as it is.
* `IsRedacted.sublist`: nothing is brought back.
* `redact_again_iff`: both, for a text that is redacted twice.
* `redact_again_takes_parameter`: a text that the second redaction changes.
-/

namespace NodeAgent.Redaction

open Text (Stops takeWhile_run takeWhile_ne_nil)

/-! ## Marks that stand for themselves -/

theorem Everywhere.of_forall {p : Option Char → List Char → Prop} {before : Option Char}
    {cs : List Char} (h : ∀ front back, cs = front ++ back → p (lastOf before front) back) :
    Everywhere p before cs := by
  induction cs generalizing before with
  | nil => exact h [] [] rfl
  | cons c cs ih =>
    refine ⟨h [] (c :: cs) rfl, ih fun front back he => ?_⟩
    exact h (c :: front) back (by rw [he]; rfl)

namespace Shape

variable {rule : Rule} (s : Shape rule)
include s

/-- A pass leaves a text alone in which every secret is a mark. -/
theorem pass_eq_self {before : Option Char} {cs : List Char}
    (h : Everywhere (Settled rule (· = mark)) before cs) : pass rule before 0 cs = cs := by
  induction before, cs using s.scan with
  | done before => rfl
  | keep before c cs hn ih => rw [pass_keep hn, ih h.2]
  | hide before kept secret rest hh hne hs hr ih =>
    have hmark : secret = mark := h.here _ (s.found_run hh hne hs hr)
    rw [← List.append_assoc] at h
    rw [s.pass_found hh hne hs hr, ih h.behind, hmark, List.append_assoc]

/-- A pass takes characters away at most where every secret begins with a mark. -/
theorem pass_sublist {before : Option Char} {cs : List Char}
    (h : Everywhere (Settled rule (mark <+: ·)) before cs) : (pass rule before 0 cs).Sublist cs := by
  induction before, cs using s.scan with
  | done before => exact List.Sublist.refl []
  | keep before c cs hn ih =>
    rw [pass_keep hn]
    exact (ih h.2).cons_cons c
  | hide before kept secret rest hh hne hs hr ih =>
    have hmark : mark <+: secret := h.here _ (s.found_run hh hne hs hr)
    rw [← List.append_assoc] at h
    rw [s.pass_found hh hne hs hr, List.append_assoc]
    exact (hmark.sublist.append (ih h.behind)).append_left kept

end Shape

/-! ## What runs on behind a mark -/

/-- Whether a secret is a mark, or one with an ampersand behind it. -/
def IsMarkOrRunsOn (secret : List Char) : Prop := secret = mark ∨ mark ++ ['&'] <+: secret

/-- Of a value that begins with a mark the next character tells what it is. -/
theorem isMarkOrRunsOn_iff {cs : List Char} :
    IsMarkOrRunsOn ((mark ++ cs).takeWhile isValueChar) ↔
      ∀ c ∈ cs.head?, isValueChar c = true → c = '&' := by
  rw [List.takeWhile_append_of_pos mark_value]
  cases cs with
  | nil => simp [IsMarkOrRunsOn]
  | cons c cs =>
    cases hc : isValueChar c with
    | false => simp [IsMarkOrRunsOn, hc]
    | true =>
      have hlonger : ∀ rest : List Char, mark ++ c :: rest ≠ mark := by
        intro rest he
        have hlength := congrArg List.length he
        simp at hlength
      have hnext : ∀ rest : List Char, mark ++ ['&'] <+: mark ++ c :: rest ↔ c = '&' := by
        intro rest
        rw [List.prefix_append_right_inj, List.cons_prefix_cons, eq_comm]
        exact and_iff_left List.nil_prefix
      rw [List.takeWhile_cons_of_pos hc, IsMarkOrRunsOn, hnext]
      simp only [hlonger, false_or, List.head?_cons, Option.mem_def, Option.some.injEq, forall_eq',
        hc, forall_const]

theorem mark_prefix_of_isMarkOrRunsOn {secret : List Char} (h : IsMarkOrRunsOn secret) :
    mark <+: secret := by
  rcases h with rfl | h
  · exact List.prefix_rfl
  · exact (List.prefix_append mark ['&']).trans h

/-- Behind the pass over queries a value is a mark, or one with an ampersand behind it. -/
theorem named_runs_on {before : Option Char} {cs : List Char}
    (h : Everywhere (Settled namedRule IsMarkOrRunsOn) before cs) :
    Everywhere (Settled namedRule IsMarkOrRunsOn) before (pass queryRule before 0 cs) := by
  refine (queryShape.aligned_pass before cs).settled namedShape
    (namedShape_free fun _ hc => hc.parameter) ?_ h
  intro before' cs out ha hcs hout
  cases ha with
  | done => exact absurd rfl hout
  | @keep _ c cs out rest =>
    have hvalue : IsMarkOrRunsOn ((c :: cs).takeWhile isValueChar) := by
      obtain ⟨d, _, he, hd⟩ := takeWhile_ne_nil hout
      obtain ⟨rfl, -⟩ := List.cons.inj he
      have hd : isValueChar c = true := hd
      exact hcs (by simp [namedShape, hd])
    obtain ⟨tail, ht⟩ := (mark_prefix_of_isMarkOrRunsOn hvalue).trans (List.takeWhile_prefix _)
    rw [← ht, isMarkOrRunsOn_iff] at hvalue
    -- The mark of the text stands in the outcome, and the same character behind it.
    obtain ⟨hc, rfl⟩ : '[' = c ∧ "REDACTED]".toList ++ tail = cs := List.cons.inj ht
    subst hc
    obtain ⟨tail', rfl, ha⟩ := rest.of_mark (by decide) fun x hx => List.mem_cons_of_mem '[' hx
    show IsMarkOrRunsOn ((mark ++ tail').takeWhile isValueChar)
    rw [isMarkOrRunsOn_iff, ha.head_of_mark (by decide)]
    exact hvalue
  | @hide c secret cs out behind nonempty run stop rest =>
    show IsMarkOrRunsOn ((mark ++ out).takeWhile isValueChar)
    rw [isMarkOrRunsOn_iff]
    intro d hd hvalue
    -- The secret of the query ended here, and neither a blank nor the end is part of a value.
    have hstop := rest.stops stop d hd
    apply Classical.byContradiction
    intro hne
    rw [isParameterChar, not_blank_of_value hvalue] at hstop
    simp [hne] at hstop

/-- Whether behind the name of a secret, with its separator, a mark has an ampersand behind it. -/
def RunsOn (cs : List Char) : Prop :=
  ∃ front name sep back, cs = front ++ (name ++ (sep ++ (mark ++ '&' :: back))) ∧
    Text.endsInWord front.getLast? = false ∧ SpellsOne secretNames name ∧ IsSeparator sep

theorem namedHead_iff {before : Option Char} {kept : List Char} :
    NamedHead before kept ↔ Text.endsInWord before = false ∧
      ∃ name sep, kept = name ++ sep ∧ SpellsOne secretNames name ∧ IsSeparator sep := by
  constructor
  · intro h
    obtain ⟨hbefore, name, gap, sign, gap', rfl, hs, hg, hsign, hg'⟩ := h
    exact ⟨hbefore, name, gap ++ sign :: gap', List.append_assoc .., hs, gap, sign, gap', rfl, hg,
      hsign, hg'⟩
  · intro h
    obtain ⟨hbefore, name, sep, rfl, hs, gap, sign, gap', rfl, hg, hsign, hg'⟩ := h
    exact ⟨hbefore, name, gap, sign, gap', (List.append_assoc ..).symm, hs, hg, hsign, hg'⟩

/-- In a text whose values run on at most, each one is a mark exactly if none runs on. -/
theorem named_exact_iff {cs : List Char}
    (h : Everywhere (Settled namedRule IsMarkOrRunsOn) none cs) :
    Everywhere (Settled namedRule (· = mark)) none cs ↔ ¬ RunsOn cs := by
  constructor
  · intro hexact hruns
    obtain ⟨front, name, sep, back, rfl, hbefore, hs, hsep⟩ := hruns
    have hh : namedShape.heads (lastOf none front) (name ++ sep) := by
      refine namedHead_iff.mpr ⟨?_, name, sep, rfl, hs, hsep⟩
      rw [lastOf_eq_getLast, Option.or_none]
      exact hbefore
    have hvalue : (mark ++ '&' :: back).takeWhile isValueChar =
        mark ++ '&' :: back.takeWhile isValueChar := by
      rw [List.takeWhile_append_of_pos mark_value, List.takeWhile_cons_of_pos (by decide)]
    have hfound := namedShape.found_head hh
      (show (mark ++ '&' :: back).takeWhile isValueChar ≠ [] by rw [hvalue]; simp)
    rw [List.append_assoc] at hfound
    have hmark : (mark ++ '&' :: back).takeWhile isValueChar = mark := hexact.behind.here _ hfound
    rw [hvalue] at hmark
    simp at hmark
  · intro hnone
    refine Everywhere.of_forall fun front back he found hfound => ?_
    rw [he] at h
    rcases h.behind.here _ hfound with hmark | hruns
    · exact hmark
    · exfalso
      apply hnone
      obtain ⟨rest, hrest, hh, hsecret, -⟩ := namedShape.found_iff.mp hfound
      obtain ⟨hbefore, name, sep, hkept, hs, hsep⟩ := namedHead_iff.mp hh
      rw [hsecret] at hruns
      obtain ⟨tail, htail⟩ := hruns.trans (List.takeWhile_prefix _)
      rw [lastOf_eq_getLast, Option.or_none] at hbefore
      refine ⟨front, name, sep, tail, ?_, hbefore, hs, hsep⟩
      rw [he, hrest, hkept, ← htail]
      simp

/-! ## A second redaction -/

/-- What holds of a redacted text in front of a second redaction. -/
structure IsRedacted (cs : List Char) : Prop where
  bearer : Everywhere (Settled bearerRule fun _ => False) none cs
  named : Everywhere (Settled namedRule IsMarkOrRunsOn) none cs
  query : Everywhere (Settled queryRule (· = mark)) none cs

theorem isRedacted_redactChars (cs : List Char) : IsRedacted (redactChars cs) where
  bearer := bearer_stays queryShape (bearer_stays namedShape (bearer_settled none cs))
  named := by
    apply named_runs_on
    exact (named_exact none _).mono fun before' cs' hs found hfound => .inl (hs found hfound)
  query := query_settled none _

namespace IsRedacted

variable {cs : List Char} (h : IsRedacted cs)
include h

/-- The second redaction is one of names and queries. -/
theorem redactChars_again :
    redactChars cs = pass queryRule none 0 (pass namedRule none 0 cs) := by
  have hbearer : pass bearerRule none 0 cs = cs := by
    apply bearerShape.pass_eq_self
    exact h.bearer.mono fun before' cs' hs found hfound => (hs found hfound).elim
  rw [redactChars_eq, hbearer]

theorem named_sublist : (pass namedRule none 0 cs).Sublist cs := by
  apply namedShape.pass_sublist
  exact h.named.mono fun before' cs' hs found hfound =>
    mark_prefix_of_isMarkOrRunsOn (hs found hfound)

theorem query_sublist : (redactChars cs).Sublist (pass namedRule none 0 cs) := by
  rw [h.redactChars_again]
  apply queryShape.pass_sublist
  exact queryShape.marked_stays (fun hh _ => hh) mark_parameter (namedShape.aligned_pass none cs)
    (marked_of_exact h.query)

theorem sublist : (redactChars cs).Sublist cs := h.query_sublist.trans h.named_sublist

theorem redactChars_eq_iff : redactChars cs = cs ↔ ¬ RunsOn cs := by
  rw [← named_exact_iff h.named]
  constructor
  · intro he
    -- Both passes take away at most, so the first one took nothing.
    have hlength : cs.length ≤ (pass namedRule none 0 cs).length := by
      calc cs.length = (redactChars cs).length := by rw [he]
        _ ≤ (pass namedRule none 0 cs).length := h.query_sublist.length_le
    have hpass : pass namedRule none 0 cs = cs := h.named_sublist.eq_of_length_le hlength
    have hexact := named_exact none cs
    rwa [hpass] at hexact
  · intro hexact
    calc redactChars cs = pass queryRule none 0 (pass namedRule none 0 cs) := h.redactChars_again
      _ = pass queryRule none 0 cs := by rw [namedShape.pass_eq_self hexact]
      _ = cs := queryShape.pass_eq_self h.query

end IsRedacted

/-! ## Ampersands -/

theorem Aligned.mem {hides : Char → Bool} {before : Option Char} {cs out : List Char}
    (h : Aligned hides before cs out) {c : Char} (hc : c ∈ out) : c ∈ cs ∨ c ∈ mark := by
  induction h with
  | done => exact .inl hc
  | keep rest ih =>
    rcases List.mem_cons.mp hc with rfl | hc
    · exact .inl List.mem_cons_self
    · exact (ih hc).imp (List.mem_cons_of_mem _) id
  | hide _ _ _ _ _ ih =>
    rcases List.mem_append.mp hc with hc | hc
    · exact .inr hc
    · exact (ih hc).imp (List.mem_append_right _) id

/-- Redaction brings no characters into a text but those of marks. -/
theorem mem_of_mem_redactChars {cs : List Char} {c : Char} (h : c ∈ redactChars cs) :
    c ∈ cs ∨ c ∈ mark := by
  rw [redactChars_eq] at h
  rcases (queryShape.aligned_pass none _).mem h with h | h
  · rcases (namedShape.aligned_pass none _).mem h with h | h
    · exact (bearerShape.aligned_pass none _).mem h
    · exact .inr h
  · exact .inr h

/-- A second redaction changes nothing exactly if no mark behind the name of a secret runs on, as
none does in a text without ampersands; and it takes characters away at most. -/
theorem redact_again_iff (t : String) :
    (redact (redact t) = redact t ↔ ¬ RunsOn (redact t).toList) ∧
      (redact (redact t)).toList.Sublist (redact t).toList ∧
      ('&' ∉ t.toList → redact (redact t) = redact t) := by
  have chars : ∀ s : String, (redact s).toList = redactChars s.toList := fun _ => String.toList_ofList
  have h := isRedacted_redactChars t.toList
  have hiff : redact (redact t) = redact t ↔ ¬ RunsOn (redact t).toList := by
    rw [← String.toList_inj, chars (redact t), chars t]
    exact h.redactChars_eq_iff
  refine ⟨hiff, ?_, fun hnone => hiff.mpr fun hruns => ?_⟩
  · rw [chars (redact t), chars t]
    exact h.sublist
  · obtain ⟨front, name, sep, back, he, -⟩ := hruns
    have hmem : '&' ∈ redactChars t.toList := by
      rw [← chars t, he]
      simp
    rcases mem_of_mem_redactChars hmem with hmem | hmem
    · exact hnone hmem
    · exact absurd hmem (by decide)

/-- What a text without ampersands loses it loses at once. -/
theorem redact_again_behind_token :
    '&' ∉ "password: token: abc; ?token=a,b".toList ∧
      redact (redact "password: token: abc; ?token=a,b") =
        redact "password: token: abc; ?token=a,b" := by
  have none_stands : '&' ∉ "password: token: abc; ?token=a,b".toList := by decide
  exact ⟨none_stands, (redact_again_iff _).2.2 none_stands⟩

/-- A second redaction takes the parameters behind a secret one, which the first one left. -/
theorem redact_again_takes_parameter :
    redact "?token=a,b&c=d" = "?token=[REDACTED]&c=d" ∧
      redact (redact "?token=a,b&c=d") = "?token=[REDACTED]" ∧
      ¬ ∀ t, redact (redact t) = redact t := by
  have once : redact "?token=a,b&c=d" = "?token=[REDACTED]&c=d" := by decide +kernel
  have twice : redact "?token=[REDACTED]&c=d" = "?token=[REDACTED]" := by decide +kernel
  refine ⟨once, by rw [once, twice], fun hall => ?_⟩
  have hsame := hall "?token=a,b&c=d"
  rw [once, twice] at hsame
  exact absurd hsame (by decide)

end NodeAgent.Redaction
