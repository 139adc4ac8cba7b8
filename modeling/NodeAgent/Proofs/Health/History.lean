import Mathlib.Data.List.Basic
import Mathlib.Data.List.Induction
import NodeAgent.Health
/-!
A site along a history. An event is set exactly if the last step that was about it set it; the
handlers are those that were made; and a step that is not about what a reply is made of has no part
in the reply. Requests are about nothing: whatever is asked, the site stays as it is.

Main results:
* `siteAfter_events`, `siteAfter_handlers`: what a site holds after any history.
* `agreeOn_of_filter`: histories that differ in what is not watched cannot be told apart by it.
* `run_request_getElem?`, `run_request_drop`: a request in the midst of a history.
-/

namespace NodeAgent.Health

/-- The site after a history, before which no handler is made and every event is clear. -/
def siteAfter (steps : List Step) : Site := steps.foldl Site.after {}

theorem siteAfter_concat (steps : List Step) (step : Step) :
    siteAfter (steps ++ [step]) = (siteAfter steps).after step :=
  List.foldl_concat Site.after {} step steps

/-! ## Events -/

/-- Whether an event was set, and not cleared since. -/
def LastSet (event : Nat) (steps : List Step) : Prop :=
  ∃ earlier later, steps = earlier ++ .setReady event true :: later ∧
    ∀ ready, .setReady event ready ∉ later

theorem not_lastSet_nil (event : Nat) : ¬ LastSet event [] := by
  rintro ⟨earlier, later, hsteps, -⟩
  simp at hsteps

theorem lastSet_concat {event : Nat} {steps : List Step} {step : Step} :
    LastSet event (steps ++ [step]) ↔
      step = .setReady event true ∨
        (∀ ready, step ≠ .setReady event ready) ∧ LastSet event steps := by
  constructor
  · rintro ⟨earlier, later, hsteps, hlater⟩
    rcases List.eq_nil_or_concat' later with rfl | ⟨later, last, rfl⟩
    · exact .inl (List.cons.inj (List.append_inj' hsteps rfl).2).1
    · rw [← List.cons_append, ← List.append_assoc] at hsteps
      obtain ⟨rfl, hlast⟩ := List.append_inj' hsteps rfl
      obtain rfl : step = last := by simpa using hlast
      refine .inr ⟨?_, earlier, later, rfl, ?_⟩
      · rintro ready rfl
        exact hlater ready (by simp)
      · intro ready hmem
        exact hlater ready (List.mem_append_left _ hmem)
  · rintro (rfl | ⟨hstep, earlier, later, rfl, hlater⟩)
    · exact ⟨steps, [], rfl, by simp⟩
    · refine ⟨earlier, later ++ [step], by simp, ?_⟩
      intro ready hmem
      rcases List.mem_append.mp hmem with hmem | hmem
      · exact hlater ready hmem
      · exact hstep ready (List.mem_singleton.mp hmem).symm

/-- A step leaves an event set if it sets it, or if it is not about it and the event was set. -/
theorem Site.after_events (site : Site) (step : Step) (event : Nat) :
    (site.after step).events event = true ↔
      step = .setReady event true ∨
        (∀ ready, step ≠ .setReady event ready) ∧ site.events event = true := by
  cases step with
  | setReady other ready =>
    by_cases h : event = other
    · cases ready <;> simp [Site.after, h]
    · simp [Site.after, h, Ne.symm h]
  | _ => simp [Site.after]

theorem siteAfter_events (steps : List Step) (event : Nat) :
    (siteAfter steps).events event = true ↔ LastSet event steps := by
  induction steps using List.reverseRecOn with
  | nil => exact iff_of_false Bool.false_ne_true (not_lastSet_nil event)
  | append_singleton steps step ih =>
    rw [siteAfter_concat, Site.after_events, lastSet_concat, ih]

/-! ## Handlers -/

/-- The event that a step makes a handler for, if it makes one. -/
def Step.made? : Step → Option Nat
  | makeHandler event => some event
  | _ => none

theorem siteAfter_handlers (steps : List Step) :
    (siteAfter steps).handlers = steps.filterMap Step.made? := by
  induction steps using List.reverseRecOn with
  | nil => rfl
  | append_singleton steps step ih =>
    rw [siteAfter_concat, List.filterMap_append, ← ih]
    cases step <;> simp [Site.after, Step.made?]

/-! ## What a reply is made of -/

/-- Whether a step is about handlers, metrics, or an event of some. -/
def Step.concerns (watched : Nat → Bool) : Step → Bool
  | setReady event _ => watched event
  | request _ _ => false
  | _ => true

/-- Two sites with the same handlers and metrics, whose events of some are alike. -/
structure AgreeOn (watched : Nat → Bool) (site other : Site) : Prop where
  handlers : site.handlers = other.handlers
  metrics : site.metrics = other.metrics
  events : ∀ event, watched event = true → site.events event = other.events event

variable {watched : Nat → Bool}

theorem AgreeOn.after {site other : Site} (h : AgreeOn watched site other) (step : Step) :
    AgreeOn watched (site.after step) (other.after step) := by
  obtain ⟨handlers, metrics, events⟩ := h
  cases step with
  | setReady event ready =>
    refine ⟨handlers, metrics, ?_⟩
    intro event' hwatched
    simp only [Site.after, events event' hwatched]
  | _ => exact ⟨by simp [Site.after, handlers], by simp [Site.after, metrics], events⟩

/-- A step that is about nothing watched changes nothing watched. -/
theorem AgreeOn.pass {site other : Site} (h : AgreeOn watched site other) {step : Step}
    (hstep : step.concerns watched = false) : AgreeOn watched (site.after step) other := by
  obtain ⟨handlers, metrics, events⟩ := h
  cases step with
  | setReady event ready =>
    refine ⟨handlers, metrics, ?_⟩
    intro event' hwatched
    have hne : event' ≠ event := by
      rintro rfl
      exact absurd hwatched (by simpa [Step.concerns] using hstep)
    simpa [Site.after, hne] using events event' hwatched
  | request => exact ⟨handlers, metrics, events⟩
  | _ => simp [Step.concerns] at hstep

theorem siteAfter_filter (watched : Nat → Bool) (steps : List Step) :
    AgreeOn watched (siteAfter steps) (siteAfter (steps.filter (Step.concerns watched))) := by
  induction steps using List.reverseRecOn with
  | nil => exact ⟨rfl, rfl, fun _ _ => rfl⟩
  | append_singleton steps step ih =>
    rw [siteAfter_concat]
    cases hstep : step.concerns watched with
    | true =>
      rw [List.filter_append, List.filter_cons_of_pos hstep, List.filter_nil, siteAfter_concat]
      exact ih.after step
    | false =>
      rw [List.filter_append, List.filter_cons_of_neg (by simp [hstep]), List.filter_nil,
        List.append_nil]
      exact ih.pass hstep

/-- Histories that differ in what is not watched come to sites that agree on what is. -/
theorem agreeOn_of_filter {steps others : List Step}
    (h : others.filter (Step.concerns watched) = steps.filter (Step.concerns watched)) :
    AgreeOn watched (siteAfter others) (siteAfter steps) := by
  have hothers := siteAfter_filter watched others
  have hsteps := siteAfter_filter watched steps
  rw [h] at hothers
  exact
    { handlers := hothers.handlers.trans hsteps.handlers.symm
      metrics := hothers.metrics.trans hsteps.metrics.symm
      events := fun event hwatched =>
        (hothers.events event hwatched).trans (hsteps.events event hwatched).symm }

/-! ## Replies -/

section

variable (scraper : Scraper)

theorem Site.length_run (site : Site) (steps : List Step) :
    (site.run scraper steps).length = steps.length := by
  induction steps generalizing site with
  | nil => rfl
  | cons step steps ih => simp [run, ih]

theorem Site.run_append (site : Site) (steps later : List Step) :
    site.run scraper (steps ++ later) =
      site.run scraper steps ++ (steps.foldl Site.after site).run scraper later := by
  induction steps generalizing site with
  | nil => rfl
  | cons step steps ih => simp [run, ih]

/-- What a request behind a history comes to, and what is logged of it. -/
def replyBehind (steps : List Step) (handler : Nat) (bytes : ByteArray) :
    Option Reply × List Log.Event :=
  (siteAfter steps).reply? scraper (.request handler bytes)

variable (before later : List Step) (handler : Nat) (bytes : ByteArray)

theorem run_request :
    ({} : Site).run scraper (before ++ .request handler bytes :: later) =
      ({} : Site).run scraper before ++
        (siteAfter before, replyBehind scraper before handler bytes) ::
          (siteAfter before).run scraper later := by
  rw [Site.run_append]
  rfl

theorem run_request_getElem? :
    (({} : Site).run scraper (before ++ .request handler bytes :: later))[before.length]? =
      some (siteAfter before, replyBehind scraper before handler bytes) := by
  rw [run_request, List.getElem?_append_right (Nat.le_of_eq (Site.length_run scraper {} before)),
    Site.length_run, Nat.sub_self, List.getElem?_cons_zero]

/-- What follows a request goes on as it would without the request. -/
theorem run_request_drop :
    (({} : Site).run scraper (before ++ .request handler bytes :: later)).drop (before.length + 1) =
      (({} : Site).run scraper (before ++ later)).drop before.length := by
  have hlength : (({} : Site).run scraper before).length = before.length :=
    Site.length_run scraper {} before
  rw [run_request, Site.run_append, ← hlength, List.drop_length_add_append, List.drop_left]
  rfl

end

end NodeAgent.Health
