import Phrasebook.Proofs.Placeholder.Render

/-!
# Changing a context

A context can be changed in any order and any number of times, and delimiters that cannot be used
are refused without a change. What it renders depends on the last accepted locale, default value and
delimiters alone, as if it had been made with these.
-/

namespace Phrasebook

namespace Delimiters

/-- Whether delimiters cannot be used: one could stand in a path or between words, or two of them
are equal. -/
def Unusable (d : Delimiters) : Prop :=
  (∃ c ∈ [d.opening, d.closing, d.separator], c = '.' ∨ Text.isBlank c = true) ∨
    ¬ [d.opening, d.closing, d.separator].Nodup

instance (d : Delimiters) : Decidable d.Unusable :=
  @instDecidableOr _ _ (List.decidableBEx _ _) inferInstance

theorem fault?_eq_none_iff {cs : List Char} :
    fault? cs = none ↔ ¬ ((∃ c ∈ cs, c = '.' ∨ Text.isBlank c = true) ∨ ¬ cs.Nodup) := by
  induction cs with
  | nil => simp [fault?]
  | cons c cs ih =>
      by_cases hc : c = '.' ∨ Text.isBlank c = true
      · simp [fault?, hc]
      · by_cases hmem : c ∈ cs
        · simp [fault?, hc, hmem]
        · simp [fault?, hc, hmem, ih]

theorem refusal?_eq_none_iff {d : Delimiters} : d.refusal? = none ↔ ¬ d.Unusable :=
  fault?_eq_none_iff

end Delimiters

namespace PlaceholderContext

inductive Change
  | setLocale (locale : Locale)
  | setDefaultValue (value : Option Text)
  | withDefaultValue (value : Text)
  | withDelimiters (d : Delimiters)

namespace Change

def locale? : Change → Option Locale
  | setLocale locale => some locale
  | _ => none

def defaultValue? : Change → Option (Option Text)
  | setDefaultValue value => some value
  | withDefaultValue value => some (some value)
  | _ => none

/-- The delimiters that a change brings, if they are accepted. -/
def delimiters? : Change → Option Delimiters
  | withDelimiters d => if d.Unusable then none else some d
  | _ => none

end Change

variable {context : PlaceholderContext}

/-- The context after a change; one that is refused leaves it as it is. -/
def apply (context : PlaceholderContext) : Change → PlaceholderContext
  | .setLocale locale => context.setLocale locale
  | .setDefaultValue value => context.setDefaultValue value
  | .withDefaultValue value => context.withDefaultValue value
  | .withDelimiters d =>
    match context.withDelimiters d with
    | .ok changed => changed
    | .error _ => context

def run (context : PlaceholderContext) (changes : List Change) : PlaceholderContext :=
  changes.foldl apply context

section Last

variable (context : PlaceholderContext) (changes : List Change)

def lastLocale : Locale := (changes.filterMap Change.locale?).getLastD context.locale

def lastDefaultValue : Option Text :=
  (changes.filterMap Change.defaultValue?).getLastD context.defaultValue

def lastDelimiters : Delimiters :=
  (changes.filterMap Change.delimiters?).getLastD context.delimiters

end Last

/-- A new context with this locale, default value and delimiters. -/
def fresh (locale : Locale) (value : Option Text) (d : Delimiters) :
    Except Refusal PlaceholderContext :=
  ((new locale).setDefaultValue value).withDelimiters d

/-- Prepares a template once and renders it with one model after another. -/
def renderAll [LocaleData] (context : PlaceholderContext) (template : Text) (models : List Model) :
    Except Refusal (List (Option (Except Refusal Text))) :=
  (context.compile template).map fun t => models.map t.render

theorem withDelimiters_eq_error_iff {d : Delimiters} :
    (∃ r, context.withDelimiters d = .error r) ↔ d.Unusable := by
  unfold withDelimiters
  cases hrefusal : d.refusal? with
  | none =>
      have husable := Delimiters.refusal?_eq_none_iff.1 hrefusal
      simp [husable]
  | some r =>
      have hunusable : d.Unusable := by
        by_contra husable
        simp [Delimiters.refusal?_eq_none_iff.2 husable] at hrefusal
      simp [hunusable]

theorem withDelimiters_of_usable {d : Delimiters} (h : ¬ d.Unusable) :
    context.withDelimiters d =
      .ok ⟨context.locale, context.defaultValue, d, d.pattern⟩ := by
  simp [withDelimiters, Delimiters.refusal?_eq_none_iff.2 h]

theorem apply_of_unusable {d : Delimiters} (h : d.Unusable) :
    context.apply (.withDelimiters d) = context := by
  obtain ⟨r, hr⟩ := withDelimiters_eq_error_iff.2 h
  rw [apply, hr]

theorem WellFormed.eq_mk (h : context.WellFormed) :
    context = ⟨context.locale, context.defaultValue, context.delimiters,
      context.delimiters.pattern⟩ := by
  rw [← h.pattern_eq]

/-- What is not changed stays, and the pattern follows the delimiters. -/
theorem apply_eq (h : context.WellFormed) (change : Change) :
    context.apply change =
      ⟨change.locale?.getD context.locale, change.defaultValue?.getD context.defaultValue,
        change.delimiters?.getD context.delimiters,
        (change.delimiters?.getD context.delimiters).pattern⟩ := by
  cases change with
  | setLocale locale =>
      rw [h.eq_mk]
      rfl
  | setDefaultValue value =>
      rw [h.eq_mk]
      rfl
  | withDefaultValue value =>
      rw [h.eq_mk]
      rfl
  | withDelimiters d =>
      by_cases hd : d.Unusable
      · rw [apply_of_unusable hd]
        simpa [Change.locale?, Change.defaultValue?, Change.delimiters?, hd] using h.eq_mk
      · rw [apply, withDelimiters_of_usable hd]
        simp [Change.locale?, Change.defaultValue?, Change.delimiters?, hd]

theorem WellFormed.apply (h : context.WellFormed) (change : Change) :
    (context.apply change).WellFormed := by
  rw [apply_eq h]
  refine ⟨rfl, ?_⟩
  cases hd : change.delimiters? with
  | none => exact h.usable
  | some d =>
      cases change with
      | withDelimiters other =>
          simp only [Change.delimiters?, Option.ite_none_left_eq_some, Option.some.injEq] at hd
          obtain ⟨husable, rfl⟩ := hd
          exact Delimiters.refusal?_eq_none_iff.2 husable
      | _ => cases hd

theorem WellFormed.run (h : context.WellFormed) (changes : List Change) :
    (context.run changes).WellFormed := by
  induction changes generalizing context with
  | nil => exact h
  | cons change changes ih => exact ih (h.apply change)

theorem getLastD_filterMap_cons {α β : Type} (f : α → Option β) (a : α) (as : List α) (b : β) :
    ((a :: as).filterMap f).getLastD b = (as.filterMap f).getLastD ((f a).getD b) := by
  cases h : f a with
  | none => rw [List.filterMap_cons_none h, Option.getD_none]
  | some c => rw [List.filterMap_cons_some h, List.getLastD_cons, Option.getD_some]

/-- A history is made up for by its last accepted changes. -/
theorem run_eq (h : context.WellFormed) (changes : List Change) :
    context.run changes =
      ⟨context.lastLocale changes, context.lastDefaultValue changes,
        context.lastDelimiters changes, (context.lastDelimiters changes).pattern⟩ := by
  induction changes generalizing context with
  | nil => exact h.eq_mk
  | cons change changes ih =>
      have hrest := ih (h.apply change)
      rw [run, List.foldl_cons, ← run, hrest]
      simp only [lastLocale, lastDefaultValue, lastDelimiters, getLastD_filterMap_cons,
        apply_eq h]

theorem fresh_last (h : context.WellFormed) (changes : List Change) :
    fresh (context.lastLocale changes) (context.lastDefaultValue changes)
      (context.lastDelimiters changes) = .ok (context.run changes) := by
  have hrun := run_eq h changes
  have husable := (h.run changes).usable
  rw [hrun] at husable
  rw [fresh, withDelimiters_of_usable (Delimiters.refusal?_eq_none_iff.1 husable), hrun]
  rfl

theorem render_of_compile [LocaleData] {template : Text} {t : PlaceholderTemplate}
    (h : context.compile template = .ok t) (model : Model) :
    t.render model = context.render model template := by
  unfold compile at h
  split at h
  · cases h
  · cases h
    rfl

/-- Whatever has been changed and refused before, a context refuses exactly the delimiters that
cannot be used, and stays as it is then; it looks for its own delimiters, and it renders templates,
prepared or not, like a new context with the last accepted locale, default value and delimiters. -/
theorem run_renders_as_fresh [LocaleData] (hcontext : context.Reachable) (changes : List Change) :
    (∀ d, ((∃ r, (context.run changes).withDelimiters d = .error r) ↔ d.Unusable) ∧
      (d.Unusable → context.run (changes ++ [.withDelimiters d]) = context.run changes)) ∧
    (context.run changes).pattern = (context.run changes).delimiters.pattern ∧
    ∃ built, fresh (context.lastLocale changes) (context.lastDefaultValue changes)
        (context.lastDelimiters changes) = .ok built ∧
      (∀ model template,
        (context.run changes).render model template = built.render model template) ∧
      (∀ template models,
        (context.run changes).renderAll template models = built.renderAll template models) ∧
      ∀ template t, (context.run changes).compile template = .ok t →
        ∀ model, t.render model = built.render model template := by
  have hwell := hcontext.wellFormed
  refine ⟨fun d => ⟨withDelimiters_eq_error_iff, fun hd => ?_⟩, (hwell.run changes).pattern_eq,
    context.run changes, fresh_last hwell changes, fun _ _ => rfl, fun _ _ => rfl,
    fun template t ht => render_of_compile ht⟩
  rw [run, List.foldl_append, ← run]
  exact apply_of_unusable hd

/-- Equal delimiters and a dot are refused; what was accepted before counts on. -/
theorem run_renders_as_fresh_brackets :
    angled.Reachable ∧
      let changes : List Change := [.withDelimiters ⟨'[', ']', '/'⟩, .withDefaultValue "-",
        .withDelimiters ⟨'<', '<', '|'⟩, .setLocale .invariant, .withDelimiters ⟨'(', ')', '.'⟩]
      (∃ r, (angled.run changes).withDelimiters ⟨'<', '<', '|'⟩ = .error r) ∧
        (angled.run changes).render ⟨[("a", .string "x")]⟩ "[a] [b]<a>" = some (.ok "x -<a>") ∧
        ∃ built, fresh .invariant (some "-") ⟨'[', ']', '/'⟩ = .ok built ∧
          built.render ⟨[("a", .string "x")]⟩ "[a] [b]<a>" = some (.ok "x -<a>") := by
  refine ⟨reachable_angled, ?_⟩
  intro changes
  obtain ⟨hrefused, -, built, hbuilt, hrender, -⟩ := run_renders_as_fresh reachable_angled changes
  have hequal : Delimiters.Unusable ⟨'<', '<', '|'⟩ := by decide
  have htext : (angled.run changes).render ⟨[("a", .string "x")]⟩ "[a] [b]<a>" =
      some (.ok "x -<a>") := by
    rfl
  exact ⟨(hrefused _).1.2 hequal, htext, built, hbuilt, (hrender _ _).symm.trans htext⟩

end PlaceholderContext

end Phrasebook
