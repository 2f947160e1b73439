import Phrasebook.Culture.Samples
import Phrasebook.Placeholder.Context
import Phrasebook.Proofs.Placeholder.Cut

/-!
# What rendering puts in the place of placeholders

Rendering cuts a template once and puts a text in the place of every placeholder: the value that it
names, or else the fallback of the context. The texts put in are not read again, so a template is
rendered piece by piece wherever no placeholder spans the pieces.
-/

namespace Phrasebook

theorem Delimiters.opening_ne_closing {d : Delimiters} (h : d.refusal? = none) :
    d.opening ≠ d.closing := by
  intro heq
  unfold refusal? fault? at h
  split at h
  · cases h
  · simp [heq] at h

namespace PlaceholderContext

/-- The contexts that can be made. -/
inductive Reachable : PlaceholderContext → Prop
  | new (locale : Locale) : Reachable (.new locale)
  | setLocale {context : PlaceholderContext} (locale : Locale) :
      Reachable context → Reachable (context.setLocale locale)
  | setDefaultValue {context : PlaceholderContext} (value : Option Text) :
      Reachable context → Reachable (context.setDefaultValue value)
  | withDelimiters {context changed : PlaceholderContext} {d : Delimiters} :
      Reachable context → context.withDelimiters d = .ok changed → Reachable changed

/-- A context looks for its own delimiters, and these can be used. -/
structure WellFormed (context : PlaceholderContext) : Prop where
  pattern_eq : context.pattern = context.delimiters.pattern
  usable : context.delimiters.refusal? = none

theorem Reachable.wellFormed {context : PlaceholderContext} (h : context.Reachable) :
    context.WellFormed := by
  induction h with
  | new locale => exact ⟨rfl, rfl⟩
  | setLocale locale _ ih => exact ⟨ih.pattern_eq, ih.usable⟩
  | setDefaultValue value _ ih => exact ⟨ih.pattern_eq, ih.usable⟩
  | withDelimiters _ hchanged _ =>
      unfold PlaceholderContext.withDelimiters at hchanged
      split at hchanged
      · cases hchanged
      · next husable =>
          cases hchanged
          exact ⟨rfl, husable⟩

section Replacement

variable (context : PlaceholderContext) (model : Model) (body : Text)

/-- Whether a placeholder names a value: its root is in the model, and its path leads from there to
a value other than null. -/
def Names (value : Json) : Prop :=
  ∃ root, model.get? (Placeholder.ofBody context.delimiters body).root = some root ∧
    root.resolve (Placeholder.ofBody context.delimiters body).path = .found value

/-- Whether a placeholder names a value that its format writes as `s`. -/
def Writes [LocaleData] (s : Text) : Prop :=
  ∃ value, context.Names model body value ∧
    value.format (Placeholder.ofBody context.delimiters body).format context.locale = some (.ok s)

/-- Whether formatting the value of a placeholder ends. -/
def Returns [LocaleData] : Prop :=
  ∀ value, context.Names model body value →
    (value.format (Placeholder.ofBody context.delimiters body).format context.locale).isSome

/-- Whether `s` belongs in the place of a placeholder: the formatted value, or else the default
value, or else the placeholder itself. -/
def Replaces [LocaleData] (s : Text) : Prop :=
  context.Writes model body s ∨
    (¬ ∃ t, context.Writes model body t) ∧
      s = context.defaultValue.getD (context.delimiters.pattern.token body)

end Replacement

variable {context : PlaceholderContext} {model : Model} {body : Text}

theorem Names.unique {value other : Json} (h : context.Names model body value)
    (hother : context.Names model body other) : value = other := by
  obtain ⟨root, hroot, hvalue⟩ := h
  obtain ⟨root', hroot', hother⟩ := hother
  obtain rfl : root = root' := by simpa [hroot] using hroot'
  simpa [hvalue] using hother

theorem valueText_of_names [LocaleData] {value : Json} (h : context.Names model body value) :
    context.valueText model (Placeholder.ofBody context.delimiters body) =
      (value.format (Placeholder.ofBody context.delimiters body).format context.locale).map
        Except.toOption := by
  obtain ⟨root, hroot, hvalue⟩ := h
  simp only [valueText, hroot, hvalue]

theorem valueText_of_not_names [LocaleData] (h : ¬ ∃ value, context.Names model body value) :
    context.valueText model (Placeholder.ofBody context.delimiters body) = some none := by
  unfold valueText
  split
  · rfl
  · next root hroot =>
      split
      · next value hvalue => exact (h ⟨value, root, hroot, hvalue⟩).elim
      · rfl
      · rfl

theorem replaces_substitute [LocaleData] (hcontext : context.WellFormed)
    (hreturns : context.Returns model body) :
    ∃ s, context.substitute model body = some s ∧ context.Replaces model body s := by
  have hfallback : context.fallback body =
      context.defaultValue.getD (context.delimiters.pattern.token body) := by
    rw [fallback, hcontext.pattern_eq, Delimiters.Pattern.source_placeholder]
  by_cases hnames : ∃ value, context.Names model body value
  · obtain ⟨value, hvalue⟩ := hnames
    obtain ⟨result, hresult⟩ := Option.isSome_iff_exists.1 (hreturns value hvalue)
    have htext := valueText_of_names hvalue
    rw [hresult] at htext
    cases result with
    | ok s => exact ⟨s, by simp [substitute, htext, Except.toOption], .inl ⟨value, hvalue, hresult⟩⟩
    | error e =>
        refine ⟨context.fallback body, by simp [substitute, htext, Except.toOption],
          .inr ⟨?_, hfallback⟩⟩
        rintro ⟨t, other, hother, hwritten⟩
        rw [← hvalue.unique hother, hresult] at hwritten
        simp at hwritten
  · refine ⟨context.fallback body, by simp [substitute, valueText_of_not_names hnames],
      .inr ⟨?_, hfallback⟩⟩
    rintro ⟨t, value, hvalue, -⟩
    exact hnames ⟨value, hvalue⟩

/-- The text of a template is that of its cut, with every placeholder replaced. -/
theorem text_eq_assemble [LocaleData] {template : Text} {f : Text → Text}
    (hf : ∀ body ∈ (Cut.ofSegments (segments context.pattern template)).bodies,
      context.substitute model body = some (f body)) :
    context.text model template =
      some ((Cut.ofSegments (segments context.pattern template)).assemble f) := by
  unfold text
  generalize segments context.pattern template = segs at hf ⊢
  induction segs with
  | nil => rfl
  | cons seg segs ih =>
      cases seg with
      | literal c =>
          simp only [Cut.ofSegments, Cut.bodies_cons] at hf
          obtain ⟨texts, htexts, hflatten⟩ := Option.map_eq_some_iff.1 (ih hf)
          simp [segmentText, htexts, hflatten, Cut.ofSegments]
      | placeholder body =>
          simp only [Cut.ofSegments, Cut.bodies_consBody, List.forall_mem_cons] at hf
          obtain ⟨texts, htexts, hflatten⟩ := Option.map_eq_some_iff.1 (ih hf.2)
          simp [segmentText, hf.1, htexts, hflatten, Cut.ofSegments]

theorem render_of_text [LocaleData] {template s : Text} (hne : template ≠ [])
    (htext : context.text model template = some s) :
    context.render model template = some (.ok s) := by
  simp [render, hne, htext]

/-- A template has one leftmost cut. Rendering it succeeds if formatting its values ends, and puts
the text that belongs there in the place of every placeholder; a template whose placeholders write
nothing is left as it is when there is no default value. -/
theorem render_eq_assemble [LocaleData] (hcontext : context.Reachable) (model : Model)
    {template : Text} (hne : template ≠ []) :
    (∃! cut, context.delimiters.pattern.Leftmost template cut) ∧
      ∀ cut, context.delimiters.pattern.Leftmost template cut →
        cut.assemble context.delimiters.pattern.token = template ∧
        (∀ body ∈ cut.bodies, context.delimiters.pattern.IsBody body) ∧
        (∀ literal ∈ cut.literals, ∀ body, context.delimiters.pattern.IsBody body →
          ¬ context.delimiters.pattern.token body <:+: literal) ∧
        ((∀ body ∈ cut.bodies, context.Returns model body) →
          (∃ f : Text → Text, (∀ body ∈ cut.bodies, context.Replaces model body (f body)) ∧
            context.render model template = some (.ok (cut.assemble f))) ∧
          (context.defaultValue = none →
            (∀ body ∈ cut.bodies, ¬ ∃ s, context.Writes model body s) →
            context.render model template = some (.ok template))) := by
  have hwell := hcontext.wellFormed
  have hscan := Delimiters.Pattern.leftmost_ofSegments context.delimiters.pattern template
  refine ⟨⟨_, hscan, fun other hother => hother.unique hscan⟩, fun cut hcut => ?_⟩
  refine ⟨hcut.assemble_token, hcut.isBody, hcut.not_infix_literal, fun hreturns => ?_⟩
  have hex : ∃ f : Text → Text, (∀ body ∈ cut.bodies, context.Replaces model body (f body)) ∧
      context.render model template = some (.ok (cut.assemble f)) := by
    have hsub := fun body (hbody : body ∈ cut.bodies) =>
      replaces_substitute hwell (hreturns body hbody)
    refine ⟨fun body => (context.substitute model body).getD [], fun body hbody => ?_, ?_⟩
    · obtain ⟨s, hs, hreplaces⟩ := hsub body hbody
      simpa [hs] using hreplaces
    · apply render_of_text hne
      rw [hcut.unique hscan, ← hwell.pattern_eq]
      refine text_eq_assemble fun body hbody => ?_
      rw [hwell.pattern_eq, ← hcut.unique hscan] at hbody
      obtain ⟨s, hs, -⟩ := hsub body hbody
      simp [hs]
  refine ⟨hex, fun hdefault hsilent => ?_⟩
  obtain ⟨f, hf, hrender⟩ := hex
  have htoken : ∀ body ∈ cut.bodies, f body = context.delimiters.pattern.token body := by
    intro body hbody
    rcases hf body hbody with hwrites | ⟨-, heq⟩
    · exact (hsilent body hbody ⟨_, hwrites⟩).elim
    · simpa [hdefault] using heq
  rw [hrender, Cut.assemble_congr htoken, hcut.assemble_token]

/-- A context with angle brackets. -/
def angled : PlaceholderContext := ⟨.invariant, none, ⟨'<', '>', '|'⟩, ⟨'<', '>'⟩⟩

theorem reachable_angled : angled.Reachable :=
  .withDelimiters (d := ⟨'<', '>', '|'⟩) (.new .invariant) rfl

/-- An opening delimiter in a body does not count, and one without a body stays. -/
theorem render_eq_assemble_nested :
    angled.Reachable ∧ ("<><a<b>" : Text) ≠ [] ∧
      angled.render ⟨[("ab", .string "y")]⟩ "<><a<b>" = some (.ok "<>y") := by
  have hne : ("<><a<b>" : Text) ≠ [] := by decide
  refine ⟨reachable_angled, hne, ?_⟩
  have hnames : angled.Names ⟨[("ab", .string "y")]⟩ "a<b" (.string "y") := ⟨.string "y", rfl, rfl⟩
  have hcut : angled.delimiters.pattern.Leftmost "<><a<b>" ⟨[("<>", "a<b")], []⟩ :=
    Delimiters.Pattern.leftmost_ofSegments _ _
  obtain ⟨-, -, -, h⟩ := (render_eq_assemble reachable_angled ⟨[("ab", .string "y")]⟩ hne).2 _ hcut
  obtain ⟨⟨f, hf, hrender⟩, -⟩ := h fun body hbody value hvalue => by
    obtain rfl := List.mem_singleton.1 hbody
    rw [hvalue.unique hnames]
    rfl
  have hy : f "a<b" = "y" := by
    rcases hf "a<b" (List.mem_singleton.2 rfl) with ⟨value, hvalue, hwritten⟩ | ⟨hsilent, -⟩
    · rw [hvalue.unique hnames] at hwritten
      exact (Except.ok.inj (Option.some.inj hwritten)).symm
    · exact (hsilent ⟨"y", _, hnames, rfl⟩).elim
  have hassemble : Cut.assemble f ⟨[("<>", "a<b")], []⟩ = "<>" ++ f "a<b" := by
    simp only [Cut.assemble, List.flatMap_cons, List.flatMap_nil, List.append_nil]
  rw [hrender, hassemble, hy]
  rfl

/-- A template is rendered piece by piece if no opening delimiter of the first piece stands behind
its last closing one, whatever the values hold. It has an answer if both pieces have one. -/
theorem render_append [LocaleData] (hcontext : context.Reachable) (model : Model) {s t : Text}
    (hs : s ≠ []) (ht : t ≠ [])
    (hclosed : context.delimiters.opening ∉
      s.rtakeWhile (· ≠ context.delimiters.closing)) :
    context.render model (s ++ t) = do
      let first ← context.render model s
      let second ← context.render model t
      return do return (← first) ++ (← second) := by
  have hwell := hcontext.wellFormed
  have hsegments : segments context.pattern (s ++ t) =
      segments context.pattern s ++ segments context.pattern t := by
    rw [hwell.pattern_eq]
    exact Delimiters.Pattern.segments_append (Delimiters.Pattern.closed_of_notMem_rtakeWhile
      (Delimiters.opening_ne_closing hwell.usable) hclosed) t
  have htext : context.text model (s ++ t) = do
      return (← context.text model s) ++ (← context.text model t) := by
    simp only [text, hsegments, List.mapM_append]
    cases (segments context.pattern s).mapM (context.segmentText model) <;>
      cases (segments context.pattern t).mapM (context.segmentText model) <;> simp
  simp only [render, List.isEmpty_iff, List.append_eq_nil_iff, hs, ht, and_self, if_false, htext]
  cases context.text model s <;> cases context.text model t <;> rfl

/-- A value that looks like part of a placeholder does not become one. -/
theorem render_append_split :
    angled.Reachable ∧ ("<><a>" : Text) ≠ [] ∧ ("b><b>" : Text) ≠ [] ∧
      angled.delimiters.opening ∉
        ("<><a>" : Text).rtakeWhile (· ≠ angled.delimiters.closing) ∧
      angled.render ⟨[("a", .string "<"), ("b", .string "y")]⟩ ("<><a>" ++ "b><b>") =
        some (.ok "<><b>y") := by
  have hclosed : angled.delimiters.opening ∉
      ("<><a>" : Text).rtakeWhile (· ≠ angled.delimiters.closing) := by decide
  refine ⟨reachable_angled, by decide, by decide, hclosed, ?_⟩
  rw [render_append reachable_angled _ (by decide) (by decide) hclosed]
  rfl

end PlaceholderContext

end Phrasebook
