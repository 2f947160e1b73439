import Phrasebook.CommandLine.Run
import Phrasebook.Proofs.Locator.Lookup
import Phrasebook.Proofs.Settings.Effective

/-!
# Locating and rendering agree

What rendering is told besides a look-up changes how a template is rendered and not where it is
looked for. So the path that is printed for a template is the one whose text is rendered, and
without such a path both commands fail alike.
-/

namespace Phrasebook

variable {files : Files} {folder : Text}

/-! ## Settings -/

namespace Settings

/-- Settings with what rendering is told besides. -/
def withOptions (s : Settings) (options : RenderOptions) : Settings :=
  { s with
    engine := options.engine.getD s.engine
    defaultValue := options.defaultValue.or s.defaultValue }

@[simp] theorem locator_withOptions (s : Settings) (options : RenderOptions) :
    (s.withOptions options).locator = s.locator := rfl

@[simp] theorem locale_withOptions (s : Settings) (options : RenderOptions) :
    (s.withOptions options).locale = s.locale := rfl

theorem load_overrides (files : Files) (folder : Text) (lookup : Lookup)
    (options : RenderOptions) :
    load files folder (options.overrides lookup) =
      (load files folder lookup.overrides).map (·.withOptions options) := by
  unfold load resolve
  cases Config.loadOrStandard files folder with
  | error e => rfl
  | ok config =>
      simp only [RenderOptions.overrides, Lookup.overrides]
      cases Locale.parse (lookup.locale.getD config.locale) <;> rfl

end Settings

/-- What is located is the text at its path. -/
theorem Locator.read_of_locate {locator : Locator} {name : Text} {locale : Locale}
    {found : Files.Found} (h : locator.locate files name locale = .ok found) :
    files.read found.path = .ok found.text := by
  have hfirst : files.firstFound (locator.candidates name locale) = .ok (some found) := by
    unfold locate at h
    split at h
    · cases h
    · dsimp only at h
      split at h
      · next other hother => rwa [← Except.ok.inj h]
      · cases h
      · cases h
  exact (Files.firstFound_eq_found_iff.1 hfirst).2

/-! ## Commands -/

namespace Command

variable {around : Surroundings} {command : Command} {lookup : Lookup} {options : RenderOptions}
  {found : Files.Found} {model : Model} {e : Failure}

/-- The template that the look-up of a command finds. -/
def template (files : Files) (command : Command) : Except Failure Files.Found :=
  match command.settings files with
  | .ok settings => settings.locator.locate files command.lookup.name settings.locale
  | .error e => .error e

theorem template_eq_ok_iff :
    command.template files = .ok found ↔
      ∃ s, command.settings files = .ok s ∧
        s.locator.locate files command.lookup.name s.locale = .ok found := by
  unfold template
  cases command.settings files <;> simp

/-- Both commands look for a template in the same places. -/
theorem template_render (files : Files) (lookup : Lookup) (options : RenderOptions) :
    (render lookup options).template files = (locate lookup).template files := by
  simp only [template, settings, Settings.load_overrides]
  cases Settings.load files lookup.configFolder lookup.overrides with
  | error e => rfl
  | ok s =>
      simp only [Except.map, Settings.locator_withOptions, Settings.locale_withOptions,
        Command.lookup]

theorem run_locate [LocaleData] (around : Surroundings) (lookup : Lookup) :
    run around (locate lookup) =
      some (((locate lookup).template around.files).map (·.path)) := by
  simp only [run, runLocate, template]
  cases (locate lookup).settings around.files with
  | error e => rfl
  | ok s =>
      change some (do return (← s.locator.locate around.files lookup.name s.locale).path) =
        some ((s.locator.locate around.files lookup.name s.locale).map (·.path))
      cases s.locator.locate around.files lookup.name s.locale <;> rfl

/-- A template that is found is rendered with the settings. -/
theorem run_render_of_template [LocaleData]
    (hmodel : around.loadModel options.model options.modelFile = .ok model)
    (h : (render lookup options).template around.files = .ok found) :
    ∃ s, (render lookup options).settings around.files = .ok s ∧
      run around (render lookup options) =
        (s.renderer.render found.text model).map (Except.mapError .ofRenderError) := by
  obtain ⟨s, hs, hlocate⟩ := template_eq_ok_iff.1 h
  refine ⟨s, hs, ?_⟩
  have hfound : s.locator.locate around.files lookup.name s.locale = .ok found := hlocate
  simp [run, runRender, hs, hmodel, Provider.message, Provider.messageFor, hfound]

theorem run_render_of_error [LocaleData]
    (hmodel : around.loadModel options.model options.modelFile = .ok model)
    (h : (render lookup options).template around.files = .error e) :
    run around (render lookup options) = some (.error e) := by
  unfold template at h
  cases hs : (render lookup options).settings around.files with
  | error other =>
      obtain rfl : other = e := by simpa [hs] using h
      simp [run, runRender, hs]
  | ok s =>
      have hlocate : s.locator.locate around.files lookup.name s.locale = .error e := by
        simpa [hs, Command.lookup] using h
      simp [run, runRender, hs, hmodel, Provider.message, Provider.messageFor, hlocate]

/-- A template has a path for the one command exactly if the other finds it. Its message is then
rendered from the text at that path, by the engine, for the locale and with the default value that
are in effect. Without a path both commands fail alike. -/
theorem locate_agrees_render [LocaleData] (around : Surroundings) (lookup : Lookup)
    (options : RenderOptions)
    (hmodel : around.loadModel options.model options.modelFile = .ok model) :
    (∀ path, run around (locate lookup) = some (.ok path) ↔
      ∃ found, (render lookup options).template around.files = .ok found ∧ found.path = path) ∧
    (∀ path, run around (locate lookup) = some (.ok path) →
      ∃ config locale text, Config.loadOrStandard around.files lookup.configFolder = .ok config ∧
        Locale.parse (lookup.locale.getD config.locale) = .ok locale ∧
        around.files.read path = .ok text ∧
        run around (render lookup options) =
          ((Renderer.ofEngine (options.engine.getD config.engine) locale
            (options.defaultValue.or config.defaultValue)).render text model).map
              (Except.mapError .ofRenderError)) ∧
    ∀ e, run around (locate lookup) = some (.error e) →
      run around (render lookup options) = some (.error e) := by
  rw [run_locate, ← template_render around.files lookup options]
  cases htemplate : (render lookup options).template around.files with
  | error e =>
      refine ⟨?_, ?_, ?_⟩
      · intro path
        simp [Except.map]
      · intro path h
        cases h
      · intro other h
        obtain rfl : e = other := by simpa [Except.map] using h
        exact run_render_of_error hmodel htemplate
  | ok found =>
      refine ⟨?_, ?_, ?_⟩
      · intro path
        simp [Except.map]
      · intro path h
        obtain rfl : found.path = path := by simpa [Except.map] using h
        obtain ⟨_, -, hlocate⟩ := template_eq_ok_iff.1 htemplate
        obtain ⟨s, hs, hrun⟩ := run_render_of_template hmodel htemplate
        obtain ⟨config, locale, hconfig, hlocale, rfl⟩ := Settings.load_eq_ok_iff.1 hs
        exact ⟨config, locale, found.text, hconfig, hlocale, Locator.read_of_locate hlocate, hrun⟩
      · intro e h
        cases h

/-- A greeting for Germany is found for Austria, and rendered with the default value. -/
theorem locate_agrees_render_greeting :
    let around : Surroundings :=
      ⟨.ofFindings [("templates/hi.de.template", .ok "Hallo \x7bname\x7d!"),
        ("templates/hi.template", .ok "Hi")], .ok []⟩
    let lookup : Lookup := ⟨"hi", [], none, some "de_at", 0⟩
    let options : RenderOptions := ⟨none, some "Welt", none, none⟩
    around.loadModel options.model options.modelFile = .ok .empty ∧
      run around (locate lookup) = some (.ok "templates/hi.de.template") ∧
      run around (render lookup options) = some (.ok "Hallo Welt!") := by
  intro around lookup options
  have hmodel : around.loadModel options.model options.modelFile = .ok .empty := rfl
  have hpath : run around (locate lookup) = some (.ok "templates/hi.de.template") := rfl
  obtain ⟨-, hrender, -⟩ := locate_agrees_render around lookup options hmodel
  obtain ⟨config, locale, text, hconfig, hlocale, htext, hrun⟩ := hrender _ hpath
  have hstandard : Config.loadOrStandard around.files lookup.configFolder = .ok .standard := rfl
  obtain rfl : Config.standard = config := Except.ok.inj (hstandard.symm.trans hconfig)
  have hAustria : Locale.parse (lookup.locale.getD Config.standard.locale) =
      .ok (.tagged ⟨some "de", none, some "AT", []⟩) := rfl
  obtain rfl := Except.ok.inj (hAustria.symm.trans hlocale)
  have hHallo : around.files.read "templates/hi.de.template" = .ok "Hallo \x7bname\x7d!" := rfl
  obtain rfl := Except.ok.inj (hHallo.symm.trans htext)
  exact ⟨hmodel, hpath, hrun⟩

end Command

end Phrasebook
