import Phrasebook.Proofs.Config.Choice
import Phrasebook.Settings

/-!
# Effective settings

Every setting is the value that the caller gives, or else that of the configuration, whatever else
is given. The configuration has to be valid on its own, so a locale that is given does not make up
for a configured one that cannot be read.
-/

namespace Phrasebook

namespace Config

theorem isSuffix_iff {s : Text} : isSuffix s = true ↔ ∃ c rest, s = '.' :: c :: rest := by
  constructor
  · intro h
    unfold isSuffix at h
    split at h
    · next c rest => exact ⟨c, rest, rfl⟩
    · cases h
  · rintro ⟨c, rest, rfl⟩
    rfl

theorem flaw?_eq_none_iff {config : Config} :
    config.flaw? = none ↔
      (∃ c rest, config.templateSuffix = '.' :: c :: rest) ∧ config.resourceRoot ≠ [] ∧
        ∃ locale, Locale.parse config.locale = .ok locale := by
  rw [← isSuffix_iff]
  unfold flaw?
  by_cases hempty : config.templateSuffix = []
  · simp [hempty, isSuffix]
  · cases hsuffix : isSuffix config.templateSuffix with
    | false => simp [hempty]
    | true =>
        by_cases hroot : config.resourceRoot = []
        · simp [hempty, hroot]
        · cases hlocale : Locale.parse config.locale <;> simp [hempty, hroot]

end Config

namespace Locator

/-- A template is only looked for below the root, in files with the suffix. -/
theorem exists_of_mem_candidates {locator : Locator} {name path : Text} {locale : Locale}
    (h : path ∈ locator.candidates name locale) :
    ∃ file, path = Files.joinPath locator.root file ∧ locator.suffix <:+ file := by
  obtain ⟨level, -, rfl⟩ := List.mem_map.1 h
  refine ⟨locator.fileName name level, rfl, ?_⟩
  cases level with
  | invariant => exact List.suffix_append name locator.suffix
  | tagged id => exact ⟨name ++ '.' :: id.text, by simp [fileName]⟩

end Locator

namespace Settings

variable {files : Files} {folder : Text} {overrides : Overrides} {s : Settings}

theorem load_eq_ok_iff :
    load files folder overrides = .ok s ↔
      ∃ config locale, Config.loadOrStandard files folder = .ok config ∧
        Locale.parse (overrides.locale.getD config.locale) = .ok locale ∧
        s = {
          resourceRoot := overrides.resourceRoot.getD (Files.joinPath folder config.resourceRoot)
          templateSuffix := config.templateSuffix
          locale := locale
          defaultValue := overrides.defaultValue.or config.defaultValue
          engine := overrides.engine.getD config.engine } := by
  unfold load resolve
  cases Config.loadOrStandard files folder with
  | error e => simp
  | ok config => cases hlocale : Locale.parse (overrides.locale.getD config.locale) <;>
      simp [hlocale, eq_comm]

/-- A valid configuration lacks a locale only if the one that is given cannot be read. -/
theorem exists_load_iff :
    (∃ s, load files folder overrides = .ok s) ↔
      (∃ config, Config.loadOrStandard files folder = .ok config) ∧
        ∀ tag, overrides.locale = some tag → ∃ locale, Locale.parse tag = .ok locale := by
  simp only [load_eq_ok_iff]
  constructor
  · rintro ⟨-, config, locale, hconfig, hlocale, -⟩
    refine ⟨⟨config, hconfig⟩, fun tag htag => ⟨locale, ?_⟩⟩
    rwa [htag, Option.getD_some] at hlocale
  · rintro ⟨⟨config, hconfig⟩, htags⟩
    have hvalid := Config.flaw?_eq_none_iff.1 (Config.flaw?_of_loadOrStandard hconfig)
    have hlocale : ∃ locale, Locale.parse (overrides.locale.getD config.locale) = .ok locale := by
      cases htag : overrides.locale with
      | none => exact hvalid.2.2
      | some tag => exact htags tag htag
    obtain ⟨locale, hlocale⟩ := hlocale
    exact ⟨_, config, locale, hconfig, hlocale, rfl⟩

theorem load_of_invalid_locale {config : Config} {e : Locale.Invalid}
    (hconfig : Config.load files folder = .ok config)
    (hlocale : Locale.parse config.locale = .error e) :
    ∃ flaw, config.flaw? = some flaw ∧
      load files folder overrides = .error (.invalidConfig flaw) := by
  cases hflaw : config.flaw? with
  | none =>
      obtain ⟨-, -, locale, hok⟩ := Config.flaw?_eq_none_iff.1 hflaw
      rw [hlocale] at hok
      cases hok
  | some flaw =>
      refine ⟨flaw, rfl, ?_⟩
      rw [load, Config.loadOrStandard_of_load hconfig, Config.validated, hflaw]

/-- Settings are loaded if the configuration is, and the locale that is given can be read. Each of
them is what is given or else what is configured, and what renders and locates templates is made
from these settings. -/
theorem load_effective (files : Files) (folder : Text) (overrides : Overrides) :
    ((∃ s, load files folder overrides = .ok s) ↔
      (∃ config, Config.loadOrStandard files folder = .ok config) ∧
        ∀ tag, overrides.locale = some tag → ∃ locale, Locale.parse tag = .ok locale) ∧
    (∀ s, load files folder overrides = .ok s →
      ∃ config, Config.loadOrStandard files folder = .ok config ∧
        s.resourceRoot = overrides.resourceRoot.getD (Files.joinPath folder config.resourceRoot) ∧
        Locale.parse (overrides.locale.getD config.locale) = .ok s.locale ∧
        s.engine = overrides.engine.getD config.engine ∧
        s.defaultValue = overrides.defaultValue.or config.defaultValue ∧
        s.templateSuffix = config.templateSuffix ∧
        (∃ c rest, s.templateSuffix = '.' :: c :: rest) ∧
        s.provider.renderer = .ofEngine s.engine s.locale s.defaultValue ∧
        s.provider.renderer.engine = s.engine ∧ s.provider.renderer.locale = s.locale ∧
        s.provider.locator = ⟨s.resourceRoot, s.templateSuffix⟩ ∧
        ∀ name, ∀ path ∈ s.provider.locator.candidates name s.provider.locale,
          ∃ file, path = Files.joinPath s.resourceRoot file ∧ s.templateSuffix <:+ file) ∧
    ∀ config e, Config.load files folder = .ok config → Locale.parse config.locale = .error e →
      ∃ flaw, config.flaw? = some flaw ∧
        load files folder overrides = .error (.invalidConfig flaw) := by
  refine ⟨exists_load_iff, fun s hs => ?_, fun config e => load_of_invalid_locale⟩
  obtain ⟨config, locale, hconfig, hlocale, rfl⟩ := load_eq_ok_iff.1 hs
  obtain ⟨hsuffix, -, -⟩ :=
    Config.flaw?_eq_none_iff.1 (Config.flaw?_of_loadOrStandard hconfig)
  exact ⟨config, hconfig, rfl, hlocale, rfl, rfl, rfl, hsuffix, rfl,
    Renderer.engine_ofEngine _ _ _, Renderer.locale_ofEngine _ _ _, rfl,
    fun _ _ => Locator.exists_of_mem_candidates⟩

/-- A locale and a default value that are given take their places only, and no locale makes up for
a configured one that cannot be read. -/
theorem load_effective_french :
    let files : Files := .ofFindings [
      ("a/letterpress.json", .ok
        "\x7b\"schemaVersion\": \"v1\", \"locale\": \"de\", \"engine\": \"minijinja\"\x7d"),
      ("b/letterpress.json", .ok "\x7b\"schemaVersion\": \"v1\", \"locale\": \"?\"\x7d")]
    let overrides : Overrides := { locale := some "fr", defaultValue := some "-" }
    (∃ s, load files "a" overrides = .ok s ∧ s.resourceRoot = "a/templates" ∧
      s.locale = .tagged ⟨some "fr", none, none, []⟩ ∧ s.engine = .script ∧
      s.defaultValue = some "-") ∧
    ∃ flaw, load files "b" overrides = .error (.invalidConfig flaw) := by
  intro files overrides
  have hfrench : Locale.parse "fr" = .ok (.tagged ⟨some "fr", none, none, []⟩) := rfl
  have hconfig : Config.loadOrStandard files "a" =
      .ok { Config.standard with locale := "de", engine := .script } := rfl
  have hbroken : Config.load files "b" = .ok { Config.standard with locale := "?" } := rfl
  obtain ⟨hsucceeds, hvalues, -⟩ := load_effective files "a" overrides
  obtain ⟨-, -, hfails⟩ := load_effective files "b" overrides
  obtain ⟨s, hs⟩ := hsucceeds.2 ⟨⟨_, hconfig⟩, by rintro tag ⟨⟩; exact ⟨_, hfrench⟩⟩
  obtain ⟨config, hloaded, hroot, hlocale, hengine, hdefault, -⟩ := hvalues s hs
  obtain rfl := Except.ok.inj (hconfig.symm.trans hloaded)
  obtain ⟨flaw, -, hflaw⟩ := hfails _ ⟨"?", .language⟩ hbroken rfl
  refine ⟨⟨s, hs, hroot, ?_, hengine, hdefault⟩, flaw, hflaw⟩
  exact (Except.ok.inj (hfrench.symm.trans hlocale)).symm

end Settings

end Phrasebook
