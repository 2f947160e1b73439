import Phrasebook.Config.File
import Phrasebook.Provider

/-!
# Settings

Settings are a configuration whose values have been replaced where the caller gives others.
-/

namespace Phrasebook

/-- Values that take the place of configured ones. -/
structure Overrides where
  resourceRoot : Option Text := none
  locale : Option Text := none
  engine : Option Engine := none
  defaultValue : Option Text := none

/-- All that is needed to locate and render templates. -/
structure Settings where
  resourceRoot : Text
  templateSuffix : Text
  locale : Locale
  defaultValue : Option Text
  engine : Engine
deriving DecidableEq

namespace Settings

/-- The settings for the configuration of a folder. A configured root is below the folder, one that
is given instead stands as it is. -/
def resolve (folder : Text) (config : Config) (overrides : Overrides) : Except Failure Settings :=
  match Locale.parse (overrides.locale.getD config.locale) with
  | .error e => .error (.ofLocale e)
  | .ok locale =>
    .ok {
      resourceRoot := overrides.resourceRoot.getD (Files.joinPath folder config.resourceRoot)
      templateSuffix := config.templateSuffix
      locale := locale
      defaultValue := overrides.defaultValue.or config.defaultValue
      engine := overrides.engine.getD config.engine }

def load (files : Files) (folder : Text) (overrides : Overrides) : Except Failure Settings :=
  match Config.loadOrStandard files folder with
  | .ok config => resolve folder config overrides
  | .error e => .error e

def locator (s : Settings) : Locator := ⟨s.resourceRoot, s.templateSuffix⟩

def renderer (s : Settings) : Renderer := .ofEngine s.engine s.locale s.defaultValue

def provider (s : Settings) : Provider := ⟨s.renderer, s.locator, s.locale⟩

@[simp] theorem renderer_provider (s : Settings) : s.provider.renderer = s.renderer := rfl

@[simp] theorem locator_provider (s : Settings) : s.provider.locator = s.locator := rfl

@[simp] theorem locale_provider (s : Settings) : s.provider.locale = s.locale := rfl

end Settings

end Phrasebook
