import Phrasebook.Config.File

/-!
# Choosing a configuration file

The first configuration file that stands in a folder decides alone. A fault of it is a failure and
never leads to a later file, and the standard configuration is taken where none stands. So two
folders that agree up to their first file have the same configuration.
-/

namespace Phrasebook.Config

variable {files others : Files} {folder other name : Text}

/-- Whether a file or folder with a name stands in a folder. -/
def Stands (files : Files) (folder name : Text) : Prop :=
  files.isPresent (Files.joinPath folder name) = true

instance : Decidable (Stands files folder name) :=
  inferInstanceAs (Decidable (_ = true))

/-- Whether `name` is the first name of a configuration file that stands in a folder. -/
def IsFirst (files : Files) (folder name : Text) : Prop :=
  ∃ before after, fileNames = before ++ name :: after ∧
    (∀ earlier ∈ before, ¬ Stands files folder earlier) ∧ Stands files folder name

/-- Whether two folders agree on which of the names stand in them, up to the first one that does,
and on what is read from that. -/
def AgreeOn (files : Files) (folder : Text) (others : Files) (other : Text) : List Text → Prop
  | [] => True
  | name :: names =>
    (Stands others other name ↔ Stands files folder name) ∧
      (Stands files folder name →
        others.read (Files.joinPath other name) = files.read (Files.joinPath folder name)) ∧
      (¬ Stands files folder name → AgreeOn files folder others other names)

/-- Whether the file with a name holds a configuration, valid or not. -/
def Holds (files : Files) (folder name : Text) (config : Config) : Prop :=
  ∃ s, files.read (Files.joinPath folder name) = .ok s ∧
    parse (.ofFileName name) s = .ok config

/-- Why the file with a name is not used: it cannot be read, it does not hold a configuration, or
one that is not valid. -/
inductive Rejects (files : Files) (folder name : Text) : Failure → Prop
  | unreadable {fault : FileFault} :
      files.read (Files.joinPath folder name) = .error fault →
        Rejects files folder name (.file fault)
  | malformed {s : Text} {e : Failure} : files.read (Files.joinPath folder name) = .ok s →
      parse (.ofFileName name) s = .error e → Rejects files folder name e
  | invalid {config : Config} {flaw : Flaw} : Holds files folder name config →
      config.flaw? = some flaw → Rejects files folder name (.invalidConfig flaw)

/-- A failure as another folder reports it. -/
def reportedIn (folder : Text) : Failure → Failure
  | .noConfig _ => .noConfig folder
  | failure => failure

/-! ## The first file -/

theorem fileName?_eq_some_iff : fileName? files folder = some name ↔ IsFirst files folder name := by
  rw [fileName?, List.find?_eq_some_iff_append]
  constructor
  · rintro ⟨hname, before, after, hsplit, hbefore⟩
    exact ⟨before, after, hsplit, by simpa [Stands] using hbefore, hname⟩
  · rintro ⟨before, after, hsplit, hbefore, hname⟩
    exact ⟨hname, before, after, hsplit, by simpa [Stands] using hbefore⟩

theorem fileName?_eq_none_iff :
    fileName? files folder = none ↔ ∀ name ∈ fileNames, ¬ Stands files folder name := by
  simp [fileName?, Stands]

theorem AgreeOn.find? {names : List Text} (h : AgreeOn files folder others other names) :
    names.find? (fun name => others.isPresent (Files.joinPath other name)) =
        names.find? (fun name => files.isPresent (Files.joinPath folder name)) ∧
      ∀ name, names.find? (fun name => files.isPresent (Files.joinPath folder name)) = some name →
        others.read (Files.joinPath other name) = files.read (Files.joinPath folder name) := by
  induction names with
  | nil => simp
  | cons first names ih =>
      obtain ⟨hstands, hread, hrest⟩ := h
      by_cases hfirst : Stands files folder first
      · have hother := hstands.2 hfirst
        have hsame := hread hfirst
        unfold Stands at hfirst hother
        simp only [List.find?_cons, hfirst, hother]
        refine ⟨trivial, ?_⟩
        rintro name ⟨⟩
        exact hsame
      · have hother := mt hstands.1 hfirst
        have hnames := ih (hrest hfirst)
        unfold Stands at hfirst hother
        simpa only [List.find?_cons, hfirst, hother] using hnames

/-! ## What is loaded -/

/-- Whatever a text holds, it is not the want of a file. -/
theorem parse_ne_noConfig (form : Form) (s missing : Text) :
    parse form s ≠ .error (.noConfig missing) := by
  cases form with
  | json =>
      rw [parse]
      cases ofJsonText s <;> nofun
  | yaml => cases h : ofYamlText? s <;> simp [parse, h]

theorem load_eq_ok_iff_of_isFirst (h : IsFirst files folder name) {config : Config} :
    load files folder = .ok config ↔ Holds files folder name config := by
  unfold load Holds
  rw [fileName?_eq_some_iff.2 h]
  cases hread : files.read (Files.joinPath folder name) <;> simp [hread]

theorem load_of_unreadable (h : IsFirst files folder name) {fault : FileFault}
    (hread : files.read (Files.joinPath folder name) = .error fault) :
    load files folder = .error (.file fault) := by
  unfold load
  simp [fileName?_eq_some_iff.2 h, hread]

theorem load_of_malformed (h : IsFirst files folder name) {s : Text} {e : Failure}
    (hread : files.read (Files.joinPath folder name) = .ok s)
    (hparse : parse (.ofFileName name) s = .error e) : load files folder = .error e := by
  unfold load
  simp [fileName?_eq_some_iff.2 h, hread, hparse]

theorem load_eq_noConfig_iff {missing : Text} :
    load files folder = .error (.noConfig missing) ↔
      missing = folder ∧ ∀ name ∈ fileNames, ¬ Stands files folder name := by
  rw [← fileName?_eq_none_iff]
  unfold load
  cases fileName? files folder with
  | none => simp [eq_comm]
  | some name =>
      cases hread : files.read (Files.joinPath folder name) with
      | error fault => simp [hread]
      | ok s => simp [hread, parse_ne_noConfig]

theorem validated_eq_ok_iff {config valid : Config} :
    config.validated = .ok valid ↔ valid = config ∧ config.flaw? = none := by
  unfold validated
  cases config.flaw? <;> simp [eq_comm]

theorem loadOrStandard_of_load {config : Config} (h : load files folder = .ok config) :
    loadOrStandard files folder = config.validated := by
  rw [loadOrStandard, h]

theorem loadOrStandard_of_error {e : Failure} (h : load files folder = .error e)
    (he : ∀ missing, e ≠ .noConfig missing) : loadOrStandard files folder = .error e := by
  rw [loadOrStandard, h]
  cases e with
  | noConfig missing => exact (he missing rfl).elim
  | _ => rfl

theorem flaw?_standard : standard.flaw? = none := by
  decide

theorem loadOrStandard_of_forall (h : ∀ name ∈ fileNames, ¬ Stands files folder name) :
    loadOrStandard files folder = .ok standard := by
  have hload : load files folder = .error (.noConfig folder) := load_eq_noConfig_iff.2 ⟨rfl, h⟩
  rw [loadOrStandard, hload]
  exact validated_eq_ok_iff.2 ⟨rfl, flaw?_standard⟩

theorem flaw?_of_loadOrStandard {config : Config} (h : loadOrStandard files folder = .ok config) :
    config.flaw? = none := by
  unfold loadOrStandard at h
  split at h
  · obtain ⟨rfl, hvalid⟩ := validated_eq_ok_iff.1 h
    exact hvalid
  · obtain ⟨rfl, hvalid⟩ := validated_eq_ok_iff.1 h
    exact hvalid
  · cases h

theorem loadOrStandard_of_rejects (h : IsFirst files folder name) {e : Failure}
    (hrejects : Rejects files folder name e) : loadOrStandard files folder = .error e := by
  cases hrejects with
  | unreadable hread => exact loadOrStandard_of_error (load_of_unreadable h hread) nofun
  | malformed hread hparse =>
      apply loadOrStandard_of_error (load_of_malformed h hread hparse)
      rintro missing rfl
      exact parse_ne_noConfig _ _ _ hparse
  | invalid hholds hflaw =>
      rw [loadOrStandard_of_load ((load_eq_ok_iff_of_isFirst h).2 hholds), validated, hflaw]

theorem loadOrStandard_of_holds (h : IsFirst files folder name) {config : Config}
    (hholds : Holds files folder name config) (hvalid : config.flaw? = none) :
    loadOrStandard files folder = .ok config := by
  rw [loadOrStandard_of_load ((load_eq_ok_iff_of_isFirst h).2 hholds)]
  exact validated_eq_ok_iff.2 ⟨rfl, hvalid⟩

theorem holds_or_rejects (files : Files) (folder name : Text) :
    (∃ config, Holds files folder name config ∧ config.flaw? = none) ∨
      ∃ e, Rejects files folder name e := by
  cases hread : files.read (Files.joinPath folder name) with
  | error fault => exact .inr ⟨_, .unreadable hread⟩
  | ok s =>
      cases hparse : parse (.ofFileName name) s with
      | error e => exact .inr ⟨e, .malformed hread hparse⟩
      | ok config =>
          have hholds : Holds files folder name config := ⟨s, hread, hparse⟩
          cases hflaw : config.flaw? with
          | none => exact .inl ⟨config, hholds, hflaw⟩
          | some flaw => exact .inr ⟨_, .invalid hholds hflaw⟩

theorem loadOrStandard_eq_ok_iff_of_isFirst (h : IsFirst files folder name) {config : Config} :
    loadOrStandard files folder = .ok config ↔
      Holds files folder name config ∧ config.flaw? = none := by
  constructor
  · intro hload
    rcases holds_or_rejects files folder name with ⟨other, hholds, hvalid⟩ | ⟨e, hrejects⟩
    · have hother := loadOrStandard_of_holds h hholds hvalid
      obtain rfl : other = config := by simpa [hother] using hload
      exact ⟨hholds, hvalid⟩
    · rw [loadOrStandard_of_rejects h hrejects] at hload
      cases hload
  · rintro ⟨hholds, hvalid⟩
    exact loadOrStandard_of_holds h hholds hvalid

theorem loadOrStandard_eq_error_iff_of_isFirst (h : IsFirst files folder name) {e : Failure} :
    loadOrStandard files folder = .error e ↔ Rejects files folder name e := by
  constructor
  · intro hload
    rcases holds_or_rejects files folder name with ⟨config, hholds, hvalid⟩ | ⟨other, hrejects⟩
    · rw [loadOrStandard_of_holds h hholds hvalid] at hload
      cases hload
    · have hother := loadOrStandard_of_rejects h hrejects
      obtain rfl : other = e := by simpa [hother] using hload
      exact hrejects
  · exact loadOrStandard_of_rejects h

/-! ## Two folders -/

theorem load_congr (h : AgreeOn files folder others other fileNames) :
    load others other = (load files folder).mapError (reportedIn other) := by
  obtain ⟨hnames, hread⟩ := h.find?
  have hname : fileName? others other = fileName? files folder := hnames
  unfold load
  rw [hname]
  cases hfirst : fileName? files folder with
  | none => rfl
  | some name =>
      dsimp only
      rw [hread name hfirst]
      cases files.read (Files.joinPath folder name) with
      | error fault => rfl
      | ok s =>
          dsimp only
          cases hparse : parse (.ofFileName name) s with
          | ok config => rfl
          | error e =>
              cases e with
              | noConfig missing => exact (parse_ne_noConfig _ _ _ hparse).elim
              | _ => rfl

theorem loadOrStandard_congr (h : AgreeOn files folder others other fileNames) :
    loadOrStandard others other = loadOrStandard files folder := by
  unfold loadOrStandard
  rw [load_congr h]
  cases load files folder with
  | ok config => rfl
  | error e => cases e <;> rfl

/-- Folders that agree up to their first file have the same configuration, and otherwise differ in
their name only. The first file is used if it holds a valid configuration, and rejected with its own
fault if not; the standard configuration is used exactly where there is no file. -/
theorem first_file_decides (files : Files) (folder : Text) :
    (∀ others other, AgreeOn files folder others other fileNames →
      load others other = (load files folder).mapError (reportedIn other) ∧
        loadOrStandard others other = loadOrStandard files folder) ∧
    (∀ name, IsFirst files folder name →
      (∀ config, load files folder = .ok config ↔ Holds files folder name config) ∧
      (∀ config, loadOrStandard files folder = .ok config ↔
        Holds files folder name config ∧ config.flaw? = none) ∧
      ∀ e, loadOrStandard files folder = .error e ↔ Rejects files folder name e) ∧
    (load files folder = .error (.noConfig folder) ↔
      ∀ name ∈ fileNames, ¬ Stands files folder name) ∧
    ((∀ name ∈ fileNames, ¬ Stands files folder name) →
      loadOrStandard files folder = .ok standard) ∧
    ∀ config, loadOrStandard files folder = .ok config → config.validated = .ok config := by
  refine ⟨fun others other h => ⟨load_congr h, loadOrStandard_congr h⟩, fun name h => ?_, ?_,
    loadOrStandard_of_forall, fun config h => ?_⟩
  · exact ⟨fun _ => load_eq_ok_iff_of_isFirst h, fun _ => loadOrStandard_eq_ok_iff_of_isFirst h,
      fun _ => loadOrStandard_eq_error_iff_of_isFirst h⟩
  · simp [load_eq_noConfig_iff]
  · exact validated_eq_ok_iff.2 ⟨rfl, flaw?_of_loadOrStandard h⟩

/-- A first file that is not valid is an error, whether or not a valid one stands behind it. -/
theorem first_file_decides_suffix :
    let flawed : Text := "\x7b\"schemaVersion\": \"v1\", \"template_suffix\": \"txt\"\x7d"
    let files : Files := .ofFindings [("a/letterpress.json", .ok flawed),
      ("a/letterpress.yml", .ok "schemaVersion: v1")]
    let others : Files := .ofFindings [("b/letterpress.json", .ok flawed)]
    IsFirst files "a" "letterpress.json" ∧ AgreeOn files "a" others "b" fileNames ∧
      loadOrStandard files "a" = .error (.invalidConfig .unusableSuffix) ∧
      loadOrStandard others "b" = .error (.invalidConfig .unusableSuffix) := by
  intro flawed files others
  have hstands : Stands files "a" "letterpress.json" := by decide
  have hother : Stands others "b" "letterpress.json" := by decide
  have hfirst : IsFirst files "a" "letterpress.json" :=
    ⟨[], ["letterpress.yaml", "letterpress.yml"], rfl, nofun, hstands⟩
  have hagree : AgreeOn files "a" others "b" fileNames :=
    ⟨iff_of_true hother hstands, fun _ => rfl, fun hnot => (hnot hstands).elim⟩
  obtain ⟨hcongr, hdecides, -⟩ := first_file_decides files "a"
  have herror : loadOrStandard files "a" = .error (.invalidConfig .unusableSuffix) :=
    ((hdecides _ hfirst).2.2 _).2 (.invalid ⟨flawed, rfl, rfl⟩ rfl)
  refine ⟨hfirst, hagree, herror, ?_⟩
  rw [(hcongr others "b" hagree).2, herror]

end Phrasebook.Config
