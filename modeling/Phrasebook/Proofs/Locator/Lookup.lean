import Phrasebook.Locator
import Phrasebook.Proofs.Locale.Chain

/-!
# Looking a template up

The first candidate of a chain that is not absent decides alone what a look-up gives. The candidates
of a locale are its own path in front of those of its parent, so a locale without a file of its own
is looked up like its parent.
-/

namespace Phrasebook

namespace Files

/-- Whether nothing stands at a path. Every other fault is found where something stands. -/
def IsAbsent (files : Files) (path : Text) : Prop := files.read path = .error .notFound

/-- Whether `path` is the first of the paths that is not absent. -/
def FirstPresent (files : Files) (paths : List Text) (path : Text) : Prop :=
  ∃ before after, paths = before ++ path :: after ∧
    (∀ other ∈ before, files.IsAbsent other) ∧ ¬files.IsAbsent path

section FirstFound

variable {files : Files} {first path : Text} {paths : List Text}

theorem not_firstPresent_nil : ¬files.FirstPresent [] path := by
  rintro ⟨before, after, h, -, -⟩
  simp at h

theorem firstPresent_cons :
    files.FirstPresent (first :: paths) path ↔
      (first = path ∧ ¬files.IsAbsent first) ∨
        (files.IsAbsent first ∧ files.FirstPresent paths path) := by
  constructor
  · rintro ⟨before, after, hpaths, hbefore, hpresent⟩
    cases before with
    | nil =>
        obtain ⟨rfl, -⟩ := List.cons.inj hpaths
        exact .inl ⟨rfl, hpresent⟩
    | cons other before =>
        obtain ⟨rfl, hrest⟩ := List.cons.inj hpaths
        refine .inr ⟨hbefore first List.mem_cons_self, before, after, hrest, ?_, hpresent⟩
        exact fun other hother => hbefore other (List.mem_cons_of_mem first hother)
  · rintro (⟨rfl, hpresent⟩ | ⟨habsent, before, after, rfl, hbefore, hpresent⟩)
    · exact ⟨[], paths, rfl, nofun, hpresent⟩
    · refine ⟨first :: before, after, rfl, ?_, hpresent⟩
      intro other hother
      rcases List.mem_cons.1 hother with rfl | hother
      · exact habsent
      · exact hbefore other hother

theorem firstFound_cons_of_isAbsent (h : files.IsAbsent first) :
    files.firstFound (first :: paths) = files.firstFound paths := by
  unfold IsAbsent at h
  simp [firstFound, h]

/-- A file, or a fault other than absence, ends the search. -/
theorem firstFound_cons_of_not_isAbsent (h : ¬files.IsAbsent first) :
    files.firstFound (first :: paths) =
      (files.read first).map fun text => some ⟨first, text⟩ := by
  unfold IsAbsent at h
  rw [firstFound]
  cases hread : files.read first with
  | ok text => rfl
  | error fault =>
      cases fault with
      | notFound => exact (h hread).elim
      | _ => rfl

theorem firstFound_eq_none_iff :
    files.firstFound paths = .ok none ↔ ∀ path ∈ paths, files.IsAbsent path := by
  induction paths with
  | nil => simp [firstFound]
  | cons first paths ih =>
      by_cases habsent : files.IsAbsent first
      · rw [firstFound_cons_of_isAbsent habsent, ih]
        simp [habsent]
      · rw [firstFound_cons_of_not_isAbsent habsent]
        cases files.read first <;> simp [Except.map, habsent]

theorem firstFound_eq_found_iff {found : Found} :
    files.firstFound paths = .ok (some found) ↔
      files.FirstPresent paths found.path ∧ files.read found.path = .ok found.text := by
  induction paths with
  | nil => simp [firstFound, not_firstPresent_nil]
  | cons first paths ih =>
      rw [firstPresent_cons]
      by_cases habsent : files.IsAbsent first
      · rw [firstFound_cons_of_isAbsent habsent, ih]
        simp [habsent]
      · rw [firstFound_cons_of_not_isAbsent habsent]
        obtain ⟨path, text⟩ := found
        constructor
        · intro h
          cases hread : files.read first with
          | error fault => simp [hread, Except.map] at h
          | ok other =>
              simp only [hread, Except.map, Except.ok.injEq, Option.some.injEq,
                Found.mk.injEq] at h
              obtain ⟨rfl, rfl⟩ := h
              exact ⟨.inl ⟨rfl, habsent⟩, hread⟩
        · rintro ⟨⟨rfl, -⟩ | ⟨h, -⟩, hread⟩
          · simp [hread, Except.map]
          · exact (habsent h).elim

theorem firstFound_eq_error_iff {fault : FileFault} :
    files.firstFound paths = .error fault ↔
      ∃ path, files.FirstPresent paths path ∧ files.read path = .error fault := by
  induction paths with
  | nil => simp [firstFound, not_firstPresent_nil]
  | cons first paths ih =>
      simp only [firstPresent_cons]
      by_cases habsent : files.IsAbsent first
      · rw [firstFound_cons_of_isAbsent habsent, ih]
        simp [habsent]
      · rw [firstFound_cons_of_not_isAbsent habsent]
        cases hread : files.read first <;> simp [Except.map, habsent, hread]

/-- Behind a path that is not absent nothing is read. -/
theorem firstFound_congr {others : Files} {before after : List Text}
    (hpresent : ¬files.IsAbsent path)
    (hsame : ∀ other ∈ before ++ [path], others.read other = files.read other) :
    others.firstFound (before ++ path :: after) = files.firstFound (before ++ path :: after) := by
  induction before with
  | nil =>
      have hpath : others.read path = files.read path := hsame path (by simp)
      have hothers : ¬others.IsAbsent path := by rwa [IsAbsent, hpath]
      rw [List.nil_append, firstFound_cons_of_not_isAbsent hothers,
        firstFound_cons_of_not_isAbsent hpresent, hpath]
  | cons first before ih =>
      have hfirst : others.read first = files.read first := hsame first (by simp)
      have hrest := ih fun other hother => hsame other (List.mem_cons_of_mem first hother)
      rw [List.cons_append]
      by_cases habsent : files.IsAbsent first
      · have hothers : others.IsAbsent first := by rwa [IsAbsent, hfirst]
        rw [firstFound_cons_of_isAbsent hothers, firstFound_cons_of_isAbsent habsent, hrest]
      · have hothers : ¬others.IsAbsent first := by rwa [IsAbsent, hfirst]
        rw [firstFound_cons_of_not_isAbsent hothers, firstFound_cons_of_not_isAbsent habsent,
          hfirst]

end FirstFound

end Files

namespace Locator

/-- The path at which a template is looked for at one level of a chain. -/
def levelPath (locator : Locator) (name : Text) (level : Locale) : Text :=
  Files.joinPath locator.root (locator.fileName name level)

/-- A failure as it is reported when the search began one level earlier. -/
def reportFrom (locale : Locale) (first : Text) : Failure → Failure
  | .noTemplate name _ _ last => .noTemplate name locale first last
  | failure => failure

/-- What a look-up gives for the outcome of its search. -/
def answer (locator : Locator) (name : Text) (locale : Locale) :
    Except FileFault (Option Files.Found) → Except Failure Files.Found
  | .ok (some found) => .ok found
  | .ok none =>
    .error (.noTemplate name locale (locator.levelPath name locale)
      (locator.levelPath name .invariant))
  | .error fault => .error (.file fault)

section Candidates

variable {locator : Locator} {name : Text} {locale parent : Locale}

theorem candidates_eq_cons (hlocale : locale.WellFormed) (hparent : locale.parent? = some parent) :
    locator.candidates name locale =
      locator.levelPath name locale :: locator.candidates name parent := by
  rw [candidates, Locale.chain_eq_cons hlocale hparent]
  rfl

theorem head?_candidates :
    (locator.candidates name locale).head? = some (locator.levelPath name locale) := rfl

theorem getLast?_candidates (hlocale : locale.WellFormed) :
    (locator.candidates name locale).getLast? = some (locator.levelPath name .invariant) := by
  rw [candidates, List.getLast?_map, Locale.getLast?_chain hlocale]
  rfl

/-- A look-up for a name is a search through the candidates. -/
theorem locate_eq (hname : name ≠ []) (hlocale : locale.WellFormed) (files : Files) :
    locator.locate files name locale =
      locator.answer name locale (files.firstFound (locator.candidates name locale)) := by
  simp only [locate, List.isEmpty_iff, hname, if_false, head?_candidates,
    getLast?_candidates hlocale, Option.getD_some]
  rfl

theorem answer_eq_ok_iff {outcome : Except FileFault (Option Files.Found)} {found : Files.Found} :
    locator.answer name locale outcome = .ok found ↔ outcome = .ok (some found) := by
  match outcome with
  | .ok (some other) => simp [answer]
  | .ok none => simp [answer]
  | .error fault => simp [answer]

theorem answer_eq_file_iff {outcome : Except FileFault (Option Files.Found)} {fault : FileFault} :
    locator.answer name locale outcome = .error (.file fault) ↔ outcome = .error fault := by
  match outcome with
  | .ok (some other) => simp [answer]
  | .ok none => simp [answer]
  | .error fault => simp [answer]

/-- Of the failures that no file causes, a look-up gives one only. -/
theorem answer_eq_failure_iff {outcome : Except FileFault (Option Files.Found)} {failure : Failure}
    (hfailure : ∀ fault, failure ≠ .file fault) :
    locator.answer name locale outcome = .error failure ↔
      outcome = .ok none ∧
        failure = .noTemplate name locale (locator.levelPath name locale)
          (locator.levelPath name .invariant) := by
  match outcome with
  | .ok (some other) => simp [answer]
  | .ok none => simp [answer, eq_comm]
  | .error fault => simp [answer, (hfailure fault).symm]

theorem answer_parent (outcome : Except FileFault (Option Files.Found)) :
    locator.answer name locale outcome =
      (locator.answer name parent outcome).mapError
        (reportFrom locale (locator.levelPath name locale)) := by
  match outcome with
  | .ok (some found) => rfl
  | .ok none => rfl
  | .error fault => rfl

end Candidates

/-- A look-up gives the first candidate that is not absent, or its fault; it fails for want of a
template exactly if all candidates are absent, and then reports the paths of the locale itself and
of the invariant locale. What stands behind the first present candidate does not matter, and a
locale whose own path is absent is looked up like its parent. -/
theorem locate_eq_first_present (locator : Locator) (files : Files) {name : Text}
    (hname : name ≠ []) {tag : Text} {locale : Locale} (hlocale : Locale.parse tag = .ok locale) :
    (∀ found, locator.locate files name locale = .ok found ↔
      files.FirstPresent (locator.candidates name locale) found.path ∧
        files.read found.path = .ok found.text) ∧
    (∀ fault, locator.locate files name locale = .error (.file fault) ↔
      ∃ path, files.FirstPresent (locator.candidates name locale) path ∧
        files.read path = .error fault) ∧
    (∀ failure, (∀ fault, failure ≠ .file fault) →
      (locator.locate files name locale = .error failure ↔
        (∀ path ∈ locator.candidates name locale, files.IsAbsent path) ∧
          failure = .noTemplate name locale (locator.levelPath name locale)
            (locator.levelPath name .invariant))) ∧
    (∀ (others : Files) before path after,
      locator.candidates name locale = before ++ path :: after → ¬files.IsAbsent path →
      (∀ other ∈ before ++ [path], others.read other = files.read other) →
        locator.locate others name locale = locator.locate files name locale) ∧
    (∀ parent, locale.parent? = some parent → files.IsAbsent (locator.levelPath name locale) →
      locator.locate files name locale =
        (locator.locate files name parent).mapError
          (reportFrom locale (locator.levelPath name locale))) := by
  have hformed := Locale.wellFormed_of_parse hlocale
  have hlocate : ∀ files : Files, locator.locate files name locale =
      locator.answer name locale (files.firstFound (locator.candidates name locale)) :=
    locate_eq hname hformed
  refine ⟨fun found => ?_, fun fault => ?_, fun failure hfailure => ?_,
    fun others before path after hsplit hpresent hsame => ?_, fun parent hparent habsent => ?_⟩
  · rw [hlocate, answer_eq_ok_iff, Files.firstFound_eq_found_iff]
  · rw [hlocate, answer_eq_file_iff, Files.firstFound_eq_error_iff]
  · rw [hlocate, answer_eq_failure_iff hfailure, Files.firstFound_eq_none_iff]
  · rw [hlocate, hlocate, hsplit, Files.firstFound_congr hpresent hsame]
  · have hparent' := Locale.wellFormed_of_parent? hparent
    rw [hlocate, locate_eq hname hparent', candidates_eq_cons hformed hparent,
      Files.firstFound_cons_of_isAbsent habsent]
    exact answer_parent _

/-- A greeting for all of German is found for Austria, as it is for German itself. -/
theorem locate_eq_first_present_greeting :
    Locale.parse "de_at" = .ok (.tagged ⟨some "de", none, some "AT", []⟩) ∧
      locate ⟨"res", ".txt"⟩
        (.ofFindings [("res/hi.de.txt", .ok "Hallo"), ("res/hi.txt", .ok "Hi")])
        "hi" (.tagged ⟨some "de", none, some "AT", []⟩) = .ok ⟨"res/hi.de.txt", "Hallo"⟩ ∧
      locate ⟨"res", ".txt"⟩
        (.ofFindings [("res/hi.de.txt", .ok "Hallo"), ("res/hi.txt", .ok "Hi")])
        "hi" (.tagged ⟨some "de", none, some "AT", []⟩) =
        (locate ⟨"res", ".txt"⟩
          (.ofFindings [("res/hi.de.txt", .ok "Hallo"), ("res/hi.txt", .ok "Hi")]) "hi"
          (.tagged ⟨some "de", none, none, []⟩)).mapError
            (reportFrom (.tagged ⟨some "de", none, some "AT", []⟩) "res/hi.de-AT.txt") := by
  have hparse : Locale.parse "de_at" = .ok (.tagged ⟨some "de", none, some "AT", []⟩) := by decide
  obtain ⟨hfound, -, -, -, hparent⟩ := locate_eq_first_present ⟨"res", ".txt"⟩
    (.ofFindings [("res/hi.de.txt", .ok "Hallo"), ("res/hi.txt", .ok "Hi")])
    (by decide : ("hi" : Text) ≠ []) hparse
  refine ⟨hparse, (hfound _).2 ⟨?_, rfl⟩, hparent _ (by decide) rfl⟩
  refine ⟨["res/hi.de-AT.txt"], ["res/hi.txt"], rfl, ?_, ?_⟩
  · intro other hother
    obtain rfl := List.mem_singleton.1 hother
    rfl
  · intro habsent
    cases habsent

end Locator

end Phrasebook
