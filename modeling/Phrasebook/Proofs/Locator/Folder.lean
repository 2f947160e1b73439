import Phrasebook.Proofs.Locale.Characters
import Phrasebook.Proofs.Locator.Lookup

/-!
# The folder of a candidate

A candidate is the name of a file behind the root, and the file stands in the root itself as long as
this name has no slash. From the locale a slash can only come through a variant of a digit and three
further characters, which may be any, and then the folder that is read depends on the locale.
-/

namespace Phrasebook

namespace Files

/-- What the path of everything in a folder begins with. -/
def frontOf (base : Text) : Text :=
  if base = [] ∨ base.getLast? = some '/' then base else base ++ ['/']

/-- A path up to its last slash. -/
def folderOf (path : Text) : Text := Text.dropEndWhile (· != '/') path

variable {base part : Text}

theorem joinPath_eq_append (hpart : part.head? ≠ some '/') (base : Text) :
    joinPath base part = frontOf base ++ part := by
  unfold joinPath frontOf
  split_ifs <;> simp_all

theorem folderOf_frontOf (base : Text) : folderOf (frontOf base) = frontOf base := by
  apply Text.dropEndWhile_eq_self
  intro c hc
  suffices c = '/' by simp [this]
  unfold frontOf at hc
  split at hc
  · next hbase =>
      rcases hbase with rfl | hslash
      · cases hc
      · exact Option.some.inj (hc.symm.trans hslash)
  · rw [List.getLast?_concat] at hc
    exact (Option.some.inj hc).symm

/-- What is added to a folder stays in it exactly if it has no slash. -/
theorem folderOf_append_eq_iff (base part : Text) :
    folderOf (frontOf base ++ part) = frontOf base ↔ '/' ∉ part := by
  constructor
  · intro h hslash
    have hpart : folderOf part ≠ [] := by
      intro hnil
      have hall := Text.dropEndWhile_eq_nil_iff.1 hnil '/' hslash
      simp at hall
    have happend : folderOf (frontOf base ++ part) = frontOf base ++ folderOf part :=
      Text.dropEndWhile_append hpart _
    rw [h] at happend
    exact hpart (List.self_eq_append_right.1 happend)
  · intro hslash
    rw [folderOf, Text.dropEndWhile_append_of_forall]
    · exact folderOf_frontOf base
    · intro c hc
      rw [bne_iff_ne]
      rintro rfl
      exact hslash hc

end Files

namespace Locator

variable {locator : Locator} {name : Text} {locale level : Locale} {c : Char}

theorem mem_fileName_iff (hc : c ≠ '.') :
    c ∈ locator.fileName name level ↔ c ∈ name ∨ c ∈ level.tag ∨ c ∈ locator.suffix := by
  cases level with
  | invariant => simp [fileName, Locale.tag]
  | tagged tag => simp [fileName, Locale.tag, hc]

theorem head?_fileName (hname : name ≠ []) (level : Locale) :
    (locator.fileName name level).head? = name.head? := by
  cases level with
  | invariant => exact List.head?_append_of_ne_nil _ hname
  | tagged tag => exact List.head?_append_of_ne_nil _ hname

theorem levelPath_eq_append (hname : name ≠ []) (hslash : '/' ∉ name) (level : Locale) :
    locator.levelPath name level =
      Files.frontOf locator.root ++ locator.fileName name level := by
  refine Files.joinPath_eq_append ?_ locator.root
  rw [head?_fileName hname]
  exact fun hhead => hslash (List.mem_of_head? hhead)

/-- No file name of a chain has a slash exactly if no variant of the locale has one. -/
theorem slash_notMem_fileName_iff (hslash : '/' ∉ name) (hsuffix : '/' ∉ locator.suffix)
    (hlocale : locale.WellFormed) :
    (∀ level ∈ locale.chain, '/' ∉ locator.fileName name level) ↔
      ∀ v ∈ locale.variants, '/' ∉ v := by
  have hfile : ∀ level : Locale, '/' ∈ locator.fileName name level ↔ '/' ∈ level.tag := by
    intro level
    rw [mem_fileName_iff (by decide)]
    simp [hslash, hsuffix]
  have htag := hlocale.mem_tag_iff (c := '/') (by decide) (by decide)
  constructor
  · intro hall v hv hmem
    exact hall locale List.mem_cons_self ((hfile locale).2 (htag.2 ⟨v, hv, hmem⟩))
  · intro hvariants level hlevel hmem
    have hown := Locale.mem_tag_of_mem_chain hlocale (by decide) (by decide) level hlevel
      ((hfile level).1 hmem)
    obtain ⟨v, hv, hv'⟩ := htag.1 hown
    exact hvariants v hv hv'

/-- A tag has no character with the code zero. -/
theorem nul_mem_fileName_iff (hlevel : level.WellFormed) :
    '\x00' ∈ locator.fileName name level ↔ '\x00' ∈ name ∨ '\x00' ∈ locator.suffix := by
  have htag : '\x00' ∉ level.tag := fun hmem =>
    absurd (hlevel.isAscii_of_mem_tag hmem) (by decide)
  rw [mem_fileName_iff (by decide)]
  simp [htag]

/-- Every candidate is the root with the name of a file behind it. The candidates are all in the
root itself, whatever the locale, exactly if no variant has a slash. By what is assumed of variants
only one of a digit and three further characters can have it. A character with the code zero never
comes from the locale. -/
theorem folderOf_candidates (locator : Locator) {name : Text} (hname : name ≠ [])
    (hslash : '/' ∉ name) (hsuffix : '/' ∉ locator.suffix) {s : Text} {locale : Locale}
    (h : Locale.parse s = .ok locale) :
    (locator.candidates name locale = locale.chain.map fun level =>
      Files.frontOf locator.root ++ locator.fileName name level) ∧
    ((∀ level ∈ locale.chain, '/' ∉ locator.fileName name level) ↔
      ∀ v ∈ locale.variants, '/' ∉ v) ∧
    ((∀ path ∈ locator.candidates name locale, Files.folderOf path = Files.frontOf locator.root) ↔
      ∀ v ∈ locale.variants, '/' ∉ v) ∧
    (∀ v ∈ locale.variants, '/' ∈ v →
      ∃ d rest, v = d :: rest ∧ d.isDigit = true ∧ v.length = 4) ∧
    ∀ level ∈ locale.chain,
      '\x00' ∈ locator.fileName name level ↔ '\x00' ∈ name ∨ '\x00' ∈ locator.suffix := by
  have hlocale := Locale.wellFormed_of_parse h
  have hcandidates : locator.candidates name locale = locale.chain.map fun level =>
      Files.frontOf locator.root ++ locator.fileName name level :=
    List.map_congr_left fun level _ => levelPath_eq_append hname hslash level
  have hfiles := slash_notMem_fileName_iff hslash hsuffix hlocale
  refine ⟨hcandidates, hfiles, ?_, ?_, ?_⟩
  · rw [← hfiles, hcandidates, List.forall_mem_map]
    exact forall₂_congr fun level _ => Files.folderOf_append_eq_iff locator.root _
  · intro v hv hmem
    exact hlocale.head_isDigit hv hmem (by decide)
  · intro level hlevel
    exact nul_mem_fileName_iff (Locale.wellFormed_of_mem_chain hlocale level hlevel)

/-- A variant with other characters than letters and digits, but without a slash. -/
theorem folderOf_candidates_variant :
    let locale : Locale := .tagged ⟨some "de", none, none, ["1@b!"]⟩
    Locale.parse "de-1@b!" = .ok locale ∧
      ∀ path ∈ candidates ⟨"res", ".template"⟩ "greet" locale,
        Files.folderOf path = "res/".toList := by
  intro locale
  have hparse : Locale.parse "de-1@b!" = .ok locale := by decide
  obtain ⟨-, -, hfolder, -⟩ := folderOf_candidates ⟨"res", ".template"⟩
    (by decide : ("greet" : Text) ≠ []) (by decide) (by decide) hparse
  exact ⟨hparse, hfolder.2 (by decide)⟩

/-- The variant has a slash, and the first candidate stands in a folder that is named for a part of
the locale. -/
theorem folderOf_candidates_ne_root :
    let locale : Locale := .tagged ⟨some "en", none, none, ["1/ab"]⟩
    Locale.parse "en-1/ab" = .ok locale ∧
      candidates ⟨"res", ".template"⟩ "greet" locale =
        ["res/greet.en-1/ab.template", "res/greet.en.template", "res/greet.template"] ∧
      Files.folderOf "res/greet.en-1/ab.template" = "res/greet.en-1/".toList := by
  decide

end Locator

end Phrasebook
