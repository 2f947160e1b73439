import Phrasebook.Proofs.Calendar.Standard
import Phrasebook.Proofs.Placeholder.Render

/-!
# The formats that a value refuses

A format is refused for what it says and for the kind of the value, so the locale has no part in
which placeholders fall back.
-/

namespace Phrasebook

namespace Number

/-! ## Numbers -/

/-- The letters of the standard formats. -/
def letters : List Char := ['C', 'D', 'E', 'F', 'G', 'N', 'P', 'R', 'X']

/-- The letters that write integers only. -/
def integerLetters : List Char := ['D', 'X']

def isInteger : Number → Bool
  | integer _ => true
  | float _ => false

/-- Whether a format is a standard one whose precision is too great, whose letter is unknown, or
whose letter does not take the number. -/
def Refuses (n : Number) (format : Text) : Prop :=
  ∃ letter precision, format = letter :: precision ∧ letter.isAlpha ∧
    (∀ c ∈ precision, c.isDigit) ∧
    (99 < valueOf precision ∨ letter.toUpper ∉ letters ∨
      letter.toUpper ∈ integerLetters ∧ n.isInteger = false)

theorem standard?_eq_some_iff {format precision : Text} {letter : Char} :
    standard? format = some (letter, precision) ↔
      format = letter :: precision ∧ letter.isAlpha ∧ ∀ c ∈ precision, c.isDigit := by
  cases format with
  | nil => simp [standard?]
  | cons c s =>
      simp only [standard?, List.all_eq_true]
      constructor
      · intro h
        split at h
        · next hstandard =>
            cases h
            exact ⟨rfl, hstandard⟩
        · cases h
      · rintro ⟨heq, hstandard⟩
        cases heq
        rw [if_pos hstandard]

theorem exists_standard_eq_error_iff (culture : Culture) (n : Number) (letter : Char)
    (precision : Option Nat) :
    (∃ fault, standard culture n letter precision = .error fault) ↔
      letter.toUpper ∉ letters ∨ letter.toUpper ∈ integerLetters ∧ n.isInteger = false := by
  unfold standard
  cases n with
  | integer i =>
      dsimp only
      split <;> simp_all [letters, integerLetters, isInteger]
  | float x =>
      dsimp only
      split <;> simp_all [letters, integerLetters, isInteger]

theorem exists_formatStandard_eq_error_iff (culture : Culture) (n : Number) (letter : Char)
    (precision : Text) :
    (∃ fault, formatStandard culture n letter precision = .error fault) ↔
      maxPrecision < valueOf precision ∨ letter.toUpper ∉ letters ∨
        letter.toUpper ∈ integerLetters ∧ n.isInteger = false := by
  unfold formatStandard precision?
  by_cases hempty : precision = []
  · subst hempty
    rw [if_pos List.isEmpty_nil, exists_standard_eq_error_iff]
    simp [valueOf]
  · rw [if_neg (by simpa using hempty)]
    by_cases hprecision : valueOf precision ≤ maxPrecision
    · rw [if_pos hprecision, exists_standard_eq_error_iff]
      exact (or_iff_right (Nat.not_lt.2 hprecision)).symm
    · rw [if_neg hprecision]
      exact iff_of_true ⟨_, rfl⟩ (.inl (Nat.lt_of_not_le hprecision))

theorem formatFinite_eq_error_iff (culture : Culture) (format : Text) (n : Number) :
    (∃ fault, formatFinite culture format n = some (.error fault)) ↔ n.Refuses format := by
  unfold formatFinite
  split
  · next letter precision hstandard =>
      obtain ⟨rfl, halpha, hdigits⟩ := standard?_eq_some_iff.1 hstandard
      simp only [Option.some.injEq]
      rw [exists_formatStandard_eq_error_iff]
      constructor
      · intro hfault
        exact ⟨letter, precision, rfl, halpha, hdigits, hfault⟩
      · rintro ⟨_, _, heq, -, -, hfault⟩
        cases heq
        exact hfault
  · next hcustom =>
      refine iff_of_false (by simp) ?_
      rintro ⟨letter, precision, rfl, halpha, hdigits, -⟩
      rw [standard?_eq_some_iff.2 ⟨rfl, halpha, hdigits⟩] at hcustom
      cases hcustom

end Number

namespace Json

/-- Whether a value has no text in a format: the format is not empty, and the value is a number or a
string with a moment that refuses it. -/
def Refuses (value : Json) (format : Text) : Prop :=
  format ≠ [] ∧
    match value with
    | .integer i => (Number.integer i.val).Refuses format
    | .float x => (Number.float (.finite x)).Refuses format
    | .string s => (Moment.parse? s).isSome ∧ Moment.Refuses format
    | _ => False

theorem formatIn_eq_error_iff {culture : Culture} (hculture : culture.HasShortFractions)
    {format : Text} (hformat : format ≠ []) (value : Json) :
    (∃ fault, value.formatIn culture format = some (.error fault)) ↔ value.Refuses format := by
  unfold Refuses
  rw [and_iff_right hformat]
  cases value with
  | integer i => exact Number.formatFinite_eq_error_iff culture format (.integer i.val)
  | float x => exact Number.formatFinite_eq_error_iff culture format (.float (.finite x))
  | string s =>
      simp only [formatIn]
      cases Moment.parse? s with
      | none => simp
      | some m => simpa using Moment.format_eq_error_iff hculture m format
  | null => simp [formatIn]
  | bool b => simp [formatIn]
  | array items => simp [formatIn]
  | object fields => simp [formatIn]

theorem format_eq_error_iff [LocaleData] (value : Json) (format : Text) (locale : Locale) :
    (∃ e, value.format format locale = some (.error e)) ↔ value.Refuses format := by
  unfold Json.format
  by_cases hformat : format = []
  · subst hformat
    rw [if_pos List.isEmpty_nil]
    simp [Refuses]
  · rw [if_neg (by simpa using hformat), ← formatIn_eq_error_iff
      (Culture.hasShortFractions_ofLocale locale) hformat]
    rcases value.formatIn (Culture.ofLocale locale) format with - | written | fault
    · simp
    · simp [Except.mapError]
    · simp [Except.mapError]

end Json

namespace PlaceholderContext

variable {context : PlaceholderContext} {model : Model} {body : Text}

/-- Whether the fallback stands in the place of a placeholder. -/
def FallsBack [LocaleData] (context : PlaceholderContext) (model : Model) (body : Text) : Prop :=
  context.valueText model (Placeholder.ofBody context.delimiters body) = some none

theorem fallsBack_iff [LocaleData] :
    context.FallsBack model body ↔
      ∀ value, context.Names model body value →
        value.Refuses (Placeholder.ofBody context.delimiters body).format := by
  unfold FallsBack
  by_cases hnames : ∃ value, context.Names model body value
  · obtain ⟨value, hvalue⟩ := hnames
    have hrefuses : context.FallsBack model body ↔
        value.Refuses (Placeholder.ofBody context.delimiters body).format := by
      rw [FallsBack, valueText_of_names hvalue, ← Json.format_eq_error_iff _ _ context.locale]
      rcases value.format _ context.locale with - | s | e
      · simp
      · simp [Except.toOption]
      · simp [Except.toOption]
    refine hrefuses.trans ⟨?_, fun h => h value hvalue⟩
    intro h other hother
    rwa [hother.unique hvalue]
  · refine iff_of_true (valueText_of_not_names hnames) ?_
    intro value hvalue
    exact (hnames ⟨value, hvalue⟩).elim

theorem fallsBack_setLocale [LocaleData] (locale : Locale) :
    (context.setLocale locale).FallsBack model body ↔ context.FallsBack model body := by
  rw [fallsBack_iff, fallsBack_iff]
  exact Iff.rfl

/-- Whether a segment of a template is a placeholder that falls back. -/
def FallsBackAt [LocaleData] (context : PlaceholderContext) (model : Model) (template : Text)
    (i : Nat) : Prop :=
  ∃ body, (segments context.pattern template)[i]? = some (.placeholder body) ∧
    context.FallsBack model body

end PlaceholderContext

/-- A value has no text in a format exactly if it refuses it, so the locale has no part in which
placeholders of a template fall back. -/
theorem Json.format_fails_iff [LocaleData] :
    (∀ (value : Json) (format : Text) (locale : Locale),
      (∃ e, value.format format locale = some (.error e)) ↔ value.Refuses format) ∧
    ∀ (context : PlaceholderContext) (locale : Locale) (model : Model) (template : Text) (i : Nat),
      (context.setLocale locale).FallsBackAt model template i ↔
        context.FallsBackAt model template i := by
  refine ⟨Json.format_eq_error_iff, ?_⟩
  intro context locale model template i
  refine exists_congr fun body => and_congr_right' ?_
  exact PlaceholderContext.fallsBack_setLocale locale

end Phrasebook
