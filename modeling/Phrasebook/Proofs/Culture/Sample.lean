import Phrasebook.Culture.Lookup
import Phrasebook.Proofs.Text.Pieces

/-!
# Separators read back from a sample

A number that is written with separators between its runs of digits gives the separators back: what
stands between two numeric characters remains, and direction marks around the number do not.
-/

namespace Phrasebook

namespace Text

variable {p : Char → Bool} {s : Text} {pieces : List Text}

/-- Whether the pieces are what stands between the characters of a text that satisfy `p`. -/
inductive IsSplit (p : Char → Bool) : Text → List Text → Prop
  | single {s : Text} (hs : ∀ c ∈ s, p c = false) : IsSplit p s [s]
  | cut {piece rest : Text} {c : Char} {pieces : List Text} (hpiece : ∀ d ∈ piece, p d = false)
      (hc : p c = true) (hrest : IsSplit p rest pieces) :
      IsSplit p (piece ++ c :: rest) (piece :: pieces)

theorem isSplit_iff : IsSplit p s pieces ↔ pieces = splitBy p s := by
  constructor
  · intro h
    induction h with
    | single hs => rw [splitBy_of_forall hs]
    | cut hpiece hc _ ih => rw [splitBy_append_cons hpiece hc, ih]
  · rintro rfl
    exact splitBy_induction (fun _ hs => .single hs) (fun _ _ _ hpiece hc ih => .cut hpiece hc ih) s

end Text

namespace Culture

variable {s t g d : Text}

/-- Whether a text can stand between the digits of a number: it holds no numeric character, and no
direction mark at its ends. -/
structure IsSeparator (s : Text) : Prop where
  ne_nil : s ≠ []
  plain : ∀ c ∈ s, Text.isNumeric c = false
  head : s.head?.any isDirectionMark = false
  last : s.getLast?.any isDirectionMark = false

/-- Whether a text is a run of numeric characters. -/
structure IsNumeral (s : Text) : Prop where
  ne_nil : s ≠ []
  numeric : ∀ c ∈ s, Text.isNumeric c = true

instance (s : Text) : Decidable (IsSeparator s) :=
  decidable_of_iff
    (s ≠ [] ∧ s.any Text.isNumeric = false ∧ s.head?.any isDirectionMark = false ∧
      s.getLast?.any isDirectionMark = false)
    ⟨fun ⟨hne, hplain, hhead, hlast⟩ => ⟨hne, by simpa using hplain, hhead, hlast⟩,
    fun h => ⟨h.ne_nil, by simpa using h.plain, h.head, h.last⟩⟩

instance (s : Text) : Decidable (IsNumeral s) :=
  decidable_of_iff (s ≠ [] ∧ s.all Text.isNumeric)
    ⟨fun h => ⟨h.1, List.all_eq_true.1 h.2⟩, fun h => ⟨h.ne_nil, List.all_eq_true.2 h.numeric⟩⟩

theorem trimMarks_eq_nil_iff : trimMarks s = [] ↔ ∀ c ∈ s, isDirectionMark c = true :=
  Text.dropEndWhile_dropWhile_eq_nil_iff

theorem IsSeparator.trimMarks_eq (hs : IsSeparator s) : trimMarks s = s := by
  obtain ⟨c, rest, rfl⟩ := List.exists_cons_of_ne_nil hs.ne_nil
  have hstart : (c :: rest).dropWhile isDirectionMark = c :: rest :=
    List.dropWhile_cons_of_neg (by simpa using hs.head)
  rw [trimMarks, hstart, Text.dropEndWhile_eq_self fun d hd => by simpa [hd] using hs.last]

/-! ## The runs of a sample -/

theorem separatorRuns_append {c : Char} (hc : Text.isNumeric c = true) (s t : Text) :
    separatorRuns (s ++ c :: t) = separatorRuns s ++ separatorRuns t := by
  simp [separatorRuns, Text.splitBy_append hc]

theorem separatorRuns_of_marks (hs : ∀ c ∈ s, isDirectionMark c = true) : separatorRuns s = [] := by
  rw [separatorRuns, List.filter_eq_nil_iff]
  intro run hrun
  obtain ⟨piece, hpiece, rfl⟩ := List.mem_map.1 hrun
  have hmarks : trimMarks piece = [] :=
    trimMarks_eq_nil_iff.2 fun c hc => hs c (Text.mem_of_mem_splitBy s piece hpiece c hc)
  simp [hmarks]

theorem IsSeparator.separatorRuns_eq (hs : IsSeparator s) : separatorRuns s = [s] := by
  rw [separatorRuns, Text.splitBy_of_forall hs.plain, List.map_singleton, hs.trimMarks_eq]
  simp [hs.ne_nil]

/-- The further characters of a run leave nothing between them. -/
theorem separatorRuns_numeric_append (hs : ∀ c ∈ s, Text.isNumeric c = true) (t : Text) :
    separatorRuns (s ++ t) = separatorRuns t := by
  induction s with
  | nil => rfl
  | cons c s ih =>
      have hc : Text.isNumeric c = true := hs c List.mem_cons_self
      have hnil : separatorRuns [] = [] := rfl
      rw [List.cons_append, ← List.nil_append (c :: (s ++ t)), separatorRuns_append hc, hnil,
        List.nil_append, ih fun d hd => hs d (List.mem_cons_of_mem c hd)]

theorem IsNumeral.separatorRuns_append {run : Text} (hrun : IsNumeral run) (s t : Text) :
    separatorRuns (s ++ (run ++ t)) = separatorRuns s ++ separatorRuns t := by
  obtain ⟨c, rest, rfl⟩ := List.exists_cons_of_ne_nil hrun.ne_nil
  rw [List.cons_append, Culture.separatorRuns_append (hrun.numeric c List.mem_cons_self),
    separatorRuns_numeric_append fun d hd => hrun.numeric d (List.mem_cons_of_mem c hd)]

/-- Runs that are joined leave one separator for every seam. -/
theorem separatorRuns_join (hg : IsSeparator g) {runs : List Text} (hne : runs ≠ [])
    (hruns : ∀ run ∈ runs, IsNumeral run) (s t : Text) :
    separatorRuns (s ++ (Text.join g runs ++ t)) =
      separatorRuns s ++ (List.replicate (runs.length - 1) g ++ separatorRuns t) := by
  induction runs generalizing s with
  | nil => exact (hne rfl).elim
  | cons run runs ih =>
      have hrun : IsNumeral run := hruns run List.mem_cons_self
      by_cases hempty : runs = []
      · subst hempty
        exact hrun.separatorRuns_append s t
      · have hrest := ih hempty
            (fun other hother => hruns other (List.mem_cons_of_mem run hother)) g
        have hcount : (run :: runs).length - 1 = runs.length - 1 + 1 := by
          have hpos := List.length_pos_iff.2 hempty
          rw [List.length_cons]
          omega
        rw [Text.join_cons hempty, List.append_assoc, List.append_assoc, hrun.separatorRuns_append,
          hrest, hg.separatorRuns_eq, hcount, List.replicate_succ, List.singleton_append,
          List.cons_append]

/-! ## The separators of a sample -/

theorem separatorsIn_of_runs {sample : Text} {between : List Text}
    (h : separatorRuns sample = g :: (between ++ [d])) : separatorsIn sample = some (d, g) := by
  unfold separatorsIn
  rw [h]
  cases between with
  | nil => rfl
  | cons next between => simp

theorem separatorsIn_eq_none_iff {sample : Text} :
    separatorsIn sample = none ↔ (separatorRuns sample).length < 2 := by
  unfold separatorsIn
  split
  · next hruns => simp [hruns]
  · next hruns =>
      refine iff_of_true rfl ?_
      match hsample : separatorRuns sample with
      | [] => exact Nat.succ_pos 1
      | [_] => exact Nat.lt_succ_self 1
      | first :: next :: rest => exact (hruns first next rest hsample).elim

theorem length_separatorRuns (sample : Text) :
    (separatorRuns sample).length =
      ((Text.splitBy Text.isNumeric sample).filter (·.any (!isDirectionMark ·))).length := by
  have hremains : ∀ piece : Text,
      (!(trimMarks piece).isEmpty) = piece.any (!isDirectionMark ·) := by
    intro piece
    rw [Bool.eq_iff_iff]
    simp [trimMarks_eq_nil_iff]
  rw [separatorRuns, List.filter_map, List.length_map]
  exact congrArg List.length (List.filter_congr fun piece _ => hremains piece)

/-- Three or more runs of numeric characters, joined by a separator and the last one by another,
give both separators back, whatever direction marks stand around them. A text gives none exactly if
fewer than two of the pieces between its numeric characters hold anything but direction marks. -/
theorem separatorsIn_joined {last before after : Text} {front : List Text} (hg : IsSeparator g)
    (hd : IsSeparator d) (hfront : ∀ run ∈ front, IsNumeral run) (hcount : 2 ≤ front.length)
    (hlast : IsNumeral last) (hbefore : ∀ c ∈ before, isDirectionMark c = true)
    (hafter : ∀ c ∈ after, isDirectionMark c = true) :
    separatorsIn (before ++ (Text.join g front ++ (d ++ (last ++ after)))) = some (d, g) ∧
    ∀ text, ∃ pieces, (∀ other, Text.IsSplit Text.isNumeric text other ↔ other = pieces) ∧
      (separatorsIn text = none ↔ (pieces.filter (·.any (!isDirectionMark ·))).length < 2) := by
  constructor
  · have hne : front ≠ [] := by
      rintro rfl
      exact absurd hcount (by decide)
    obtain ⟨more, hmore⟩ : ∃ more, front.length - 1 = more + 1 := ⟨front.length - 2, by omega⟩
    apply separatorsIn_of_runs (?_ : _ = g :: (List.replicate more g ++ [d]))
    calc
      separatorRuns (before ++ (Text.join g front ++ (d ++ (last ++ after))))
        = separatorRuns before ++ (List.replicate (front.length - 1) g ++
            (separatorRuns d ++ separatorRuns after)) := by
          rw [separatorRuns_join hg hne hfront, hlast.separatorRuns_append]
      _ = List.replicate (front.length - 1) g ++ [d] := by
          rw [separatorRuns_of_marks hbefore, separatorRuns_of_marks hafter, hd.separatorRuns_eq]
          rfl
      _ = g :: (List.replicate more g ++ [d]) := by
          rw [hmore, List.replicate_succ, List.cons_append]
  · intro text
    refine ⟨Text.splitBy Text.isNumeric text, fun other => Text.isSplit_iff, ?_⟩
    rw [separatorsIn_eq_none_iff, length_separatorRuns]

/-- Arabic digits and separators between two direction marks. -/
theorem separatorsIn_joined_arabic :
    IsSeparator "٬" ∧ IsSeparator "٫" ∧
      (∀ run ∈ (["١", "٢٣٤", "٥٦٧"] : List Text), IsNumeral run) ∧
      2 ≤ (["١", "٢٣٤", "٥٦٧"] : List Text).length ∧ IsNumeral "٨" ∧
      (∀ c ∈ ("\u200f" : Text), isDirectionMark c = true) ∧
      (∀ c ∈ ("\u061c" : Text), isDirectionMark c = true) ∧
      separatorsIn "\u200f١٬٢٣٤٬٥٦٧٫٨\u061c" =
        some (("٫" : Text), ("٬" : Text)) := by
  have hg : IsSeparator "٬" := by decide
  have hd : IsSeparator "٫" := by decide
  have hfront : ∀ run ∈ (["١", "٢٣٤", "٥٦٧"] : List Text), IsNumeral run := by decide
  have hcount : 2 ≤ (["١", "٢٣٤", "٥٦٧"] : List Text).length := by decide
  have hlast : IsNumeral "٨" := by decide
  have hbefore : ∀ c ∈ ("\u200f" : Text), isDirectionMark c = true := by simp [isDirectionMark]
  have hafter : ∀ c ∈ ("\u061c" : Text), isDirectionMark c = true := by simp [isDirectionMark]
  refine ⟨hg, hd, hfront, hcount, hlast, hbefore, hafter, ?_⟩
  exact (separatorsIn_joined hg hd hfront hcount hlast hbefore hafter).1

end Culture

end Phrasebook
