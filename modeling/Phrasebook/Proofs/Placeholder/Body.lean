import Phrasebook.Proofs.Placeholder.History

/-!
# Bodies of placeholders

A body is cut at its first separator and what stands before that at its first dot. What these cuts
can leave are the well-formed placeholders, and each of them is read from the text that joins its
parts again, however many opening delimiters stand in between.
-/

namespace Phrasebook

namespace Text

theorem cut?_eq_none_iff {c : Char} {s : Text} : cut? c s = none ↔ c ∉ s := by
  induction s with
  | nil => simp [cut?]
  | cons d s ih =>
      by_cases hd : d = c
      · simp [cut?, hd]
      · simp [cut?, hd, Ne.symm hd, ih]

/-- Whether the second text is the first one with characters `c` put in anywhere. -/
inductive Inserted (c : Char) : Text → Text → Prop
  | nil : Inserted c [] []
  | keep (d : Char) {s t : Text} : Inserted c s t → Inserted c (d :: s) (d :: t)
  | insert {s t : Text} : Inserted c s t → Inserted c s (c :: t)

theorem Inserted.filter_eq {c : Char} {s t : Text} (h : Inserted c s t) :
    t.filter (· != c) = s.filter (· != c) := by
  induction h with
  | nil => rfl
  | keep d _ ih => rw [List.filter_cons, List.filter_cons, ih]
  | insert _ ih => rw [List.filter_cons_of_neg (by simp), ih]

end Text

namespace Delimiters

variable {d : Delimiters}

theorem distinct_of_refusal? (hd : d.refusal? = none) :
    d.opening ≠ '.' ∧ d.separator ≠ '.' ∧ d.opening ≠ d.separator := by
  have husable := refusal?_eq_none_iff.1 hd
  rw [Unusable, not_or, not_not] at husable
  obtain ⟨hchars, hnodup⟩ := husable
  have hdot : ∀ c ∈ [d.opening, d.closing, d.separator], c ≠ '.' := by
    intro c hc hdot
    exact hchars ⟨c, hc, .inl hdot⟩
  refine ⟨hdot _ (by simp), hdot _ (by simp), ?_⟩
  intro heq
  simp [heq] at hnodup

end Delimiters

namespace Placeholder

/-- Whether a placeholder could have been read: no part holds an opening delimiter, the separator
stands in the format only, and a dot in the root only at its front and where there is no path. -/
structure IsWellFormed (d : Delimiters) (p : Placeholder) : Prop where
  opening_notMem : d.opening ∉ p.root ∧ d.opening ∉ p.path ∧ d.opening ∉ p.format
  separator_notMem : d.separator ∉ p.root ∧ d.separator ∉ p.path
  dot : '.' ∉ p.root ∨ p.root.head? = some '.' ∧ p.path = []
  root_ne_nil : p.path ≠ [] → p.root ≠ []

/-- The root and the path behind it, if there is one. -/
def fullPath (p : Placeholder) : Text := p.root ++ if p.path = [] then [] else '.' :: p.path

/-- The text that joins the parts of a placeholder. -/
def toBody (d : Delimiters) (p : Placeholder) : Text :=
  p.fullPath ++ if p.format = [] then [] else d.separator :: p.format

variable {d : Delimiters} {p : Placeholder} {s : Text}

/-! ## The cut at the first dot -/

theorem cutPath_of_notMem (h : '.' ∉ s) : cutPath s = (s, []) := by
  rw [cutPath, Text.cut?_eq_none_iff.2 h]

theorem cutPath_of_head? (h : s.head? = some '.') : cutPath s = (s, []) := by
  obtain ⟨rest, rfl⟩ := List.head?_eq_some_iff.1 h
  rfl

theorem cutPath_append {root path : Text} (hne : root ≠ []) (hroot : '.' ∉ root) :
    cutPath (root ++ '.' :: path) = (root, path) := by
  obtain ⟨c, root, rfl⟩ := List.exists_cons_of_ne_nil hne
  rw [cutPath, Text.cut?_eq_some_iff.2 ⟨hroot, rfl⟩]

theorem cutPath_cases (s : Text) :
    (('.' ∉ s ∨ s.head? = some '.') ∧ cutPath s = (s, [])) ∨
      ∃ root path, root ≠ [] ∧ '.' ∉ root ∧ s = root ++ '.' :: path ∧ cutPath s = (root, path) := by
  cases hcut : Text.cut? '.' s with
  | none =>
      have hs := Text.cut?_eq_none_iff.1 hcut
      exact .inl ⟨.inl hs, cutPath_of_notMem hs⟩
  | some parts =>
      obtain ⟨root, path⟩ := parts
      obtain ⟨hroot, rfl⟩ := Text.cut?_eq_some_iff.1 hcut
      by_cases hne : root = []
      · subst hne
        exact .inl ⟨.inr rfl, cutPath_of_head? rfl⟩
      · exact .inr ⟨root, path, hne, hroot, rfl, cutPath_append hne hroot⟩

theorem IsWellFormed.cutPath_fullPath (h : p.IsWellFormed d) :
    cutPath p.fullPath = (p.root, p.path) := by
  unfold fullPath
  by_cases hpath : p.path = []
  · rw [if_pos hpath, List.append_nil, hpath]
    rcases h.dot with hdot | ⟨hdot, -⟩
    · exact cutPath_of_notMem hdot
    · exact cutPath_of_head? hdot
  · rw [if_neg hpath]
    rcases h.dot with hdot | ⟨-, hnone⟩
    · exact cutPath_append (h.root_ne_nil hpath) hdot
    · exact (hpath hnone).elim

theorem isWellFormed_cutPath {row format : Text} (hrow : d.opening ∉ row)
    (hformat : d.opening ∉ format) (hseparator : d.separator ∉ row) :
    IsWellFormed d ⟨(cutPath row).1, (cutPath row).2, format⟩ := by
  rcases cutPath_cases row with ⟨hdot, hcut⟩ | ⟨root, path, hne, hroot, rfl, hcut⟩
  · rw [hcut]
    refine ⟨⟨hrow, List.not_mem_nil, hformat⟩, ⟨hseparator, List.not_mem_nil⟩, ?_, ?_⟩
    · exact hdot.imp_right fun hhead => ⟨hhead, rfl⟩
    · intro hpath
      exact (hpath rfl).elim
  · rw [hcut]
    simp only [List.mem_append, List.mem_cons, not_or] at hrow hseparator
    exact ⟨⟨hrow.1, hrow.2.2, hformat⟩, ⟨hseparator.1, hseparator.2.2⟩, .inl hroot, fun _ => hne⟩

/-! ## The cut at the first separator -/

theorem filter_opening (h : d.opening ∉ s) : s.filter (· != d.opening) = s := by
  rw [List.filter_eq_self]
  intro c hc
  rw [bne_iff_ne]
  rintro rfl
  exact h hc

theorem ofBody_congr {body other : Text}
    (h : body.filter (· != d.opening) = other.filter (· != d.opening)) :
    ofBody d body = ofBody d other := by
  rw [ofBody, ofBody, h]

theorem ofBody_of_notMem (hopening : d.opening ∉ s) (hseparator : d.separator ∉ s) :
    ofBody d s = ⟨(cutPath s).1, (cutPath s).2, []⟩ := by
  rw [ofBody, filter_opening hopening, Text.cut?_eq_none_iff.2 hseparator]
  rfl

theorem ofBody_append {format : Text} (hopening : d.opening ∉ s ++ d.separator :: format)
    (hseparator : d.separator ∉ s) :
    ofBody d (s ++ d.separator :: format) = ⟨(cutPath s).1, (cutPath s).2, format⟩ := by
  rw [ofBody, filter_opening hopening, Text.cut?_eq_some_iff.2 ⟨hseparator, rfl⟩]
  rfl

theorem isWellFormed_ofBody (d : Delimiters) (body : Text) : (ofBody d body).IsWellFormed d := by
  obtain ⟨text, htext⟩ : ∃ text, body.filter (· != d.opening) = text := ⟨_, rfl⟩
  have hopening : d.opening ∉ text := by simp [← htext]
  have hbody : ofBody d body = ofBody d text :=
    ofBody_congr (by rw [htext, filter_opening hopening])
  rw [hbody]
  cases hcut : Text.cut? d.separator text with
  | none =>
      have hseparator := Text.cut?_eq_none_iff.1 hcut
      rw [ofBody_of_notMem hopening hseparator]
      exact isWellFormed_cutPath hopening List.not_mem_nil hseparator
  | some parts =>
      obtain ⟨row, format⟩ := parts
      obtain ⟨hseparator, rfl⟩ := Text.cut?_eq_some_iff.1 hcut
      rw [ofBody_append hopening hseparator]
      simp only [List.mem_append, List.mem_cons, not_or] at hopening
      exact isWellFormed_cutPath hopening.1 hopening.2.2 hseparator

/-! ## Writing and reading -/

theorem notMem_fullPath {c : Char} (hc : c ≠ '.') (hroot : c ∉ p.root) (hpath : c ∉ p.path) :
    c ∉ p.fullPath := by
  unfold fullPath
  split <;> simp [hc, hroot, hpath]

theorem IsWellFormed.ofBody_toBody (h : p.IsWellFormed d) (hd : d.refusal? = none) :
    ofBody d (p.toBody d) = p := by
  obtain ⟨hdot, hdot', hdistinct⟩ := Delimiters.distinct_of_refusal? hd
  obtain ⟨hroot, hpath, hformat⟩ := h.opening_notMem
  have hopening := notMem_fullPath hdot hroot hpath
  have hseparator := notMem_fullPath hdot' h.separator_notMem.1 h.separator_notMem.2
  have hcut := h.cutPath_fullPath
  by_cases hempty : p.format = []
  · rw [toBody, if_pos hempty, List.append_nil, ofBody_of_notMem hopening hseparator, hcut,
      ← hempty]
  · rw [toBody, if_neg hempty, ofBody_append (by simp [hopening, hdistinct, hformat]) hseparator,
      hcut]

/-- Delimiters that can be used read well-formed placeholders only, and they read each of these from
the text that joins its parts, with opening delimiters put into it anywhere. -/
theorem ofBody_roundTrip (hd : d.refusal? = none) :
    (∀ body, (ofBody d body).IsWellFormed d) ∧
    ∀ p : Placeholder, p.IsWellFormed d →
      ofBody d (p.toBody d) = p ∧
      ∀ body, Text.Inserted d.opening (p.toBody d) body → ofBody d body = p := by
  refine ⟨isWellFormed_ofBody d, ?_⟩
  intro p hp
  have hread := hp.ofBody_toBody hd
  refine ⟨hread, ?_⟩
  intro body hbody
  rw [ofBody_congr hbody.filter_eq, hread]

/-- A path that starts with an empty name, and a format with a dot and a separator of its own. -/
theorem ofBody_roundTrip_total :
    let p : Placeholder := ⟨"o", ".t", "H.:"⟩
    Delimiters.standard.refusal? = none ∧ p.IsWellFormed .standard ∧
      p.toBody .standard = "o..t:H.:" ∧
      Text.Inserted '\x7b' (p.toBody .standard) "\x7bo.\x7b.t:\x7b\x7bH.:" ∧
      ofBody .standard "\x7bo.\x7b.t:\x7b\x7bH.:" = p ∧
      (ofBody .standard ".hidden.name").IsWellFormed .standard := by
  intro p
  have hstandard : Delimiters.standard.refusal? = none := by decide
  have hp : p.IsWellFormed .standard :=
    ⟨by decide, by decide, .inl (by decide), fun _ => by decide⟩
  have hinserted : Text.Inserted '\x7b' (p.toBody .standard) "\x7bo.\x7b.t:\x7b\x7bH.:" :=
    .insert <| .keep 'o' <| .keep '.' <| .insert <| .keep '.' <| .keep 't' <| .keep ':' <|
      .insert <| .insert <| .keep 'H' <| .keep '.' <| .keep ':' .nil
  obtain ⟨hread, hwrite⟩ := ofBody_roundTrip hstandard
  exact ⟨hstandard, hp, by decide, hinserted, (hwrite p hp).2 _ hinserted, hread _⟩

end Placeholder

end Phrasebook
