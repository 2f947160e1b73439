import Phrasebook.Proofs.Model.History
import Phrasebook.Proofs.Placeholder.Render

/-!
# What a template reads of a model

A template mentions the roots of its placeholders. Rendering looks these names up and nothing else,
so models that hold the same values under them give the same text.
-/

namespace Phrasebook

/-- The placeholders of a cut are those of the segments that it describes. -/
theorem Cut.mem_bodies_ofSegments {body : Text} {segs : List Segment} :
    body ∈ (Cut.ofSegments segs).bodies ↔ .placeholder body ∈ segs := by
  induction segs with
  | nil => simp [Cut.ofSegments, Cut.bodies]
  | cons seg segs ih =>
      cases seg with
      | literal c => simp [Cut.ofSegments, ih]
      | placeholder other => simp [Cut.ofSegments, ih]

namespace Model

theorem field?_eq_some_iff {key : Text} {value : Json} {fields : List (Text × Json)}
    (hkeys : (fields.map Prod.fst).Nodup) :
    Json.field? key fields = some value ↔ (key, value) ∈ fields := by
  induction fields with
  | nil => simp [Json.field?]
  | cons field fields ih =>
      obtain ⟨k, v⟩ := field
      rw [List.map_cons, List.nodup_cons] at hkeys
      by_cases hkey : k = key
      · subst hkey
        have hnot : (k, value) ∉ fields := fun hmem =>
          hkeys.1 (List.mem_map.2 ⟨(k, value), hmem, rfl⟩)
        simp [Json.field?, hnot, eq_comm]
      · simp [Json.field?, hkey, Ne.symm hkey, ih hkeys.2]

/-- The order of the entries has no part in what a model holds. -/
theorem get?_eq_of_perm {model other : Model} (hkeys : model.keys.Nodup)
    (h : model.entries.Perm other.entries) (key : Text) : model.get? key = other.get? key := by
  have hkeys' : (other.entries.map Prod.fst).Nodup := (h.map Prod.fst).nodup_iff.1 hkeys
  apply Option.ext
  intro value
  rw [get?, get?, field?_eq_some_iff hkeys, field?_eq_some_iff hkeys', h.mem_iff]

theorem get?_of_insert {model changed : Model} {key : Text} {value : Json}
    (h : model.insert key value = .ok changed) {other : Text} (hother : key ≠ other) :
    changed.get? other = model.get? other := by
  unfold insert at h
  split at h
  · cases h
  · obtain rfl := Except.ok.inj h
    rw [get?, get?, field?_put, if_neg hother]

end Model

namespace PlaceholderContext

variable {context : PlaceholderContext} {model other : Model} {template : Text}

/-- Whether a placeholder of the template has this root. -/
def Mentions (context : PlaceholderContext) (template name : Text) : Prop :=
  ∃ cut, context.pattern.Leftmost template cut ∧
    ∃ body ∈ cut.bodies, (Placeholder.ofBody context.delimiters body).root = name

theorem mentions_iff {name : Text} :
    context.Mentions template name ↔
      ∃ body, .placeholder body ∈ segments context.pattern template ∧
        (Placeholder.ofBody context.delimiters body).root = name := by
  have hscan := Delimiters.Pattern.leftmost_ofSegments context.pattern template
  constructor
  · rintro ⟨cut, hcut, body, hbody, hroot⟩
    rw [hcut.unique hscan, Cut.mem_bodies_ofSegments] at hbody
    exact ⟨body, hbody, hroot⟩
  · rintro ⟨body, hbody, hroot⟩
    exact ⟨_, hscan, body, Cut.mem_bodies_ofSegments.2 hbody, hroot⟩

theorem valueText_congr [LocaleData] {p : Placeholder} (h : model.get? p.root = other.get? p.root) :
    context.valueText model p = context.valueText other p := by
  rw [valueText, valueText, h]

theorem segmentText_congr [LocaleData] {seg : Segment}
    (h : ∀ body, seg = .placeholder body →
      model.get? (Placeholder.ofBody context.delimiters body).root =
        other.get? (Placeholder.ofBody context.delimiters body).root) :
    context.segmentText model seg = context.segmentText other seg := by
  cases seg with
  | literal c => rfl
  | placeholder body => simp only [segmentText, substitute, valueText_congr (h body rfl)]

theorem render_congr [LocaleData]
    (h : ∀ name, context.Mentions template name → model.get? name = other.get? name) :
    context.render model template = context.render other template := by
  have hroots : ∀ seg ∈ segments context.pattern template, ∀ body, seg = .placeholder body →
      model.get? (Placeholder.ofBody context.delimiters body).root =
        other.get? (Placeholder.ofBody context.delimiters body).root := by
    rintro _ hseg body rfl
    exact h _ (mentions_iff.2 ⟨body, hseg, rfl⟩)
  have htexts : (segments context.pattern template).mapM (context.segmentText model) =
      (segments context.pattern template).mapM (context.segmentText other) := by
    generalize segments context.pattern template = segs at hroots
    induction segs with
    | nil => rfl
    | cons seg segs ih =>
        obtain ⟨hfirst, hrest⟩ := List.forall_mem_cons.1 hroots
        rw [List.mapM_cons, List.mapM_cons, segmentText_congr hfirst, ih hrest]
  simp only [render, text, htexts]

/-- Two models that hold the same values under the names that a template mentions give the same
text. So it makes no difference what is stored under another name, nor in which order the entries
of a model came. -/
theorem render_reads_mentioned [LocaleData] (context : PlaceholderContext) (template : Text) :
    (∀ model other : Model,
      (∀ name, context.Mentions template name → model.get? name = other.get? name) →
      context.render model template = context.render other template) ∧
    (∀ (model changed : Model) (key : Text) (value : Json), ¬ context.Mentions template key →
      model.insert key value = .ok changed →
      context.render changed template = context.render model template) ∧
    (∀ model other : Model, model.keys.Nodup → model.entries.Perm other.entries →
      context.render model template = context.render other template) := by
  refine ⟨fun model other => render_congr, fun model changed key value hkey hchanged => ?_,
    fun model other hkeys hperm => render_congr fun name _ =>
      Model.get?_eq_of_perm hkeys hperm name⟩
  refine render_congr fun name hname => Model.get?_of_insert hchanged ?_
  rintro rfl
  exact hkey hname

/-- The opening delimiter in the body does not count, and `b` is not a root. -/
theorem render_reads_mentioned_nested :
    (∀ name, angled.Mentions "<a<b.c> b" name →
      Model.get? ⟨[("b", .null), ("ab", .object [("c", .string "x")])]⟩ name =
        Model.get? ⟨[("ab", .object [("c", .string "x")]), ("b", .string "y")]⟩ name) ∧
      angled.render ⟨[("b", .null), ("ab", .object [("c", .string "x")])]⟩ "<a<b.c> b" =
        angled.render ⟨[("ab", .object [("c", .string "x")]), ("b", .string "y")]⟩ "<a<b.c> b" ∧
      angled.render ⟨[("b", .null), ("ab", .object [("c", .string "x")])]⟩ "<a<b.c> b" =
        some (.ok "x b") := by
  have hsegments : segments angled.pattern "<a<b.c> b" =
      [.placeholder "a<b.c", .literal ' ', .literal 'b'] := by decide
  have hagree : ∀ name, angled.Mentions "<a<b.c> b" name →
      Model.get? ⟨[("b", .null), ("ab", .object [("c", .string "x")])]⟩ name =
        Model.get? ⟨[("ab", .object [("c", .string "x")]), ("b", .string "y")]⟩ name := by
    intro name hname
    obtain ⟨body, hbody, rfl⟩ := mentions_iff.1 hname
    rw [hsegments] at hbody
    obtain rfl : body = "a<b.c" := by simpa using hbody
    rfl
  exact ⟨hagree, (render_reads_mentioned angled "<a<b.c> b").1 _ _ hagree, rfl⟩

end PlaceholderContext

end Phrasebook
