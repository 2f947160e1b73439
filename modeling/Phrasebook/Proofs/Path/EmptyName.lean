import Phrasebook.Proofs.Path.Composition

/-!
# Names without characters

A dot at an end of a path, or two dots in a row, leave a name without characters. It is looked up
like every other name, so it leads on from an object with a field under the empty key, and only from
there.
-/

namespace Phrasebook

/-- Whether a path begins with a dot, ends with one or has two in a row. -/
def HasEmptyName (path : Text) : Prop :=
  path.head? = some '.' ∨ path.getLast? = some '.' ∨ ['.', '.'] <:+: path

theorem HasEmptyName.ne_nil {path : Text} (h : HasEmptyName path) : path ≠ [] := by
  rintro rfl
  rcases h with hhead | hlast | hdots
  · cases hhead
  · cases hlast
  · exact absurd hdots (by decide)

theorem eq_nil_or_hasEmptyName (path : Text) :
    [] ∈ Text.splitOn '.' path → path = [] ∨ HasEmptyName path := by
  refine Text.splitBy_induction
    (motive := fun path names => [] ∈ names → path = [] ∨ HasEmptyName path) ?_ ?_ path
  · intro path _ hmem
    exact .inl (List.mem_singleton.1 hmem).symm
  · intro name c rest _ hc ih hmem
    obtain rfl : c = '.' := beq_iff_eq.1 hc
    refine .inr ?_
    rcases List.mem_cons.1 hmem with rfl | hmem
    · exact .inl rfl
    · rcases ih hmem with rfl | hhead | hlast | hdots
      · exact .inr (.inl List.getLast?_concat)
      · obtain ⟨rest, rfl⟩ := List.head?_eq_some_iff.1 hhead
        exact .inr (.inr ⟨name, rest, by simp⟩)
      · refine .inr (.inl ?_)
        rw [List.getLast?_append_of_ne_nil _ (List.cons_ne_nil _ _), List.getLast?_cons, hlast]
        rfl
      · have hsuffix : rest <:+ name ++ '.' :: rest :=
          (List.suffix_cons '.' rest).trans (List.suffix_append name _)
        exact .inr (.inr (hdots.trans hsuffix.isInfix))

theorem nil_mem_splitOn_of_hasEmptyName {path : Text} (h : HasEmptyName path) :
    [] ∈ Text.splitOn '.' path := by
  have hcut : ∀ front rest : Text, Text.splitOn '.' (front ++ '.' :: rest) =
      Text.splitOn '.' front ++ Text.splitOn '.' rest := Text.splitBy_append (by decide)
  have hfirst : ∀ rest : Text, [] ∈ Text.splitOn '.' ('.' :: rest) := fun rest =>
    List.mem_cons_self
  rcases h with hhead | hlast | ⟨front, rest, rfl⟩
  · obtain ⟨rest, rfl⟩ := List.head?_eq_some_iff.1 hhead
    exact hfirst rest
  · obtain ⟨front, rfl⟩ := List.getLast?_eq_some_iff.1 hlast
    rw [hcut]
    exact List.mem_append_right _ List.mem_cons_self
  · rw [List.append_assoc, List.cons_append, hcut]
    exact List.mem_append_right _ (hfirst rest)

/-- Dots at the ends and two dots in a row are the ways to leave a name without characters. -/
theorem hasEmptyName_iff {path : Text} (hpath : path ≠ []) :
    HasEmptyName path ↔ [] ∈ Text.splitOn '.' path :=
  ⟨nil_mem_splitOn_of_hasEmptyName, fun h => (eq_nil_or_hasEmptyName path h).resolve_left hpath⟩

namespace Json

variable {root value next : Json} {before after : List Text} {path : Text}

/-! ## Looking the empty name up -/

/-- Only an object has a property without a name; the empty name is no index. -/
theorem property?_nil_eq_some_iff :
    value.property? [] = some next ↔
      ∃ fields, value = .object fields ∧ field? [] fields = some next := by
  cases value with
  | object fields => simp [property?]
  | array items => simp [property?, index?, Text.dropFront?]
  | _ => simp [property?]

theorem follow_append_nil_eq_found_iff :
    follow (before ++ [] :: after) root = .found value ↔
      ∃ fields next, follow before root = .found (.object fields) ∧
        field? [] fields = some next ∧ follow after next = .found value := by
  rw [follow_append]
  constructor
  · intro h
    cases hbefore : follow before root with
    | null => simp [hbefore, Resolution.bind] at h
    | noSuchProperty name => simp [hbefore, Resolution.bind] at h
    | found reached =>
        have hreached := isNull_of_follow hbefore
        rw [hbefore, Resolution.bind] at h
        cases hnext : reached.property? [] with
        | none => simp [follow, hreached, hnext] at h
        | some next =>
            rw [follow_cons hreached hnext] at h
            obtain ⟨fields, rfl, hfield⟩ := property?_nil_eq_some_iff.1 hnext
            exact ⟨fields, next, rfl, hfield, h⟩
  · rintro ⟨fields, next, hbefore, hfield, hafter⟩
    have hnext : (Json.object fields).property? [] = some next := hfield
    rw [hbefore, Resolution.bind, follow_cons rfl hnext, hafter]

/-- The empty name is the one that is reported where no field has the empty key. -/
theorem follow_append_nil_of_found (hbefore : follow before root = .found next)
    (hnone : ∀ fields, next = .object fields → field? [] fields = none) :
    follow (before ++ [] :: after) root = .noSuchProperty [] := by
  have hproperty : next.property? [] = none := by
    rw [Option.eq_none_iff_forall_ne_some]
    intro value hvalue
    obtain ⟨fields, rfl, hfield⟩ := property?_nil_eq_some_iff.1 hvalue
    rw [hnone fields rfl] at hfield
    cases hfield
  rw [follow_append, hbefore, Resolution.bind, follow, isNull_of_follow hbefore, hproperty]
  rfl

/-- A path with an empty name leads to a value exactly if every such name is met at an object with a
field under the empty key, from which the names behind it lead to the value. At any other value the
empty name is a property that is not there, so where no object that names lead to has an empty key,
these paths lead to no value. -/
theorem resolve_emptyName (root : Json) (hpath : HasEmptyName path) :
    (∀ value, root.resolve path = .found value ↔
      ∀ before after, Text.splitOn '.' path = before ++ [] :: after →
        ∃ fields next, follow before root = .found (.object fields) ∧
          field? [] fields = some next ∧ follow after next = .found value) ∧
    (∀ before after next, Text.splitOn '.' path = before ++ [] :: after →
      follow before root = .found next →
      (∀ fields, next = .object fields → field? [] fields = none) →
        root.resolve path = .noSuchProperty []) ∧
    ((∀ names fields, follow names root = .found (.object fields) → field? [] fields = none) →
      ∀ value, root.resolve path ≠ .found value) := by
  have hresolve : root.resolve path = follow (Text.splitOn '.' path) root :=
    resolve_of_ne_nil hpath.ne_nil root
  obtain ⟨front, rest, hsplit⟩ := List.append_of_mem ((hasEmptyName_iff hpath.ne_nil).1 hpath)
  refine ⟨fun value => ⟨?_, ?_⟩, ?_, ?_⟩
  · intro hfound before after hnames
    rw [hresolve, hnames] at hfound
    exact follow_append_nil_eq_found_iff.1 hfound
  · intro hall
    rw [hresolve, hsplit]
    exact follow_append_nil_eq_found_iff.2 (hall front rest hsplit)
  · intro before after next hnames hbefore hnone
    rw [hresolve, hnames]
    exact follow_append_nil_of_found hbefore hnone
  · intro hnone value hfound
    rw [hresolve, hsplit] at hfound
    obtain ⟨fields, next, hfields, hfield, -⟩ := follow_append_nil_eq_found_iff.1 hfound
    rw [hnone front fields hfields] at hfield
    cases hfield

/-- Two dots behind the name of an object without an empty key. -/
theorem resolve_emptyName_missing :
    let root : Json := .object [("a", .object [("b", .bool true)])]
    HasEmptyName "a..b" ∧ root.resolve "a..b" = .noSuchProperty [] := by
  intro root
  have hpath : HasEmptyName "a..b" := .inr (.inr ⟨"a", "b", rfl⟩)
  obtain ⟨-, hmissing, -⟩ := resolve_emptyName root hpath
  refine ⟨hpath, hmissing ["a"] ["b"] (.object [("b", .bool true)]) rfl rfl ?_⟩
  intro fields hfields
  cases hfields
  rfl

/-- Two dots behind the name of an object with an empty key. -/
theorem resolve_emptyName_eq_found :
    HasEmptyName "a..b" ∧
      resolve (.object [("a", .object [("", .object [("b", .bool true)])])]) "a..b" =
        .found (.bool true) :=
  ⟨.inr (.inr ⟨"a", "b", rfl⟩), rfl⟩

end Json

end Phrasebook
