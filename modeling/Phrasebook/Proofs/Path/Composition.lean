import Phrasebook.Proofs.Script.Steps

/-!
# Composing paths

A path is followed name by name, so a path made of two leads where the second one leads from the
value that the first one finds. Null ends it wherever it is met, and so does the first name without
a property.
-/

namespace Phrasebook

/-- Goes on from the value that was found. -/
def Resolution.bind (next : Json → Resolution) : Resolution → Resolution
  | found value => next value
  | null => null
  | noSuchProperty name => noSuchProperty name

namespace Json

variable {root value next : Json} {names : List Text} {name path : Text}

/-! ## Following names -/

theorem follow_of_isNull (hroot : root.isNull = true) (names : List Text) :
    follow names root = .null := by
  cases names with
  | nil => simp [follow, hroot]
  | cons name names => simp [follow, hroot]

theorem follow_cons (hroot : root.isNull = false) (hnext : root.property? name = some next)
    (names : List Text) : follow (name :: names) root = follow names next := by
  simp [follow, hroot, hnext]

/-- The first name meets null, finds a value to go on from, or is not there, whatever comes behind
it. -/
theorem follow_cases (root : Json) (name : Text) :
    (∀ names, follow (name :: names) root = .null) ∨
      (∃ next, ∀ names, follow (name :: names) root = follow names next) ∨
      ∀ names, follow (name :: names) root = .noSuchProperty name := by
  cases hroot : root.isNull with
  | true => exact .inl fun names => follow_of_isNull hroot _
  | false =>
      cases hnext : root.property? name with
      | some next => exact .inr (.inl ⟨next, follow_cons hroot hnext⟩)
      | none => exact .inr (.inr fun names => by simp [follow, hroot, hnext])

theorem follow_append (names more : List Text) (root : Json) :
    follow (names ++ more) root = (follow names root).bind (follow more) := by
  induction names generalizing root with
  | nil =>
      cases hroot : root.isNull with
      | true => rw [follow_of_isNull hroot, follow_of_isNull hroot, Resolution.bind]
      | false => simp [follow, hroot, Resolution.bind]
  | cons name names ih =>
      rw [List.cons_append]
      rcases follow_cases root name with hnull | ⟨next, hnext⟩ | hmissing
      · rw [hnull, hnull, Resolution.bind]
      · rw [hnext, hnext, ih]
      · rw [hmissing, hmissing, Resolution.bind]

theorem isNull_of_follow (h : follow names root = .found value) : value.isNull = false := by
  induction names generalizing root with
  | nil =>
      cases hroot : root.isNull with
      | true => simp [follow, hroot] at h
      | false =>
          obtain rfl : root = value := by simpa [follow, hroot] using h
          exact hroot
  | cons name names ih =>
      rcases follow_cases root name with hnull | ⟨next, hnext⟩ | hmissing
      · rw [hnull] at h
        cases h
      · exact ih (hnext names ▸ h)
      · rw [hmissing] at h
        cases h

theorem mem_of_follow (h : follow names root = .noSuchProperty name) : name ∈ names := by
  induction names generalizing root with
  | nil =>
      unfold follow at h
      split at h <;> cases h
  | cons first names ih =>
      rcases follow_cases root first with hnull | ⟨next, hnext⟩ | hmissing
      · rw [hnull] at h
        cases h
      · exact List.mem_cons_of_mem first (ih (hnext names ▸ h))
      · rw [hmissing] at h
        cases h
        exact List.mem_cons_self

/-! ## Keys and indices -/

/-- The value that a row of names leads to, each of them a key that is a segment of a path or the
digits of an index of at most 64 bits. -/
inductive Reaches : Json → List Text → Json → Prop
  | here (value : Json) : Reaches value [] value
  | key {fields : List (Text × Json)} {name : Text} {next value : Json} {names : List Text} :
      IsSegment name → field? name fields = some next → Reaches next names value →
      Reaches (.object fields) (name :: names) value
  | index {items : List Json} {i : Nat} {next value : Json} {names : List Text} :
      i < 2 ^ 64 → items[i]? = some next → Reaches next names value →
      Reaches (.array items) (digits i :: names) value

theorem Reaches.isSegment (h : root.Reaches names value) : ∀ name ∈ names, IsSegment name := by
  induction h with
  | here => exact nofun
  | key hname _ _ ih => exact List.forall_mem_cons.2 ⟨hname, ih⟩
  | index _ _ _ ih => exact List.forall_mem_cons.2 ⟨isSegment_digits _, ih⟩

theorem Reaches.follow (h : root.Reaches names value) (hvalue : value.isNull = false) :
    follow names root = .found value := by
  induction h with
  | here => simp [Json.follow, hvalue]
  | @key fields name next value names _ hfield _ ih =>
      have hproperty : (Json.object fields).property? name = some next := hfield
      rw [follow_cons rfl hproperty]
      exact ih hvalue
  | @index items i next value names hi hitem _ ih =>
      have hproperty : (Json.array items).property? (digits i) = some next := by
        rw [property?, index?_digits hi, Option.bind_some, hitem]
      rw [follow_cons rfl hproperty]
      exact ih hvalue

/-! ## Resolving paths -/

theorem resolve_of_ne_nil (hpath : path ≠ []) (root : Json) :
    root.resolve path = follow (Text.splitOn '.' path) root := by
  rw [resolve, if_neg (by simpa using hpath)]

theorem exists_resolve_eq_follow (root : Json) (path : Text) :
    ∃ names, root.resolve path = follow names root ∧
      ∀ name ∈ names, path ≠ [] ∧ name ∈ Text.splitOn '.' path := by
  by_cases hpath : path = []
  · exact ⟨[], by rw [resolve, hpath]; rfl, nofun⟩
  · exact ⟨_, resolve_of_ne_nil hpath root, fun name hname => ⟨hpath, hname⟩⟩

/-- A path that is made of two leads where the second one leads from what the first one finds; where
the first one meets null or no property, the whole path does. What is found is never null, and the
name that is reported is one of the path. Every value other than null that keys and indices lead to
is found by the path that joins them. -/
theorem resolve_append (root : Json) :
    (∀ p q : Text, p ≠ [] → q ≠ [] →
      root.resolve (p ++ '.' :: q) = (root.resolve p).bind (·.resolve q)) ∧
    (∀ path value, root.resolve path = .found value → value.isNull = false) ∧
    (∀ path name, root.resolve path = .noSuchProperty name →
      path ≠ [] ∧ name ∈ Text.splitOn '.' path) ∧
    ∀ names value, root.Reaches names value → value.isNull = false →
      root.resolve (Text.join ['.'] names) = .found value := by
  refine ⟨?_, ?_, ?_, ?_⟩
  · intro p q hp hq
    have hq' : (fun value : Json => value.resolve q) = follow (Text.splitOn '.' q) :=
      funext fun value => resolve_of_ne_nil hq value
    have hsplit : Text.splitOn '.' (p ++ '.' :: q) = Text.splitOn '.' p ++ Text.splitOn '.' q :=
      Text.splitBy_append (by decide) p q
    rw [resolve_of_ne_nil (by simp), resolve_of_ne_nil hp, hsplit, follow_append, hq']
  · intro path value h
    obtain ⟨names, hfollow, -⟩ := exists_resolve_eq_follow root path
    exact isNull_of_follow (hfollow ▸ h)
  · intro path name h
    obtain ⟨names, hfollow, hnames⟩ := exists_resolve_eq_follow root path
    exact hnames name (mem_of_follow (hfollow ▸ h))
  · intro names value h hvalue
    rw [resolve_join h.isSegment, h.follow hvalue]

/-- The second item of a row, an item that is not there, and a property of null. -/
theorem resolve_append_items :
    let second : Json := .object [("sku", .string "B2")]
    let root : Json := .object [("gone", .null), ("items", .array [.object [], second])]
    root.Reaches ["items", "1"] second ∧ root.resolve "items.1" = .found second ∧
      root.resolve "items.1.sku" = .found (.string "B2") ∧
      root.resolve "gone.a.b" = .null ∧
      root.resolve "items.7.sku" = .noSuchProperty "7" ∧
      ("7".toList) ∈ Text.splitOn '.' "items.7.sku" := by
  intro second root
  obtain ⟨happend, -, hname, hreaches⟩ := resolve_append root
  have hsecond : root.Reaches ["items", "1"] second :=
    .key ⟨by decide, by decide⟩ rfl (.index (i := 1) (by decide) rfl (.here second))
  have hfound : root.resolve "items.1" = .found second := hreaches _ _ hsecond rfl
  have hsku : root.resolve "items.1.sku" = (root.resolve "items.1").bind (·.resolve "sku") :=
    happend "items.1" "sku" (by decide) (by decide)
  have hmissing : root.resolve "items.7.sku" = .noSuchProperty "7" :=
    happend "items.7" "sku" (by decide) (by decide)
  have hgone : root.resolve "gone.a.b" = .null := happend "gone" "a.b" (by decide) (by decide)
  rw [hfound] at hsku
  exact ⟨hsecond, hfound, hsku, hgone, hmissing, (hname _ _ hmissing).2⟩

end Json

end Phrasebook
