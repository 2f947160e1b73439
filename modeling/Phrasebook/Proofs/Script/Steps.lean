import Phrasebook.Model
import Phrasebook.Path
import Phrasebook.Proofs.Decimal.Digits
import Phrasebook.Proofs.Text.Pieces
import Phrasebook.Script.Evaluate

/-!
# Steps into the values of a model

A template takes a value of the model apart step by step. Every step finds what the model holds
there, and what it finds keeps the path of the steps that led to it. Where the names on the way have
no dots of their own, the same path leads a placeholder to the same value.
-/

namespace Phrasebook

/-- A step into a value: to the property with a name, or to the item at a position. No row in memory
has an item behind the positions of a machine word. -/
inductive Step
  | key (name : Text)
  | position (i : Fin (2 ^ 63))
deriving DecidableEq

namespace Step

/-- How a step is written in a path. -/
def text : Step → Text
  | key name => name
  | position i => digits i

/-- The key under which a template takes a step. -/
def value : Step → Script.Value
  | key name => .ofText name
  | position i => .integer i

end Step

/-- The path of steps behind a name. -/
def stepPath (name : Text) (steps : List Step) : Text :=
  Text.join ['.'] (name :: steps.map Step.text)

/-- A name that stands for one step of a path. -/
def IsSegment (name : Text) : Prop := name ≠ [] ∧ '.' ∉ name

namespace Json

variable {root value next : Json} {step : Step} {steps : List Step}

/-- What a value holds at a step. -/
def part? : Json → Step → Option Json
  | object fields, .key name => field? name fields
  | array items, .position i => items[(i : Nat)]?
  | _, _ => none

/-- What a value holds behind steps. -/
def partAt? (value : Json) : List Step → Option Json
  | [] => some value
  | step :: steps => (value.part? step).bind (·.partAt? steps)

theorem partAt?_cons_eq_some :
    root.partAt? (step :: steps) = some value ↔
      ∃ next, root.part? step = some next ∧ next.partAt? steps = some value :=
  Option.bind_eq_some_iff

/-! ## The path of a placeholder -/

theorem not_isNull_of_part? (h : root.part? step = some next) : root.isNull = false := by
  cases root with
  | null => simp [part?] at h
  | _ => rfl

theorem index?_digits {i : Nat} (hi : i < 2 ^ 64) : index? (digits i) = some i := by
  have hplus : Text.dropFront? "+" (digits i) = none := by
    cases hdigits : digits i with
    | nil => exact (digits_ne_nil i hdigits).elim
    | cons c s =>
        have hc : c.isDigit = true := isDigit_of_mem_digits (hdigits ▸ List.mem_cons_self)
        have hne : '+' ≠ c := by
          rintro rfl
          exact absurd hc (by decide)
        exact if_neg hne
  rw [index?, hplus, Option.getD_none, valueOf_digits]
  exact if_pos ⟨digits_ne_nil i, all_isDigit_digits i, hi⟩

/-- A step leads a placeholder where it leads a template. -/
theorem property?_text (h : root.part? step = some next) :
    root.property? step.text = some next := by
  cases root with
  | object fields =>
      cases step with
      | key name => exact h
      | position i => simp [part?] at h
  | array items =>
      cases step with
      | key name => simp [part?] at h
      | position i =>
          have hindex : index? (digits i) = some i := index?_digits (i.isLt.trans (by decide))
          simpa [property?, Step.text, hindex, part?] using h
  | _ => simp [part?] at h

theorem follow_steps (h : root.partAt? steps = some value) (names : List Text) :
    follow (steps.map Step.text ++ names) root = follow names value := by
  induction steps generalizing root with
  | nil =>
      obtain rfl : root = value := Option.some.inj h
      rfl
  | cons step steps ih =>
      obtain ⟨next, hnext, hrest⟩ := partAt?_cons_eq_some.1 h
      rw [List.map_cons, List.cons_append, follow, not_isNull_of_part? hnext,
        property?_text hnext]
      exact ih hrest

/-- A path of names without dots is taken apart into these names. -/
theorem resolve_join {names : List Text} (hnames : ∀ name ∈ names, IsSegment name)
    (root : Json) : root.resolve (Text.join ['.'] names) = follow names root := by
  cases names with
  | nil => rfl
  | cons name names =>
      have hname := (hnames name List.mem_cons_self).1
      have hjoin : Text.join ['.'] (name :: names) ≠ [] := by
        cases names with
        | nil => exact hname
        | cons => simp [Text.join, hname]
      have hfree : ∀ piece ∈ name :: names, ∀ c ∈ piece, (c == '.') = false := by
        intro piece hpiece c hc
        rw [beq_eq_false_iff_ne]
        rintro rfl
        exact (hnames piece hpiece).2 hc
      rw [resolve, if_neg (by simpa using hjoin), Text.splitOn,
        Text.splitBy_join (by decide) (List.cons_ne_nil name names) hfree]

theorem isSegment_digits (n : Nat) : IsSegment (digits n) := by
  refine ⟨digits_ne_nil n, ?_⟩
  intro hdot
  exact absurd (isDigit_of_mem_digits hdot) (by decide)

theorem isSegment_text (h : ∀ name, Step.key name ∈ steps → IsSegment name) :
    ∀ segment ∈ steps.map Step.text, IsSegment segment := by
  intro segment hsegment
  obtain ⟨step, hstep, rfl⟩ := List.mem_map.1 hsegment
  cases step with
  | key name => exact h name hstep
  | position i => exact isSegment_digits i

end Json

namespace Script.Value

variable {root value next : Json} {step : Step} {steps : List Step} {path : Text}

/-! ## The steps of a template -/

/-- What a template finds behind steps from a value. -/
def partAt? (v : Value) : List Step → Option Value
  | [] => some v
  | step :: steps => (v.item? step.value).bind (·.partAt? steps)

theorem getElem?_ofItems (start i : Nat) (items : List Json) :
    (ofItems path start items)[i]? =
      (items[i]?).map (ofJson (subpath path (digits (start + i)))) := by
  induction items generalizing start i with
  | nil => rfl
  | cons item items ih =>
      cases i with
      | zero => rfl
      | succ i => simp [ofItems, ih, Nat.add_comm, Nat.add_left_comm]

theorem position?_natCast (size i : Nat) : position? size (i : Int) = some i := by
  simp [position?]

theorem itemAt?_position (items : List Value) (i : Fin (2 ^ 63)) :
    itemAt? items (.integer i) = items[(i : Nat)]? := by
  have hlt : ((i : Nat) : Int) < int64Limit := by
    have := i.isLt
    unfold int64Limit
    omega
  have hlow : -int64Limit ≤ ((i : Nat) : Int) := by
    unfold int64Limit
    omega
  simp [itemAt?, toInt64?, hlt, hlow, position?_natCast]

/-- A step finds the value of what the model holds there. -/
theorem item?_ofJson (h : root.part? step = some next) :
    (ofJson path root).item? step.value = some (ofJson (subpath path step.text) next) := by
  cases root with
  | object fields =>
      cases step with
      | key name =>
          have hfield : Json.field? name fields = some next := h
          simp [ofJson, Step.value, ofText, item?, property, hfield, Step.text]
      | position i => simp [Json.part?] at h
  | array items =>
      cases step with
      | key name => simp [Json.part?] at h
      | position i =>
          have hitem : items[(i : Nat)]? = some next := h
          have hpart : (ofItems path 0 items)[(i : Nat)]? = _ := getElem?_ofItems 0 i items
          rw [hitem, Nat.zero_add] at hpart
          simpa [ofJson, Step.value, Step.text, item?, itemAt?_position] using hpart
  | _ => simp [Json.part?] at h

/-- Under a key that an object does not have stands the text that says so. -/
theorem item?_of_undeclared {fields : List (Text × Json)} {key : Text}
    (h : Json.field? key fields = Option.none) :
    (ofJson path (.object fields)).item? (.ofText key) = some (.ofText (missing key path)) := by
  simp [ofJson, ofText, item?, property, h]

theorem stepPath_cons (step : Step) (steps : List Step) :
    stepPath (subpath path step.text) steps = stepPath path (step :: steps) := by
  cases steps with
  | nil => simp [stepPath, Text.join, subpath]
  | cons => simp [stepPath, Text.join, subpath]

/-- Steps find the value of what the model holds behind them, at the path of the steps. -/
theorem partAt?_ofJson (h : root.partAt? steps = some value) :
    (ofJson path root).partAt? steps = some (ofJson (stepPath path steps) value) := by
  induction steps generalizing root path with
  | nil =>
      obtain rfl : root = value := Option.some.inj h
      rfl
  | cons step steps ih =>
      obtain ⟨next, hnext, hrest⟩ := Json.partAt?_cons_eq_some.1 h
      rw [partAt?, item?_ofJson hnext, Option.bind_some, ih hrest, stepPath_cons]

end Script.Value

/-! ## The values of a model -/

namespace Model

open Script

theorem declared?_of_get? {m : Model} {name : Text} {root : Json} (h : m.get? name = some root) :
    Value.declared? m.entries name = some (.ofJson name root) :=
  Option.map_eq_some_iff.2 ⟨root, h, rfl⟩

/-- Steps from a name of a model find the value of what the model holds behind them. An object there
has its own keys and no others; under another key it has a text that names its path. A placeholder
finds that object too, and no such property in it. A name that the model does not have means what it
means without the model. -/
theorem partAt?_declared (m : Model) :
    (∀ name root steps value, m.get? name = some root → root.partAt? steps = some value →
      (Value.declared? m.entries name).bind (·.partAt? steps) =
        some (.ofJson (stepPath name steps) value) ∧
      ∀ fields, value = .object fields →
        (Value.ofJson (stepPath name steps) value).items? =
          some (fields.map fun field => .ofText field.1) ∧
        (∀ key, Json.field? key fields = none →
          (Value.ofJson (stepPath name steps) value).item? (.ofText key) =
            some (.ofText (Value.missing key (stepPath name steps)))) ∧
        ((∀ key, Step.key key ∈ steps → IsSegment key) →
          root.resolve (Text.join ['.'] (steps.map Step.text)) = .found value ∧
          ∀ key, Json.field? key fields = none → IsSegment key →
            root.resolve (Text.join ['.'] (steps.map Step.text ++ [key])) =
              .noSuchProperty key)) ∧
    ∀ name, m.get? name = none →
      Value.declared? m.entries name = none ∧
      ∀ setting : Setting, setting.model = m.entries → setting.global? name = builtin? name := by
  constructor
  · intro name root steps value hroot hvalue
    constructor
    · rw [declared?_of_get? hroot, Option.bind_some, Value.partAt?_ofJson hvalue]
    · rintro fields rfl
      refine ⟨rfl, ?_, ?_⟩
      · intro key hkey
        exact Value.item?_of_undeclared hkey
      · intro hsteps
        have hsegments := Json.isSegment_text hsteps
        have hfollow := Json.follow_steps hvalue
        constructor
        · have hfound := hfollow []
          rw [List.append_nil] at hfound
          rw [Json.resolve_join hsegments, hfound]
          rfl
        · intro key hkey hsegment
          have hall : ∀ segment ∈ steps.map Step.text ++ [key], IsSegment segment := by
            intro segment hmem
            rcases List.mem_append.1 hmem with hmem | hmem
            · exact hsegments segment hmem
            · rwa [List.mem_singleton.1 hmem]
          rw [Json.resolve_join hall, hfollow [key]]
          simp [Json.follow, Json.isNull, Json.property?, hkey]
  · intro name hname
    have hdeclared : Value.declared? m.entries name = none := Option.map_eq_none_iff.2 hname
    refine ⟨hdeclared, ?_⟩
    intro setting hsetting
    rw [Setting.global?, hsetting, hdeclared, Option.none_or]

/-- The second item of a row has no price, for a template and for a placeholder. -/
theorem partAt?_declared_item :
    let second : Json := .object [("sku", .string "B2")]
    let root : Json := .object [("items", .array [.object [], second])]
    let m : Model := ⟨[("order", root)]⟩
    let steps : List Step := [.key "items", .position 1]
    root.partAt? steps = some second ∧
      (Value.declared? m.entries "order").bind (·.partAt? steps) =
        some (.ofJson "order.items.1" second) ∧
      (Value.ofJson "order.items.1" second).item? (.ofText "price") =
        some (.ofText "[Missing property 'price' on 'order.items.1']") ∧
      root.resolve "items.1" = .found second ∧
      root.resolve "items.1.price" = .noSuchProperty "price" ∧
      Value.declared? m.entries "price" = none := by
  intro second root m steps
  have hvalue : root.partAt? steps = some second := rfl
  have hsteps : ∀ key, Step.key key ∈ steps → IsSegment key := by
    intro key hkey
    obtain rfl : key = "items".toList := by simpa [steps] using hkey
    exact ⟨by decide, by decide⟩
  obtain ⟨hfind, hundeclared⟩ := partAt?_declared m
  obtain ⟨hpart, hobject⟩ := hfind "order" root steps second rfl hvalue
  obtain ⟨-, hmissing, hresolve⟩ := hobject _ rfl
  obtain ⟨hfound, hnone⟩ := hresolve hsteps
  exact ⟨hvalue, hpart, hmissing "price" rfl, hfound,
    hnone "price" rfl ⟨by decide, by decide⟩, (hundeclared "price" rfl).1⟩

end Model

end Phrasebook
