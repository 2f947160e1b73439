import Phrasebook.Culture.Samples
import Phrasebook.Failure
import Phrasebook.Proofs.Json.Ascending
import Phrasebook.Script.Filter.Message

/-!
# Values of a model in a template and back

A value of a model that is put into a template and taken out again is the same value, so a format
gives it the text that a placeholder would give it. An object is taken out key by key, through what
the template itself can ask it for.
-/

namespace Phrasebook

namespace Json

theorem Integer.ofInt?_val (i : Integer) : Integer.ofInt? i.val = some i :=
  dif_pos ⟨i.le_val, i.val_lt⟩

end Json

namespace Script.Value

variable {path : Text} {fields : List (Text × Json)}

mutual

/-- A value of a model comes back as it went in: integers as integers, numbers with a fraction as
such, objects with the same fields. -/
theorem toJson?_ofJson (path : Text) : (value : Json) → (ofJson path value).toJson? = some value
  | .null => rfl
  | .bool _ => rfl
  | .integer i => by rw [ofJson, toJson?, Json.Integer.ofInt?_val, Option.map_some]
  | .float _ => rfl
  | .string _ => rfl
  | .array items => by rw [ofJson, toJson?, jsonItems?_ofItems, Option.map_some]
  | .object _ => rfl

theorem jsonItems?_ofItems (path : Text) (i : Nat) :
    (items : List Json) → jsonItems? (ofItems path i items) = some items
  | [] => rfl
  | item :: items => by
      rw [ofItems, jsonItems?, toJson?_ofJson, jsonItems?_ofItems]
      rfl

end

/-- The keys that a value goes through, each with what the value has under it. -/
def parts (v : Value) : List (Value × Value) :=
  (v.items?.getD []).map fun key => (key, (v.item? key).getD undefined)

theorem parts_record (h : Json.Ascending fields) :
    (record path fields).parts =
      fields.map fun field => (ofText field.1, ofJson (subpath path field.1) field.2) := by
  rw [parts, items?, Option.getD_some, List.map_map]
  apply List.map_congr_left
  intro field hfield
  have hvalue : Json.field? field.1 fields = some field.2 := Json.field?_of_mem h hfield
  simp [item?, ofText, property, hvalue]

/-- Fields that come in order are put one behind the other. -/
theorem jsonFields?_append {done : List (Text × Json)} (h : Json.Ascending (done ++ fields)) :
    jsonFields? done
      (fields.map fun field => (ofText field.1, ofJson (subpath path field.1) field.2)) =
      some (done ++ fields) := by
  induction fields generalizing done with
  | nil => simp [jsonFields?]
  | cons field fields ih =>
      have hless : ∀ other ∈ done, other.1 < field.1 := fun other hother =>
        (List.pairwise_append.1 h).2.2 other hother field List.mem_cons_self
      have hmoved : Json.Ascending ((done ++ [field]) ++ fields) := by simpa using h
      have hrest := ih hmoved
      rw [List.map_cons, jsonFields?, toJson?_ofJson]
      calc
        _ = jsonFields? (Json.putField field.1 field.2 done) _ := rfl
        _ = some (done ++ [field] ++ fields) := by rw [Json.putField_of_forall_lt hless, hrest]
        _ = some (done ++ field :: fields) := by rw [List.append_assoc, List.singleton_append]

/-- An object is taken out key by key. -/
theorem toJson?_record (h : Json.Ascending fields) :
    (record path fields).toJson? = (map (record path fields).parts).toJson? := by
  have hfields : jsonFields? []
      (fields.map fun field => (ofText field.1, ofJson (subpath path field.1) field.2)) =
        some fields := jsonFields?_append h
  rw [parts_record h, toJson?, toJson?, hfields, Option.map_some]

end Script.Value

namespace Script.Filter

/-- The filter gives what the format of the locale gives. -/
theorem localized_of_toJson? [LocaleData] {v : Value} {value : Json} (h : v.toJson? = some value)
    (locale : Locale) (format : Text) :
    localized locale v ⟨[.ofText format], []⟩ =
      match value.format format locale with
      | some (.ok text) => .ok (.ofText text)
      | some (.error e) => .error (.unformattable e)
      | none => .error .endless := by
  unfold localized
  rw [h]
  rfl

/-- A value of a model comes back out of a template as it is, an object key by key. So the filter
for formats gives the text that the value has in the format; where it has none, the operation is
invalid and the report is that of the format, and where formatting does not end, neither does the
filter. -/
theorem localized_ofJson [LocaleData] (locale : Locale) (path format : Text) (value : Json) :
    (Value.ofJson path value).toJson? = some value ∧
    (∀ fields, value = .object fields → Json.Ascending fields →
      (Value.ofJson path value).toJson? = (Value.map (Value.ofJson path value).parts).toJson?) ∧
    match value.format format locale with
    | some (.ok text) =>
      localized locale (.ofJson path value) ⟨[.ofText format], []⟩ = .ok (.ofText text)
    | some (.error e) =>
      ∃ fault, localized locale (.ofJson path value) ⟨[.ofText format], []⟩ = .error fault ∧
        fault.kind = .invalidOperation ∧ Failure.scriptReason fault = e.message
    | none => localized locale (.ofJson path value) ⟨[.ofText format], []⟩ = .error .endless := by
  refine ⟨Value.toJson?_ofJson path value, ?_, ?_⟩
  · rintro fields rfl hfields
    exact Value.toJson?_record hfields
  · have hlocalized := localized_of_toJson? (Value.toJson?_ofJson path value) locale format
    split
    · next text hformat => rw [hlocalized, hformat]
    · next e hformat =>
        rw [hformat] at hlocalized
        exact ⟨.unformattable e, hlocalized, rfl, rfl⟩
    · next hformat => rw [hlocalized, hformat]

/-- An object of two fields is shown as JSON text, whatever the format. -/
theorem localized_ofJson_object :
    let fields : List (Text × Json) :=
      [("count", .integer ⟨5, by decide, by decide⟩), ("name", .string "Ada")]
    let v := Value.ofJson "customer" (.object fields)
    Json.Ascending fields ∧ v.toJson? = (Value.map v.parts).toJson? ∧
      localized .invariant v ⟨[.ofText "N2"], []⟩ =
        .ok (.ofText "\x7b\"count\":5,\"name\":\"Ada\"\x7d") := by
  intro fields v
  have hfields : Json.Ascending fields := by
    refine List.pairwise_cons.2 ⟨?_, List.pairwise_singleton _ _⟩
    intro field hfield
    rw [List.mem_singleton.1 hfield]
    exact (Text.compare_eq_lt_iff _ _).1 (by decide)
  have hformat : (Json.object fields).format "N2" .invariant =
      some (.ok "\x7b\"count\":5,\"name\":\"Ada\"\x7d") := by decide
  obtain ⟨-, hparts, htext⟩ :=
    localized_ofJson .invariant "customer" "N2" (.object fields)
  rw [hformat] at htext
  exact ⟨hfields, hparts fields rfl hfields, htext⟩

end Script.Filter

end Phrasebook
