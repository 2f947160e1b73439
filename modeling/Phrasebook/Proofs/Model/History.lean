import Phrasebook.Model
import Phrasebook.Proofs.Json.Ascending
import Phrasebook.Proofs.Text.Pieces

/-!
# Filling a model

A model is filled by storing values and by taking over whole objects. What it holds is settled by
what has been stored since the last object was taken over: the last value under every key, the keys
in the order in which they came first. What fails changes nothing.
-/

namespace Phrasebook

namespace Json

/-- Whether no model can be made of a value: it is not an object, or one of its own keys is
empty. -/
def IsNoModel (value : Json) : Prop :=
  (∀ fields, value ≠ .object fields) ∨
    ∃ fields, value = .object fields ∧ [] ∈ fields.map Prod.fst

/-- The fields of which a model is made. -/
def modelFields? : Json → Option (List (Text × Json))
  | .object fields => if fields.any (·.1.isEmpty) then none else some fields
  | _ => none

theorem any_isEmpty_iff {fields : List (Text × Json)} :
    fields.any (·.1.isEmpty) = true ↔ [] ∈ fields.map Prod.fst := by
  simp only [List.any_eq_true, List.isEmpty_iff, List.mem_map]

theorem modelFields?_eq_none_iff {value : Json} : value.modelFields? = none ↔ value.IsNoModel := by
  cases value <;> simp [modelFields?, IsNoModel]

theorem modelFields?_eq_some_iff {value : Json} {fields : List (Text × Json)} :
    value.modelFields? = some fields ↔ value = .object fields ∧ [] ∉ fields.map Prod.fst := by
  cases value with
  | object own =>
      rw [modelFields?, Option.ite_none_left_eq_some, any_isEmpty_iff, Option.some.injEq,
        Json.object.injEq]
      constructor
      · rintro ⟨hkeys, rfl⟩
        exact ⟨rfl, hkeys⟩
      · rintro ⟨rfl, hkeys⟩
        exact ⟨hkeys, rfl⟩
  | _ => simp [modelFields?]

end Json

namespace Model

/-- A change of a model: a value is stored under a key, in place or while the model is built up, or
the model is replaced by a value or by what a text holds. -/
inductive Change
  | insert (key : Text) (value : Json)
  | ofJson (value : Json)
  | parse (s : Text)

namespace Change

/-- Whether a change leaves nothing of what was there. -/
def Replaces : Change → Prop
  | insert _ _ => False
  | ofJson _ | parse _ => True

instance : (change : Change) → Decidable change.Replaces
  | insert _ _ => inferInstanceAs (Decidable False)
  | ofJson _ | parse _ => inferInstanceAs (Decidable True)

def Fails : Change → Prop
  | insert key _ => key = []
  | ofJson value => value.IsNoModel
  | parse s =>
    (¬ ∀ c ∈ s, Text.isBlank c = true) ∧
      ((∃ fault, Json.parse s = .error fault) ∨
        ∃ value, Json.parse s = .ok value ∧ value.IsNoModel)

/-- The fields that a change stores, one after another, if it does not fail. -/
def fields? : Change → Option (List (Text × Json))
  | insert key value => if key = [] then none else some [(key, value)]
  | ofJson value => value.modelFields?
  | parse s =>
    if s.all Text.isBlank then some []
    else (Json.parse s).toOption.bind Json.modelFields?

/-- Whether the value of a change has its own keys in order, as every value has that is read. -/
def IsSorted : Change → Prop
  | ofJson value => value.IsSorted
  | insert _ _ | parse _ => True

theorem fields?_of_blank {s : Text} (h : ∀ c ∈ s, Text.isBlank c = true) :
    (parse s).fields? = some [] := by
  rw [fields?, if_pos (List.all_eq_true.2 h)]

theorem fields?_of_parse {s : Text} (h : ¬ ∀ c ∈ s, Text.isBlank c = true) {value : Json}
    (hparse : Json.parse s = .ok value) : (parse s).fields? = value.modelFields? := by
  rw [fields?, if_neg (mt List.all_eq_true.1 h), hparse]
  rfl

theorem fields?_of_error {s : Text} (h : ¬ ∀ c ∈ s, Text.isBlank c = true) {fault : Json.Fault}
    (hparse : Json.parse s = .error fault) : (parse s).fields? = none := by
  rw [fields?, if_neg (mt List.all_eq_true.1 h), hparse]
  rfl

/-- What is stored by reading a text: nothing if it is blank, or else the fields that it holds. -/
theorem eq_nil_or_exists_parse {s : Text} {fields : List (Text × Json)}
    (h : (parse s).fields? = some fields) :
    ((∀ c ∈ s, Text.isBlank c = true) ∧ fields = []) ∨
      (¬ ∀ c ∈ s, Text.isBlank c = true) ∧
        ∃ value, Json.parse s = .ok value ∧ value.modelFields? = some fields := by
  by_cases hblank : ∀ c ∈ s, Text.isBlank c = true
  · rw [fields?_of_blank hblank, Option.some.injEq] at h
    exact .inl ⟨hblank, h.symm⟩
  · cases hparse : Json.parse s with
    | error fault =>
        rw [fields?_of_error hblank hparse] at h
        cases h
    | ok value =>
        rw [fields?_of_parse hblank hparse] at h
        exact .inr ⟨hblank, value, rfl, h⟩

theorem fields?_eq_none_iff {change : Change} : change.fields? = none ↔ change.Fails := by
  cases change with
  | insert key value => simp [fields?, Fails]
  | ofJson value => exact Json.modelFields?_eq_none_iff
  | parse s =>
      rw [Fails]
      by_cases hblank : ∀ c ∈ s, Text.isBlank c = true
      · rw [fields?_of_blank hblank]
        exact iff_of_false nofun fun h => h.1 hblank
      · cases hparse : Json.parse s with
        | error fault => simp [fields?_of_error hblank hparse, hblank]
        | ok value =>
            rw [fields?_of_parse hblank hparse, Json.modelFields?_eq_none_iff]
            simp [hblank]

end Change

/-- The model after a change, if it does not fail. -/
def attempt (m : Model) : Change → Except Unreadable Model
  | .insert key value => (m.insert key value).mapError .refused
  | .ofJson value => (ofJson value).mapError .refused
  | .parse s => Model.parse s

/-- The model after a change; one that fails leaves it as it is. -/
def apply (m : Model) (change : Change) : Model :=
  match m.attempt change with
  | .ok changed => changed
  | .error _ => m

/-- The empty model after changes. -/
def run (changes : List Change) : Model := changes.foldl apply empty

/-- What has been stored before and by a change, as far as it is not replaced. -/
def record (before : List (Text × Json)) (change : Change) : List (Text × Json) :=
  match change.fields? with
  | some fields => if change.Replaces then fields else before ++ fields
  | none => before

/-- What has been stored since the last replacement, one field after another. -/
def stored (changes : List Change) : List (Text × Json) := changes.foldl record []

/-! ## Storing fields -/

section Put

variable {entries fields : List (Text × Json)} {key other : Text} {value : Json}

/-- The entries after fields have been put one after another. -/
def putAll (entries fields : List (Text × Json)) : List (Text × Json) :=
  fields.foldl (fun entries field => put field.1 field.2 entries) entries

theorem putAll_cons (entries : List (Text × Json)) (field : Text × Json)
    (fields : List (Text × Json)) :
    putAll entries (field :: fields) = putAll (put field.1 field.2 entries) fields := rfl

theorem putAll_append (entries fields more : List (Text × Json)) :
    putAll entries (fields ++ more) = putAll (putAll entries fields) more :=
  List.foldl_append

theorem keys_put : (put key value entries).map Prod.fst =
    if key ∈ entries.map Prod.fst then entries.map Prod.fst
    else entries.map Prod.fst ++ [key] := by
  induction entries with
  | nil => rfl
  | cons entry entries ih =>
      obtain ⟨k, v⟩ := entry
      by_cases hkey : k = key
      · simp [put, hkey]
      · simp only [put, hkey, if_false, List.map_cons, ih, List.mem_cons, Ne.symm hkey, false_or]
        split <;> rfl

theorem field?_put : Json.field? other (put key value entries) =
    if key = other then some value else Json.field? other entries := by
  induction entries with
  | nil => rfl
  | cons entry entries ih =>
      obtain ⟨k, v⟩ := entry
      by_cases hkey : k = key
      · subst hkey
        by_cases hother : k = other <;> simp [put, Json.field?, hother]
      · rw [put, if_neg hkey, Json.field?, Json.field?, ih]
        by_cases hother : k = other
        · have hne : key ≠ other := fun h => hkey (hother.trans h.symm)
          simp [hother, hne]
        · simp [hother]

theorem eraseDups_append_singleton {α : Type} [BEq α] [LawfulBEq α] (as : List α) (a : α) :
    (as ++ [a]).eraseDups = if a ∈ as then as.eraseDups else as.eraseDups ++ [a] := by
  rw [List.eraseDups_append]
  by_cases h : a ∈ as <;> simp [List.removeAll, List.eraseDups_cons, h]

/-- The keys stand in the order in which they came first. -/
theorem keys_putAll (fields : List (Text × Json)) :
    (putAll [] fields).map Prod.fst = (fields.map Prod.fst).eraseDups := by
  induction fields using List.reverseRecOn with
  | nil => rfl
  | append_singleton fields field ih =>
      rw [putAll_append, putAll, List.foldl_cons, List.foldl_nil, keys_put, ih,
        List.map_append, List.map_singleton, eraseDups_append_singleton]
      simp only [List.mem_eraseDups]

/-- Under every key there is what was put there last. -/
theorem field?_putAll (key : Text) (fields : List (Text × Json)) :
    Json.field? key (putAll [] fields) =
      ((fields.filter (·.1 = key)).getLast?).map Prod.snd := by
  induction fields using List.reverseRecOn with
  | nil => rfl
  | append_singleton fields field ih =>
      rw [putAll_append, putAll, List.foldl_cons, List.foldl_nil, field?_put, ih,
        List.filter_append]
      by_cases hkey : field.1 = key <;> simp [hkey]

theorem nodup_keys_putAll (fields : List (Text × Json)) :
    ((putAll [] fields).map Prod.fst).Nodup := by
  induction fields using List.reverseRecOn with
  | nil => exact List.nodup_nil
  | append_singleton fields field ih =>
      rw [putAll_append, putAll, List.foldl_cons, List.foldl_nil, keys_put]
      split
      · exact ih
      · next hkey =>
          rw [← List.concat_eq_append]
          exact ih.concat hkey

theorem eraseDups_eq_self {α : Type} [BEq α] [LawfulBEq α] {as : List α} (h : as.Nodup) :
    as.eraseDups = as := by
  induction as using List.reverseRecOn with
  | nil => rfl
  | append_singleton as a ih =>
      have hnotMem : a ∉ as := fun ha => (List.nodup_append.1 h).2.2 a ha a (by simp) rfl
      rw [eraseDups_append_singleton, if_neg hnotMem, ih h.of_append_left]

/-- Storing fields succeeds exactly if none of the keys is empty. -/
theorem insertAll_eq (m : Model) (fields : List (Text × Json)) :
    m.insertAll fields =
      if [] ∈ fields.map Prod.fst then .error .emptyKey
      else .ok ⟨putAll m.entries fields⟩ := by
  induction fields generalizing m with
  | nil => rfl
  | cons field fields ih =>
      obtain ⟨key, value⟩ := field
      cases key with
      | nil => rfl
      | cons c key =>
          have hinsert : m.insert (c :: key) value = .ok ⟨put (c :: key) value m.entries⟩ := rfl
          rw [insertAll, hinsert]
          have hrest := ih ⟨put (c :: key) value m.entries⟩
          simpa only [List.map_cons, List.mem_cons, reduceCtorEq, false_or, putAll_cons] using hrest

end Put

/-! ## Changes -/

variable {m : Model} {change : Change} {changes : List Change} {fields : List (Text × Json)}

theorem ofJson_of_modelFields? {value : Json} (h : value.modelFields? = some fields) :
    ofJson value = .ok ⟨putAll [] fields⟩ := by
  obtain ⟨rfl, hkeys⟩ := Json.modelFields?_eq_some_iff.1 h
  rw [ofJson, insertAll_eq, if_neg hkeys]
  rfl

theorem exists_ofJson_eq_error {value : Json} (h : value.IsNoModel) :
    ∃ r, ofJson value = .error r := by
  rcases h with hobject | ⟨fields, rfl, hkeys⟩
  · cases value with
    | object fields => exact (hobject fields rfl).elim
    | _ => exact ⟨_, rfl⟩
  · exact ⟨.emptyKey, by rw [ofJson, insertAll_eq, if_pos hkeys]⟩

theorem attempt_of_fields? (m : Model) (h : change.fields? = some fields) :
    m.attempt change = .ok ⟨putAll (if change.Replaces then [] else m.entries) fields⟩ := by
  cases change with
  | insert key value =>
      simp only [Change.fields?, Option.ite_none_left_eq_some, Option.some.injEq] at h
      obtain ⟨hkey, rfl⟩ := h
      simp [attempt, insert, hkey, Change.Replaces, putAll, Except.mapError]
  | ofJson value =>
      rw [attempt, ofJson_of_modelFields? h]
      rfl
  | parse s =>
      rw [attempt, Model.parse]
      rcases Change.eq_nil_or_exists_parse h with ⟨hblank, rfl⟩ | ⟨hblank, value, hparse, hvalue⟩
      · rw [Text.trim_eq_nil_iff.2 hblank]
        rfl
      · have htrim := mt Text.trim_eq_nil_iff.1 hblank
        simp [htrim, hparse, ofJson_of_modelFields? hvalue, Change.Replaces, Except.mapError]

theorem exists_attempt_eq_error (m : Model) (h : change.Fails) :
    ∃ e, m.attempt change = .error e := by
  cases change with
  | insert key value =>
      obtain rfl : key = [] := h
      exact ⟨_, rfl⟩
  | ofJson value =>
      obtain ⟨r, hr⟩ := exists_ofJson_eq_error h
      exact ⟨.refused r, by rw [attempt, hr]; rfl⟩
  | parse s =>
      obtain ⟨hblank, h⟩ := h
      have htrim := mt Text.trim_eq_nil_iff.1 hblank
      rcases h with ⟨fault, hparse⟩ | ⟨value, hparse, hvalue⟩
      · exact ⟨.json fault, by simp [attempt, Model.parse, htrim, hparse]⟩
      · obtain ⟨r, hr⟩ := exists_ofJson_eq_error hvalue
        exact ⟨.refused r, by simp [attempt, Model.parse, htrim, hparse, hr, Except.mapError]⟩

theorem exists_attempt_eq_error_iff : (∃ e, m.attempt change = .error e) ↔ change.Fails := by
  refine ⟨fun ⟨e, he⟩ => ?_, exists_attempt_eq_error m⟩
  cases hfields : change.fields? with
  | none => exact Change.fields?_eq_none_iff.1 hfields
  | some fields =>
      rw [attempt_of_fields? m hfields] at he
      cases he

theorem apply_of_fails (h : change.Fails) : m.apply change = m := by
  obtain ⟨e, he⟩ := exists_attempt_eq_error m h
  rw [apply, he]

theorem run_append_singleton (changes : List Change) (change : Change) :
    run (changes ++ [change]) = (run changes).apply change :=
  List.foldl_append

theorem stored_append_singleton (changes : List Change) (change : Change) :
    stored (changes ++ [change]) = record (stored changes) change :=
  List.foldl_append

/-- The entries of a model are what has been stored, put one after another. -/
theorem entries_run (changes : List Change) :
    (run changes).entries = putAll [] (stored changes) := by
  induction changes using List.reverseRecOn with
  | nil => rfl
  | append_singleton changes change ih =>
      rw [run_append_singleton, stored_append_singleton, record]
      cases hfields : change.fields? with
      | none => rw [apply_of_fails (Change.fields?_eq_none_iff.1 hfields), ih]
      | some fields =>
          rw [apply, attempt_of_fields? _ hfields]
          by_cases hreplaces : change.Replaces
          · simp [hreplaces]
          · simp [hreplaces, ih, putAll_append]

theorem nil_notMem_of_fields? (h : change.fields? = some fields) :
    [] ∉ fields.map Prod.fst := by
  cases change with
  | insert key value =>
      simp only [Change.fields?, Option.ite_none_left_eq_some, Option.some.injEq] at h
      obtain ⟨hkey, rfl⟩ := h
      simpa using Ne.symm hkey
  | ofJson value => exact (Json.modelFields?_eq_some_iff.1 h).2
  | parse s =>
      rcases Change.eq_nil_or_exists_parse h with ⟨-, rfl⟩ | ⟨-, value, -, hvalue⟩
      · simp
      · exact (Json.modelFields?_eq_some_iff.1 hvalue).2

theorem nil_notMem_stored (changes : List Change) : [] ∉ (stored changes).map Prod.fst := by
  induction changes using List.reverseRecOn with
  | nil => simp [stored]
  | append_singleton changes change ih =>
      rw [stored_append_singleton, record]
      cases hfields : change.fields? with
      | none => exact ih
      | some fields =>
          have hnew := nil_notMem_of_fields? hfields
          by_cases hreplaces : change.Replaces
          · simpa [hreplaces] using hnew
          · simp only [hreplaces, if_false, List.map_append, List.mem_append, not_or]
            exact ⟨ih, hnew⟩

theorem ascending_of_modelFields? {value : Json} (hsorted : value.IsSorted)
    (h : value.modelFields? = some fields) : Json.Ascending fields := by
  obtain ⟨rfl, -⟩ := Json.modelFields?_eq_some_iff.1 h
  exact hsorted

theorem ascending_of_fields? (hreplaces : change.Replaces) (hsorted : change.IsSorted)
    (h : change.fields? = some fields) : Json.Ascending fields := by
  cases change with
  | insert key value => exact hreplaces.elim
  | ofJson value => exact ascending_of_modelFields? hsorted h
  | parse s =>
      rcases Change.eq_nil_or_exists_parse h with ⟨-, rfl⟩ | ⟨-, value, hparse, hvalue⟩
      · exact List.Pairwise.nil
      · exact ascending_of_modelFields? (Json.isSorted_of_parse hparse) hvalue

/-- After a replacement the keys are those of the object, in its order. -/
theorem keys_run_of_replaces (hreplaces : change.Replaces) (hsorted : change.IsSorted)
    (h : change.fields? = some fields) :
    (run (changes ++ [change])).keys = fields.map Prod.fst := by
  have hkeys : (fields.map Prod.fst).Pairwise (· < ·) :=
    List.pairwise_map.2 (ascending_of_fields? hreplaces hsorted h)
  have hstored : stored (changes ++ [change]) = fields := by
    rw [stored_append_singleton, record, h]
    exact if_pos hreplaces
  rw [keys, entries_run, keys_putAll, hstored, eraseDups_eq_self (hkeys.imp LT.lt.ne)]

/-- However a model has been filled, no key is empty and none stands twice. Under every key there is
what was stored there last since the last replacement, and the keys stand in the order in which they
were stored first, which is the order of their bytes right after a replacement. A change fails,
and then changes nothing, exactly for an empty key, or for a text that is neither blank nor JSON, or
for a value that is no object or has an empty key of its own. -/
theorem run_holds_stored (changes : List Change) :
    [] ∉ (run changes).keys ∧ (run changes).keys.Nodup ∧
    (∀ key, (run changes).get? key =
      (((stored changes).filter (·.1 = key)).getLast?).map Prod.snd) ∧
    (run changes).keys = ((stored changes).map Prod.fst).eraseDups ∧
    (∀ change : Change, change.Replaces → change.IsSorted → ¬ change.Fails →
      ((run (changes ++ [change])).keys.map Text.bytes).Pairwise (· < ·)) ∧
    ∀ change, ((∃ e, (run changes).attempt change = .error e) ↔ change.Fails) ∧
      (change.Fails → run (changes ++ [change]) = run changes) := by
  have hkeys : (run changes).keys = ((stored changes).map Prod.fst).eraseDups := by
    rw [keys, entries_run, keys_putAll]
  refine ⟨?_, ?_, fun key => ?_, hkeys, fun change hreplaces hsorted hfails => ?_,
    fun change => ⟨exists_attempt_eq_error_iff, fun h => ?_⟩⟩
  · rw [hkeys, List.mem_eraseDups]
    exact nil_notMem_stored changes
  · rw [keys, entries_run]
    exact nodup_keys_putAll _
  · rw [get?, entries_run, field?_putAll]
  · have hsome := mt Change.fields?_eq_none_iff.1 hfails
    obtain ⟨fields, hfields⟩ := Option.ne_none_iff_exists'.1 hsome
    have hascending := ascending_of_fields? hreplaces hsorted hfields
    rw [keys_run_of_replaces hreplaces hsorted hfields]
    refine List.pairwise_map.2 (List.pairwise_map.2 ?_)
    exact hascending.imp Text.bytes_lt_bytes
  · rw [run_append_singleton, apply_of_fails h]

/-- Storing a value anew keeps its place among the keys that were read, and an empty key below them
is no fault. -/
theorem run_holds_stored_reading :
    let changes : List Change := [.insert "old" .null,
      .parse "\x7b\"z\": null, \"a\": \x7b\"\": \"\"\x7d\x7d", .insert "m" .null,
      .insert "z" (.bool true), .insert [] .null, .parse "\x7b\"\": null\x7d"]
    let change : Change := .ofJson (.object [("Z", .null), ("a", .null), ("é", .null)])
    (run changes).keys = ["a", "z", "m"] ∧ (run changes).get? "z" = some (.bool true) ∧
      (∃ e, (run changes).attempt (.insert [] .null) = .error e) ∧
      run (changes ++ [.insert [] .null]) = run changes ∧
      change.Replaces ∧ change.IsSorted ∧ ¬ change.Fails ∧
      ((run (changes ++ [change])).keys.map Text.bytes).Pairwise (· < ·) := by
  intro changes change
  have hreplaces : change.Replaces := trivial
  have hsorted : change.IsSorted := by
    change Json.Ascending _
    unfold Json.Ascending
    decide
  have hfails : ¬ change.Fails := by
    rw [← Change.fields?_eq_none_iff]
    nofun
  obtain ⟨-, -, hget, hkeys, hbytes, hchange⟩ := run_holds_stored changes
  have hlast : ((stored changes).filter (·.1 = "z".toList)).getLast?.map Prod.snd =
      some (.bool true) := by rfl
  have hfirst : ((stored changes).map Prod.fst).eraseDups = ["a", "z", "m"] := by
    decide +kernel
  obtain ⟨hempty, hsame⟩ := hchange (.insert [] .null)
  exact ⟨hkeys.trans hfirst, (hget "z").trans hlast, hempty.2 rfl, hsame rfl, hreplaces, hsorted,
    hfails, hbytes change hreplaces hsorted hfails⟩

end Model

end Phrasebook
