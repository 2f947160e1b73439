import Phrasebook.Json.Reader
import Phrasebook.Proofs.Text.Order

/-!
# The order of fields

The fields of an object that is read from text stand in the order of their keys, and no key stands
twice: every field is put in its place among those that were read before.
-/

namespace Phrasebook.Json

variable {fields : List (Text × Json)} {key : Text} {value : Json}

/-- Whether the fields of an object stand in the order of their keys, no two of which are equal. -/
def Ascending (fields : List (Text × Json)) : Prop := fields.Pairwise fun a b => a.1 < b.1

theorem field?_of_mem (h : Ascending fields) (hmem : (key, value) ∈ fields) :
    field? key fields = some value := by
  induction fields with
  | nil => cases hmem
  | cons field fields ih =>
      obtain ⟨hfirst, hrest⟩ := List.pairwise_cons.1 h
      rcases List.mem_cons.1 hmem with rfl | hmem
      · exact if_pos rfl
      · have hne : field.1 ≠ key := (hfirst _ hmem).ne
        exact (if_neg hne).trans (ih hrest hmem)

/-- A field with the greatest key is put at the end. -/
theorem putField_of_forall_lt (h : ∀ field ∈ fields, field.1 < key) :
    putField key value fields = fields ++ [(key, value)] := by
  induction fields with
  | nil => rfl
  | cons field fields ih =>
      have hcompare := (Text.compare_eq_gt_iff key field.1).2 (h field List.mem_cons_self)
      have hrest := ih fun other hother => h other (List.mem_cons_of_mem field hother)
      simp [putField, hcompare, hrest]

theorem mem_putField {field : Text × Json} (h : field ∈ putField key value fields) :
    field.1 = key ∨ field ∈ fields := by
  induction fields with
  | nil =>
      rw [List.mem_singleton.1 h]
      exact .inl rfl
  | cons first fields ih =>
      rw [putField] at h
      split at h
      · rcases List.mem_cons.1 h with rfl | h
        · exact .inl rfl
        · exact .inr h
      · rcases List.mem_cons.1 h with rfl | h
        · exact .inl rfl
        · exact .inr (List.mem_cons_of_mem first h)
      · rcases List.mem_cons.1 h with rfl | h
        · exact .inr List.mem_cons_self
        · exact (ih h).imp_right (List.mem_cons_of_mem first)

theorem Ascending.putField (h : Ascending fields) (key : Text) (value : Json) :
    Ascending (putField key value fields) := by
  induction fields with
  | nil => exact List.pairwise_singleton _ _
  | cons first fields ih =>
      obtain ⟨hfirst, hrest⟩ := List.pairwise_cons.1 h
      rw [Json.putField]
      split
      · next hcompare =>
          have hless := (Text.compare_eq_lt_iff key first.1).1 hcompare
          refine List.pairwise_cons.2 ⟨?_, h⟩
          intro field hfield
          rcases List.mem_cons.1 hfield with rfl | hfield
          · exact hless
          · exact hless.trans (hfirst field hfield)
      · next hcompare =>
          obtain rfl := (Text.compare_eq_eq_iff key first.1).1 hcompare
          exact List.pairwise_cons.2 ⟨hfirst, hrest⟩
      · next hcompare =>
          have hgreater := (Text.compare_eq_gt_iff key first.1).1 hcompare
          refine List.pairwise_cons.2 ⟨?_, ih hrest⟩
          intro field hfield
          rcases mem_putField hfield with hkey | hfield
          · rwa [hkey]
          · exact hfirst field hfield

/-- Whether the own fields of a value are in order, if it is an object. -/
def IsSorted : Json → Prop
  | .object fields => Ascending fields
  | _ => True

/-! ## Reading -/

theorem bind_eq_ok_iff {ε α β : Type} {x : Except ε α} {f : α → Except ε β} {b : β} :
    (x >>= f) = .ok b ↔ ∃ a, x = .ok a ∧ f a = .ok b := by
  cases x <;> simp [bind, Except.bind]

theorem map_eq_ok_iff {ε α β : Type} {x : Except ε α} {f : α → β} {b : β} :
    x.map f = .ok b ↔ ∃ a, x = .ok a ∧ f a = b := by
  cases x <;> simp [Except.map]

theorem ascending_readFields {read : Text → Except Fault (Json × Text)} {size : Nat}
    {done : List (Text × Json)} {s rest : Text} (hdone : Ascending done)
    (h : readFields read size done s = .ok (fields, rest)) : Ascending fields := by
  induction size generalizing done s with
  | zero => cases h
  | succ size ih =>
      rw [readFields] at h
      obtain ⟨⟨key, s⟩, -, h⟩ := bind_eq_ok_iff.1 h
      obtain ⟨⟨item, s⟩, -, h⟩ := bind_eq_ok_iff.1 h
      obtain ⟨⟨more, s⟩, -, h⟩ := bind_eq_ok_iff.1 h
      have hput := hdone.putField key item
      dsimp only at h
      split at h
      · exact ih hput h
      · cases h
        exact hput

section Number

variable {negative : Bool} {n : Nat} {whole s rest : Text}

theorem isSorted_decimal {exponent : Int} (h : decimal negative n exponent = .ok value) :
    value.IsSorted := by
  unfold decimal at h
  split at h
  · cases h
    trivial
  · cases h

theorem isSorted_wholeNumber (h : wholeNumber negative n = .ok value) : value.IsSorted := by
  unfold wholeNumber at h
  split at h
  · exact isSorted_decimal h
  · split at h
    · cases h
      trivial
    · exact isSorted_decimal h

theorem isSorted_ofParts {fraction : Option Text} {exponent : Option Int}
    (h : ofParts negative whole fraction exponent = .ok value) : value.IsSorted := by
  unfold ofParts at h
  dsimp only at h
  split at h
  · exact isSorted_wholeNumber h
  · exact isSorted_decimal h

theorem isSorted_readNumberTail (h : readNumberTail negative whole s = .ok (value, rest)) :
    value.IsSorted := by
  unfold readNumberTail at h
  dsimp only at h
  split at h
  all_goals
    obtain ⟨⟨fraction, s⟩, -, h⟩ := bind_eq_ok_iff.1 h
    dsimp only at h
    split at h
  all_goals
    obtain ⟨⟨exponent, s⟩, -, h⟩ := bind_eq_ok_iff.1 h
    obtain ⟨number, hnumber, h⟩ := bind_eq_ok_iff.1 h
    cases h
    exact isSorted_ofParts hnumber

theorem isSorted_readNumber (h : readNumber negative s = .ok (value, rest)) : value.IsSorted := by
  unfold readNumber at h
  split at h
  · split at h
    · cases h
    · exact isSorted_readNumberTail h
  · obtain ⟨⟨whole, s⟩, -, h⟩ := bind_eq_ok_iff.1 h
    exact isSorted_readNumberTail h

end Number

theorem readWord_eq_ok {result : Json} {word s rest : Text}
    (h : readWord value word s = .ok (result, rest)) : result = value := by
  induction word generalizing s with
  | nil =>
      cases h
      rfl
  | cons c word ih =>
      cases s with
      | nil => cases h
      | cons d s =>
          rw [readWord] at h
          split at h
          · exact ih h
          · cases h

/-- An object is read into the order of its keys. -/
theorem isSorted_readValue {depth : Nat} {s rest : Text}
    (h : readValue depth s = .ok (value, rest)) : value.IsSorted := by
  unfold readValue at h
  split at h
  · cases h
  · rw [readWord_eq_ok h]
    trivial
  · rw [readWord_eq_ok h]
    trivial
  · rw [readWord_eq_ok h]
    trivial
  · exact isSorted_readNumber h
  · obtain ⟨_, -, h⟩ := map_eq_ok_iff.1 h
    cases h
    trivial
  · split at h
    · cases h
    · split at h
      · cases h
      · cases h
        trivial
      · obtain ⟨_, -, h⟩ := map_eq_ok_iff.1 h
        cases h
        trivial
  · split at h
    · cases h
    · split at h
      · cases h
      · cases h
        exact List.Pairwise.nil
      · obtain ⟨_, hfields, h⟩ := map_eq_ok_iff.1 h
        cases h
        exact ascending_readFields List.Pairwise.nil hfields
  · split at h
    · exact isSorted_readNumber h
    · cases h

theorem isSorted_of_parse {s : Text} (h : parse s = .ok value) : value.IsSorted := by
  unfold parse at h
  obtain ⟨⟨read, rest⟩, hread, h⟩ := bind_eq_ok_iff.1 h
  dsimp only at h
  split at h
  · cases h
    exact isSorted_readValue hread
  · cases h

end Phrasebook.Json
