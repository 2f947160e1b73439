import Phrasebook.Culture.Samples
import Phrasebook.Proofs.Script.Reading
import Phrasebook.Proofs.Script.Steps
import Phrasebook.Renderer

/-!
# Attributes that an object does not have

The text in place of an attribute that an object does not have is itself a value. An attribute of
that text is undefined, and an undefined value has no attributes to ask for. So how many attributes
stand behind the missing one decides whether an output shows it.
-/

namespace Phrasebook

namespace Script

variable {setting : Setting} {invoke : Invoke} {e : Expr} {v : Value} {scopes : List Scope}
  {fault : Fault} {name path : Text} {names : List Text} {root value : Json}

/-! ## Evaluating attributes -/

theorem partOf_of_item? {key part : Value} (h : v.item? key = some part) :
    partOf v key scopes = .ok (part, scopes) := by
  unfold partOf
  split
  · simp [Value.item?] at h
  · simp [Run.lift, Value.item, h]

theorem evaluate_member [LocaleData] (h : evaluate setting invoke e scopes = .ok (v, scopes))
    (name : Text) :
    evaluate setting invoke (.member e name) scopes = partOf v (.ofText name) scopes := by
  simp only [evaluate, bind, StateT.bind, h, Except.bind]

theorem evaluate_attributes_of_error [LocaleData]
    (h : evaluate setting invoke e scopes = .error fault) (names : List Text) :
    evaluate setting invoke (attributes e names) scopes = .error fault := by
  induction names generalizing e with
  | nil => exact h
  | cons name names ih =>
      apply ih
      simp only [evaluate, bind, StateT.bind, h, Except.bind]

theorem attributes_append (e : Expr) (names others : List Text) :
    attributes e (names ++ others) = attributes (attributes e names) others :=
  List.foldl_append

/-- Attributes that the model has are found at their path. -/
theorem evaluate_attributes_of_partAt? [LocaleData]
    (h : evaluate setting invoke e scopes = .ok (.ofJson path root, scopes))
    (hvalue : root.partAt? (names.map .key) = some value) :
    evaluate setting invoke (attributes e names) scopes =
      .ok (.ofJson (stepPath path (names.map .key)) value, scopes) := by
  induction names generalizing e path root with
  | nil =>
      obtain rfl : root = value := Option.some.inj hvalue
      exact h
  | cons name names ih =>
      obtain ⟨next, hnext, hrest⟩ := Json.partAt?_cons_eq_some.1 hvalue
      have hitem : (Value.ofJson path root).item? (.ofText name) =
          some (.ofJson (Value.subpath path name) next) := Value.item?_ofJson hnext
      have hmember : evaluate setting invoke (.member e name) scopes =
          .ok (.ofJson (Value.subpath path name) next, scopes) := by
        rw [evaluate_member h, partOf_of_item? hitem]
      rw [List.map_cons, ← Value.stepPath_cons]
      exact ih hmember hrest

/-- What attributes of a text give, each asked of the one before: the first of them is undefined,
and an undefined value has none. -/
def behindText (s : Text) : List Text → Except Fault Value
  | [] => .ok (.ofText s)
  | [_] => .ok .undefined
  | _ :: _ :: _ => .error .undefinedValue

theorem behindText_ne_endless (s : Text) (names : List Text) :
    behindText s names ≠ .error .endless := by
  unfold behindText
  split <;> nofun

theorem evaluate_attributes_ofText [LocaleData] {s : Text}
    (h : evaluate setting invoke e scopes = .ok (.ofText s, scopes)) (names : List Text) :
    evaluate setting invoke (attributes e names) scopes =
      (behindText s names).map (·, scopes) := by
  cases names with
  | nil => exact h
  | cons first names =>
      have hundefined : evaluate setting invoke (.member e first) scopes =
          .ok (.undefined, scopes) := by
        rw [evaluate_member h]
        rfl
      cases names with
      | nil => exact hundefined
      | cons second names =>
          have herror : evaluate setting invoke (.member (.member e first) second) scopes =
              .error .undefinedValue := by
            rw [evaluate_member hundefined]
            rfl
          exact evaluate_attributes_of_error herror names

/-- An attribute that an object does not have is the text that says so. -/
theorem evaluate_member_of_undeclared [LocaleData] {fields : List (Text × Json)}
    (h : evaluate setting invoke e scopes = .ok (.ofJson path (.object fields), scopes))
    (hname : Json.field? name fields = none) :
    evaluate setting invoke (.member e name) scopes =
      .ok (.ofText (Value.missing name path), scopes) := by
  rw [evaluate_member h, partOf_of_item? (Value.item?_of_undeclared hname)]

/-! ## Rendering an output -/

theorem lookup?_outermost (name : Text) : Scope.lookup? name [⟨[], none, 0⟩] = none := by
  simp [Scope.lookup?, Scope.findVisible?, Scope.local?]

theorem evaluate_name [LocaleData] (setting : Setting) (invoke : Invoke) (name : Text) :
    evaluate setting invoke (.name name) [⟨[], none, 0⟩] =
      .ok ((setting.global? name).getD .undefined, [⟨[], none, 0⟩]) := by
  simp only [evaluate, Setting.lookup?, bind, StateT.bind, Except.bind, lookup?_outermost,
    Option.none_or]
  rfl

theorem renderWith_output [LocaleData] (setting : Setting) (e : Expr) :
    renderWith setting [.output e] =
      (evaluate setting (invokeWithin setting callLimit) e [⟨[], none, 0⟩]).map (·.1.text) := by
  simp only [renderWith, executeAll, execute, bind, StateT.bind, Except.bind]
  cases evaluate setting (invokeWithin setting callLimit) e [⟨[], none, 0⟩] with
  | error fault => rfl
  | ok found =>
      have htext : found.1.text ++ [] = found.1.text := List.append_nil _
      exact congrArg Except.ok htext

end Script

namespace Renderer

open Script Script.Token

variable {name key : Text} {before after : List Text} {root : Json} {fields : List (Text × Json)}

theorem render_of_statementsOf [LocaleData] {template : Text} {statements : List Stmt}
    (h : statementsOf template = .ok statements) (hne : template ≠ []) (locale : Locale)
    (m : Model) :
    (script locale).render template m =
      ((⟨locale, statements⟩ : ScriptTemplate).render m).map (Except.mapError .failed) := by
  have hcompile : (script locale).compile template = .ok (.script ⟨locale, statements⟩) := by
    rw [compile, if_neg (by simpa using hne), ScriptTemplate.compile, h]
    rfl
  rw [render, hcompile]
  rfl

/-- An output of attributes is the text of the last of them. -/
theorem render_outputText [LocaleData] {result : Except Fault Value} (hname : IsName name)
    (hword : name ∉ leadingWords) (hnames : ∀ other ∈ names, IsName other) (locale : Locale)
    (m : Model)
    (h : ∀ blocks invoke, evaluate ⟨locale, m.entries, blocks⟩ invoke
      (attributes (.name name) names) [⟨[], none, 0⟩] = result.map (·, [⟨[], none, 0⟩]))
    (hends : result ≠ .error .endless) :
    (script locale).render (outputText name names) m =
      some ((result.map Value.text).mapError .failed) := by
  have hstatements := statementsOf_outputText hname hword hnames
  rw [render_of_statementsOf hstatements nofun, ScriptTemplate.render, renderWith_output, h]
  cases result with
  | ok found => rfl
  | error fault =>
      cases fault with
      | endless => exact absurd rfl hends
      | _ => rfl

theorem missing_ne_nil (name path : Text) : Value.missing name path ≠ [] :=
  nofun

/-- A chain of attributes of an object of the model, the first of which that is not there is `key`.
The output is the text that says so exactly if no attribute is asked for behind it: one attribute of
that text leaves nothing, and with two of them rendering fails. -/
theorem render_undeclared [LocaleData] (locale : Locale) (m : Model) (hname : IsName name)
    (hword : name ∉ leadingWords) (hkeys : ∀ other ∈ before ++ key :: after, IsName other)
    (hroot : m.get? name = some root)
    (hobject : root.partAt? (before.map .key) = some (.object fields))
    (hkey : Json.field? key fields = none) :
    ((script locale).render (outputText name (before ++ key :: after)) m =
        some (.ok (Value.missing key (stepPath name (before.map .key)))) ↔ after = []) ∧
    (after.length = 1 →
      (script locale).render (outputText name (before ++ key :: after)) m = some (.ok [])) ∧
    (2 ≤ after.length →
      (script locale).render (outputText name (before ++ key :: after)) m =
        some (.error (.failed .undefinedValue))) := by
  have hdeclared := Model.declared?_of_get? hroot
  have hstart (blocks) (invoke : Invoke) :
      evaluate ⟨locale, m.entries, blocks⟩ invoke (.name name) [⟨[], none, 0⟩] =
        .ok (.ofJson name root, [⟨[], none, 0⟩]) := by
    rw [evaluate_name, Setting.global?, hdeclared, Option.some_or, Option.getD_some]
  have hrun (blocks) (invoke : Invoke) :
      evaluate ⟨locale, m.entries, blocks⟩ invoke (attributes (.name name) (before ++ key :: after))
        [⟨[], none, 0⟩] =
          (behindText (Value.missing key (stepPath name (before.map .key))) after).map
            (·, [⟨[], none, 0⟩]) := by
    have howner := evaluate_attributes_of_partAt? (hstart blocks invoke) hobject
    rw [attributes_append]
    exact evaluate_attributes_ofText (evaluate_member_of_undeclared howner hkey) after
  rw [render_outputText hname hword hkeys locale m hrun (behindText_ne_endless _ _)]
  have hmarker := missing_ne_nil key (stepPath name (before.map .key))
  cases after with
  | nil => simp [behindText, Except.map, Except.mapError]
  | cons first after =>
      cases after with
      | nil => simp [behindText, Except.map, Except.mapError, hmarker.symm]
      | cons second after => simp [behindText, Except.map, Except.mapError]

/-- The last of two attributes is not there. -/
theorem render_undeclared_email :
    let m : Model := ⟨[("order", .object [("customer", .object [])])]⟩
    m.get? "order" = some (.object [("customer", .object [])]) ∧
      (script .invariant).render "\x7b\x7b order.customer.email \x7d\x7d" m =
        some (.ok "[Missing property 'email' on 'order.customer']") := by
  intro m
  have horder : IsName "order" := isName_of_all rfl rfl
  have hkeys : ∀ other ∈ ["customer".toList] ++ "email".toList :: [], IsName other := by
    simp only [List.mem_append, List.mem_singleton]
    rintro other (rfl | rfl)
    · exact isName_of_all rfl rfl
    · exact isName_of_all rfl rfl
  have hobject : (Json.object [("customer", .object [])]).partAt?
      (["customer".toList].map .key) = some (.object []) := rfl
  have hrender := render_undeclared .invariant m horder (by decide) hkeys rfl hobject rfl
  exact ⟨rfl, hrender.1.2 rfl⟩

/-- With one more attribute behind a missing one the output is empty, and with two more rendering
fails. -/
theorem render_undeclared_ne_missing :
    let m : Model := ⟨[("foo", .object [])]⟩
    (script .invariant).render "\x7b\x7b foo.a.b \x7d\x7d" m = some (.ok []) ∧
      (script .invariant).render "\x7b\x7b foo.a.b.c \x7d\x7d" m =
        some (.error (.failed .undefinedValue)) := by
  intro m
  have hfoo : IsName "foo" := isName_of_all rfl rfl
  have ha : IsName "a" := isName_of_all rfl rfl
  have hb : IsName "b" := isName_of_all rfl rfl
  have hc : IsName "c" := isName_of_all rfl rfl
  have hone : ∀ other ∈ ["a".toList, "b".toList], IsName other := by
    simp only [List.forall_mem_cons]
    exact ⟨ha, hb, nofun⟩
  have htwo : ∀ other ∈ ["a".toList, "b".toList, "c".toList], IsName other := by
    simp only [List.forall_mem_cons]
    exact ⟨ha, hb, hc, nofun⟩
  have hundefined (blocks) (invoke : Invoke) :
      evaluate ⟨.invariant, m.entries, blocks⟩ invoke (attributes (.name "foo") ["a", "b"])
        [⟨[], none, 0⟩] = (Except.ok Value.undefined).map (·, [⟨[], none, 0⟩]) := rfl
  have herror (blocks) (invoke : Invoke) :
      evaluate ⟨.invariant, m.entries, blocks⟩ invoke (attributes (.name "foo") ["a", "b", "c"])
        [⟨[], none, 0⟩] = (Except.error .undefinedValue).map (·, [⟨[], none, 0⟩]) := rfl
  exact ⟨render_outputText hfoo (by decide) hone .invariant m hundefined nofun,
    render_outputText hfoo (by decide) htwo .invariant m herror nofun⟩

end Renderer

end Phrasebook
