import Phrasebook.Format.Value
import Phrasebook.Inflection.English
import Phrasebook.Script.Filter.Text

/-!
# Filters for messages

Word forms, and values in the formats of a locale.
-/

namespace Phrasebook.Script

namespace Filter

def ofWord (f : Text → Text) : Filter := fun v args => do
  let word ← v.asString
  Arguments.atMost 0 args.all
  return .ofText (f word)

def inflect : Filter := fun v args => do
  let word ← v.asString
  let count ← required Value.asInt args.all[0]?
  Arguments.atMost 1 args.all
  return .ofText (Inflection.inflect word count)

def localized [LocaleData] (locale : Locale) : Filter := fun v args => do
  let format ← required Value.asText args.all[0]?
  Arguments.atMost 1 args.all
  match v.toJson? with
  | none => .error .invalidOperation
  | some value =>
    match value.format format locale with
    | some (.ok text) => return .ofText text
    | some (.error e) => .error (.unformattable e)
    | none => .error .endless

/-- The value itself, or a default for what is undefined; on demand for all that is not true. -/
def default : Filter := fun v args => do
  let other := (← optional Value.asValue args.all[0]?).getD (.ofText [])
  let lax := (← optional Value.asBool args.all[1]?).getD false
  Arguments.atMost 2 args.all
  return match v with
    | .undefined => other
    | v => if lax && !v.isTrue then other else v

def attr : Filter := fun v args => do
  let key ← required Value.asValue args.all[0]?
  Arguments.atMost 1 args.all
  v.item key

end Filter

end Phrasebook.Script
