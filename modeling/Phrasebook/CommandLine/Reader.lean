import Phrasebook.CommandLine.Basic

/-!
# Reading the command line

The words behind the name of a command are read one after another. An option that takes a value
waits for it until the next option or name is settled, so that a word that is not known is reported
before a value that is not.
-/

namespace Phrasebook

namespace CommandLine

/-- Why there is no command. -/
inductive Fault
  /-- Help is asked for. -/
  | help
  /-- The version is asked for. -/
  | version
  | noCommand
  | unknownCommand
  | noName
  | unknownArgument
  | unusableValue
  | surplusValue
  /-- An option is given twice, or together with one that excludes it. -/
  | conflict
deriving DecidableEq, Repr

/-! ## Options -/

inductive Flag
  | configFolder
  | resources
  | locale
  | verbose
  | engine
  | defaultValue
  | model
  | modelFile
  | help
deriving DecidableEq, Repr

namespace Flag

def name : Flag → Text
  | configFolder => "config-dir"
  | resources => "resources"
  | locale => "locale"
  | verbose => "verbose"
  | engine => "engine"
  | defaultValue => "default-value"
  | model => "model"
  | modelFile => "model-file"
  | help => "help"

def letter? : Flag → Option Char
  | resources => some 'r'
  | locale => some 'l'
  | verbose => some 'v'
  | engine => some 'e'
  | model => some 'm'
  | help => some 'h'
  | configFolder | defaultValue | modelFile => none

def takesValue : Flag → Bool
  | verbose | help => false
  | _ => true

def accepts (value : Text) : Flag → Bool
  | configFolder | resources | modelFile => !value.isEmpty
  | engine => (Engine.ofName? value).isSome
  | _ => true

end Flag

inductive Verb
  | render
  | locate
deriving DecidableEq, Repr

namespace Verb

def name : Verb → Text
  | render => "render"
  | locate => "locate"

def ofName? (s : Text) : Option Verb := [render, locate].find? (·.name = s)

def sharedFlags : List Flag := [.configFolder, .resources, .locale, .verbose, .help]

def flags : Verb → List Flag
  | locate => sharedFlags
  | render => sharedFlags ++ [.engine, .defaultValue, .model, .modelFile]

def flagOfName? (verb : Verb) (s : Text) : Option Flag := verb.flags.find? (·.name = s)

def flagOfLetter? (verb : Verb) (c : Char) : Option Flag :=
  verb.flags.find? (·.letter? = some c)

end Verb

/-! ## Words -/

/-- What the words of a command have said so far. -/
structure Draft where
  name : Option Text := none
  values : List (Flag × Text) := []
  verbosity : Nat := 0
  /-- An option whose value has not been stored, and the value if it has been seen. -/
  waiting : Option (Flag × Option Text) := none

namespace Draft

def value? (d : Draft) (flag : Flag) : Option Text :=
  (d.values.find? (·.1 = flag)).map (·.2)

/-- Stores the value of an option, which must not have one. -/
def store (d : Draft) (flag : Flag) (value : Text) : Except Fault Draft :=
  if (d.value? flag).isSome then .error .conflict
  else if flag.accepts value then .ok { d with values := (flag, value) :: d.values }
  else .error .unusableValue

/-- Stores the value of the option that waits. -/
def settle (d : Draft) : Except Fault Draft :=
  match d.waiting with
  | none => .ok d
  | some (_, none) => .error .unusableValue
  | some (flag, some value) => { d with waiting := none }.store flag value

/-- The draft with an option that waits for its value. -/
def await (d : Draft) (flag : Flag) : Except Fault Draft := do
  return { ← d.settle with waiting := some (flag, none) }

def verbosityLimit : Nat := 255

/-- Counts an option that has no value, or stops for help. -/
def switch (d : Draft) (flag : Flag) : Except Fault Draft := do
  let d ← d.settle
  if flag = .help then throw .help
  return { d with verbosity := min (d.verbosity + 1) verbosityLimit }

def takeName (d : Draft) (word : Text) : Except Fault Draft := do
  if d.name.isSome then throw .unknownArgument
  return { ← d.settle with name := some word }

/-- Takes an option by its name, which a value may follow behind an equals sign. -/
def takeNamed (verb : Verb) (d : Draft) (s : Text) : Except Fault Draft :=
  let (name, value) :=
    match Text.cut? '=' s with
    | some (name, value) => (name, some value)
    | none => (s, none)
  match verb.flagOfName? name with
  | none => .error .unknownArgument
  | some flag =>
    if flag.takesValue then
      match value with
      | some value => do (← d.settle).store flag value
      | none => d.await flag
    else if value.isSome then .error .surplusValue
    else d.switch flag

/-- Takes a word of letters; what follows the letter of an option with a value is the value. -/
def takeLetters (verb : Verb) (d : Draft) : Text → Except Fault Draft
  | [] => .ok d
  | c :: s =>
    match verb.flagOfLetter? c with
    | none => .error .unknownArgument
    | some flag =>
      if flag.takesValue then
        if s.isEmpty then d.await flag
        else do (← d.settle).store flag ((Text.dropFront? ['='] s).getD s)
      else do takeLetters verb (← d.switch flag) s

def take (verb : Verb) (d : Draft) (word : Text) : Except Fault Draft :=
  match word with
  | '-' :: '-' :: s => d.takeNamed verb s
  | '-' :: c :: s => d.takeLetters verb (c :: s)
  | word =>
    match d.waiting with
    | some (flag, none) => .ok { d with waiting := some (flag, some word) }
    | _ => d.takeName word

/-- Takes all words; two dashes make names of all words behind them. -/
def takeAll (verb : Verb) (d : Draft) : List Text → Except Fault Draft
  | [] => d.settle
  | word :: words =>
    if word = ['-', '-'] then do (← words.foldlM takeName d).settle
    else do takeAll verb (← d.take verb word) words

def finish (verb : Verb) (d : Draft) : Except Fault Command :=
  if (d.value? .model).isSome ∧ (d.value? .modelFile).isSome then .error .conflict
  else
    match d.name with
    | none => .error .noName
    | some name =>
      let lookup : Lookup := {
        name := name
        configFolder := (d.value? .configFolder).getD ['.']
        resourceRoot := d.value? .resources
        locale := d.value? .locale
        verbosity := d.verbosity }
      match verb with
      | .locate => .ok (.locate lookup)
      | .render => .ok (.render lookup {
          engine := (d.value? .engine).bind Engine.ofName?
          defaultValue := d.value? .defaultValue
          model := d.value? .model
          modelFile := d.value? .modelFile })

end Draft

/-! ## Commands -/

def helpWord : Text := "help"

def isCommandName (word : Text) : Bool := (Verb.ofName? word).isSome || word == helpWord

def helpAbout : List Text → Fault
  | [] => .help
  | [word] => if isCommandName word then .help else .unknownCommand
  | _ => .unknownCommand

/-- The outcome of an option in front of the command. -/
def outerOption (word : Text) : Fault :=
  match word with
  | '-' :: '-' :: s =>
    let isKnown (name : Text) : Bool := name == "help".toList || name == "version".toList
    match Text.cut? '=' s with
    | some (name, _) => if isKnown name then .surplusValue else .unknownArgument
    | none =>
      if s = "help".toList then .help else if s = "version".toList then .version
      else .unknownArgument
  | '-' :: 'h' :: _ => .help
  | '-' :: 'V' :: _ => .version
  | '-' :: _ :: _ => .unknownArgument
  | _ => .unknownCommand

def parse : List Text → Except Fault Command
  | [] => .error .noCommand
  | word :: words =>
    match Verb.ofName? word with
    | some verb => do (← Draft.takeAll verb {} words).finish verb
    | none =>
      if word = helpWord then .error (helpAbout words)
      else if word = ['-', '-'] then
        match words with
        | [] => .error .noCommand
        | word :: _ => .error (if isCommandName word then .unknownArgument else .unknownCommand)
      else .error (outerOption word)

end CommandLine

end Phrasebook
