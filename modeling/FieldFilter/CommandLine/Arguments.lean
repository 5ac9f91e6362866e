import FieldFilter.CommandLine.Option

/-! Reading the arguments of the command line. Options stand before or after the command, each at
most once on either side; the value after the command wins, then the one before it, then the
environment. An environment variable is read on either side that lacks the option, so its value
has to make sense even when the other side overrides it.
-/

namespace FieldFilter.CommandLine

/-- Why there is no request to carry out. -/
inductive Stop
  | usage | version | help
  deriving DecidableEq, Repr

/-- What is asked for, with the text of the filter. -/
inductive Command
  | compile (filter : String)
  | count (filter : String) (source : Option String)
  | ids (filter : String) (source : Option String) (limit : Option Nat)
  deriving DecidableEq, Repr

/-- The word that asks for help in place of a command. -/
def helpName : String := "help"

/-- A command with what is set for it. -/
structure Request where
  overrides : Overrides
  command : Command
  deriving DecidableEq, Repr

abbrev Given : Type :=
  List (ValueOption × String)

/-- The options given after one more of them. -/
def Given.insert (zones : Calendar.ZoneDatabase) (given : Given) (option : ValueOption)
    (value : String)
    : Except Stop Given :=
  if (given.lookup option).isSome || !option.accepts zones value then .error .usage
  else .ok ((option, value) :: given)

/-- What one argument is. -/
inductive Argument
  /-- Nothing but a value or a command. -/
  | plain
  /-- The mark that no option follows. -/
  | mark
  /-- An option, with its value in the same argument or in the next one. -/
  | option (option : ValueOption) (attached : Option String)
  | flag (stop : Stop)

namespace Argument

/-- An argument that starts with two hyphens, from there on. -/
def ofLong (verb : Option Verb) (cs : List Char) : Argument :=
  let (name, rest) := cs.span (· ≠ '=')
  let name := String.ofList name
  match (ValueOption.available verb).find? (·.name == name) with
  | some o => option o (if rest.isEmpty then none else some (String.ofList (rest.drop 1)))
  | none =>
    if name = "help" ∧ rest.isEmpty then flag .help
    else if name = "version" ∧ rest.isEmpty ∧ verb.isNone then flag .version
    else flag .usage

/-- An argument that starts with one hyphen and a letter. -/
def ofShort (verb : Option Verb) (letter : Char) (rest : List Char) : Argument :=
  match (ValueOption.available verb).find? (·.letter? == some letter) with
  | some o =>
    match rest with
    | [] => option o none
    | '=' :: value => option o (some (String.ofList value))
    | value => option o (some (String.ofList value))
  | none =>
    if letter = 'h' then flag .help
    else if letter = 'V' ∧ verb.isNone then flag .version
    else flag .usage

/-- What an argument is, before the command or after it. -/
def read (verb : Option Verb) (argument : String) : Argument :=
  match argument.toList with
  | ['-', '-'] => mark
  | '-' :: '-' :: cs => ofLong verb cs
  | '-' :: letter :: rest => ofShort verb letter rest
  | _ => plain

/-- An argument that may be the value of the option before it. -/
def isValue (argument : String) : Bool :=
  match argument.toList with
  | '-' :: _ :: _ => false
  | _ => true

end Argument

section

variable (zones : Calendar.ZoneDatabase)

/-- The options at the start of the arguments, and the arguments from the first one that is plain.
After the mark that no option follows, nothing may follow at all. -/
def readOptions (verb : Option Verb) (given : Given)
    : List String → Except Stop (Given × List String)
  | [] => .ok (given, [])
  | argument :: rest =>
    match Argument.read verb argument with
    | .plain => .ok (given, argument :: rest)
    | .mark => if rest.isEmpty then .ok (given, []) else .error .usage
    | .flag stop => .error stop
    | .option option (some value) => do
      let given ← given.insert zones option value
      readOptions verb given rest
    | .option option none =>
      match rest with
      | [] => .error .usage
      | value :: rest =>
        if Argument.isValue value then do
          let given ← given.insert zones option value
          readOptions verb given rest
        else .error .usage

/-- The value of a common option on both sides of the command and in the environment. -/
def commonValue (environment : String → Option String) (before after : Given)
    (option : CommonOption)
    : Except Stop (Option String) :=
  match after.lookup (.common option), before.lookup (.common option) with
  | some value, some _ => .ok (some value)
  | after, before =>
    match environment option.variableName with
    | none => .ok (after.or before)
    | some value =>
      if option.accepts zones value then .ok ((after.or before).or value) else .error .usage

/-- What the options on both sides of the command and the environment set. -/
def overridesOf (environment : String → Option String) (before after : Given)
    : Except Stop Overrides := do
  let value := commonValue zones environment before after
  return {
    config := ← value .config
    url := ← value .url
    catalog := ← value .catalog
    scope := (← value .scope).bind fun text => Text.readWord? text.toList
    zone := (← value .zone).bind zones.read? }

/-- The command of a verb with its options. A filter is required. -/
def commandOf (verb : Verb) (given : Given) : Except Stop Command :=
  match given.lookup (.command .filter) with
  | none => .error .usage
  | some filter =>
    let source := given.lookup (.command .source)
    match verb with
    | .compile => .ok (.compile filter)
    | .count => .ok (.count filter source)
    | .ids =>
      .ok (.ids filter source ((given.lookup (.command .limit)).bind CommandOption.limit?))

/-- Why a request for help stops. It may name one command, or help itself. -/
def helpStop : List String → Stop
  | [] => .help
  | [name] => if name = helpName ∨ (Verb.ofName? name).isSome then .help else .usage
  | _ => .usage

/-- The request that some arguments make, with an environment that stands in for options. -/
def readRequest (environment : String → Option String) (arguments : List String)
    : Except Stop Request := do
  match ← readOptions zones none [] arguments with
  | (_, []) => throw .usage
  | (before, name :: rest) =>
    match Verb.ofName? name with
    | none => throw (if name = helpName then helpStop rest else .usage)
    | some verb =>
      let (after, unread) ← readOptions zones (some verb) [] rest
      if !unread.isEmpty then throw .usage
      let command ← commandOf verb after
      let overrides ← overridesOf zones environment before after
      return { overrides, command }

end

end FieldFilter.CommandLine
