import AnnotationIndex.Command.Invocation

/-!
# Command lines

Arguments are read from left to right. A value is checked when the next argument is accepted or
the arguments end, not when it is read: an unknown option is reported before an earlier bad value.
The arguments after the name of a command belong to that command and are checked before what stands
in front of the name.
-/

namespace AnnotationIndex.Arguments

inductive UsageError where
  | helpRequested
  | nothingGiven
  | commandMissing
  | unknownCommand
  | unknownArgument
  | argumentMissing
  | invalidValue
  | givenTwice
  | surplusValue
  deriving DecidableEq, Repr

def UsageError.message : UsageError → String
  | .helpRequested => "help requested"
  | .nothingGiven => "a command is required"
  | .commandMissing => "a command is required, but only options were given"
  | .unknownCommand => "unknown command"
  | .unknownArgument => "unexpected argument"
  | .argumentMissing => "a required argument was not given"
  | .invalidValue => "a value is missing or invalid"
  | .givenTwice => "an option must not be given twice"
  | .surplusValue => "a value was given to an option that takes none"

inductive OptionForm where
  | help
  | count
  | flag
  | text
  | path
  | choice (words : List String)
  deriving DecidableEq, Repr

namespace OptionForm

def takesValue : OptionForm → Bool
  | text | path | choice _ => true
  | help | count | flag => false

def accepts (form : OptionForm) (value : String) : Bool :=
  match form with
  | text => true
  | path => !value.isEmpty
  | choice words => words.contains value
  | help | count | flag => false

end OptionForm

structure OptionRule where
  long : String
  short : Option Char := none
  form : OptionForm
  deriving DecidableEq, Repr

inductive Positionals where
  | none
  | one
  | paths
  deriving DecidableEq, Repr

/-- What may be given in one place: before the name of a command, or after it. -/
structure Rules where
  options : List OptionRule
  positionals : Positionals := .none
  /-- The names of commands; with any, an argument has to be one. -/
  commands : List String := []

def sharedOptions : List OptionRule :=
  [{ long := "config", form := .path },
    { long := "verbose", short := some 'v', form := .count },
    { long := "help", short := some 'h', form := .help }]

def usage : String :=
  "Index Java annotations across a source tree into a queryable artifact\n\n" ++
  "Usage: annotation-collector [--config FILE] [-v]... COMMAND\n\n" ++
  "Commands:\n" ++
  "  generate [PATH]... [-x REGEX] [-o FILE] [--cache-dir DIR] [--no-cache]\n" ++
  "           [--no-capture-arguments]        write the artifact\n" ++
  "  query -k KIND [-t TARGET] [--artifact FILE]  list the targets of one kind\n" ++
  "  for-class TYPE [--artifact FILE]         show the annotations on one type\n" ++
  "  stats [--cache-dir DIR]                  describe the durable store\n" ++
  "  clear [--cache-dir DIR]                  remove the durable store\n" ++
  "  help [COMMAND]                           print this message"

inductive Waiting where
  | nothing
  | option (rule : OptionRule) (value : Option String)
  | paths (values : List String)
  deriving DecidableEq, Repr

structure Gathered where
  values : List (String × String) := []
  flags : List String := []
  verbosity : Nat := 0
  positionals : List String := []
  waiting : Waiting := .nothing
  /-- Only positional arguments follow. -/
  ended : Bool := false
  deriving DecidableEq, Repr

def verbosityLimit : Nat := 255

namespace Gathered

def isEmpty (g : Gathered) : Bool := g.values.isEmpty && g.flags.isEmpty && g.verbosity = 0

def awaitsValue (g : Gathered) : Bool :=
  match g.waiting with
  | .option _ none => true
  | _ => false

def record (g : Gathered) (rule : OptionRule) (value : String) : Except UsageError Gathered :=
  if (g.values.lookup rule.long).isSome then .error .givenTwice
  else if rule.form.accepts value then .ok { g with values := g.values ++ [(rule.long, value)] }
  else .error .invalidValue

def settle (g : Gathered) : Except UsageError Gathered :=
  let settled := { g with waiting := .nothing }
  match g.waiting with
  | .nothing => .ok settled
  | .option _ none => .error .invalidValue
  | .option rule (some value) => settled.record rule value
  | .paths values =>
    if values.all (!·.isEmpty) then
      .ok { settled with positionals := g.positionals ++ values }
    else .error .invalidValue

def await (g : Gathered) (rule : OptionRule) : Except UsageError Gathered := do
  let g ← g.settle
  return { g with waiting := .option rule none }

def take (g : Gathered) (rule : OptionRule) (value : String) : Except UsageError Gathered := do
  let g ← g.settle
  g.record rule value

def mark (g : Gathered) (rule : OptionRule) : Except UsageError Gathered := do
  let g ← g.settle
  match rule.form with
  | .help => .error .helpRequested
  | .count => return { g with verbosity := min verbosityLimit (g.verbosity + 1) }
  | _ =>
    if g.flags.contains rule.long then .error .givenTwice
    else return { g with flags := g.flags ++ [rule.long] }

def long (g : Gathered) (rules : Rules) (body : List Char) : Except UsageError Gathered :=
  let (name, value) := match Text.splitFirst? '=' body with
    | some (name, value) => (String.ofList name, some (String.ofList value))
    | none => (String.ofList body, none)
  match rules.options.find? (·.long = name) with
  | none => .error .unknownArgument
  | some rule =>
    match value with
    | some value => if rule.form.takesValue then g.take rule value else .error .surplusValue
    | none => if rule.form.takesValue then g.await rule else g.mark rule

/-- The short options of an argument that starts with one hyphen. One that takes a value takes the
rest of the argument, less an equals sign in front. -/
def short (g : Gathered) (rules : Rules) : List Char → Except UsageError Gathered
  | [] => .ok g
  | c :: rest =>
    match rules.options.find? (·.short = some c) with
    | none => .error .unknownArgument
    | some rule =>
      if rule.form.takesValue then
        match rest with
        | [] => g.await rule
        | '=' :: value => g.take rule (String.ofList value)
        | value => g.take rule (String.ofList value)
      else do (← g.mark rule).short rules rest

def positional (g : Gathered) (rules : Rules) (arg : String) : Except UsageError Gathered :=
  match rules.positionals with
  | .none =>
    if rules.commands.isEmpty || (g.ended && rules.commands.contains arg) then
      .error .unknownArgument
    else .error .unknownCommand
  | .one =>
    if g.positionals.isEmpty then do
      let g ← g.settle
      return { g with positionals := [arg] }
    else .error .unknownArgument
  | .paths =>
    match g.waiting with
    | .paths values => .ok { g with waiting := .paths (values ++ [arg]) }
    | _ => do
      let g ← g.settle
      return { g with waiting := .paths [arg] }

def next (g : Gathered) (rules : Rules) (arg : String) : Except UsageError Gathered :=
  if g.ended then g.positional rules arg
  else
    match arg.toList with
    | ['-', '-'] => .ok { g with ended := true }
    | '-' :: '-' :: body => g.long rules body
    | '-' :: c :: body => g.short rules (c :: body)
    | _ =>
      match g.waiting with
      | .option rule none => .ok { g with waiting := .option rule (some arg) }
      | _ => g.positional rules arg

end Gathered

/-- Reads arguments up to the name of a command: what was gathered, that name and the arguments
after it. -/
def scan (rules : Rules) : Gathered → List String →
    Except UsageError (Gathered × Option (String × List String))
  | g, [] => .ok (g, none)
  | g, arg :: rest =>
    if !g.ended && !g.awaitsValue && rules.commands.contains arg then .ok (g, some (arg, rest))
    else do scan rules (← g.next rules arg) rest

def artifactRule : OptionRule := { long := "artifact", form := .path }

def cacheRule : OptionRule := { long := "cache-dir", form := .path }

def commandRules : List (String × Rules) :=
  [("generate",
      { options := sharedOptions ++
          [{ long := "exclude", short := some 'x', form := .text },
            { long := "output", short := some 'o', form := .path }, cacheRule,
            { long := "no-cache", form := .flag },
            { long := "no-capture-arguments", form := .flag }]
        positionals := .paths }),
    ("query",
      { options := sharedOptions ++
          [artifactRule, { long := "kind", short := some 'k', form := .text },
            { long := "target", short := some 't',
              form := .choice (QueryTarget.choices.map (·.1)) }] }),
    ("for-class", { options := sharedOptions ++ [artifactRule], positionals := .one }),
    ("stats", { options := sharedOptions ++ [cacheRule] }),
    ("clear", { options := sharedOptions ++ [cacheRule] })]

def helpCommand : String := "help"

/-- What may stand in front of the name of a command. -/
def frontRules : Rules :=
  { options := sharedOptions, commands := commandRules.map (·.1) ++ [helpCommand] }

namespace Gathered

def text? (g : Gathered) (name : String) : Option String := g.values.lookup name

def path? (g : Gathered) (name : String) : Option Path := (g.text? name).map Path.ofText

def command (g : Gathered) (name : String) : Except UsageError Command :=
  if name = "generate" then
    .ok (.generate
      { roots := g.positionals.map Path.ofText
        exclude := g.text? "exclude"
        output := g.path? "output"
        cacheDirectory := g.path? "cache-dir"
        noCache := g.flags.contains "no-cache"
        noCaptureArguments := g.flags.contains "no-capture-arguments" })
  else if name = "query" then
    match g.text? "kind" with
    | none => .error .argumentMissing
    | some kind => .ok (.query (g.path? "artifact") kind
        (((g.text? "target").bind fun word => QueryTarget.choices.lookup word).getD .all))
  else if name = "for-class" then
    match g.positionals with
    | [] => .error .argumentMissing
    | typeName :: _ => .ok (.forClass typeName (g.path? "artifact"))
  else if name = "stats" then .ok (.stats (g.path? "cache-dir"))
  else .ok (.clear (g.path? "cache-dir"))

end Gathered

def helpOn (names : List String) : UsageError :=
  match names with
  | [] => .helpRequested
  | [name] => if frontRules.commands.contains name then .helpRequested else .unknownCommand
  | _ => .unknownCommand

def readCommand (name : String) (rules : Rules) (args : List String) :
    Except UsageError (Command × Gathered) := do
  let (g, _) ← scan rules {} args
  let g ← g.settle
  return (← g.command name, g)

/-- Reads a command line without the name of the program. An option that may be given anywhere
counts where it stands last: after the name of the command, if it is given there. -/
def read (args : List String) : Except UsageError Invocation := do
  let (front, found) ← scan frontRules {} args
  match found with
  | none =>
    let front ← front.settle
    .error (if front.isEmpty then .nothingGiven else .commandMissing)
  | some (name, rest) =>
    match commandRules.lookup name with
    | none => .error (helpOn rest)
    | some rules =>
      let (command, g) ← readCommand name rules rest
      let front ← front.settle
      return {
        command
        config := g.path? "config" <|> front.path? "config"
        verbosity := if g.verbosity = 0 then front.verbosity else g.verbosity }

end AnnotationIndex.Arguments
