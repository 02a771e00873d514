import FlowTidy.Text.Basic

/-!
The arguments of the command line. They are read from left to right, and the first that is refused,
or that asks for help or for the version, decides. Some flags may stand before or after the name of
the command; given in both places, the later one counts. A flag may be given once in each place.
-/

namespace FlowTidy

/-- Formats of log events, by name. -/
inductive LogFormat where
  | compact
  | pretty
  | json
  deriving DecidableEq, Repr

namespace LogFormat

def name : LogFormat → String
  | compact => "compact"
  | pretty => "pretty"
  | json => "json"

def all : List LogFormat := [compact, pretty, json]

/-- The format with a given name, in any mixture of upper and lower case. -/
def ofName? (given : Text) : Option LogFormat :=
  all.find? fun format => Text.sameLetters given format.name.toList

/-- What is said of a name that no format has. -/
def unknownMessage (given : Text) : Text := "Unknown log format: ".toList ++ given

end LogFormat

/-- When diffs are coloured. -/
inductive ColorChoice where
  /-- On a terminal only. -/
  | auto
  | always
  | never
  deriving DecidableEq, Repr

/-- What is to be done. -/
inductive Command where
  /-- Tidies the diagrams of documents in place, or shows what that would do. -/
  | format (paths : List Text) (dryRun showDiff : Bool) (color : ColorChoice)
  /-- Fails if any diagram would change. -/
  | check (paths : List Text) (showDiff : Bool) (color : ColorChoice)
  /-- Tidies one diagram. -/
  | diagram (input output : Option Text)
  deriving DecidableEq, Repr

/-- A command with the settings that all commands have. -/
structure Invocation where
  command : Command
  verbose : Bool := false
  /-- Whether styling is left as it is, whatever the style says. -/
  keepCustomStyles : Bool := false
  /-- The file with the style. -/
  config : Option Text := none
  logFormat : LogFormat := .compact
  deriving DecidableEq, Repr

/-- A path that is neither missing nor a single hyphen. -/
def namedFile? (path : Option Text) : Option Text := path.filter (· ≠ ['-'])

/-- The paths that an invocation uses. The one with the style is the last. -/
def Invocation.paths (i : Invocation) : List Text :=
  let ofCommand :=
    match i.command with
    | .format paths _ _ _ | .check paths _ _ => paths
    | .diagram input output => (namedFile? input).toList ++ (namedFile? output).toList
  ofCommand ++ i.config.toList

/-- Whether an invocation reads standard input. -/
def Invocation.readsInput (i : Invocation) : Bool :=
  match i.command with
  | .diagram input _ => (namedFile? input).isNone
  | _ => false

/-- Why arguments lead to no command. -/
inductive Stop where
  | help
  | version
  | usage
  deriving DecidableEq, Repr

/-! ## Flags -/

inductive Flag where
  | verbose
  | logLevel
  | logFormat
  | config
  | keepCustomStyles
  | help
  | version
  | dryRun
  | diff
  | color
  | input
  | output
  deriving DecidableEq, Repr

namespace Flag

/-- The name of a flag, after two hyphens. -/
def long : Flag → String
  | verbose => "verbose"
  | logLevel => "log-level"
  | logFormat => "log-format"
  | config => "config"
  | keepCustomStyles => "keep-custom-styles"
  | help => "help"
  | version => "version"
  | dryRun => "dry-run"
  | diff => "diff"
  | color => "color"
  | input => "input"
  | output => "output"

/-- The letter of a flag, after one hyphen. -/
def short? : Flag → Option Char
  | verbose => some 'v'
  | help => some 'h'
  | version => some 'V'
  | input => some 'i'
  | output => some 'o'
  | _ => none

def takesValue : Flag → Bool
  | logLevel | logFormat | config | color | input | output => true
  | verbose | keepCustomStyles | help | version | dryRun | diff => false

/-- The values of a flag that has a fixed choice of them. -/
def choices? : Flag → Option (List String)
  | logLevel => some ["trace", "debug", "info", "warn", "error"]
  | logFormat => some ["compact", "pretty", "json"]
  | color => some ["auto", "always", "never"]
  | _ => none

/-- Whether a flag takes a value. A path must not be empty. -/
def accepts (f : Flag) (value : Text) : Bool :=
  match f.choices? with
  | some choices => choices.contains (String.ofList value)
  | none => !f.takesValue || !value.isEmpty

/-- The flags that may stand before or after the name of a command. -/
def shared : List Flag := [verbose, logLevel, logFormat, config, keepCustomStyles, help]

end Flag

/-! ## Single arguments -/

/-- What an argument with hyphens does. -/
inductive FlagStep where
  /-- Gives a flag, with its value if it takes one. -/
  | give (flag : Flag) (value : Text)
  /-- Gives a flag whose value is the next argument. -/
  | await (flag : Flag)
  | refuse
  deriving DecidableEq, Repr

/-- The step of an argument with two hyphens. The value may follow an equals sign. -/
def longStep (known : List Flag) (body : Text) : FlagStep :=
  match known.find? fun f => f.long.toList = body.takeWhile (· ≠ '=') with
  | none => .refuse
  | some f =>
    match body.dropWhile (· ≠ '=') with
    | [] => if f.takesValue then .await f else .give f []
    | _ :: value => if f.takesValue then .give f value else .refuse

/-- The steps of an argument with one hyphen: letters of flags, the last of which may have its value
after it, with or without an equals sign. -/
def shortSteps (known : List Flag) : Text → List FlagStep
  | [] => []
  | c :: rest =>
    match known.find? fun f => f.short? = some c with
    | none => [.refuse]
    | some f =>
      if f.takesValue then
        match rest with
        | [] => [.await f]
        | '=' :: value => [.give f value]
        | value => [.give f value]
      else .give f [] :: shortSteps known rest

inductive Argument where
  | operand
  /-- Two hyphens alone, after which there are no more flags. -/
  | divider
  | flags (steps : List FlagStep)
  deriving DecidableEq, Repr

/-- What an argument is. A single hyphen is no flag. -/
def Argument.of (known : List Flag) : Text → Argument
  | ['-', '-'] => .divider
  | '-' :: '-' :: body => .flags [longStep known body]
  | '-' :: c :: body => .flags (shortSteps known (c :: body))
  | _ => .operand

/-! ## Lists of arguments -/

/-- The flags that were given in one place, with their values. -/
abbrev Given := List (Flag × Text)

/-- The value of a flag that was given. -/
def Given.value? (given : Given) (f : Flag) : Option Text :=
  (given.find? fun g => g.1 = f).map Prod.snd

def Given.has (given : Given) (f : Flag) : Bool := (given.value? f).isSome

/-- Adds a flag. -/
def Given.add (given : Given) (f : Flag) (value : Text) : Except Stop Given :=
  match f with
  | .help => .error .help
  | .version => .error .version
  | f => if given.has f || !f.accepts value then .error .usage else .ok (given ++ [(f, value)])

/-- Takes the steps of an argument. The flag that waits for its value, if any, is returned too. -/
def Given.addAll (given : Given) : List FlagStep → Except Stop (Given × Option Flag)
  | [] => .ok (given, none)
  | .give f value :: steps => do
    let given ← given.add f value
    given.addAll steps
  | .await f :: _ => .ok (given, some f)
  | .refuse :: _ => .error .usage

/-- What the arguments in one place give. -/
structure Reading where
  given : Given := []
  operands : List Text := []
  /-- The arguments that were not read. -/
  left : List Text := []

/-- The operands after a divider. -/
def readOperands (accepts : Text → Bool) (operands args : List Text) : Except Stop (List Text) :=
  if args.all accepts then .ok (operands ++ args) else .error .usage

/-- Reads arguments up to the first operand, or all of them with the operands that are accepted. -/
def readArguments (known : List Flag) (toFirst : Bool) (accepts : Text → Bool)
    (given : Given) (operands : List Text) : List Text → Except Stop Reading
  | [] => .ok { given, operands }
  | arg :: args =>
    match Argument.of known arg with
    | .operand =>
      if !accepts arg then .error .usage
      else if toFirst then .ok { given, operands := [arg], left := args }
      else readArguments known toFirst accepts given (operands ++ [arg]) args
    | .divider => do
      if toFirst then throw .usage
      return { given, operands := ← readOperands accepts operands args }
    | .flags steps => do
      let (given, waiting) ← given.addAll steps
      match waiting, args with
      | none, args => readArguments known toFirst accepts given operands args
      | some f, value :: args =>
        match Argument.of known value with
        | .operand =>
          let given ← given.add f value
          readArguments known toFirst accepts given operands args
        | _ => throw .usage
      | some _, [] => throw .usage

/-! ## Commands -/

inductive CommandName where
  | format
  | check
  | diagram
  deriving DecidableEq, Repr

namespace CommandName

def text : CommandName → String
  | format => "format"
  | check => "check"
  | diagram => "diagram"

def all : List CommandName := [format, check, diagram]

def ofText? (t : Text) : Option CommandName := all.find? fun name => name.text.toList = t

/-- The flags that a command takes after its name. -/
def flags : CommandName → List Flag
  | format => Flag.shared ++ [.dryRun, .diff, .color]
  | check => Flag.shared ++ [.diff, .color]
  | diagram => Flag.shared ++ [.input, .output]

/-- Whether a command takes an operand. A path must not be empty. -/
def accepts (name : CommandName) (operand : Text) : Bool :=
  match name with
  | format | check => !operand.isEmpty
  | diagram => false

end CommandName

/-- The word that asks for help in place of a command. -/
def helpWord : Text := "help".toList

/-- Help is given on everything, or on one command. -/
def helpStop (topics : List Text) : Stop :=
  match topics with
  | [] => .help
  | [topic] => if (CommandName.ofText? topic).isSome ∨ topic = helpWord then .help else .usage
  | _ => .usage

/-- When diffs are coloured, by the flags that were given. -/
def Given.colorChoice (given : Given) : ColorChoice :=
  match (given.value? .color).map String.ofList with
  | some "always" => .always
  | some "never" => .never
  | _ => .auto

/-- The command with a name, by the flags and operands after it. Without paths it is for the working
directory. -/
def CommandName.command (name : CommandName) (given : Given) (operands : List Text) : Command :=
  let paths := if operands = [] then [['.']] else operands
  match name with
  | format => .format paths (given.has .dryRun) (given.has .diff) given.colorChoice
  | check => .check paths (given.has .diff) given.colorChoice
  | diagram => .diagram (given.value? .input) (given.value? .output)

/-- The invocation of a command, by the flags before and after its name. -/
def CommandName.invocation (name : CommandName) (first : Given) (second : Reading) : Invocation :=
  let given := second.given ++ first
  { command := name.command second.given second.operands
    verbose := given.has .verbose
    keepCustomStyles := given.has .keepCustomStyles
    config := given.value? .config
    logFormat := ((given.value? .logFormat).bind LogFormat.ofName?).getD .compact }

/-- The invocation that some arguments spell. -/
def Invocation.parse (args : List Text) : Except Stop Invocation := do
  let first ← readArguments (Flag.shared ++ [.version]) true (fun _ => true) [] [] args
  match first.operands with
  | [] => throw .usage
  | operand :: _ =>
    if operand = helpWord then throw (helpStop first.left)
    match CommandName.ofText? operand with
    | none => throw .usage
    | some name =>
      let second ← readArguments name.flags false name.accepts [] [] first.left
      return name.invocation first.given second

end FlowTidy
