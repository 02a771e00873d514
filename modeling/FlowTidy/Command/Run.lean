import FlowTidy.Command.Arguments
import FlowTidy.Diff.Color
import FlowTidy.Files.Collect
import FlowTidy.Run.Summary
import FlowTidy.Style.Reader

/-!
Running a command on a tree of files: what it prints, how it ends, and the files after it. Log
events are no part of this.
-/

namespace FlowTidy

/-- What a run takes from its surroundings besides files. -/
structure Environment where
  /-- The format of log events that the surroundings ask for, by name. -/
  logFormat : Option Text := none
  /-- The wish for no colours. It counts for colours that are asked for unless it is empty. -/
  noColor : Option Text := none
  /-- Whether standard output is a terminal. -/
  terminal : Bool := false
  deriving DecidableEq, Repr

namespace Environment

/-- The variable that names the format of log events. -/
def logFormatVariable : String := "MERMAID_TIDY_LOG_FORMAT"

/-- The variable that wishes for no colours. -/
def noColorVariable : String := "NO_COLOR"

/-- Whether the sequences of a colour name it. -/
def colours (env : Environment) : Bool := !env.noColor.any fun wish => !wish.isEmpty

end Environment

/-- Whether diffs are coloured. -/
def ColorChoice.isOn (env : Environment) : ColorChoice → Bool
  | .always => true
  | .never => false
  | .auto => env.terminal && env.noColor.isNone

/-- How a run ends. -/
structure Outcome where
  status : Nat := 0
  out : Text := []
  err : Text := []
  files : Files

/-! ## Style -/

/-- Why a file gives no style. -/
inductive StyleFileFault where
  | unreadable (path : Text) (fault : FileFault)
  | invalid (path : Text) (fault : StyleFault)
  deriving DecidableEq, Repr

/-- The fault as it is reported. -/
def StyleFileFault.fault : StyleFileFault → Fault
  | .unreadable path fault => .read path fault.message
  | .invalid path fault => .config (path ++ ": ".toList ++ fault.message)

/-- The style that a file gives. -/
def Style.ofFile (fs : Files) (path : Text) : Except StyleFileFault Style := do
  let text ← (fs.read path).mapError (StyleFileFault.unreadable path)
  (Style.ofJson text).mapError (StyleFileFault.invalid path)

/-- The style of an invocation. -/
def Invocation.style (i : Invocation) (fs : Files) : Except StyleFileFault Style := do
  let style ← match i.config with
    | some path => Style.ofFile fs path
    | none => pure Style.default
  return if i.keepCustomStyles then { style with enforce := false } else style

/-! ## Documents -/

/-- How the documents of a run are processed and shown. -/
structure RunOptions where
  mode : RunMode
  showDiff : Bool
  color : ColorChoice
  verbose : Bool
  env : Environment

/-- The diff of a file as it is printed. -/
def RunOptions.diffText (o : RunOptions) (r : FileReport) : Text :=
  if o.showDiff && r.isChanged then
    if o.color.isOn o.env then colorize o.env.colours r.diff else r.diff
  else []

/-- The text on standard output for the files of a run. -/
def RunOptions.outText (o : RunOptions) (files : List Processed) : Text :=
  let summary := Summary.ofRun o.mode files
  files.flatMap (fun file => o.diffText file.report) ++ '\n' :: summary.banner ++ ['\n']
    ++ if o.verbose then '\n' :: summary.details ++ ['\n'] else []

/-- The text on standard error for the files of a run. -/
def RunOptions.errText (o : RunOptions) (files : List Processed) : Text :=
  if o.verbose then
    "Found ".toList ++ Text.ofNat files.length ++ " Markdown file(s)\n".toList
      ++ files.flatMap fun file =>
        if file.written then "Formatted ".toList ++ file.report.path ++ ['\n'] else []
  else []

/-- Whether a run over some files succeeds: nothing may fail, and a check must have nothing to
do. -/
def Summary.succeeds (s : Summary) : Bool :=
  if s.mode = .validate then s.isConforming else !s.hasFaults

/-- The last line of a check. -/
def Summary.verdict (s : Summary) : Text :=
  if s.mode ≠ .validate then []
  else if s.isConforming then
    "\nValidation passed: all diagrams conform to style guide.\n".toList
  else "\nValidation failed: diagrams need formatting or have errors.\n".toList

/-- Runs over the documents of some paths. -/
def RunOptions.run (o : RunOptions) (style : Style) (fs : Files) (paths : List Text) : Outcome :=
  match fs.collect paths with
  | [] => { out := "No Markdown files found.\n".toList, files := fs }
  | documents =>
    let (fs, files) := fs.processAll style o.mode documents
    let summary := Summary.ofRun o.mode files
    { status := if summary.succeeds then 0 else 1
      out := o.outText files ++ summary.verdict
      err := o.errText files
      files := fs }

/-! ## Single diagrams -/

/-- The end of a run that fails. -/
def Outcome.failed (fs : Files) (message : Text) : Outcome :=
  { status := 1, err := "Error: ".toList ++ message ++ ['\n'], files := fs }

/-- Puts a text in front of what is on standard error. -/
def Outcome.after (o : Outcome) (err : Text) : Outcome := { o with err := err ++ o.err }

/-- The diagram that a run reads. Standard input is missing when it is no text. -/
def readDiagram (fs : Files) (stdin : Option Text) (input : Option Text) : Except Text Text :=
  match namedFile? input, stdin with
  | some path, _ =>
    (fs.read path).mapError fun fault =>
      "Failed to read input file '".toList ++ path ++ "': ".toList ++ fault.message
  | none, some text => .ok text
  | none, none => .error FileFault.notText.message

/-- Writes a tidied diagram, with a newline at its end. -/
def writeDiagram (fs : Files) (output : Option Text) (formatted : Text) : Outcome :=
  let text := if formatted = [] then [] else Text.withNewline formatted
  match namedFile? output with
  | none => { out := text, files := fs }
  | some path =>
    match fs.write path text with
    | .ok fs => { files := fs }
    | .error fault =>
      .failed fs
        ("Failed to write output file '".toList ++ path ++ "': ".toList ++ fault.message)

/-- Tidies one diagram. -/
def runDiagram (style : Style) (verbose : Bool) (fs : Files) (stdin input output : Option Text) :
    Outcome :=
  let note (text : Text) : Text := if verbose then text ++ ['\n'] else []
  match readDiagram fs stdin input with
  | .error message => .failed fs message
  | .ok text =>
    Outcome.after
      (match tidy style text with
      | .error difference => .failed fs difference.fault.message
      | .ok tidied =>
        (writeDiagram fs output tidied.formatted).after
          (note (if tidied.changed then "Diagram changed".toList else "Diagram unchanged".toList)))
      (note ("Read ".toList ++ Text.ofNat (Text.byteSize text) ++ " bytes of input".toList))

/-! ## Whole runs -/

def versionNumber : Text := "0.1.0".toList

def programName : Text := "mermaid-tidy".toList

/-- What is said when the surroundings ask for a format of log events that there is none. -/
def Environment.warning (env : Environment) : Text :=
  match env.logFormat with
  | some name =>
    if (LogFormat.ofName? name).isSome then []
    else
      "Warning: Failed to initialize logging: Invalid log format: ".toList
        ++ LogFormat.unknownMessage name ++ ['\n']
  | none => []

/-- Runs a command with its style. -/
def Command.run (c : Command) (env : Environment) (style : Style) (verbose : Bool) (fs : Files)
    (stdin : Option Text) : Outcome :=
  match c with
  | .format paths dryRun showDiff color =>
    let mode := if dryRun then RunMode.dryRun else RunMode.format
    RunOptions.run { mode, showDiff, color, verbose, env } style fs paths
  | .check paths showDiff color =>
    RunOptions.run { mode := .validate, showDiff, color, verbose, env } style fs paths
  | .diagram input output => runDiagram style verbose fs stdin input output

/-- Runs an invocation. -/
def Invocation.run (i : Invocation) (env : Environment) (fs : Files) (stdin : Option Text) :
    Outcome :=
  let greeting := if i.verbose then programName ++ " v".toList ++ versionNumber ++ ['\n'] else []
  let outcome :=
    match i.style fs with
    | .error fault => Outcome.failed fs fault.fault.message
    | .ok style => i.command.run env style i.verbose fs stdin
  outcome.after (env.warning ++ greeting)

/-- How the program is used. -/
def usageText : Text :=
  "Usage: mermaid-tidy [OPTIONS] <COMMAND>

Commands:
  format [PATHS]...  Tidy the diagrams of Markdown files in place
  check [PATHS]...   Fail if any diagram would change
  diagram            Tidy a single diagram
  help [COMMAND]     Show this text

Options:
  -v, --verbose                     Report what is done
      --log-level <LOG_LEVEL>       trace, debug, info, warn or error
      --log-format <LOG_FORMAT>     compact, pretty or json
      --config <CONFIG>             JSON file with style settings
      --keep-custom-styles          Leave class and link styles as they are
  -h, --help                        Show this text
  -V, --version                     Show the version

Options of format and check:
      --diff                        Show a unified diff of each changed file
      --color <COLOR>               auto, always or never
      --dry-run                     Write nothing (format only)

Options of diagram:
  -i, --input <INPUT>               File with the diagram, - for standard input
  -o, --output <OUTPUT>             File for the tidied diagram, - for standard output
".toList

/-- The end of a run whose arguments lead to no command. -/
def Stop.outcome (fs : Files) : Stop → Outcome
  | .help => { out := usageText, files := fs }
  | .version => { out := programName ++ ' ' :: versionNumber ++ ['\n'], files := fs }
  | .usage => { status := 2, err := usageText, files := fs }

/-- Runs the program with some arguments. -/
def runProgram (env : Environment) (fs : Files) (stdin : Option Text) (args : List Text) :
    Outcome :=
  match Invocation.parse args with
  | .ok invocation => invocation.run env fs stdin
  | .error stop => stop.outcome fs

end FlowTidy
