import FlowTidy.Diff.Unified
import FlowTidy.Document.Report
import FlowTidy.Files.Tree

/-!
A run over files: each is tidied in turn and, when the run is to format, written back if it needs
to be.
-/

namespace FlowTidy

/-! ## Single files -/

/-- What came of a file. -/
structure FileReport where
  path : Text
  /-- What the file held; nothing when it could not be read. -/
  content : Text := []
  document : DocumentReport := {}
  deriving DecidableEq, Repr

namespace FileReport

/-- Whether some diagram was not in canonical form. -/
def isChanged (r : FileReport) : Bool := 0 < r.document.changed

/-- Whether the file is to be written back: something changed and nothing failed. -/
def needsWrite (r : FileReport) : Bool := r.isChanged && r.document.faults.isEmpty

/-- The diff of the file. -/
def diff (r : FileReport) : Text := unifiedDiff r.content r.document.formatted r.path

def addFault (r : FileReport) (fault : Fault) : FileReport :=
  { r with document := { r.document with faults := r.document.faults ++ [fault] } }

end FileReport

/-- Tidies the document in a file. A file that cannot be read is reported as such. -/
def Files.report (fs : Files) (style : Style) (path : Text) : FileReport :=
  match fs.read path with
  | .ok content => { path, content, document := processDocument style content }
  | .error fault => { path, document := { faults := [.read path fault.message] } }

/-- Writes the tidied document of a file back. -/
def Files.writeBack (fs : Files) (r : FileReport) : Except Fault Files :=
  (fs.write r.path r.document.formatted).mapError fun fault => .write r.path fault.message

/-! ## Runs -/

/-- What a run does with the documents that it tidies. -/
inductive RunMode where
  /-- Writes them back. -/
  | format
  /-- Only reports what it would do. -/
  | dryRun
  /-- Fails if there is anything to do. -/
  | validate
  deriving DecidableEq, Repr

def RunMode.name : RunMode → String
  | .format => "format"
  | .dryRun => "dry-run"
  | .validate => "validate"

/-- A file that a run has been over. -/
structure Processed where
  report : FileReport
  /-- Whether it was written back. -/
  written : Bool
  deriving DecidableEq, Repr

namespace Files

/-- Goes over one file. A write that fails is added to its report. -/
def processOne (style : Style) (mode : RunMode) (fs : Files) (path : Text) : Files × Processed :=
  let report := fs.report style path
  if mode = .format ∧ report.needsWrite then
    match fs.writeBack report with
    | .ok fs' => (fs', { report, written := true })
    | .error fault => (fs, { report := report.addFault fault, written := false })
  else (fs, { report, written := false })

/-- Goes over some files in order. -/
def processAll (style : Style) (mode : RunMode) : Files → List Text → Files × List Processed
  | fs, [] => (fs, [])
  | fs, path :: paths =>
    let (fs, file) := processOne style mode fs path
    let (fs, files) := processAll style mode fs paths
    (fs, file :: files)

end Files

end FlowTidy
