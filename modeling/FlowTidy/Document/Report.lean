import FlowTidy.Diagram.Tidy
import FlowTidy.Document.Basic

/-!
Tidying the diagrams of a document. A diagram that cannot be tidied is left as it is, and the report
on the document has its fault.
-/

namespace FlowTidy

/-! ## Faults -/

/-- What can go wrong with a diagram, a configuration or a file, as reports show it. -/
inductive Fault where
  | initBlock (message : Text)
  | roundTrip (message : Text)
  /-- A diagram that could not be tidied, by where its block starts in the document. -/
  | diagramFailed (offset : Nat) (reason : Text)
  | config (message : Text)
  | read (path reason : Text)
  | write (path reason : Text)
  | io (reason : Text)
  deriving DecidableEq, Repr

def Fault.message : Fault → Text
  | .initBlock message => "Init block error: ".toList ++ message
  | .roundTrip message => "Round-trip check failed: ".toList ++ message
  | .diagramFailed offset reason =>
    "Failed to format diagram at position ".toList ++ Text.ofNat offset ++ ": ".toList ++ reason
  | .config message => "Config error: ".toList ++ message
  | .read path reason => "Failed to read file '".toList ++ path ++ "': ".toList ++ reason
  | .write path reason => "Failed to write file '".toList ++ path ++ "': ".toList ++ reason
  | .io reason => "IO error: ".toList ++ reason

/-! ## Reports -/

/-- What came of a document. -/
structure DocumentReport where
  /-- The number of diagrams. -/
  found : Nat := 0
  /-- The number of diagrams that were not in canonical form. -/
  changed : Nat := 0
  formatted : Text := []
  faults : List Fault := []
  deriving DecidableEq, Repr

/-- The fault of a diagram that tidying would change. -/
def Difference.fault (d : Difference) : Fault := .roundTrip d.message

/-- A diagram with its body tidied, if that succeeded. -/
def Block.tidied (b : Block) : Except Difference Tidied → Block
  | .ok tidied => { b with body := tidied.formatted ++ ['\n'] }
  | .error _ => b

/-- Whether a diagram was tidied and not in canonical form before. -/
def isChange : Except Difference Tidied → Bool
  | .ok tidied => tidied.changed
  | .error _ => false

/-- The fault to report for a diagram that starts at an offset. -/
def blockFault? (offset : Nat) : Except Difference Tidied → Option Fault
  | .ok _ => none
  | .error difference => some (.diagramFailed offset difference.fault.message)

/-- The report on a document whose diagrams were tidied with the given results. -/
def Document.report (d : Document) (results : List (Except Difference Tidied)) :
    DocumentReport where
  found := d.blocks.length
  changed := results.countP isChange
  formatted := { d with blocks := d.blocks.zipWith Block.tidied results }.text
  faults := (d.spans.zip results).filterMap fun (span, result) => blockFault? span.1 result

/-- Tidies every diagram of a document. -/
def processDocument (style : Style) (t : Text) : DocumentReport :=
  let d := Document.parse t
  d.report (d.blocks.map fun b => tidy style b.body)

end FlowTidy
