import FlowTidy.Run.Process

/-!
The summary of a run over many files.
-/

namespace FlowTidy

/-- The files of a run, in the order in which they were recorded. -/
structure Summary where
  mode : RunMode
  reports : List FileReport := []
  deriving DecidableEq, Repr

namespace Summary

def record (s : Summary) (r : FileReport) : Summary := { s with reports := s.reports ++ [r] }

/-- The summary of a run. -/
def ofRun (mode : RunMode) (files : List Processed) : Summary :=
  { mode, reports := files.map Processed.report }

/-! ## Totals -/

/-- What the reports add up to, each counted by `f`. -/
def total (s : Summary) (f : FileReport → Nat) : Nat := s.reports.foldr (fun r n => f r + n) 0

def filesScanned (s : Summary) : Nat := s.reports.length

def filesWithDiagrams (s : Summary) : Nat := s.reports.countP fun r => 0 < r.document.found

def filesChanged (s : Summary) : Nat := s.reports.countP FileReport.isChanged

def diagramsFound (s : Summary) : Nat := s.total fun r => r.document.found

def diagramsReformatted (s : Summary) : Nat := s.total fun r => r.document.changed

def faults (s : Summary) : Nat := s.total fun r => r.document.faults.length

def hasFaults (s : Summary) : Bool := 0 < s.faults

/-- Whether nothing was to be changed and nothing failed. -/
def isConforming (s : Summary) : Bool := s.diagramsReformatted = 0 && s.faults = 0

/-! ## Text -/

/-- The line between the parts of a summary. -/
def rule : Text := List.replicate 60 '='

/-- The totals, one a line. The last line has no newline. -/
def banner (s : Summary) : Text :=
  let faults :=
    if s.hasFaults then ["Errors:               ".toList ++ Text.ofNat s.faults] else []
  Text.joined ['\n'] <|
    [rule,
      "Mermaid Formatting Summary (".toList ++ s.mode.name.toList ++ [')'],
      rule,
      "Files scanned:        ".toList ++ Text.ofNat s.filesScanned,
      "Files with diagrams:  ".toList ++ Text.ofNat s.filesWithDiagrams,
      "Files with changes:   ".toList ++ Text.ofNat s.filesChanged,
      "Diagrams found:       ".toList ++ Text.ofNat s.diagramsFound,
      "Diagrams reformatted: ".toList ++ Text.ofNat s.diagramsReformatted] ++ faults

/-- The lines on one file: its diagrams, and what failed. -/
def fileDetails (r : FileReport) : Text :=
  let status := if r.isChanged then "changed".toList else "ok".toList
  [' ', ' '] ++ r.path ++ ": ".toList ++ Text.ofNat r.document.found ++ " diagram(s), ".toList
    ++ status ++ ['\n']
    ++ r.document.faults.flatMap fun f => "    ERROR: ".toList ++ f.message ++ ['\n']

/-- The files that have diagrams, one after the other. -/
def details (s : Summary) : Text :=
  rule ++ "\nDetails by file:\n".toList ++ rule ++ ['\n']
    ++ (s.reports.filter fun r => 0 < r.document.found).flatMap fileDetails

end Summary

end FlowTidy
