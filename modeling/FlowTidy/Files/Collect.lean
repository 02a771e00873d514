import FlowTidy.Files.Tree

/-!
The files of a tree: the Markdown documents that some paths name or that lie below them, and the
files in which one tree differs from another.
-/

namespace FlowTidy

/-! ## Documents -/

/-- A path alone, if it names a document. -/
def Path.listed (path : Text) : List Text := if Path.isMarkdown path then [path] else []

mutual

/-- The documents in a tree that is named by a path. Whether there is a directory cannot be seen by
a path that is too long. -/
def Tree.documents (path : Text) : Tree → List Text
  | .file _ => Path.listed path
  | .dir entries =>
    if Files.maxPath < Text.byteSize path then Path.listed path else Tree.documentsIn path entries

def Tree.documentsIn (path : Text) : List (Text × Tree) → List Text
  | [] => []
  | (name, tree) :: entries =>
    tree.documents (Path.join path name) ++ Tree.documentsIn path entries

end

/-- The documents that a path names or has below it. A path that names nothing gives none. -/
def Files.documentsAt (fs : Files) (path : Text) : List Text :=
  match fs.lookup path with
  | .ok tree => tree.documents path
  | .error _ => []

/-- The documents of some paths, in order and each once. -/
def Files.collect (fs : Files) (paths : List Text) : List Text :=
  Path.sorted (paths.flatMap fs.documentsAt)

/-! ## Changes -/

mutual

/-- The files in a tree, each with the names that lead to it. -/
def Tree.files : Tree → List (List Text × Content)
  | .file content => [([], content)]
  | .dir entries => Tree.filesIn entries

def Tree.filesIn : List (Text × Tree) → List (List Text × Content)
  | [] => []
  | (name, tree) :: entries =>
    (tree.files.map fun f => (name :: f.1, f.2)) ++ Tree.filesIn entries

end

/-- Whether a tree has a file with the given content at the end of some names. -/
def Tree.hasFile (tree : Tree) (names : List Text) (content : Content) : Bool :=
  match tree.get? names with
  | some (.file present) => present = content
  | _ => false

/-- The files of a later tree that an earlier one has not, or has with other content. -/
def Files.changes (earlier later : Files) : List (List Text × Content) :=
  later.root.files.filter fun f => !earlier.root.hasFile f.1 f.2

end FlowTidy
