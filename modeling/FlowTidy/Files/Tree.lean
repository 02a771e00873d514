import FlowTidy.Files.Path

/-!
Trees of files, and what reading and writing do with a path in them.
-/

namespace FlowTidy

/-- What a file holds. -/
inductive Content where
  | text (text : Text)
  /-- Bytes that are no text. -/
  | binary (bytes : List UInt8)
  deriving DecidableEq, Repr

/-- A file, or a directory with its entries by name. -/
inductive Tree where
  | file (content : Content)
  | dir (entries : List (Text × Tree))
  deriving Repr

/-- Why a path cannot be read or written. -/
inductive FileFault where
  | notFound
  | notADirectory
  | isADirectory
  | nameTooLong
  | nulInName
  | notText
  deriving DecidableEq, Repr

def FileFault.message : FileFault → Text
  | .notFound => "No such file or directory (os error 2)".toList
  | .notADirectory => "Not a directory (os error 20)".toList
  | .isADirectory => "Is a directory (os error 21)".toList
  | .nameTooLong => "File name too long (os error 36)".toList
  | .nulInName => "file name contained an unexpected NUL byte".toList
  | .notText => "stream did not contain valid UTF-8".toList

namespace Tree

/-- The entry of a directory with a given name. -/
def child? (name : Text) (entries : List (Text × Tree)) : Option Tree :=
  (entries.find? fun e => e.1 = name).map Prod.snd

/-- What is at the end of a list of names. -/
def get? (tree : Tree) : List Text → Option Tree
  | [] => some tree
  | name :: names =>
    match tree with
    | .dir entries => (child? name entries).bind fun t => t.get? names
    | .file _ => none

/-- Puts a tree in the place of an entry, or adds it as a new one. -/
def setEntry (name : Text) (tree : Tree) : List (Text × Tree) → List (Text × Tree)
  | [] => [(name, tree)]
  | e :: es => if e.1 = name then (name, tree) :: es else e :: setEntry name tree es

/-- Puts a tree at the end of a list of names, with the directories on the way to it. Below a file
nothing is put. -/
def put (tree : Tree) : List Text → Tree → Tree
  | [], _ => tree
  | name :: names, .dir entries =>
    .dir (setEntry name (put tree names ((child? name entries).getD (.dir []))) entries)
  | _ :: _, .file content => .file content

/-- Sees to it that there is something at the end of a list of names, if need be an empty
directory. -/
def ensure (names : List Text) (tree : Tree) : Tree :=
  if (tree.get? names).isSome then tree else put (.dir []) names tree

end Tree

/-- A tree of all files, and the names that lead to the directory where relative paths start. -/
structure Files where
  root : Tree
  workingDir : List Text := []
  deriving Repr

namespace Files

/-- The longest name of a file, and the longest path, in bytes. -/
def maxName : Nat := 255

def maxPath : Nat := 4095

/-- Where a segment leads from a place in a tree. Every segment, even a dot, must start in a
directory. -/
def step (root : Tree) (place : List Text) (segment : Text) : Except FileFault (List Text) :=
  match root.get? place with
  | some (.dir entries) =>
    if segment = ['.'] then .ok place
    else if segment = ['.', '.'] then .ok place.dropLast
    else if maxName < Text.byteSize segment then .error .nameTooLong
    else if (Tree.child? segment entries).isSome then .ok (place ++ [segment])
    else .error .notFound
  | some (.file _) => .error .notADirectory
  | none => .error .notFound

/-- Where some segments lead from the start of a path. -/
def follow (fs : Files) (absolute : Bool) (segments : List Text) : Except FileFault (List Text) :=
  segments.foldlM (step fs.root) (if absolute then [] else fs.workingDir)

/-- Refuses the paths that no file system takes. -/
def checkPath (path : Text) : Except FileFault Unit :=
  if '\x00' ∈ path then .error .nulInName
  else if path = [] then .error .notFound
  else if maxPath < Text.byteSize path then .error .nameTooLong
  else .ok ()

/-- What a path names. A path that ends in a slash names directories only. -/
def lookup (fs : Files) (path : Text) : Except FileFault Tree := do
  checkPath path
  let place ← fs.follow (Path.isAbsolute path) (Path.segments path)
  match fs.root.get? place with
  | some (.file content) =>
    if Path.endsInSlash path then throw .notADirectory else return .file content
  | some directory => return directory
  | none => throw .notFound

/-- The text of a file. -/
def read (fs : Files) (path : Text) : Except FileFault Text := do
  match ← fs.lookup path with
  | .file (.text text) => return text
  | .file (.binary _) => throw .notText
  | .dir _ => throw .isADirectory

/-- The place that writing to a path creates or overwrites. -/
def target (fs : Files) (path : Text) : Except FileFault (List Text) := do
  checkPath path
  match (Path.segments path).getLast? with
  | none => throw .isADirectory
  | some name =>
    let parent ← fs.follow (Path.isAbsolute path) (Path.segments path).dropLast
    match fs.root.get? parent with
    | some (.dir entries) =>
      if name = ['.'] ∨ name = ['.', '.'] ∨ Path.endsInSlash path then throw .isADirectory
      else if maxName < Text.byteSize name then throw .nameTooLong
      else
        match Tree.child? name entries with
        | some (.dir _) => throw .isADirectory
        | _ => return parent ++ [name]
    | some (.file _) => throw .notADirectory
    | none => throw .notFound

/-- The files after a text is written to a path. -/
def write (fs : Files) (path text : Text) : Except FileFault Files := do
  let place ← fs.target path
  return { fs with root := Tree.put (.file (.text text)) place fs.root }

end Files

end FlowTidy
