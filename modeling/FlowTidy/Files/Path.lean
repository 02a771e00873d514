import FlowTidy.Order

/-!
Paths: how they are spelled, compared and joined. Two spellings with the same components count as
one path.
-/

namespace FlowTidy

/-- A step of a path as comparison sees it. -/
inductive Component where
  /-- The root of all files. -/
  | root
  /-- The directory where the path starts. -/
  | here
  /-- The directory above. -/
  | parent
  | name (text : Text)
  deriving DecidableEq, Repr

namespace Component

/-- The place of a component's kind in the order. -/
def rank : Component → Nat
  | root => 0
  | here => 1
  | parent => 2
  | name _ => 3

/-- Whether a component comes before another: by kind, and names by their text. -/
def before : Component → Component → Bool
  | name s, name t => Text.before s t
  | a, b => a.rank < b.rank

/-- Whether a list of components comes before another, component by component. -/
def listBefore : List Component → List Component → Bool := lexBefore before

end Component

namespace Path

def isAbsolute (path : Text) : Bool := path.head? = some '/'

def endsInSlash (path : Text) : Bool := path.getLast? = some '/'

/-- The texts between the slashes of a path, empty ones left out. -/
def segments (path : Text) : List Text := (path.splitOn '/').filter (· ≠ [])

/-- The component of a segment. A dot is none. -/
def component? (segment : Text) : Option Component :=
  if segment = ['.'] then none
  else if segment = ['.', '.'] then some .parent
  else some (.name segment)

/-- The components of a path. Of dots only one at the start counts. -/
def components (path : Text) : List Component :=
  if isAbsolute path then .root :: (segments path).filterMap component?
  else
    match segments path with
    | ['.'] :: more => .here :: more.filterMap component?
    | all => all.filterMap component?

/-- The name at the end of a path, if it ends with one. -/
def fileName? (path : Text) : Option Text :=
  match (components path).getLast? with
  | some (.name text) => some text
  | _ => none

/-- What follows the last dot of a name, unless the name starts with that dot. -/
def extension? (name : Text) : Option Text :=
  match name.reverse.dropWhile (· ≠ '.') with
  | [] | ['.'] => none
  | _ => some (name.reverse.takeWhile (· ≠ '.')).reverse

/-- Whether a path names a Markdown document, by its extension. -/
def isMarkdown (path : Text) : Bool :=
  match (fileName? path).bind extension? with
  | some extension =>
    Text.sameLetters extension "md".toList || Text.sameLetters extension "markdown".toList
  | none => false

/-- A name in a directory. -/
def join (directory name : Text) : Text :=
  if directory = [] ∨ endsInSlash directory then directory ++ name else directory ++ '/' :: name

/-- Paths in the order of their components. Of several spellings of one path the first one stays. -/
def sorted (paths : List Text) : List Text := sortBy Component.listBefore components paths

end Path

end FlowTidy
