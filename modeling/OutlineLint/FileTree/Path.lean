import OutlineLint.Text.Letters

/-!
# Paths

A route leads from the root of a file tree to an entry, one component for each
step down.  A path is resolved against a directory by its bytes alone: empty
components and `.` stay where they are, and `..` goes up, at the root nowhere.

A path name is a path as it is handed to the file system, step by step and not
resolved beforehand.  Repeated slashes and `.` are left out of it; `..` stays,
for what it means depends on the entries passed before it.  An absolute path
begins at the root, which is written as two slashes if exactly two were given.
-/

namespace OutlineLint

/-! ## Routes -/

abbrev Route := List Bytes

namespace Route

/-- The component that stays where it is. -/
def current : Bytes :=
  [Ascii.point]

/-- The component that goes up. -/
def upward : Bytes :=
  [Ascii.point, Ascii.point]

def step (route : Route) (component : Bytes) : Route :=
  if component.isEmpty || component = current then route
  else if component = upward then route.dropLast
  else route ++ [component]

/-- The route that a path means in a directory. -/
def resolve (directory : Route) (path : Bytes) : Route :=
  let start := if path.head? = some Ascii.slash then [] else directory
  (path.splitOn Ascii.slash).foldl step start

/-- The absolute path of a route. -/
def path (route : Route) : Bytes :=
  Ascii.slash :: List.intercalate [Ascii.slash] route

def shown (route : Route) : Text :=
  route.path.shown

/-- The absolute path of the file that a word names. -/
def pathOf (directory : Route) (word : Bytes) : Bytes :=
  (resolve directory word).path

end Route

/-! ## Path names -/

/--
A path: its leading slashes, and its components without empty ones and `.`.
-/
structure PathName where
  root : Bytes
  components : List Bytes
  deriving DecidableEq, Repr

namespace PathName

/-- The leading slashes that a path is written with. -/
def rootOf (path : Bytes) : Bytes :=
  match path.takeWhile (· = Ascii.slash) with
  | [] => []
  | [Ascii.slash, Ascii.slash] => [Ascii.slash, Ascii.slash]
  | _ => [Ascii.slash]

def ofPath (path : Bytes) : PathName :=
  ⟨rootOf path,
    (path.splitOn Ascii.slash).filter fun component =>
      !component.isEmpty && component != Route.current⟩

/-- The absolute path name of a route. -/
def ofRoute (route : Route) : PathName :=
  ⟨[Ascii.slash], route⟩

/-- The bytes that are handed to the file system; `.` if the name is empty. -/
def bytes (path : PathName) : Bytes :=
  if path.root.isEmpty && path.components.isEmpty then
    Route.current
  else
    path.root ++ List.intercalate [Ascii.slash] path.components

/-- The path name of the directory that holds the entry. -/
def parent (path : PathName) : PathName :=
  { path with components := path.components.dropLast }

end PathName

end OutlineLint
