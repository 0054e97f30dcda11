import OutlineLint.FileTree.Path

/-!
# File trees

A file tree maps routes to files and directories; the root is always a
directory.  A path name is refused at once if the whole path is too long.
Access by it then goes through the tree component by component, and each
component has to lead from an existing directory and be short enough.
-/

namespace OutlineLint

/-- A file with its contents, or a directory. -/
inductive Node where
  | file (contents : Bytes)
  | directory
  deriving DecidableEq, Repr

/-- The entries below the root, each with its route. -/
structure FileTree where
  entries : List (Route × Node)
  deriving DecidableEq, Repr

/-- Why the file system refuses a path. -/
inductive AccessError where
  | missing
  | notDirectory
  | alreadyExists
  | isDirectory
  /--
  The path, or a component on the way, is longer than the file system allows.
  -/
  | nameTooLong
  deriving DecidableEq, Repr

structure AccessFault where
  error : AccessError
  path : Bytes
  deriving DecidableEq, Repr

namespace AccessError

/-- The system's number of an error. -/
def number : AccessError → Nat
  | missing => 2
  | notDirectory => 20
  | alreadyExists => 17
  | isDirectory => 21
  | nameTooLong => 36

def words : AccessError → Text
  | missing => "No such file or directory".toList
  | notDirectory => "Not a directory".toList
  | alreadyExists => "File exists".toList
  | isDirectory => "Is a directory".toList
  | nameTooLong => "File name too long".toList

end AccessError

/-- The message of a refusal, with the path in quotes. -/
def AccessFault.message (fault : AccessFault) : Text :=
  "[Errno ".toList ++ Text.ofNat fault.error.number ++ "] ".toList
    ++ fault.error.words ++ ": ".toList ++ fault.path.quoted

namespace FileTree

/-- The number of bytes that a component may have. -/
def nameLimit : Nat := 255

def isTooLong (component : Bytes) : Bool :=
  nameLimit < component.length

/-- The number of bytes that a path may have. -/
def pathLimit : Nat := 4095

def isTooLongPath (path : PathName) : Bool :=
  pathLimit < path.bytes.length

def empty : FileTree :=
  ⟨[]⟩

def node? (tree : FileTree) (route : Route) : Option Node :=
  if route.isEmpty then some .directory else tree.entries.lookup route

/--
The tree with an entry put at a route, in place of the one that was there.
-/
def put (tree : FileTree) (route : Route) (node : Node) : FileTree :=
  ⟨(route, node) :: tree.entries.filter (·.1 != route)⟩

@[simp]
theorem node?_root (tree : FileTree) : tree.node? [] = some .directory := rfl

theorem node?_put_self
    (tree : FileTree) (route : Route) (node : Node) (below : route ≠ []) :
    (tree.put route node).node? route = some node := by
  simp [node?, put, below]

/--
The tree with an entry put at a route, its missing directories made before it.
-/
def plant (tree : FileTree) (route : Route) (node : Node) : FileTree :=
  let withDirectories :=
    (List.range route.length).foldl
      (fun tree length =>
        let directory := route.take length
        if (tree.node? directory).isSome then tree
          else tree.put directory .directory)
      tree
  if route.isEmpty then withDirectories else withDirectories.put route node

/-- The directory that a list of components leads to. -/
def walk (tree : FileTree) (here : Route) :
    List Bytes → Except AccessError Route
  | [] => .ok here
  | component :: rest =>
      if component = Route.upward then
        walk tree here.dropLast rest
      else if isTooLong component then
        .error .nameTooLong
      else
        match tree.node? (here ++ [component]) with
        | none => .error .missing
        | some (.file _) => .error .notDirectory
        | some .directory => walk tree (here ++ [component]) rest

/--
The route of the entry that a path names.  The directory that holds the entry
exists; the entry itself may be missing.
-/
def locate (tree : FileTree) (directory : Route) (path : PathName) :
    Except AccessError Route :=
  let start := if path.root.isEmpty then directory else []
  if isTooLongPath path then
    .error .nameTooLong
  else
    match path.components.getLast? with
    | none => .ok start
    | some last =>
        match tree.walk start path.components.dropLast with
        | .error error => .error error
        | .ok here =>
            if last = Route.upward then .ok here.dropLast
            else if isTooLong last then .error .nameTooLong
            else .ok (here ++ [last])

/-- The entry that a path names. -/
def status (tree : FileTree) (directory : Route) (path : PathName) :
    Except AccessError Node :=
  match tree.locate directory path with
  | .error error => .error error
  | .ok route =>
      match tree.node? route with
      | none => .error .missing
      | some node => .ok node

/-- The entry at a route is new, or another one than before. -/
def differsAt (before after : FileTree) (route : Route) : Bool :=
  after.node? route != before.node? route

/-- The order of entries by their absolute paths, compared byte by byte. -/
def comesBefore (first second : Route × Node) : Bool :=
  !List.lex second.1.path first.1.path fun left right => left < right

/-- The new and the changed entries, in the order of their absolute paths. -/
def changes (before after : FileTree) : List (Route × Node) :=
  (after.entries.filter fun entry => differsAt before after entry.1).mergeSort
    comesBefore

end FileTree

end OutlineLint
