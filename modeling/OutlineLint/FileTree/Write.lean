import OutlineLint.FileTree.Basic

/-!
# Writing into a file tree

A file is written into a directory that exists; a directory is made where
nothing is yet.  Making a directory with its parents accepts directories that
are there already.  What has been made before a step fails stays made.
-/

namespace OutlineLint

/--
The tree after a change, and what stopped the change if it was not finished.
-/
structure Attempt where
  tree : FileTree
  fault : Option AccessFault
  deriving DecidableEq, Repr

namespace FileTree

def makeDirectory (tree : FileTree) (directory : Route) (path : PathName) :
    Except AccessError FileTree :=
  match tree.locate directory path with
  | .error error => .error error
  | .ok route =>
      match tree.node? route with
      | some _ => .error .alreadyExists
      | none => .ok (tree.put route .directory)

/-- Writes a file, in place of its earlier contents. -/
def writeFile
    (tree : FileTree) (directory : Route) (path : PathName) (contents : Bytes) :
    Except AccessError FileTree :=
  match tree.locate directory path with
  | .error error => .error error
  | .ok route =>
      match tree.node? route with
      | some .directory => .error .isDirectory
      | _ => .ok (tree.put route (.file contents))

def isDirectory
    (tree : FileTree) (directory : Route) (path : PathName) : Bool :=
  match tree.status directory path with
  | .ok .directory => true
  | _ => false

/-- Stops at an error, unless the directory that was to be made is there. -/
def accept
    (tree : FileTree) (directory : Route) (path : PathName)
    (error : AccessError) :
    Attempt :=
  if error != .missing && tree.isDirectory directory path then
    ⟨tree, none⟩
  else
    ⟨tree, some ⟨error, path.bytes⟩⟩

/--
Makes a directory and, where they are missing, those that lead to it.  The
components of the path are given last first.
-/
def makeDirectoriesFrom (tree : FileTree) (directory : Route) (root : Bytes) :
    List Bytes → Attempt
  | [] =>
      match tree.makeDirectory directory ⟨root, []⟩ with
      | .ok tree => ⟨tree, none⟩
      | .error error => tree.accept directory ⟨root, []⟩ error
  | last :: above =>
      let path : PathName := ⟨root, (last :: above).reverse⟩
      match tree.makeDirectory directory path with
      | .ok tree => ⟨tree, none⟩
      | .error .missing =>
          let parents := makeDirectoriesFrom tree directory root above
          if parents.fault.isSome then
            parents
          else
            match parents.tree.makeDirectory directory path with
            | .ok tree => ⟨tree, none⟩
            | .error error => parents.tree.accept directory path error
      | .error error => tree.accept directory path error

def makeDirectories
    (tree : FileTree) (directory : Route) (path : PathName) : Attempt :=
  tree.makeDirectoriesFrom directory path.root path.components.reverse

end FileTree

end OutlineLint
