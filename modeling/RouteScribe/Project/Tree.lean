import RouteScribe.Project.Path
import RouteScribe.Table
import RouteScribe.Text.Quoted

/-!
# The file tree

The program works on a tree of files and directories as a value.  Every node has
a stamp, the time of its last change; a directory changes when a name is entered
or taken out.  A path with a root is followed from the top of the tree, and any
other path from the working directory; every part but the last has to lead to a
directory.
-/

namespace RouteScribe.Project

open RouteScribe.Text

inductive Node where
  | file (stamp : Int) (content : List UInt8)
  | directory (stamp : Int) (entries : List (String × Node))
  deriving Repr, Inhabited

namespace Node

/-- The time of the last change. -/
def stamp : Node → Int
  | .file stamp _ => stamp
  | .directory stamp _ => stamp

def isDirectory : Node → Bool
  | .file .. => false
  | .directory .. => true

/-- The node with another time of its last change. -/
def restamp (stamp : Int) : Node → Node
  | .file _ content => .file stamp content
  | .directory _ entries => .directory stamp entries

def get? : (names : List String) → Node → Option Node
  | [], node => some node
  | _ :: _, .file .. => none
  | name :: names, .directory _ entries => (Table.get? entries name).bind (get? names)

/-- Sets the node that names lead to, where all names but the last are there. -/
def put (now : Int) (node : Node) : (names : List String) → Node → Node
  | [], _ => node
  | _ :: _, .file stamp content => .file stamp content
  | [name], .directory stamp entries =>
      .directory (if Table.has entries name then stamp else now) (Table.put name node entries)
  | name :: names, .directory stamp entries =>
      match Table.get? entries name with
      | some inner => .directory stamp (Table.put name (put now node names inner) entries)
      | none => .directory stamp entries

def erase (now : Int) : (names : List String) → Node → Node
  | [name], .directory _ entries => .directory now (Table.erase name entries)
  | name :: names, .directory stamp entries =>
      match Table.get? entries name with
      | some inner => .directory stamp (Table.put name (erase now names inner) entries)
      | none => .directory stamp entries
  | _, node => node

end Node

mutual

def Node.descendants (path : Path) : Node → List Path
  | .file .. => []
  | .directory _ entries => pathsBelow path entries

/-- The paths of the entries of the directory at a path and of everything below them. -/
def pathsBelow (path : Path) : List (String × Node) → List Path
  | [] => []
  | (name, node) :: entries =>
      path.child name :: node.descendants (path.child name) ++ pathsBelow path entries

end

/-- Why a file operation fails.  The system reports every fault but the last: a path with
a null character is not handed to it. -/
inductive FileFault where
  | notFound
  | alreadyExists
  | notADirectory
  | isADirectory
  | nullCharacter
  deriving DecidableEq, Repr

/-- The number under which the system reports a fault. -/
def FileFault.number? : FileFault → Option Nat
  | .notFound => some 2
  | .alreadyExists => some 17
  | .notADirectory => some 20
  | .isADirectory => some 21
  | .nullCharacter => none

def FileFault.text : FileFault → String
  | .notFound => "No such file or directory"
  | .alreadyExists => "File exists"
  | .notADirectory => "Not a directory"
  | .isADirectory => "Is a directory"
  | .nullCharacter => "embedded null byte"

/-- A fault with the path of the operation. -/
structure FileError where
  fault : FileFault
  path : Path
  deriving DecidableEq, Repr

def FileError.report? (error : FileError) : Option String :=
  error.fault.number?.map fun number =>
    "[Errno " ++ toString number ++ "] " ++ error.fault.text ++ ": " ++ quoted error.path.text

def FileError.message (error : FileError) : String :=
  error.report?.getD error.fault.text

/-- A file tree with the stamp that its next change gets, and the names that lead from
its top to the working directory. -/
structure Disk where
  top : Node
  clock : Int
  here : List String := []
  deriving Repr, Inhabited

namespace Disk

def empty (clock : Int) : Disk :=
  { top := .directory clock [], clock }

/-- Follows parts from a place, which is given by its names from the last to the
first.  The top is above itself. -/
def follow (top : Node) : (here parts : List String) → Except FileFault (List String)
  | here, [] => .ok here
  | here, part :: parts =>
      match top.get? here.reverse with
      | none => .error .notFound
      | some (.file ..) => .error .notADirectory
      | some (.directory ..) =>
          if part = ".." then
            follow top here.tail parts
          else follow top (part :: here) parts

/-- The names that lead to where a path with a root starts: the top of the tree, or the
working directory, which has to be there, if the root is empty. -/
def start (disk : Disk) (root : String) : Except FileFault (List String) :=
  if root = "" then
    match disk.top.get? disk.here with
    | some (.directory ..) => .ok disk.here
    | _ => .error .notFound
  else .ok []

/-- The names that lead to the place of a path, at which there need be no node. -/
def place (disk : Disk) (path : Path) : Except FileFault (List String) := do
  if path.hasNull then throw .nullCharacter
  let start ← disk.start path.root
  return (← follow disk.top start.reverse path.parts).reverse

/-- The node at a path. -/
def look (disk : Disk) (path : Path) : Except FileFault Node := do
  match disk.top.get? (← disk.place path) with
  | some node => return node
  | none => throw .notFound

def isDirectory (disk : Disk) (path : Path) : Bool :=
  match disk.look path with
  | .ok node => node.isDirectory
  | .error _ => false

def isFile (disk : Disk) (path : Path) : Bool :=
  match disk.look path with
  | .ok node => !node.isDirectory
  | .error _ => false

/-- The time of the last change of what is at a path. -/
def stamp? (disk : Disk) (path : Path) : Option Int :=
  (disk.look path).toOption.map Node.stamp

def read (disk : Disk) (path : Path) : Except FileFault (List UInt8) := do
  match ← disk.look path with
  | .file _ content => return content
  | .directory .. => throw .isADirectory

/-- Puts a node at a place; the clock moves on. -/
def putAt (disk : Disk) (names : List String) (node : Node) : Disk :=
  { disk with top := Node.put disk.clock node names disk.top, clock := disk.clock + 1 }

/-- Gives a file new bytes, and creates it if it is missing. -/
def write (disk : Disk) (path : Path) (content : List UInt8) : Except FileFault Disk := do
  let names ← disk.place path
  match disk.top.get? names with
  | some (.directory ..) => throw .isADirectory
  | _ => return disk.putAt names (.file disk.clock content)

def makeDirectory (disk : Disk) (path : Path) : Except FileFault Disk := do
  let names ← disk.place path
  match disk.top.get? names with
  | some _ => throw .alreadyExists
  | none => return disk.putAt names (.directory disk.clock [])

/-- Sets the time of the last change of what is at a path. -/
def restamp (disk : Disk) (path : Path) (stamp : Int) : Except FileFault Disk := do
  let names ← disk.place path
  match disk.top.get? names with
  | some node => return { disk with top := .put disk.clock (node.restamp stamp) names disk.top }
  | none => throw .notFound

/-- Takes out a file, or a directory with everything in it. -/
def remove (disk : Disk) (path : Path) : Except FileFault Disk := do
  let names ← disk.place path
  match disk.top.get? names with
  | some _ => return { disk with top := disk.top.erase disk.clock names, clock := disk.clock + 1 }
  | none => throw .notFound

/-- Creates the directory of a path unless it is there, and before it the missing
directories above it.  The parts of the path are given from the last to the first.
What has been created stays when a later step fails. -/
def ensureParts (root : String) : (parts : List String) → Disk → Disk × Except FileError Unit
  | [], disk => (disk, .ok ())
  | part :: above, disk =>
      let path : Path := { root, parts := (part :: above).reverse }
      let settle (disk : Disk) (fault : FileFault) : Disk × Except FileError Unit :=
        (disk, if disk.isDirectory path then .ok () else .error ⟨fault, path⟩)
      match disk.makeDirectory path with
      | .ok made => (made, .ok ())
      | .error .notFound =>
          match ensureParts root above disk with
          | (prepared, .error error) => (prepared, .error error)
          | (prepared, .ok ()) =>
              match prepared.makeDirectory path with
              | .ok made => (made, .ok ())
              | .error fault => settle prepared fault
      | .error fault => settle disk fault

/-- Creates the directory of a path with all directories above it. -/
def ensureDirectory (disk : Disk) (path : Path) : Disk × Except FileError Unit :=
  ensureParts path.root path.parts.reverse disk

end Disk

end RouteScribe.Project
