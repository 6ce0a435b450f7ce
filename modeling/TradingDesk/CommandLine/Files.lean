import TradingDesk.Table

/-!
# Files

The program reads, writes and removes files of text by their paths.  `Files` lists these operations
for any kind of effect; `Workspace` is a table of files in memory, which answers them without any
effect outside of it.

A path in a workspace is read part by part: empty parts and points stay in place, and two points go
to the parent.  A file can be written where its folder exists.
-/

namespace TradingDesk.CommandLine

/-- Operations on files; they tell whether they succeeded. -/
structure Files (m : Type → Type) where
  read : String → m (Option String)
  write : String → String → m Bool
  remove : String → m Bool
  makeFolder : String → m Bool

/-- The path of the folder of a file, empty when the path has one part. -/
def folderOf (path : String) : String :=
  let isSlash (c : Char) : Bool := c == '/'
  let name := path.toList.reverse.dropWhile isSlash
  String.ofList ((name.dropWhile (!isSlash ·)).dropWhile isSlash).reverse

/-- Files and empty folders by their paths. -/
structure Workspace where
  files : Table String
  folders : List String

namespace Workspace

/-- A workspace with files. -/
def ofFiles (files : Table String) : Workspace := ⟨files, []⟩

/-- The parts of a path without steps to the parent or to the same place. -/
def parts (path : String) : List String :=
  (path.splitOn "/").foldl (fun done part ↦
    if part = "" ∨ part = "." then done
    else if part = ".." then done.dropLast
    else done ++ [part]) []

/-- The name under which a path is filed. -/
def resolve (path : String) : String :=
  (if path.startsWith "/" then "/" else "") ++ "/".intercalate (parts path)

/-- The content of a file. -/
def read (w : Workspace) (path : String) : Option String :=
  w.files.find? (resolve path)

/-- Whether a folder exists: the outermost one, one that was made, or one with something in it. -/
def hasFolder (w : Workspace) (path : String) : Bool :=
  let name := resolve path
  name.isEmpty || (w.files.names ++ w.folders).any fun other ↦
    (other ++ "/").startsWith (name ++ "/") && !(w.files.find? name).isSome

/-- Writes a file, where its folder exists. -/
def write (w : Workspace) (path content : String) : Option Workspace :=
  if w.hasFolder path || !w.hasFolder (folderOf path) then none
  else some { w with files := w.files.insert (resolve path) content }

/-- Removes a file. -/
def remove (w : Workspace) (path : String) : Option Workspace :=
  if (w.read path).isSome then some { w with files := w.files.erase (resolve path) } else none

/-- Makes a folder and those around it, unless a file is in the way. -/
def makeFolder (w : Workspace) (path : String) : Option Workspace :=
  if (w.read path).isSome then none else some { w with folders := resolve path :: w.folders }

/-- Carries out a change when it is possible. -/
def attempt (change : Workspace → Option Workspace) : StateM Workspace Bool := do
  match change (← get) with
  | some w =>
    set w
    return true
  | none => return false

/-- The operations on a workspace. -/
def operations : Files (StateM Workspace) where
  read path := return (← get).read path
  write path content := attempt (·.write path content)
  remove path := attempt (·.remove path)
  makeFolder path := attempt (·.makeFolder path)

end Workspace

end TradingDesk.CommandLine
