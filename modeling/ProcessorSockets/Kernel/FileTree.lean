import ProcessorSockets.Error.System
import ProcessorSockets.Text.Utf8

/-! The files that a kernel knows: directories, plain files and socket files.  A path is
walked entry by entry from the working directory or from the root, and every entry but the
last has to be a directory. -/

namespace ProcessorSockets.FileTree

/-- Entries from the working directory, or from the root after an entry that is a slash. -/
abbrev Path := List (List UInt8)

inductive Node
  | directory
  | file
  /-- A socket file, with the socket that was bound to it, if it is known. -/
  | socket (bound : Option Nat)
  deriving DecidableEq, Repr

structure Tree where
  nodes : List (Path × Node) := []
  deriving DecidableEq, Repr

def slash : UInt8 := 47

def dot : UInt8 := 46

def root : Path := [[slash]]

def entries : List UInt8 → List (List UInt8)
  | [] => []
  | b :: rest =>
    if b = slash then entries rest
    else (b :: rest).takeWhile (· ≠ slash) :: entries (rest.dropWhile (· ≠ slash))
  termination_by bytes => bytes.length
  decreasing_by
    · simp
    · have := (List.dropWhile_suffix (p := (· ≠ slash)) (l := rest)).length_le
      simpa using Nat.lt_succ_of_le this

def start (bytes : List UInt8) : Path := if bytes.head? = some slash then root else []

def enter (directory : Path) (entry : List UInt8) : Path :=
  if entry = [dot] then directory
  else if entry = [dot, dot] then directory.dropLast
  else directory ++ [entry]

namespace Tree

variable (t : Tree)

def find? (path : Path) : Option Node :=
  if path = [] ∨ path = root then some .directory else t.nodes.lookup path

def insert (path : Path) (node : Node) : Tree := { nodes := (path, node) :: t.nodes }

def erase (path : Path) : Tree := { nodes := t.nodes.filter (·.1 ≠ path) }

def walk (directory : Path) : List (List UInt8) → Except Int Path
  | [] => .ok directory
  | [last] => .ok (enter directory last)
  | entry :: rest =>
    match t.find? (enter directory entry) with
    | some .directory => walk (enter directory entry) rest
    | some _ => .error Errno.notDirectory
    | none => .error Errno.noEntry

def resolve (bytes : List UInt8) : Except Int Path :=
  if bytes = [] then .error Errno.noEntry else t.walk (start bytes) (entries bytes)

def get (bytes : List UInt8) : Except Int (Path × Node) := do
  let path ← t.resolve bytes
  match t.find? path with
  | some node => return (path, node)
  | none => throw Errno.noEntry

def make (bytes : List UInt8) (node : Node) : Except Int Tree := do
  let path ← t.resolve bytes
  match t.find? path with
  | some _ => throw Errno.pathExists
  | none => return t.insert path node

def remove (bytes : List UInt8) : Except Int Tree := do
  match ← t.get bytes with
  | (_, .directory) => throw Errno.isDirectory
  | (path, _) => return t.erase path

def isDirectory (bytes : List UInt8) : Bool :=
  match t.get bytes with
  | .ok (_, .directory) => true
  | _ => false

def contains (bytes : List UInt8) : Bool := (t.get bytes).isOk

def plant (bytes : List UInt8) (node : Node) : Tree :=
  let path := (entries bytes).foldl enter (start bytes)
  let above := (List.range path.length).filterMap fun n =>
    let p := path.take n
    if p = [] ∨ (t.find? p).isSome then none else some (p, Node.directory)
  { nodes := (path, node) :: above ++ t.nodes }

@[simp] theorem find?_erase (path : Path) (outside : path ≠ [] ∧ path ≠ root) :
    (t.erase path).find? path = none := by
  simp only [find?, erase, outside]
  simpa using fun a _ _ h e => h e.symm

end Tree

end ProcessorSockets.FileTree
