import Spelling.Text.Pieces
import Spelling.Text.Quoted

/-!
# Files

What is read of a file system: the nodes below a directory, each a file with its bytes or a
directory, and the ways reading a text can fail.

A path is followed step by step, and each step has to start from a directory that is there:

    nothing, or `.`    stays
    `..`               goes to the directory around
    a name             goes to the node of that name

So `a/../b` is `b` only where `a` is a directory.  A path has at most 4095 bytes, counted before it
is followed, and a name at most 255, counted when its turn comes.
-/

namespace Spelling

/-- Why a text could not be read. -/
inductive ReadError where
  /-- Nothing has the name -/
  | notFound
  /-- A part of the name that should be a directory is a file -/
  | notDirectory
  /-- The name is that of a directory -/
  | isDirectory
  /-- The path, or a name in it, has too many bytes -/
  | nameTooLong
  /-- The path holds a NUL, which would end it for the system -/
  | nulInName
  /-- The content is no text -/
  | notText
  deriving DecidableEq, Repr

namespace ReadError

/-- What the system says, without its number. -/
def reason : ReadError → String
  | notFound => "No such file or directory"
  | notDirectory => "Not a directory"
  | isDirectory => "Is a directory"
  | nameTooLong => "File name too long"
  | nulInName => "file name contained an unexpected NUL byte"
  | notText => "stream did not contain valid UTF-8"

/-- The kind of the error. -/
def kind : ReadError → String
  | notFound => "NotFound"
  | notDirectory => "NotADirectory"
  | isDirectory => "IsADirectory"
  | nameTooLong => "InvalidFilename"
  | nulInName => "InvalidInput"
  | notText => "InvalidData"

/-- The number under which the system knows the error, if it is one of the system. -/
def code? : ReadError → Option Nat
  | notFound => some 2
  | notDirectory => some 20
  | isDirectory => some 21
  | nameTooLong => some 36
  | nulInName | notText => none

/-- What a reader is told. -/
def message (e : ReadError) : String :=
  match e.code? with
  | some code => e.reason ++ " (os error " ++ toString code ++ ")"
  | none => e.reason

/-- The error with all its parts. -/
def detail (e : ReadError) : String :=
  let parts := "kind: " ++ e.kind ++ ", message: " ++ Text.quoted e.reason ++ " \x7d"
  match e.code? with
  | some code => "Os \x7b code: " ++ toString code ++ ", " ++ parts
  | none => "Error \x7b " ++ parts

end ReadError

/-- What a name stands for. -/
inductive Node where
  | file (content : ByteArray)
  | directory

/-- The text that a file holds, if it is one. -/
def textOf (content : ByteArray) : Except ReadError String :=
  match String.fromUTF8? content with
  | some text => .ok text
  | none => .error .notText

/-- A directory: the path it is shown under, and its nodes by name.  A name with slashes is that of
a node further down. -/
structure Folder where
  path : String
  nodes : List (String × Node)

/-- Where a path leads: into a folder, by the names on the way from the last one to the first, or to
a directory outside, of which nothing more is known. -/
inductive Place where
  | inside (names : List String)
  | outside
  deriving DecidableEq, Repr

/-- The directory around a place. -/
def Place.around : Place → Place
  | inside (_ :: names) => inside names
  | inside [] | outside => outside

namespace Folder

/-- Most bytes that a name has. -/
def nameLimit : Nat := 255

/-- Most bytes that a path has. -/
def pathLimit : Nat := 4095

/-- What follows the characters of `start` in a text that starts with them. -/
def below? : List Char → List Char → Option (List Char)
  | [], text => some text
  | _ :: _, [] => none
  | s :: start, c :: text => if s = c then below? start text else none

/-- The nodes below a directory of the folder, named from there. -/
def nodesBelow (f : Folder) : List String → List (String × Node)
  | [] => f.nodes
  | names =>
    let start := ("/".intercalate names.reverse ++ "/").toList
    f.nodes.filterMap fun (n, node) =>
      (below? start n.toList).map fun rest => (String.ofList rest, node)

/-- What stands at the end of some names, if anything does.  What lies below a name makes it that of
a directory. -/
def node? (f : Folder) : List String → Option Node
  | [] => some .directory
  | names =>
    match f.nodes.lookup ("/".intercalate names.reverse), f.nodesBelow names with
    | some node, _ => some node
    | none, [] => none
    | none, _ :: _ => some .directory

/-- Whether a place is a directory. -/
def isDirectory (f : Folder) : Place → Bool
  | .inside names =>
    match f.node? names with
    | some .directory => true
    | _ => false
  | .outside => true

/-- Goes one step of a path. -/
def step (f : Folder) (p : Place) (s : String) : Except ReadError Place :=
  if !f.isDirectory p then .error .notDirectory
  else if s = "" ∨ s = "." then .ok p
  else if s = ".." then .ok p.around
  else if nameLimit < s.utf8ByteSize then .error .nameTooLong
  else match p with
    | .inside names =>
      if (f.node? (s :: names)).isSome then .ok (.inside (s :: names)) else .error .notFound
    | .outside => .error .notFound

/-- No step leads on from a file, not even one that would stay or go back. -/
theorem step_of_not_isDirectory {f : Folder} {p : Place} (h : f.isDirectory p = false)
    (s : String) : f.step p s = .error .notDirectory := by
  simp [step, h]

/-- The path of what has some path in the folder. -/
def pathOf (f : Folder) (path : String) : String :=
  if path.startsWith "/" || f.path.isEmpty then path
  else if f.path.endsWith "/" then f.path ++ path
  else f.path ++ "/" ++ path

/-- The place that a path leads to. -/
def find (f : Folder) (path : String) : Except ReadError Place :=
  let whole := f.pathOf path
  if whole.toList.contains '\x00' then .error .nulInName
  else if whole.isEmpty then .error .notFound
  else if pathLimit < whole.utf8ByteSize then .error .nameTooLong
  else (Text.splitAt '/' path).foldlM f.step
    (if path.startsWith "/" then .outside else .inside [])

/-- Reads the bytes under a path. -/
def readBytes (f : Folder) (path : String) : Except ReadError ByteArray := do
  match ← f.find path with
  | .outside => .error .isDirectory
  | .inside names =>
    match f.node? names with
    | some (.file content) => .ok content
    | some .directory => .error .isDirectory
    | none => .error .notFound

/-- Reads the text under a path. -/
def readText (f : Folder) (path : String) : Except ReadError String :=
  f.readBytes path >>= textOf

/-- Whether a path is that of a file. -/
def isFile (f : Folder) (path : String) : Bool :=
  (f.readBytes path).isOk

/-- The folder under a path, empty if no directory is known there. -/
def folderAt (f : Folder) (path : String) : Folder :=
  ⟨f.pathOf path, match f.find path with
    | .ok (.inside names) => f.nodesBelow names
    | .ok .outside | .error _ => []⟩

end Folder

end Spelling
