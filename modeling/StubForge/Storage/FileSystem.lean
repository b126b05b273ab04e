import StubForge.Storage.Path

/-! Directories and files, and how a path finds its way among them. -/
namespace StubForge

/-- Names from the root down. -/
abbrev Location := List String

inductive Stored
  | directory
  | file (content : String)
  deriving DecidableEq, Repr

/-- What the storage is asked to do, one step at a time. -/
inductive StorageStep
  | makeDirectory
  | createTemporary
  | writeHeader
  | writeBody
  | flush
  | setPermissions
  | rename
  deriving DecidableEq, Repr

/-- Everything that is stored, the directory where relative paths start, and the steps that fail
at a location for reasons of their own, such as missing rights or space. -/
structure FileSystem where
  nodes : List (Location × Stored)
  home : Location
  refuses : StorageStep → Location → Bool

/-- Why a path is of no use. -/
inductive PathProblem
  | notFound
  | notDirectory
  | isDirectory
  | alreadyThere
  | nameTooLong
  | invalidName
  | noParent
  | refused
  deriving DecidableEq, Repr

def PathProblem.detail : PathProblem → String
  | notFound => "no such file or directory"
  | notDirectory => "not a directory"
  | isDirectory => "is a directory"
  | alreadyThere => "file exists"
  | nameTooLong => "file name too long"
  | invalidName => "file name contained an unexpected NUL byte"
  | noParent => "path has no parent directory"
  | refused => "operation not permitted"

namespace FileSystem

/-- What is at a location. The root is always there. -/
def node? (fs : FileSystem) (l : Location) : Option Stored :=
  if l = [] then some .directory else fs.nodes.lookup l

def without (l : Location) (nodes : List (Location × Stored)) : List (Location × Stored) :=
  nodes.filter fun (k, _) => k != l

def put (fs : FileSystem) (l : Location) (n : Stored) : FileSystem :=
  { fs with nodes := (l, n) :: without l fs.nodes }

def remove (fs : FileSystem) (l : Location) : FileSystem :=
  { fs with nodes := without l fs.nodes }

/-- Bytes that the name of one step may have. -/
def maxNameBytes : Nat := 255

/-- Bytes that the text of a path may have. -/
def maxPathBytes : Nat := 4095

/-- A text that may lead somewhere at all. -/
def usable (p : Path) : Except PathProblem Unit :=
  if p.text.toList.contains '\x00' then .error .invalidName
  else if maxPathBytes < p.text.utf8ByteSize then .error .nameTooLong
  else if p.text = "" then .error .notFound
  else .ok ()

/-- The directory that is reached from `here`. -/
def walk (fs : FileSystem) (here : Location) : List Path.Component → Except PathProblem Location
  | [] => .ok here
  | .root :: r => fs.walk [] r
  | .current :: r => fs.walk here r
  | .up :: r => fs.walk here.dropLast r
  | .name name :: r =>
    if maxNameBytes < name.utf8ByteSize then .error .nameTooLong
    else match fs.node? (here ++ [name]) with
      | none => .error .notFound
      | some (.file _) => .error .notDirectory
      | some .directory => fs.walk (here ++ [name]) r

/-- The location that a path names, whether or not anything is there. The directories on the way
have to exist. -/
def locate (fs : FileSystem) (p : Path) : Except PathProblem Location := do
  usable p
  match p.components.getLast? with
  | some (.name name) =>
    let here ← fs.walk fs.home p.components.dropLast
    if maxNameBytes < name.utf8ByteSize then .error .nameTooLong else .ok (here ++ [name])
  | _ => fs.walk fs.home p.components

/-- The location of a directory. -/
def directoryAt (fs : FileSystem) (p : Path) : Except PathProblem Location := do
  usable p
  fs.walk fs.home p.components

/-- The content of a file. -/
def read (fs : FileSystem) (p : Path) : Except PathProblem String := do
  let l ← fs.locate p
  match fs.node? l with
  | none => .error .notFound
  | some .directory => .error .isDirectory
  | some (.file content) => if p.endsInFiller then .error .notDirectory else .ok content

/-- The steps from `here`, each directory that is missing made on the way. What was made stays, also
if a later step fails. -/
def makeAlong (fs : FileSystem) (here : Location) :
    List Path.Component → FileSystem × Except PathProblem Location
  | [] => (fs, .ok here)
  | .root :: r => fs.makeAlong [] r
  | .current :: r => fs.makeAlong here r
  | .up :: r => fs.makeAlong here.dropLast r
  | .name name :: r =>
    let l := here ++ [name]
    if maxNameBytes < name.utf8ByteSize then (fs, .error .nameTooLong)
    else match fs.node? l with
      | some .directory => fs.makeAlong l r
      | some (.file _) => (fs, .error (if r = [] then .alreadyThere else .notDirectory))
      | none =>
        if fs.refuses .makeDirectory l then (fs, .error .refused)
        else (fs.put l .directory).makeAlong l r

/-- A directory with those above it that are missing; the empty path asks for none. A `.` at the end
stands for a directory that is not made, so it has to be there. -/
def makeDirectories (fs : FileSystem) (p : Path) : FileSystem × Except PathProblem Unit :=
  if p.text = "" then (fs, .ok ())
  else match usable p with
    | .error problem => (fs, .error problem)
    | .ok () =>
      if p.endsInDot then
        let (fs, made) := fs.makeAlong fs.home p.components.dropLast
        (fs, made.bind fun _ => (fs.directoryAt p).map fun _ => ())
      else
        let (fs, made) := fs.makeAlong fs.home p.components
        (fs, made.map fun _ => ())

end FileSystem
end StubForge
