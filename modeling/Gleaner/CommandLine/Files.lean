import Gleaner.Text.Cut
/-!
# Files

A command reads and writes files through `FileAccess`, which may stand for a disk or for a folder
held in memory.

* `FileFault` says why a file cannot be read or written;
* `Folder` is a folder held in memory, and `Folder.access` gives access to it.
-/

namespace Gleaner
namespace CommandLine

inductive FileFault where
  -- The system refuses, with a number of its own for the reason.
  | refused (reason : String) (number : Nat)
  | notText
  deriving DecidableEq, Repr

namespace FileFault

def message : FileFault → String
  | .refused reason number => reason ++ " (os error " ++ toString number ++ ")"
  | .notText => "stream did not contain valid UTF-8"

def missing : FileFault :=
  .refused "No such file or directory" 2

def notFolder : FileFault :=
  .refused "Not a directory" 20

def isFolder : FileFault :=
  .refused "Is a directory" 21

end FileFault

structure FileAccess (m : Type → Type) where
  read : (path : String) → m (Except FileFault ByteArray)
  write : (path text : String) → m (Except FileFault Unit)

def FileAccess.readText {m : Type → Type} [Monad m] (files : FileAccess m) (path : String) :
    m (Except FileFault String) := do
  match ← files.read path with
  | .error fault => return .error fault
  | .ok bytes =>
    match String.fromUTF8? bytes with
    | some text => return .ok text
    | none => return .error .notText

/-- A folder held in memory: its files, each by the names on the way to it. -/
structure Folder where
  files : List (List String × String)
  deriving Repr

namespace Folder

inductive Entry where
  | file (text : String)
  | folder
  | nothing
  deriving DecidableEq, Repr

def names (path : String) : List String :=
  (Text.pieces ['/'] path.toList).map String.ofList

def ofList (files : List (String × String)) : Folder :=
  ⟨files.map fun (path, text) => (names path, text)⟩

/-- What stands at a place; a folder is known by the files below it. -/
def entry (f : Folder) (place : List String) : Entry :=
  match f.files.lookup place with
  | some text => .file text
  | none =>
    if place.isEmpty || f.files.any fun (other, _) => place.isPrefixOf other then .folder
    else .nothing

/-- The place that the names of a path lead to; each name needs a folder that it stands in. -/
def walk (f : Folder) (here : List String) : List String → Except FileFault (List String)
  | [] => .ok here
  | name :: rest =>
    match f.entry here with
    | .nothing => .error .missing
    | .file _ => .error .notFolder
    | .folder =>
      if name = "" || name = "." then walk f here rest
      else if name = ".." then
        if here.isEmpty then .error .missing else walk f here.dropLast rest
      else walk f (here ++ [name]) rest

/-- The place of a path; all absolute paths lead out of the folder. -/
def place (f : Folder) (path : String) : Except FileFault (List String) :=
  if path.isEmpty || path.toList.head? = some '/' then .error .missing else f.walk [] (names path)

def read (f : Folder) (path : String) : Except FileFault String := do
  match f.entry (← f.place path) with
  | .file text => .ok text
  | .folder => .error .isFolder
  | .nothing => .error .missing

def put (f : Folder) (place : List String) (text : String) : Folder :=
  ⟨(place, text) :: f.files.filter fun (other, _) => other != place⟩

def write (f : Folder) (path text : String) : Except FileFault Folder := do
  let steps := names path
  if 1 < steps.length && steps.getLast? = some "" then
    -- a path that ends in a slash names a folder, whether there is one or not
    let _ ← f.walk [] steps.dropLast.dropLast
    .error .isFolder
  else
    let place ← f.place path
    match f.entry place with
    | .folder => .error .isFolder
    | _ => .ok (f.put place text)

def access : FileAccess (StateM Folder) where
  read path := do
    return ((← get).read path).map String.toUTF8
  write path text := do
    match (← get).write path text with
    | .ok f =>
      set f
      return .ok ()
    | .error fault => return .error fault

end Folder

end CommandLine
end Gleaner
