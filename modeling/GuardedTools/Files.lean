import GuardedTools.Text.Quoted
import GuardedTools.Text.Utf8

/-!
# Files

The files that a program sees: what stands at each place, a place being the list of names that
lead to it from the root.  `Files.locate` walks a path; reading, writing and making directories are
defined through it.

A path is a list of steps from the root or from the working directory.  Reading one drops empty
steps and steps to the same directory, so that two texts which differ only in those are one path;
steps to the parent stay, because what they lead to depends on the files.
-/

namespace GuardedTools

/-! ### Paths -/

/-- A path. -/
structure Path where
  /-- The slashes that it begins with: none for a path from the working directory. -/
  root : Text := ""
  steps : List Text := []
deriving DecidableEq, Inhabited, Repr

namespace Path

/-- The slashes at the start of a path: two stay two, and any other number counts as one. -/
def rootOf (t : Text) : Text :=
  match (t.points.takeWhile (·.is '/')).length with
  | 0 => ""
  | 2 => "//"
  | _ => "/"

/-- The path that a text writes. -/
def ofText (t : Text) : Path :=
  { root := rootOf t, steps := (t.splitOn '/').filter fun s => !s.isEmpty && s != "." }

/-- Whether a path starts at the root. -/
def isAbsolute (p : Path) : Bool := !p.root.isEmpty

/-- The text of a path; the path without steps from the working directory is a point. -/
def toText (p : Path) : Text :=
  if p.root.isEmpty && p.steps.isEmpty then "." else p.root ++ Text.intercalate "/" p.steps

/-- The path without its last step. -/
def parent (p : Path) : Path := { p with steps := p.steps.dropLast }

/-- Steps without those to a parent, each of which takes the step before it away. -/
def settle (steps : List Text) : List Text :=
  steps.foldl (fun before (s : Text) => if s = ".." then before.dropLast else before ++ [s]) []

end Path

/-! ### Places -/

/-- A place among the files: the names that lead to it from the root. -/
abbrev Place := List Text

/-- What can stand at a place. -/
inductive FileNode where
  | file (bytes : List UInt8)
  | directory
deriving DecidableEq, Inhabited, Repr

/-- Why a path cannot be used as intended. -/
inductive FileFault where
  | notFound
  | exists
  | notADirectory
  | isADirectory
  | nameTooLong
deriving DecidableEq, Inhabited, Repr

namespace FileFault

/-- The number of a fault. -/
def number : FileFault → Nat
  | notFound => 2
  | «exists» => 17
  | notADirectory => 20
  | isADirectory => 21
  | nameTooLong => 36

def words : FileFault → Text
  | notFound => "No such file or directory"
  | «exists» => "File exists"
  | notADirectory => "Not a directory"
  | isADirectory => "Is a directory"
  | nameTooLong => "File name too long"

/-- A fault with a path. -/
def message (f : FileFault) (path : Text) : Text :=
  "[Errno " ++ Text.ofNat f.number ++ "] " ++ f.words ++ ": " ++ path.quoted

end FileFault

/-- Why the text of a path is not the name of anything that there may be. -/
inductive PathFault where
  | notUnicode (u : Utf8.Unencodable)
  | embeddedNull
deriving DecidableEq, Repr

namespace PathFault

/-- The word that names a kind of fault. -/
def kind : PathFault → Text
  | notUnicode _ => "UnicodeEncodeError"
  | embeddedNull => "ValueError"

def message : PathFault → Text
  | notUnicode u => u.message
  | embeddedNull => "embedded null byte"

end PathFault

/-- What is wrong with a path before anything is looked for, if anything. -/
def Path.fault? (p : Path) : Option PathFault :=
  match Utf8.unescapable? p.toText with
  | some u => some (.notUnicode u)
  | none => if p.toText.points.any (·.toNat = 0) then some .embeddedNull else none

/-- Files and directories below the root, and the working directory. -/
structure Files where
  nodes : List (Place × FileNode) := []
  home : Place := []
deriving Inhabited, Repr

/-- A path from the working directory as one from the root, without steps to a parent. -/
def Path.fromRoot (p : Path) (fs : Files) : Path :=
  if p.isAbsolute then p else { root := "/", steps := Path.settle (fs.home ++ p.steps) }

namespace Files

/-- What stands at a place. -/
def node? (fs : Files) (place : Place) : Option FileNode :=
  if place.isEmpty then some .directory
  else (fs.nodes.find? (·.1 == place)).map (·.2)

/-- Puts something at a place. -/
def put (fs : Files) (place : Place) (node : FileNode) : Files :=
  { fs with nodes := fs.nodes.filter (·.1 != place) ++ [(place, node)] }

/-- The longest name, in bytes. -/
def nameLimit : Nat := 255

/-- Whether a name is too long to be one. -/
def isTooLong (name : Text) : Bool := nameLimit < ((Utf8.encode name).getD []).length

/-- The place that a step from a directory leads to. -/
def stepTo (place : Place) (step : Text) : Place :=
  if step = ".." then place.dropLast else place ++ [step]

/-- The place that steps from a place lead to; every place on the way must be a directory. -/
def walk (fs : Files) (place : Place) : List Text → Except FileFault Place
  | [] => .ok place
  | step :: steps => match fs.node? place with
    | none => .error .notFound
    | some (.file _) => .error .notADirectory
    | some .directory =>
      if isTooLong step then .error .nameTooLong else walk fs (stepTo place step) steps

/-- Where a path starts. -/
def start (fs : Files) (p : Path) : Place := if p.isAbsolute then [] else fs.home

/-- The place of a path. -/
def locate (fs : Files) (p : Path) : Except FileFault Place := fs.walk (fs.start p) p.steps

/-- What stands at a path. -/
def find? (fs : Files) (p : Path) : Option FileNode :=
  match fs.locate p with
  | .ok place => fs.node? place
  | .error _ => none

/-- The bytes of a file. -/
def read (fs : Files) (p : Path) : Except FileFault (List UInt8) := do
  match fs.node? (← fs.locate p) with
  | none => throw .notFound
  | some .directory => throw .isADirectory
  | some (.file bytes) => return bytes

/-- Why the text of a file cannot be read. -/
inductive TextFault where
  | file (fault : FileFault)
  | notUtf8 (fault : Utf8.Fault)
deriving DecidableEq, Repr

/-- A text in which every line ends in a line feed, whether by itself or after a carriage return, or
in a carriage return alone. -/
def plainLines : List CodePoint → List CodePoint
  | [] => []
  | [p] => [if p.is '\r' then .scalar '\n' else p]
  | p :: q :: rest =>
    if p.is '\r' then
      .scalar '\n' :: (if q.is '\n' then plainLines rest else plainLines (q :: rest))
    else p :: plainLines (q :: rest)

/-- The text of a file. -/
def readText (fs : Files) (p : Path) : Except TextFault Text :=
  match fs.read p with
  | .error fault => .error (.file fault)
  | .ok bytes => match Utf8.decode bytes with
    | .error fault => .error (.notUtf8 fault)
    | .ok t => .ok ⟨plainLines t.points⟩

/-- The files after bytes have been written to a file, which is made if it does not exist. -/
def write (fs : Files) (p : Path) (bytes : List UInt8) : Except FileFault Files := do
  let place ← fs.locate p
  match fs.node? place with
  | some .directory => throw .isADirectory
  | some (.file _) => return fs.put place (.file bytes)
  | none => match fs.node? place.dropLast with
    | some .directory => return fs.put place (.file bytes)
    | some (.file _) => throw .notADirectory
    | none => throw .notFound

/-- Makes the directories that steps from a place lead through. -/
def makeAlong (fs : Files) (place : Place) : List Text → Except FileFault Files
  | [] => .ok fs
  | step :: steps =>
    let next := stepTo place step
    if isTooLong step then .error .nameTooLong
    else match fs.node? next with
      | some .directory => makeAlong fs next steps
      | some (.file _) => .error (if steps.isEmpty then .exists else .notADirectory)
      | none => makeAlong (fs.put next .directory) next steps

/-- Makes a directory and all those on the way to it, as far as they do not exist. -/
def makeDirectories (fs : Files) (p : Path) : Except FileFault Files :=
  fs.makeAlong (fs.start p) p.steps

/-- The directories below the working directory, by the names that lead to them from there. -/
def directories (fs : Files) : List Text :=
  Text.sort (fs.nodes.filterMap fun (place, node) =>
    match node with
    | .directory =>
      if fs.home.isPrefixOf place && fs.home.length < place.length then
        some (Text.intercalate "/" (place.drop fs.home.length))
      else none
    | .file _ => none)

end Files

end GuardedTools
