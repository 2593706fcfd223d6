import GuardedTools.Text.Percent

/-!
# Targets of requests

What a request is for: a path, and the names and values of a query.  Both are written with percent
signs for bytes that may not stand in a target; in a query a plus sign stands for a blank.  Of
several values of one name the last one counts.
-/

namespace GuardedTools

/-- The path and the query of a request, decoded. -/
structure Target where
  path : Text
  query : List (Text × Text) := []
deriving DecidableEq, Inhabited, Repr

namespace Target

/-- The steps of a path without those that stay or go back. -/
def settledSteps (steps : List Text) : List Text :=
  steps.foldl (fun before (s : Text) =>
    if s = "." then before
    else if s = ".." then (if before.length ≤ 1 then before else before.dropLast)
    else before ++ [s]) []

/-- A path without steps that stay or go back. -/
def settled (path : Text) : Text := Text.intercalate "/" (settledSteps (path.splitOn '/'))

/-- A path that begins at the root, with one slash. -/
def rooted (path : Text) : Text := "/" ++ (⟨path.points.dropWhile (·.is '/')⟩ : Text)

/-- Whether a text is the name of a scheme, or empty. -/
def isScheme (t : Text) : Bool :=
  match t.points with
  | [] => true
  | p :: ps =>
    p.isLetter && ps.all fun p =>
      p.isLetter || p.isDigit || p.is '+' || p.is '.' || p.is '-'

/-- The scheme that a text begins with, and what follows it. -/
def cutScheme (written : Text) : Text × Text :=
  match written.cutAt ':' with
  | some (scheme, rest) => if isScheme scheme then (scheme, rest) else ("", written)
  | none => ("", written)

/-- The host that a text begins with after two slashes, and what follows it. -/
def cutHost (written : Text) : Text × Text :=
  if written.startsWith "//" then
    let ps := (written.drop 2).points
    (⟨ps.takeWhile (!·.is '/')⟩, ⟨ps.dropWhile (!·.is '/')⟩)
  else ("", written)

/-- The path that is written, after the scheme and the host if these are written too; only if both
are is the path taken as it is. -/
def pathOf (written : Text) : Text :=
  let (scheme, rest) := cutScheme written
  let (host, path) := cutHost rest
  settled (if scheme.isEmpty || host.isEmpty || path.isEmpty then rooted path else path)

/-- The name and the value of a piece of a query. -/
def pairOf (piece : Text) : Text × Text :=
  let (name, value) := (piece.cutAt '=').getD (piece, "")
  (name.formDecoded, value.formDecoded)

/-- The names and values of a query. -/
def queryOf (written : Text) : List (Text × Text) :=
  ((written.splitOn '&').filter (!·.isEmpty)).map pairOf

/-- The target that a text writes; what follows a number sign is not part of it. -/
def read (written : Text) : Target :=
  let written : Text := ⟨written.points.takeWhile (!·.is '#')⟩
  let (path, query) := (written.cutAt '?').getD (written, "")
  { path := (pathOf path).percentDecoded, query := queryOf query }

/-- The value of a name in the query. -/
def value? (t : Target) (name : Text) : Option Text :=
  (t.query.reverse.find? (·.1 == name)).map (·.2)

end Target

end GuardedTools
