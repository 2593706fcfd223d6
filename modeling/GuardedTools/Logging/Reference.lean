import GuardedTools.Text.Word
import GuardedTools.Value

/-!
# References in configurations

A text in a configuration of loggers may refer to something else: with `ext://` to an object of the
program by its dotted name, with `cfg://` to another place of the configuration, by a word and
steps from there, `.word` or `[index]`.  `Reference.resolved` gives what is referred to; on the way
further references are followed.
-/

namespace GuardedTools

/-- Why a reference leads nowhere. -/
inductive ReferenceFault where
  /-- It cannot be read, or nothing goes by its name. -/
  | unknown
  /-- A map has no such key. -/
  | missing (key : Value)
  /-- A sequence ends before such an index; the kind is that of the sequence. -/
  | beyond (kind : Text)
  /-- What is there has no parts. -/
  | noParts
  /-- It leads to itself. -/
  | endless
deriving Inhabited

namespace Reference

/-- The objects of the program that a reference may name, apart from the levels. -/
def objects : List Text := [
  "sys", "sys.stdout", "sys.stderr", "sys.stdin", "sys.__stdout__", "sys.__stderr__",
  "sys.__stdin__", "logging", "logging.config", "logging.handlers", "logging.root", "os", "io",
  "collections", "queue", "threading", "types", "argparse", "time", "datetime", "json", "string"]

/-- The levels that a reference may name. -/
def levels : List (Text × Int) := [
  ("logging.CRITICAL", 50), ("logging.FATAL", 50), ("logging.ERROR", 40), ("logging.WARNING", 30),
  ("logging.WARN", 30), ("logging.INFO", 20), ("logging.DEBUG", 10), ("logging.NOTSET", 0)]

/-- The object of a name; `makers` are the names of what makes objects. -/
def outside? (makers : List Text) (name : Text) : Option Value :=
  match levels.find? (·.1 == name) with
  | some (_, n) => some (.int n)
  | none => if objects.contains name || makers.contains name then some (.object name) else none

/-- What a text refers to: the name of an object or the way to a place, behind its mark. -/
def cut? (mark : Text) (v : Value) : Option Text :=
  match v with
  | .text t =>
    let rest := t.drop mark.length
    let rest := if rest.endsWith "\n" then rest.take (rest.length - 1) else rest
    if t.startsWith mark && !rest.containsChar '\n' then some rest else none
  | _ => none

/-- A step into a value. -/
inductive Step where
  | name (word : Text)
  | index (word : Text)
deriving Inhabited

/-- A word and what is left behind it and the blanks around it. -/
def word? (ps : List CodePoint) : Option (Text × List CodePoint) :=
  let ps := ps.dropWhile CodePoint.isBlank
  let word := ps.takeWhile CodePoint.isWord
  if word.isEmpty then none
  else some (⟨word⟩, (ps.dropWhile CodePoint.isWord).dropWhile CodePoint.isBlank)

/-- The first step of a way, and what is left of the way. -/
def step? (ps : List CodePoint) : Option (Step × List CodePoint) :=
  match ps with
  | [] => none
  | p :: rest =>
    if p.is '.' then (word? rest).map fun (word, rest) => (.name word, rest)
    else if p.is '[' then
      match word? rest with
      | some (word, q :: rest) =>
        if q.is ']' then some (.index word, rest.dropWhile CodePoint.isBlank) else none
      | _ => none
    else none

/-- The member of a sequence at a step. -/
def member (kind : Text) (xs : List Value) (s : Step) : Except ReferenceFault Value :=
  match s with
  | .name _ => .error .noParts
  | .index word =>
    if word.points.all (·.decimal?.isSome) then
      match word.toInt? with
      | some n => match xs[n.toNat]? with
        | some v => .ok v
        | none => .error (.beyond kind)
      | none => .error .unknown
    else .error .noParts

/-- What is in a value at a step. -/
def part (v : Value) (s : Step) : Except ReferenceFault Value :=
  match v with
  | .dict es =>
    let key : Value := match s with
      | .name word => .text word
      | .index word =>
        if word.points.all (·.decimal?.isSome) then (word.toInt?.map Value.int).getD (.text word)
        else .text word
    match Value.find? key es with
    | some v => .ok v
    | none => .error (.missing key)
  | .list xs => member "list" xs s
  | .tuple xs => member "tuple" xs s
  | .text t => member "string" (t.points.map fun p => .text ⟨[p]⟩) s
  | _ => .error .noParts

/-- What a value stands for, and then what is there along a way.  The first argument bounds the
steps. -/
def resolvedAlong (makers : List Text) (config : List (Value × Value)) :
    Nat → Value → List CodePoint → Except ReferenceFault Value
  | 0, _, _ => .error .endless
  | fuel + 1, v, way => do
    let v ← match cut? "ext://" v, cut? "cfg://" v with
      | some name, _ => match outside? makers name with
        | some found => pure found
        | none => throw .unknown
      | none, some inside => match word? inside.points with
        | none => throw .unknown
        | some (word, rest) => match Value.find? (.text word) config with
          | none => throw (.missing (.text word))
          | some base => resolvedAlong makers config fuel base rest
      | none, none => pure v
    if way.isEmpty then return v
    match step? way with
    | none => throw .unknown
    | some (s, rest) => resolvedAlong makers config fuel (← part v s) rest

/-- How many steps a reference may take. -/
def stepBound : Nat := 1000

/-- What a value of a configuration stands for; a value that is no reference stands for itself. -/
def resolved (makers : List Text) (config : List (Value × Value)) (v : Value) :
    Except ReferenceFault Value :=
  resolvedAlong makers config stepBound v []

end Reference

end GuardedTools
