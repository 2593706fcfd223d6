import GuardedTools.Text.Utf8
import GuardedTools.Value.Display

/-!
# Values in schemas

A default, a limit or an example of a type is published in the JSON schema of the type, if it has a
JSON form.  `Value.published?` is that form.
-/

namespace GuardedTools

namespace Value

mutual

/-- The JSON value that a value is published as; none if it has none.  Bytes are published as
their text. -/
def published? : Value → Option Json
  | null => some .null
  | bool b => some (.bool b)
  | int n => some (.int n)
  | float x => some (.float x)
  | text t => some (.text t)
  | bytes bs => (Utf8.decode bs).toOption.map .text
  | list xs => (publishedItems? xs).map .array
  | tuple xs => (publishedItems? xs).map .array
  | set _ xs => (publishedItems? xs).map .array
  | dict es => (publishedEntries? es).map .object
  | member _ _ v _ => published? v
  | record _ _ fs es => do
    let shown ← publishedFields? fs
    return .object (shown ++ (← publishedFields? es))
  | date d => some (.text d.toText)
  | time t => some (.text t.isoText)
  | dateTime d t => some (.text (d.toText ++ "T" ++ t.isoText))
  | duration d => some (.text d.isoText)
  | decimal d => some (.text d.toText)
  | uuid t => some (.text t)
  | complex re im => some (.text ((Value.complex re im).plain))
  | ellipsis => Option.none
  | object _ => Option.none

def publishedItems? : List Value → Option (List Json)
  | [] => some []
  | x :: xs => do
    let j ← published? x
    return j :: (← publishedItems? xs)

def publishedEntries? : List (Value × Value) → Option (List (Text × Json))
  | [] => some []
  | (k, x) :: es => do
    let key ← publishedKey? k
    let j ← published? x
    return (key, j) :: (← publishedEntries? es)

def publishedFields? : List (Text × Value) → Option (List (Text × Json))
  | [] => some []
  | (k, x) :: fs => do
    let j ← published? x
    return (k, j) :: (← publishedFields? fs)

/-- The key that a value is published as. -/
def publishedKey? : Value → Option Text
  | text t => some t
  | bool b => some (if b then "true" else "false")
  | null => some "None"
  | int n => some (Text.ofInt n)
  | float x => some x.toText
  | bytes bs => (Utf8.decode bs).toOption
  | v => match v with
    | date d => some d.toText
    | decimal d => some d.toText
    | uuid t => some t
    | _ => Option.none

end

end Value

end GuardedTools
