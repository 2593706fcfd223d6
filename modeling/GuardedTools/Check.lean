import GuardedTools.Check.Bound
import GuardedTools.Shape.OfType
import GuardedTools.Value.SetOrder

/-!
# Checking values

`Shape.check` decides whether a value is acceptable as a shape, and returns the value as the shape
has it or all issues with it.  It recurses on the shape.  A field whose shape is the class that it
belongs to is checked by the check of that class, to which a bound on the nesting of such classes
is given.

The issues with the parts of a value come in the order of the parts; those with the declared fields
of a class come before those with further members.
-/

namespace GuardedTools

namespace Shape

mutual

/-- What a shape is called where the members of a union are told apart. -/
def label : Shape → Text
  | any => "any"
  | none => "none"
  | bool => "bool"
  | str length pattern =>
    if length.isFree && pattern.isNone then "str" else "constrained-str"
  | int limits => if limits.isFree then "int" else "constrained-int"
  | float _ limits => if limits.isFree then "float" else "constrained-float"
  | decimal _ _ _ => "decimal"
  | complex => "complex"
  | bytes length => if length.isFree then "bytes" else "constrained-bytes"
  | date _ => "date"
  | time _ => "time"
  | dateTime _ => "datetime"
  | duration _ => "timedelta"
  | uuid => "uuid"
  | callable => "callable"
  | instances c => "is-instance[" ++ c ++ "]"
  | list s _ => "list[" ++ label s ++ "]"
  | set frozen s _ => (if frozen then "frozenset[" else "set[") ++ label s ++ "]"
  | tuple ss _ => "tuple[" ++ Text.intercalate ", " (labels ss) ++ "]"
  | tupleOf s _ => "tuple[" ++ label s ++ ", ...]"
  | dict k v _ => "dict[" ++ label k ++ "," ++ label v ++ "]"
  | nullable s => "nullable[" ++ label s ++ "]"
  | union ss => "union[" ++ Text.intercalate "," (labels ss) ++ "]"
  | tagged _ ss => "tagged-union[" ++ Text.intercalate "," (taggedLabels ss) ++ "]"
  | literal vs => "literal[" ++ Text.intercalate "," (vs.map Value.shown) ++ "]"
  | enum name [] _ => "is-instance[" ++ name ++ "]"
  | enum name _ .plain => "enum[" ++ name ++ "]"
  | enum name _ .text => "str-enum[" ++ name ++ "]"
  | enum name _ .integer => "int-enum[" ++ name ++ "]"
  | record .typedDict _ _ _ => "typed-dict"
  | record _ name _ _ => name
  | self => "definition-ref"
  | noted _ s => label s
  | bounded (.pattern _) s =>
    "chain[" ++ label s ++ ",function-wrap[_apply_constraint_with_incompatibility_info()]]"
  | bounded b s => "function-after[" ++ b.name ++ "(), " ++ label s ++ "]"

def labels : List Shape → List Text
  | [] => []
  | s :: ss => label s :: labels ss

def taggedLabels : List (Value × Shape) → List Text
  | [] => []
  | (_, s) :: ss => label s :: taggedLabels ss

end

end Shape

namespace Check

/-- The items of a value that is taken as a collection, and whether it is of the right kind. -/
def itemsOf? (kind : CollectionKind) (v : Value) : Option (List Value × Bool) :=
  match kind, v with
  | .list, .list xs => some (xs, true)
  | .tuple, .tuple xs => some (xs, true)
  | .set, .set frozen xs => some (xs, !frozen)
  | .dict, _ => Option.none
  | _, .list xs => some (xs, false)
  | _, .tuple xs => some (xs, false)
  | .frozenSet, .set frozen xs => some (xs, frozen)
  | _, .set _ xs => some (xs, false)
  | _, _ => Option.none

/-- The problem with a value that is no collection of a kind. -/
def notA : CollectionKind → Problem
  | .list => .listType
  | .set => .setType
  | .frozenSet => .frozenSetType
  | .tuple => .tupleType
  | .dict => .dictType
  | .any => .listType

/-- The fit of a collection of the right kind, or of one that was converted. -/
def kindFit (right : Bool) : Fit := { grade := if right then .exact else .converted }

/-- The verdicts on the items of a collection, each at its index. -/
def atIndices (check : Value → Verdict) (start : Nat) : List Value → List Verdict
  | [] => []
  | x :: xs => (check x).within (.index start) :: atIndices check (start + 1) xs

/-- A collection with too few items. -/
def shortOf (kind : CollectionKind) (length : LengthLimits) (n : Nat) : Option Problem :=
  match length.min with
  | some least => if n < least then some (.tooShort kind least n) else Option.none
  | Option.none => Option.none

/-- A collection with too many items. -/
def excess (kind : CollectionKind) (length : LengthLimits) (n : Nat) (told : Bool) :
    Option Problem :=
  match length.max with
  | some most =>
    if most < n then some (.tooLong kind most (if told then some n else Option.none))
    else Option.none
  | Option.none => Option.none

/-- Checks a list: whether it is too long, then its items, then whether it is too short. -/
def sequence (length : LengthLimits) (check : Value → Verdict) (v : Value) : Verdict :=
  match itemsOf? .list v with
  | Option.none => .refused .listType
  | some (xs, right) =>
    match excess .list length xs.length true with
    | some p => .refused p
    | Option.none => match Verdict.all (atIndices check 0 xs) with
      | .error issues => .error issues
      | .ok (ys, fit) => match shortOf .list length ys.length with
        | some p => .refused p
        | Option.none => .ok { value := .list ys, fit := (kindFit right).both fit }

/-- Whether a verdict accepts. -/
def isAccepted : Verdict → Bool
  | .ok _ => true
  | .error _ => false

/-- The verdict on a tuple of `given` items, from those on its items: it is too long if too many of
them are accepted. -/
def tupleOf (length : LengthLimits) (right : Bool) (given : Nat) (verdicts : List Verdict) :
    Verdict :=
  let accepted := (verdicts.filter isAccepted).length
  match excess .tuple length accepted true with
  | some _ => match length.max with
    | some most => .refused (.tooLong .tuple most (some given))
    | Option.none => .refused .tupleType
  | Option.none => match Verdict.all verdicts with
    | .error issues => .error issues
    | .ok (ys, fit) => match shortOf .tuple length ys.length with
      | some p => .refused p
      | Option.none => .ok { value := .tuple ys, fit := (kindFit right).both fit }

/-- The items of a list that are not equal to an earlier one. -/
def distinct (xs : List Value) : List Value :=
  match Value.setOf xs with
  | .set _ ys => ys
  | _ => []

/-- An item of a set, which must be one that can be found again. -/
def settable (check : Value → Verdict) (v : Value) : Verdict :=
  (check v).require .notHashable Value.isHashable

/-- Checks a set: its items, then the number of different ones. -/
def setOf (frozen : Bool) (length : LengthLimits) (check : Value → Verdict) (v : Value) : Verdict :=
  let kind : CollectionKind := if frozen then .frozenSet else .set
  match itemsOf? kind v with
  | Option.none => .refused (notA kind)
  | some (xs, right) => match Verdict.all (atIndices (settable check) 0 xs) with
    | .error issues => .error issues
    | .ok (ys, fit) =>
      let ys := Value.inSetOrder (distinct ys)
      match excess kind length ys.length false <|> shortOf kind length ys.length with
      | some p => .refused p
      | Option.none => .ok { value := .set frozen ys, fit := (kindFit right).both fit }

/-- The verdict on the key of an entry that is accepted: it must be one that can be found again. -/
def findable (key : Verdict) : Verdict :=
  match key with
  | .error issues => .error issues
  | .ok a => match a.value.unhashable? with
    | some c => .refused (.inapplicable ("unhashable type: " ++ c.quoted))
    | Option.none => .ok a

/-- Checks the entries of a map: the key, then the value, of each in order. -/
def entries (checkKey checkValue : Value → Verdict) :
    List (Value × Value) → Except (List Issue) (List (Value × Value) × Fit)
  | [] => .ok ([], {})
  | (k, x) :: es =>
    let step := LocationStep.ofKey k
    let value := (checkValue x).within step
    let key := checkKey k
    let key := if isAccepted value then findable key else key
    let key := (key.within (.name "[key]")).within step
    match Verdict.all [key, value], entries checkKey checkValue es with
    | .ok ([k, x], fit), .ok (rest, fits) => .ok ((k, x) :: rest, fit.both fits)
    | .ok _, .ok rest => .ok rest
    | .ok _, .error issues => .error issues
    | .error issues, .ok _ => .error issues
    | .error issues, .error more => .error (issues ++ more)

/-- The entries of a list of which later ones with an equal key replace earlier ones. -/
def lastEntries (es : List (Value × Value)) : List (Value × Value) :=
  match Value.dictOf es with
  | .dict es => es
  | _ => []

def dictOf (length : LengthLimits) (checkKey checkValue : Value → Verdict) (v : Value) : Verdict :=
  match v with
  | .dict es => match entries checkKey checkValue es with
    | .error issues => .error issues
    | .ok (es, fit) =>
      let es := lastEntries es
      match shortOf .dict length es.length <|> excess .dict length es.length true with
      | some p => .refused p
      | Option.none => .ok { value := .dict es, fit }
  | _ => .refused .dictType

/-- The best of the verdicts on a value by the members of a union: the first one that nothing can
be better than, or the first of the best others. -/
def best : Option Accepted → List Verdict → Option Accepted
  | found, [] => found
  | found, .error _ :: vs => best found vs
  | found, .ok a :: vs =>
    if a.fit.isPerfect then some a
    else match found with
      | Option.none => best (some a) vs
      | some b => best (some (if b.fit.improvedBy a.fit then a else b)) vs

/-- The issues with a value that a member of a union does not accept. -/
def memberIssues (label : Text) (v : Verdict) : List Issue :=
  match v.within (.name label) with
  | .error issues => issues
  | .ok _ => []

/-- The verdict of a union on a value, from those of its members under their labels.  A limit that
makes no sense for the value spoils it for all members. -/
def unionOf (verdicts : List (Text × Verdict)) : Verdict :=
  let issues := verdicts.flatMap fun (label, v) => memberIssues label v
  match best Option.none (verdicts.map (·.2)), Issue.inapplicable? issues with
  | some a, Option.none => .ok a
  | _, _ => .error issues

/-- The member of a class that tells the classes of a union apart. -/
def tagOf? (field : Text) (v : Value) : Except Problem Value :=
  match v with
  | .dict es => match Value.find? (.text field) es with
    | some tag => .ok tag
    | Option.none => .error (.tagMissing field)
  | .record _ _ fields _ => match fields.find? (·.1 == field) with
    | some (_, tag) => .ok tag
    | Option.none => .error (.tagMissing field)
  | _ => .error .fieldsType

/-- The verdict of the class that the tag of a value names. -/
def byTag (field : Text) (checks : List (Value × (Value → Verdict))) (v : Value) : Verdict :=
  let tags := checks.map (·.1)
  match tagOf? field v with
  | .error p => .refused p
  | .ok tag => match (allowed? tags tag).bind fun t => checks.find? fun c =>
      TypeExpr.sameValue c.1 t with
    | some (t, check) => (check v).within (LocationStep.ofKey t)
    | Option.none =>
      if isForeignText tags tag then .refused .stringUnicode
      else .refused (.tagUnknown field tag.plain (Text.intercalate ", " (tags.map Value.shown)))

/-- A declared field with the verdict on what was given for it. -/
structure FieldVerdict where
  name : Text
  presence : Presence
  /-- The verdict on the given value, if there is one. -/
  verdict : Option Verdict

/-- What the fields of a class come to: their values, how closely they fitted, and how many were
given. -/
def fieldValues : List FieldVerdict → Except (List Issue) (List (Text × Value) × Fit)
  | [] => .ok ([], { given := some 0 })
  | f :: fs =>
    let rest := fieldValues fs
    match f.verdict, f.presence with
    | some v, _ => match v.within (.name f.name), rest with
      | .ok a, .ok (values, fit) =>
        .ok ((f.name, a.value) :: values, (a.fit.both { given := some 1 }).both fit)
      | .ok _, .error issues => .error issues
      | .error issues, .ok _ => .error issues
      | .error issues, .error more => .error (issues ++ more)
    | Option.none, .default d => rest.map fun (values, fit) => ((f.name, d) :: values, fit)
    | Option.none, .optional => rest
    | Option.none, .required =>
      let issue := (Issue.here .missing).within (.name f.name)
      match rest with
      | .ok _ => .error [issue]
      | .error more => .error (issue :: more)

/-- The issues with members that a class does not declare, and those it keeps. -/
def furtherMembers (extra : Extra) (unknown : Problem) (declared : List Text) :
    List (Value × Value) → List Issue × List (Text × Value)
  | [] => ([], [])
  | (k, x) :: es =>
    let (issues, kept) := furtherMembers extra unknown declared es
    match k with
    | .text name =>
      if declared.contains name then (issues, kept)
      else match extra with
        | .ignore => (issues, kept)
        | .allow => (issues, (name, x) :: kept)
        | .forbid => ((Issue.here unknown).within (.name name) :: issues, kept)
    | k => ((Issue.here .invalidKey).within (LocationStep.ofKey k) :: issues, kept)

/-- The problem with a member that a class of a kind does not declare. -/
def unknownMember : ClassKind → Problem
  | .dataclass => .unexpectedKeyword
  | _ => .extraForbidden

/-- Whether the keys of a map that are no names are let through. -/
def ignoresKeys (kind : ClassKind) (extra : Extra) : Bool :=
  match kind, extra with
  | .dataclass, _ => false
  | _, .ignore => true
  | _, _ => false

/-- The record that a class of a kind makes of its fields. -/
def recordOf (kind : ClassKind) (name : Text) (fields kept : List (Text × Value)) : Value :=
  match kind with
  | .model _ => .record .model name fields kept
  | .dataclass => .record .dataclass name fields kept
  | .typedDict => Value.ofMembers (fields ++ kept)

/-- The grade of a record that is made from a map. -/
def madeFit : ClassKind → Fit
  | .typedDict => {}
  | _ => { grade := .converted }

/-- Whether a key of a map is a text that is none of Unicode. -/
def isForeignKey : Value × Value → Bool
  | (.text t, _) => !t.isScalar
  | _ => false

/-- The issues of fields that make the check of a value pointless. -/
def hopeless? (fields : Except (List Issue) (List (Text × Value) × Fit)) : Option (List Issue) :=
  match fields with
  | .error issues => if (Issue.inapplicable? issues).isSome then some issues else Option.none
  | .ok _ => Option.none

/-- Makes a record from the verdicts on its fields and from the map that they were given in. -/
def assemble (kind : ClassKind) (name : Text) (extra : Extra) (fields : List FieldVerdict)
    (es : List (Value × Value)) : Verdict :=
  let ignored := ignoresKeys kind extra
  let (further, kept) :=
    if ignored then ([], [])
    else furtherMembers extra (unknownMember kind) (fields.map (·.name)) es
  let values := fieldValues fields
  match hopeless? values, !ignored && es.any isForeignKey with
  | some issues, _ => .error issues
  | Option.none, true => .refused .stringUnicode
  | Option.none, false => match values with
    | .error issues => .error (issues ++ further)
    | .ok (values, fit) =>
      if further.isEmpty then
        .ok { value := recordOf kind name values kept, fit := (madeFit kind).both fit }
      else .error further

/-- The verdict on a value that is no map, as a class has it. -/
def notAMap (kind : ClassKind) (name : Text) (v : Value) : Verdict :=
  match kind, v with
  | .model _, .record .model c _ _ => if c = name then .exact v else .refused (.modelType name)
  | .model _, _ => .refused (.modelType name)
  | .dataclass, .record .dataclass c _ _ =>
    if c = name then .exact v else .refused (.dataclassType name)
  | .dataclass, _ => .refused (.dataclassType name)
  | .typedDict, _ => .refused .dictType

/-- The verdict of a class on a value, which is a map with its fields, or a record that it made. -/
def classOf (kind : ClassKind) (name : Text) (extra : Extra)
    (fields : List (Value × Value) → List FieldVerdict) (v : Value) : Verdict :=
  match v with
  | .dict es => assemble kind name extra (fields es) es
  | v => notAMap kind name v

/-- The most classes within one another where a class is its own field. -/
def nestingLimit : Nat := 255

/-- A check that uses itself, up to a number of times within itself. -/
def nested (step : (Value → Verdict) → Value → Verdict) : Nat → Value → Verdict
  | 0, _ => .refused .tooDeep
  | n + 1, v => step (nested step n) v

end Check

open Check in
mutual

/-- Checks a value against a shape within a class that checks its own kind by `self`. -/
def Shape.checkWithin (self : Value → Verdict) : Shape → Value → Verdict
  | .any, v => .related v
  | .none, v => Check.none v
  | .bool, v => Check.bool v
  | .str length pattern, v => Check.str length (pattern.map Check.formOf) v
  | .int limits, v => Check.int limits v
  | .float finite limits, v => Check.float finite limits v
  | .decimal finite digits limits, v => Check.decimal finite digits limits v
  | .complex, v => Check.complex v
  | .bytes length, v => Check.bytes length v
  | .date limits, v => Check.date limits v
  | .time limits, v => Check.time limits v
  | .dateTime limits, v => Check.dateTime limits v
  | .duration limits, v => Check.duration limits v
  | .uuid, v => Check.uuid v
  | .callable, v => Check.callable v
  | .instances c, v => Check.instances c v
  | .list item length, v => sequence length (item.checkWithin self) v
  | .tupleOf item length, v => match itemsOf? .tuple v with
    | Option.none => .refused .tupleType
    | some (xs, right) =>
      Check.tupleOf length right xs.length (atIndices (item.checkWithin self) 0 xs)
  | .set frozen item length, v => setOf frozen length (item.checkWithin self) v
  | .tuple items length, v => match itemsOf? .tuple v with
    | Option.none => .refused .tupleType
    | some (xs, right) =>
      if items.length < xs.length then .refused (.tooLong .tuple items.length (some xs.length))
      else Check.tupleOf length right xs.length (Shape.checkItems self 0 items xs)
  | .dict key value length, v => dictOf length (key.checkWithin self) (value.checkWithin self) v
  | .nullable inner, v => match v with
    | .null => .exact .null
    | v => inner.checkWithin self v
  | .union members, v => unionOf (Shape.checkMembers self members v)
  | .tagged field members, v => byTag field (Shape.taggedChecks self members) v
  | .literal values, v => Check.literal values v
  | .enum name members base, v => Check.enum name members base v
  | .record kind name extra fields, v =>
    nested (fun self => classOf kind name extra (Shape.checkFields self fields)) nestingLimit v
  | .self, v => self v
  | .noted _ inner, v => inner.checkWithin self v
  | .bounded b inner, v => b.applied inner.kind (inner.checkWithin self v)

/-- Checks the items of a tuple, each against its shape; one that is not there is missing. -/
def Shape.checkItems (self : Value → Verdict) (start : Nat) :
    List Shape → List Value → List Verdict
  | [], _ => []
  | _ :: items, [] =>
    (Verdict.refused .missing).within (.index start)
      :: Shape.checkItems self (start + 1) items []
  | item :: items, x :: xs =>
    (item.checkWithin self x).within (.index start)
      :: Shape.checkItems self (start + 1) items xs

/-- Checks a value against the members of a union, with their labels. -/
def Shape.checkMembers (self : Value → Verdict) : List Shape → Value → List (Text × Verdict)
  | [], _ => []
  | s :: ss, v => (s.label, s.checkWithin self v) :: Shape.checkMembers self ss v

/-- The checks of the classes of a union, with their tags. -/
def Shape.taggedChecks (self : Value → Verdict) :
    List (Value × Shape) → List (Value × (Value → Verdict))
  | [] => []
  | (tag, s) :: ss => (tag, s.checkWithin self) :: Shape.taggedChecks self ss

/-- Checks what a map gives for the fields of a class. -/
def Shape.checkFields (self : Value → Verdict) :
    List (Text × Presence × Shape) → List (Value × Value) → List FieldVerdict
  | [], _ => []
  | (name, presence, s) :: fields, es =>
    { name, presence, verdict := (Value.find? (.text name) es).map (s.checkWithin self) }
      :: Shape.checkFields self fields es

end

/-- Checks a value against a shape. -/
def Shape.check (s : Shape) (v : Value) : Verdict :=
  s.checkWithin (fun _ => .refused .tooDeep) v

end GuardedTools
