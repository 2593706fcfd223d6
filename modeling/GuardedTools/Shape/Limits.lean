import GuardedTools.Check.CalendarValue
import GuardedTools.Text.Pattern.Size
import GuardedTools.Value.Published

/-!
# Limits of shapes

What the arguments of an annotated type make of a shape (`Shape.annotate`).  A limit goes into the
shape itself if that has limits of the kind, and otherwise beside it, where it is looked at after
the shape (`Bound`).  When all are in place, every limit in a shape is made a value of the kind
that it limits, and a pattern is read (`Shape.settled`); one with which this cannot be done can be
put to no use.
-/

namespace GuardedTools.Shape

/-! ### Limits as values of a kind -/

/-- The value that a limit of a name was made, or that it is none of a kind. -/
def coerced (name what : Text) (v : Verdict) : Except Text Value :=
  match v with
  | .ok a => .ok a.value
  | .error _ =>
    .error ("ValueError: " ++ name.quoted ++ " must be coercible to " ++ what)

/-- A limit as a number. -/
def floatLimit (v : Value) : Except Text Value :=
  match v.bare with
  | .float x => .ok (.float x)
  | .bool b => .ok (.float (.ofInt (if b then 1 else 0)))
  | .int n =>
    let x := Binary64.ofInt n
    if x.isFinite then .ok (.float x)
    else .error "OverflowError: int too large to convert to float"
  | w => .error ("TypeError: must be real number, not " ++ w.className)

/-- A limit as a date, which a text must write. -/
def dateLimit (v : Value) : Verdict :=
  match v, Check.octets? v with
  | .date _, _ => .exact v
  | _, some (some bs) => Check.ofReading .dateFormat .date (Date.read bs)
  | _, _ => .refused .dateType

/-- A limit as a moment, which a text must write or a number must count. -/
def dateTimeLimit (v : Value) : Verdict :=
  match v, Check.octets? v with
  | .date _, _ => .refused .dateTimeType
  | _, some (some bs) =>
    Check.ofReading .dateTimeFormat (fun (d, t) => .dateTime d t) (Calendar.readMoment bs)
  | _, _ => Check.dateTimeOf v

/-- Whether a number is one that others can be multiples of. -/
def isDivisor : Value → Bool
  | .int n => 0 < n
  | .float x => x.isFinite && x.compareInt? 0 == some .gt
  | .decimal d => d.ratio?.isSome && d.compare? (.ofInt 0) == some .gt
  | _ => true

/-- A limit with its value. -/
def settledLimit (coerce : Text → Value → Except Text Value) (name : Text) (l : Option Limit) :
    Except Text (Option Limit) :=
  match l with
  | some l => do return some { l with value := ← coerce name l.given }
  | Option.none => .ok Option.none

/-- The limits on what is no number, of which none is about multiples. -/
def settledOrder (coerce : Text → Value → Except Text Value) (l : Limits) : Except Text Limits := do
  let atMost ← settledLimit coerce "le" l.atMost
  let below ← settledLimit coerce "lt" l.below
  let atLeast ← settledLimit coerce "ge" l.atLeast
  let above ← settledLimit coerce "gt" l.above
  return { l with atMost, below, atLeast, above }

/-- The limits on numbers. -/
def settledLimits (coerce : Text → Value → Except Text Value) (l : Limits) :
    Except Text Limits := do
  let multipleOf ← settledLimit coerce "multiple_of" l.multipleOf
  if !(multipleOf.all fun m => isDivisor m.value) then
    throw (Text.ofString "ValueError: 'multiple_of' must be a finite number greater than 0")
  return { ← settledOrder coerce l with multipleOf }

/-- The fault of a pattern that is none, in a shape of texts. -/
def patternFault? (source : Text) : Option TypeFault :=
  match Pattern.read source with
  | .ok _ => Option.none
  | .error refusal =>
    some (.unusable (TypeFault.notMade "str" ("SchemaError: " ++ refusal.message source)))

/-- What was made of a part of a shape of a kind. -/
def made {α β : Type} (kind : Text) (make : α → β) (part : Except Text α) : Except TypeFault β :=
  match part with
  | .ok a => .ok (make a)
  | .error detail => .error (.unusable (TypeFault.notMade kind detail))

/-- A decimal may not be limited in its digits where it may be none that has digits. -/
def settledDecimal (finite : Bool) (digits : DigitLimits) (l : Limits) : Except Text Limits :=
  if !finite && (digits.total.isSome || digits.places.isSome) then
    .error "ValueError: allow_inf_nan=True cannot be used with max_digits or decimal_places"
  else
    settledLimits (fun n v => coerced n "a Decimal instance" (Check.decimal false {} {} v)) l

/-- A shape with its limits as values of the kinds that they limit. -/
def settled : Shape → Except TypeFault Shape
  | int l =>
    made "int" int (settledLimits (fun n v => coerced n "an integer" (Check.int {} v)) l)
  | float f l => made "float" (float f) (settledLimits (fun _ v => floatLimit v) l)
  | decimal f d l => made "decimal" (decimal f d) (settledDecimal f d l)
  | date l =>
    made "date" date (settledOrder (fun n v => coerced n "a date instance" (dateLimit v)) l)
  | time l =>
    made "time" time (settledOrder (fun n v => coerced n "a time instance" (Check.timeOf v)) l)
  | dateTime l =>
    made "datetime" dateTime
      (settledOrder (fun n v => coerced n "a datetime instance" (dateTimeLimit v)) l)
  | duration l =>
    made "timedelta" duration
      (settledOrder (fun n v => coerced n "a timedelta instance" (Check.durationOf v)) l)
  | str l p => match p.bind patternFault? with
    | some fault => .error fault
    | Option.none => .ok (str l p)
  | nullable s => do return nullable (← (settled s).mapError (TypeFault.within "nullable"))
  | noted notes s => do return noted notes (← settled s)
  | bounded (.pattern p) s => do
    let s ← (settled s).mapError (TypeFault.within "chain")
    match patternFault? p with
    | some fault => throw ((fault.within "function-wrap").within "chain")
    | Option.none => return bounded (.pattern p) s
  | bounded b s => do return bounded b (← (settled s).mapError (TypeFault.within "function-after"))
  | s => .ok s

/-! ### Limits put on shapes -/

/-- The greatest count. -/
def countBound : Int := 18446744073709551616

/-- The count that a limit says. -/
def count (v : Value) : Except Text Nat :=
  let counted (n : Int) : Except Text Nat :=
    if n < 0 then .error "OverflowError: can't convert negative int to unsigned"
    else if countBound ≤ n then .error "OverflowError: int too big to convert"
    else .ok n.toNat
  match v.bare with
  | .int n => counted n
  | .bool b => .ok (if b then 1 else 0)
  | w => .error
      ("TypeError: " ++ w.className.quoted ++ " object cannot be interpreted as an integer")

/-- How a limit narrows a shape that has limits of its kind: the narrowed shape, or why the limit
is none. -/
abbrev Narrowing := Shape → Option (Except Text Shape)

/-- A length limit put on a shape. -/
def narrowLength (narrow : LengthLimits → Nat → LengthLimits) (v : Value) : Narrowing := fun s =>
  let put (make : LengthLimits → Shape) (l : LengthLimits) : Option (Except Text Shape) :=
    some ((count v).map fun n => make (narrow l n))
  match s with
  | str l p => put (str · p) l
  | bytes l => put bytes l
  | list s l => put (list s) l
  | set f s l => put (set f s) l
  | tuple ss l => put (tuple ss) l
  | tupleOf s l => put (tupleOf s) l
  | dict k v l => put (dict k v) l
  | _ => Option.none

/-- A pattern put on a shape; bytes take one and do not look at it. -/
def narrowPattern (source : Text) : Narrowing
  | str l _ => some (.ok (str l (some source)))
  | bytes l => some (.ok (bytes l))
  | _ => Option.none

/-- A limit put on the values of a shape of an ordered kind. -/
def narrowOrder (narrow : Limits → Limits) : Narrowing
  | int l => some (.ok (int (narrow l)))
  | float f l => some (.ok (float f (narrow l)))
  | decimal f d l => some (.ok (decimal f d (narrow l)))
  | date l => some (.ok (date (narrow l)))
  | time l => some (.ok (time (narrow l)))
  | dateTime l => some (.ok (dateTime (narrow l)))
  | duration l => some (.ok (duration (narrow l)))
  | _ => Option.none

/-- A limit put on the digits of decimals. -/
def narrowDigits (narrow : DigitLimits → Nat → DigitLimits) (v : Value) : Narrowing
  | decimal f d l => some ((count v).map fun n => decimal f (narrow d n) l)
  | _ => Option.none

/-- Whether a shape of numbers takes those that are not finite; integers are always finite. -/
def narrowFinite (finite : Bool) : Narrowing
  | int l => some (.ok (int l))
  | float _ l => some (.ok (float finite l))
  | decimal _ d l => some (.ok (decimal finite d l))
  | _ => Option.none

/-- A note put on a shape; a later note on the same thing replaces an earlier one. -/
def note (key : Text) (value : Json) : Shape → Shape
  | noted notes s => noted (Json.put key value notes) s
  | s => noted [(key, value)] s

/-- Whether a length is counted in items when it is only published. -/
def hasItems : Shape → Bool
  | list _ _ => true
  | noted _ s => hasItems s
  | bounded _ s => hasItems s
  | _ => false

/-- A limit beside a shape, with a note if it is published then. -/
def beside (note? : Shape → Option (Text × Json)) (bound : Bound) (s : Shape) : Shape :=
  match s, note? s with
  | noted notes inner, some (key, value) => bounded bound (noted (Json.put key value notes) inner)
  | s, some (key, value) => bounded bound (note key value s)
  | s, Option.none => bounded bound s

/-- A limit applied to the shape that it narrows: through "or nothing", and onto the shape itself
if it has limits of the kind, or else beside it. -/
def limit (narrow : Narrowing) (aside : Shape → Except TypeFault Shape) :
    Shape → Except TypeFault Shape
  | nullable s => do
    return nullable (← (limit narrow aside s).mapError (TypeFault.within "nullable"))
  | noted notes s => match narrow s with
    | some narrowed => made s.kind (noted notes) narrowed
    | Option.none => aside (noted notes s)
  | s => match narrow s with
    | some narrowed => made s.kind id narrowed
    | Option.none => aside s

/-! ### Unions of classes told apart by a field -/

/-- The values of a field that tells the classes of a union apart: those of a literal, or of a
union of literals. -/
def tagValues (source field : Text) : Shape → Except TypeFault (List Value)
  | literal vs => .ok vs
  | union ss => tagValuesOfAll source field ss
  | noted _ s => tagValues source field s
  | _ => .error (.notApart (source ++ " needs field " ++ field.quoted
      ++ " to be of type \x60Literal\x60"))
where
  tagValuesOfAll (source field : Text) : List Shape → Except TypeFault (List Value)
    | [] => .ok []
    | s :: ss => do
      let vs ← tagValues source field s
      return vs ++ (← tagValuesOfAll source field ss)

/-- What a class of a kind is called where its fields are at fault. -/
def sourceName (kind : ClassKind) (name : Text) : Text :=
  match kind with
  | .model _ => "Model " ++ name.quoted
  | .dataclass => "Dataclass " ++ name.quoted
  | .typedDict => "TypedDict"

/-- Whether a value can tell classes apart. -/
def isTag : Value → Bool
  | .text _ => true
  | .int _ => true
  | .bool _ => true
  | _ => false

/-- The values by which a class is told apart from the others of a union. -/
def tagsOf (field : Text) : Shape → Except TypeFault (List Value)
  | record kind name _ fields =>
    let source := sourceName kind name
    match fields.find? (·.1 == field) with
    | some (_, _, s) => do
      let vs ← tagValues source field s
      match vs.find? (!isTag ·) with
      | some v => throw (.notApart ("Unsupported value " ++ v.shown ++ " in discriminator"))
      | Option.none => return vs
    | Option.none => .error (.notApart (source ++ " needs a discriminator field for key "
        ++ field.quoted))
  | noted _ s => tagsOf field s
  | bounded _ s => tagsOf field s
  | s => .error (.notApart ("The core schema type " ++ s.kind.quoted
      ++ " is not a valid discriminated union variant."
      ++ match s with
        | list _ _ => " If you are making use of a list of union types, make sure the "
          ++ "discriminator is applied to the union type and not the list (e.g. "
          ++ "\x60list[Annotated[<T> | <U>, Field(discriminator=...)]]\x60)."
        | _ => Text.empty))

/-- The classes of a union under the values that tell them apart; no value may tell of two. -/
def tagMembers (field : Text) (tagged : List (Value × Shape)) :
    List Shape → Except TypeFault (List (Value × Shape))
  | [] => .ok tagged
  | s :: ss => do
    let tags ← tagsOf field s
    match tags.find? fun t => tagged.any (t.same ·.1) with
    | some t => throw (.notApart ("Value " ++ t.shown ++ " for discriminator " ++ field.quoted
        ++ " mapped to multiple choices"))
    | Option.none =>
      let once := tags.foldl (fun kept t => if kept.any t.same then kept else kept ++ [t]) []
      tagMembers field (tagged ++ once.map (·, s)) ss

/-- A union of classes told apart by a field. -/
def discriminate (field : Text) : Shape → Except TypeFault Shape
  | union members => do return tagged field (← tagMembers field [] members)
  | nullable s => do return nullable (← discriminate field s)
  | noted notes s => do return noted notes (← discriminate field s)
  | s => do return tagged field (← tagMembers field [] [s])

/-! ### The arguments of an annotated type -/

/-- A limit as a published member of a shape beside which it stands. -/
def noteAs (key : Shape → Text) (value : Value) (s : Shape) : Option (Text × Json) :=
  some (key s, (value.published?).getD .null)

/-- A shape with the argument of a name. -/
def applyLimit (s : Shape) (name : Text) (v : Value) : Except TypeFault Shape :=
  let put (narrow : Narrowing) (key : Shape → Text) (b : Bound) : Except TypeFault Shape :=
    s.limit narrow fun s => .ok (beside (noteAs key v) b s)
  let order (narrow : Limits → Limits) (b : Bound) : Except TypeFault Shape :=
    put (narrowOrder narrow) (fun _ => name) b
  let l := some (Limit.plain v)
  match name.toString? with
  | some "ge" => order (fun ls => { ls with atLeast := l }) (.atLeast v)
  | some "gt" => order (fun ls => { ls with above := l }) (.above v)
  | some "le" => order (fun ls => { ls with atMost := l }) (.atMost v)
  | some "lt" => order (fun ls => { ls with below := l }) (.below v)
  | some "multiple_of" => order (fun ls => { ls with multipleOf := l }) (.multipleOf v)
  | some "min_length" =>
    put (narrowLength (fun ls n => { ls with min := some n }) v)
      (fun s => if s.hasItems then "minItems" else "minLength") (.minLength v)
  | some "max_length" =>
    put (narrowLength (fun ls n => { ls with max := some n }) v)
      (fun s => if s.hasItems then "maxItems" else "maxLength") (.maxLength v)
  | some "max_digits" =>
    put (narrowDigits (fun ds n => { ds with total := some n }) v) (fun _ => name) (.digits v)
  | some "decimal_places" =>
    put (narrowDigits (fun ds n => { ds with places := some n }) v) (fun _ => name) (.places v)
  | some "allow_inf_nan" =>
    s.limit (narrowFinite (!v.isTruthy)) fun s => match v with
      | .bool false => .ok (bounded .finite s)
      | _ => .error (.misapplied name s.kind)
  | some "pattern" => match v with
    | .text p => s.limit (narrowPattern p) fun s => .ok (bounded (.pattern p) s)
    | _ => .ok s
  | some "discriminator" => match v with
    | .text field => s.discriminate field
    | _ => .ok s
  | _ => .ok s

/-- The order in which limits are applied. -/
def limitNames : List Text :=
  ["gt", "ge", "lt", "le", "multiple_of", "min_length", "max_length", "allow_inf_nan",
    "max_digits", "decimal_places", "pattern", "discriminator"]

/-- The arguments that are published as they are. -/
def noteNames : List Text := ["title", "description", "examples"]

/-- The argument of a name, unless it is nothing. -/
def argument? (arguments : List (Text × Value)) (name : Text) : Option Value :=
  match arguments.find? (·.1 == name) with
  | some (_, v) => if v.isNull then Option.none else some v
  | Option.none => Option.none

/-- A shape with the arguments of an annotated type: its limits, then its notes. -/
def annotate (s : Shape) (arguments : List (Text × Value)) : Except TypeFault Shape := do
  let limited ← limitNames.foldlM (fun s name => match argument? arguments name with
    | some v => s.applyLimit name v
    | Option.none => .ok s) s
  let settled ← limited.settled
  let notes := noteNames.filterMap fun name => do
    let v ← argument? arguments name
    return (name, ← v.published?)
  return notes.foldl (fun s n => s.note n.1 n.2) settled

end GuardedTools.Shape
