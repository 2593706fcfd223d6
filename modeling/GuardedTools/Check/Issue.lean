import GuardedTools.Text.Quoted
import GuardedTools.Value.Display

/-!
# Issues

What is wrong with a value that a shape does not accept: a list of issues, each a problem at a
location within the value.  `Issue.report` is the text in which they are told to a caller.
-/

namespace GuardedTools

/-- A step on the way to a part of a value. -/
inductive LocationStep where
  | name (n : Text)
  | index (n : Int)
deriving DecidableEq, Inhabited, Repr

/-- Kinds of collections with a limited number of items. -/
inductive CollectionKind where
  | list | set | frozenSet | tuple | dict
  /-- Whatever has a length. -/
  | any
deriving DecidableEq, Inhabited, Repr

def CollectionKind.title : CollectionKind → Text
  | .list => "List"
  | .set => "Set"
  | .frozenSet => "Frozenset"
  | .tuple => "Tuple"
  | .dict => "Dictionary"
  | .any => "Value"

/-- What is wrong at one place. -/
inductive Problem where
  | missing
  | extraForbidden
  | unexpectedKeyword
  | invalidKey
  | noneRequired
  | boolType | boolParsing
  | intType | intParsing | intParsingSize | intFromFloat
  | finiteNumber
  | floatType | floatParsing
  | decimalType | decimalParsing
  | decimalMaxDigits (most : Nat) | decimalMaxPlaces (most : Nat) | decimalWholeDigits (most : Nat)
  | complexType | complexParsing
  | stringType | stringUnicode
  | stringTooShort (least : Nat) | stringTooLong (most : Nat)
  | stringPattern (pattern : Text)
  | bytesType
  | bytesTooShort (least : Nat) | bytesTooLong (most : Nat)
  | listType | setType | frozenSetType | tupleType | dictType
  | notHashable
  | tooShort (kind : CollectionKind) (least actual : Nat)
  /-- The actual length is said where it is known. -/
  | tooLong (kind : CollectionKind) (most : Nat) (actual : Option Nat)
  | modelType (name : Text)
  | dataclassType (name : Text)
  | fieldsType
  | enumValue (expected : Text)
  | literalValue (expected : Text)
  | multipleOf (limit : Text)
  | atMost (limit : Text) | below (limit : Text)
  | atLeast (limit : Text) | above (limit : Text)
  | dateType | dateParsing (detail : Text) | dateFormat (detail : Text) | dateInexact
  | timeType | timeParsing (detail : Text)
  | dateTimeType | dateTimeParsing (detail : Text) | dateTimeFormat (detail : Text)
  | durationType | durationParsing (detail : Text)
  | uuidType | uuidParsing (detail : Text)
  | callableType
  | notInstance (className : Text)
  | tagMissing (field : Text)
  | tagUnknown (field tag expected : Text)
  | pathType
  /-- A rule of the class itself is broken. -/
  | rule (message : Text)
  /-- The value is one that the shape can do nothing with at all: a limit that makes no sense for
  it, or a key that cannot be found again. -/
  | inapplicable (message : Text)
  /-- The value is nested too deeply to be looked at. -/
  | tooDeep
deriving DecidableEq, Inhabited, Repr

namespace Problem

/-- A number of things, in the plural unless there is one. -/
def counted (n : Nat) (thing : Text) : Text :=
  Text.ofNat n ++ " " ++ thing ++ (if n = 1 then Text.empty else "s")

/-- The word that names a kind of problem. -/
def kind : Problem → Text
  | missing => "missing"
  | extraForbidden => "extra_forbidden"
  | unexpectedKeyword => "unexpected_keyword_argument"
  | invalidKey => "invalid_key"
  | noneRequired => "none_required"
  | boolType => "bool_type"
  | boolParsing => "bool_parsing"
  | intType => "int_type"
  | intParsing => "int_parsing"
  | intParsingSize => "int_parsing_size"
  | intFromFloat => "int_from_float"
  | finiteNumber => "finite_number"
  | floatType => "float_type"
  | floatParsing => "float_parsing"
  | decimalType => "decimal_type"
  | decimalParsing => "decimal_parsing"
  | decimalMaxDigits _ => "decimal_max_digits"
  | decimalMaxPlaces _ => "decimal_max_places"
  | decimalWholeDigits _ => "decimal_whole_digits"
  | complexType => "complex_type"
  | complexParsing => "complex_str_parsing"
  | stringType => "string_type"
  | stringUnicode => "string_unicode"
  | stringTooShort _ => "string_too_short"
  | stringTooLong _ => "string_too_long"
  | stringPattern _ => "string_pattern_mismatch"
  | bytesType => "bytes_type"
  | bytesTooShort _ => "bytes_too_short"
  | bytesTooLong _ => "bytes_too_long"
  | listType => "list_type"
  | setType => "set_type"
  | frozenSetType => "frozen_set_type"
  | tupleType => "tuple_type"
  | dictType => "dict_type"
  | notHashable => "set_item_not_hashable"
  | tooShort _ _ _ => "too_short"
  | tooLong _ _ _ => "too_long"
  | modelType _ => "model_type"
  | dataclassType _ => "dataclass_type"
  | fieldsType => "model_attributes_type"
  | enumValue _ => "enum"
  | literalValue _ => "literal_error"
  | multipleOf _ => "multiple_of"
  | atMost _ => "less_than_equal"
  | below _ => "less_than"
  | atLeast _ => "greater_than_equal"
  | above _ => "greater_than"
  | dateType => "date_type"
  | dateParsing _ => "date_from_datetime_parsing"
  | dateFormat _ => "date_parsing"
  | dateInexact => "date_from_datetime_inexact"
  | timeType => "time_type"
  | timeParsing _ => "time_parsing"
  | dateTimeType => "datetime_type"
  | dateTimeParsing _ => "datetime_from_date_parsing"
  | dateTimeFormat _ => "datetime_parsing"
  | durationType => "time_delta_type"
  | durationParsing _ => "time_delta_parsing"
  | uuidType => "uuid_type"
  | uuidParsing _ => "uuid_parsing"
  | callableType => "callable_type"
  | notInstance _ => "is_instance_of"
  | tagMissing _ => "union_tag_not_found"
  | tagUnknown _ _ _ => "union_tag_invalid"
  | pathType => "path_type"
  | rule _ => "value_error"
  | inapplicable _ => "inapplicable"
  | tooDeep => "recursion_loop"

/-- A problem in words. -/
def message : Problem → Text
  | missing => "Field required"
  | extraForbidden => "Extra inputs are not permitted"
  | unexpectedKeyword => "Unexpected keyword argument"
  | invalidKey => "Keys should be strings"
  | noneRequired => "Input should be None"
  | boolType => "Input should be a valid boolean"
  | boolParsing => "Input should be a valid boolean, unable to interpret input"
  | intType => "Input should be a valid integer"
  | intParsing => "Input should be a valid integer, unable to parse string as an integer"
  | intParsingSize => "Unable to parse input string as an integer, exceeded maximum size"
  | intFromFloat => "Input should be a valid integer, got a number with a fractional part"
  | finiteNumber => "Input should be a finite number"
  | floatType => "Input should be a valid number"
  | floatParsing => "Input should be a valid number, unable to parse string as a number"
  | decimalType => "Decimal input should be an integer, float, string or Decimal object"
  | decimalParsing => "Input should be a valid decimal"
  | decimalMaxDigits n =>
    "Decimal input should have no more than " ++ counted n "digit" ++ " in total"
  | decimalMaxPlaces n =>
    "Decimal input should have no more than " ++ counted n "decimal place"
  | decimalWholeDigits n =>
    "Decimal input should have no more than " ++ counted n "digit" ++ " before the decimal point"
  | complexType =>
    "Input should be a valid python complex object, a number, or a valid complex string following "
      ++ "the rules at https://docs.python.org/3/library/functions.html#complex"
  | complexParsing =>
    "Input should be a valid complex string following the rules at "
      ++ "https://docs.python.org/3/library/functions.html#complex"
  | stringType => "Input should be a valid string"
  | stringUnicode => "Input should be a valid string, unable to parse raw data as a unicode string"
  | stringTooShort n => "String should have at least " ++ counted n "character"
  | stringTooLong n => "String should have at most " ++ counted n "character"
  | stringPattern p => "String should match pattern '" ++ p ++ "'"
  | bytesType => "Input should be a valid bytes"
  | bytesTooShort n => "Data should have at least " ++ counted n "byte"
  | bytesTooLong n => "Data should have at most " ++ counted n "byte"
  | listType => "Input should be a valid list"
  | setType => "Input should be a valid set"
  | frozenSetType => "Input should be a valid frozenset"
  | tupleType => "Input should be a valid tuple"
  | dictType => "Input should be a valid dictionary"
  | notHashable => "Set items should be hashable"
  | tooShort k least actual =>
    k.title ++ " should have at least " ++ counted least "item" ++ " after validation, not "
      ++ Text.ofNat actual
  | tooLong k most actual =>
    k.title ++ " should have at most " ++ counted most "item" ++ " after validation, not "
      ++ (match actual with
        | some n => Text.ofNat n
        | none => "more")
  | modelType n => "Input should be a valid dictionary or instance of " ++ n
  | dataclassType n => "Input should be a dictionary or an instance of " ++ n
  | fieldsType => "Input should be a valid dictionary or object to extract fields from"
  | enumValue e => "Input should be " ++ e
  | literalValue e => "Input should be " ++ e
  | multipleOf n => "Input should be a multiple of " ++ n
  | atMost n => "Input should be less than or equal to " ++ n
  | below n => "Input should be less than " ++ n
  | atLeast n => "Input should be greater than or equal to " ++ n
  | above n => "Input should be greater than " ++ n
  | dateType => "Input should be a valid date"
  | dateParsing d => "Input should be a valid date or datetime, " ++ d
  | dateFormat d => "Input should be a valid date in the format YYYY-MM-DD, " ++ d
  | dateInexact => "Datetimes provided to dates should have zero time - e.g. be exact dates"
  | timeType => "Input should be a valid time"
  | timeParsing d => "Input should be in a valid time format, " ++ d
  | dateTimeType => "Input should be a valid datetime"
  | dateTimeParsing d => "Input should be a valid datetime or date, " ++ d
  | dateTimeFormat d => "Input should be a valid datetime, " ++ d
  | durationType => "Input should be a valid timedelta"
  | durationParsing d => "Input should be a valid timedelta, " ++ d
  | uuidType => "UUID input should be a string, bytes or UUID object"
  | uuidParsing d => "Input should be a valid UUID, " ++ d
  | callableType => "Input should be callable"
  | notInstance c => "Input should be an instance of " ++ c
  | tagMissing f => "Unable to extract tag using discriminator '" ++ f ++ "'"
  | tagUnknown f t e =>
    "Input tag '" ++ t ++ "' found using '" ++ f ++ "' does not match any of the expected tags: "
      ++ e
  | pathType => "Input is not a valid path for <class 'pathlib.Path'>"
  | rule m => "Value error, " ++ m
  | inapplicable m => m
  | tooDeep => "Recursion error - cyclic reference detected"

end Problem

/-- A problem and where it is. -/
structure Issue where
  location : List LocationStep
  problem : Problem
deriving DecidableEq, Inhabited, Repr

namespace LocationStep

/-- A step as it is written in a location; a name with a point in it is set off. -/
def toText : LocationStep → Text
  | index n => Text.ofInt n
  | name n => if n.containsChar '.' then "\x60" ++ n ++ "\x60" else n

/-- The step to the entry of a map with a key. -/
def ofKey : Value → LocationStep
  | .text t => name t
  | .int n => index n
  | .bool b => index (if b then 1 else 0)
  | v => name v.shown

end LocationStep

namespace Issue

/-- An issue with the whole value. -/
def here (p : Problem) : Issue := { location := [], problem := p }

/-- An issue of a part as an issue of the whole. -/
def within (step : LocationStep) (i : Issue) : Issue := { i with location := step :: i.location }

/-- The first issue that is not one with a value but with a limit, as it is told. -/
def inapplicable? (issues : List Issue) : Option Text :=
  issues.findSome? fun i => match i.problem with
    | .inapplicable m => some m
    | _ => none

/-- The lines about one issue; an issue with the whole value has no line for its location. -/
def toText (i : Issue) : Text :=
  (if i.location.isEmpty then Text.empty
    else Text.intercalate "." (i.location.map LocationStep.toText) ++ "\n")
    ++ "  " ++ i.problem.message ++ " [type=" ++ i.problem.kind ++ "]"

/-- The text about all issues with a value of a titled class. -/
def report (title : Text) (issues : List Issue) : Text :=
  Text.ofNat issues.length
    ++ (if issues.length = 1 then " validation error for " else " validation errors for ") ++ title
    ++ "\n" ++ Text.intercalate "\n" (issues.map toText)

end Issue

end GuardedTools
