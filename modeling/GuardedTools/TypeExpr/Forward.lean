import GuardedTools.Text.Quoted
import GuardedTools.TypeExpr.Term

/-!
# Types written as texts

A text that stands for a type is read as a term (`Term.read?`), and the term means something that
can stand where a type does: a class that is known everywhere, such a class with arguments, several
of these of which any will do, or any other thing, of which only how it is shown matters.
`TypeExpr.resolve` puts what the texts within a type mean in their place.
-/

namespace GuardedTools

/-- Why a text is not read as a type. -/
inductive ForwardFault where
  /-- The text is no term. -/
  | notExpression (text : Text)
  /-- A name in the text is the name of nothing. -/
  | undefinedName (name : Text)
  /-- Things of these kinds cannot have a bar between them. -/
  | noUnion (left right : Text)
  /-- A class does not take arguments. -/
  | noArguments (className : Text)
  /-- A thing of a kind does not take arguments. -/
  | notSubscriptable (kind : Text)
  /-- The arguments were given already. -/
  | notGeneric (shown : Text)
  /-- Several things stand where one type is meant. -/
  | notOneType (shown : Text)
deriving DecidableEq, Repr

def ForwardFault.message : ForwardFault → Text
  | .notExpression t => "Forward reference must be an expression -- got " ++ t.quoted
  | .undefinedName n => "name " ++ n.quoted ++ " is not defined"
  | .noUnion a b =>
    "unsupported operand type(s) for |: " ++ a.quoted ++ " and " ++ b.quoted
  | .noArguments c => "type " ++ c.quoted ++ " is not subscriptable"
  | .notSubscriptable k => k.quoted ++ " object is not subscriptable"
  | .notGeneric shown => shown ++ " is not a generic class"
  | .notOneType shown =>
    "Forward references must evaluate to types. Got " ++ shown.take 100 ++ "."

/-- What a term means. -/
inductive Meaning where
  /-- A class that is known everywhere. -/
  | ofClass (name : Text)
  /-- A function that is known everywhere. -/
  | function (name : Text)
  | nothing
  | ellipsis
  | notImplemented
  | bool (b : Bool)
  | number (n : Nat)
  | text (t : Text)
  | tuple (items : List Meaning)
  | list (items : List Meaning)
  /-- A class with arguments. -/
  | generic (className : Text) (arguments : List Meaning)
  | union (members : List Meaning)
deriving Inhabited, Repr

namespace Meaning

/-- The classes of values that are known everywhere. -/
def valueClasses : List Text :=
  (["bool", "bytearray", "bytes", "classmethod", "complex", "dict", "enumerate", "filter",
    "float", "frozenset", "int", "list", "map", "memoryview", "object", "property", "range",
    "reversed", "set", "slice", "staticmethod", "str", "super", "tuple", "type",
    "zip"] : List String).map Text.ofString

/-- The classes of errors that are known everywhere. -/
def errorClasses : List Text :=
  (["ArithmeticError", "AssertionError", "AttributeError", "BaseException",
    "BaseExceptionGroup", "BlockingIOError", "BrokenPipeError", "BufferError", "BytesWarning",
    "ChildProcessError", "ConnectionAbortedError", "ConnectionError", "ConnectionRefusedError",
    "ConnectionResetError", "DeprecationWarning", "EOFError", "EncodingWarning",
    "EnvironmentError", "Exception", "ExceptionGroup", "FileExistsError", "FileNotFoundError",
    "FloatingPointError", "FutureWarning", "GeneratorExit", "IOError", "ImportError",
    "ImportWarning", "IndentationError", "IndexError", "InterruptedError", "IsADirectoryError",
    "KeyError", "KeyboardInterrupt", "LookupError", "MemoryError", "ModuleNotFoundError",
    "NameError", "NotADirectoryError", "NotImplementedError", "OSError", "OverflowError",
    "PendingDeprecationWarning", "PermissionError", "ProcessLookupError", "RecursionError",
    "ReferenceError", "ResourceWarning", "RuntimeError", "RuntimeWarning", "StopAsyncIteration",
    "StopIteration", "SyntaxError", "SyntaxWarning", "SystemError", "SystemExit", "TabError",
    "TimeoutError", "TypeError", "UnboundLocalError", "UnicodeDecodeError",
    "UnicodeEncodeError", "UnicodeError", "UnicodeTranslateError", "UnicodeWarning",
    "UserWarning", "ValueError", "Warning", "ZeroDivisionError"] : List String).map Text.ofString

/-- The functions that are known everywhere. -/
def functions : List Text :=
  (["__build_class__", "__import__", "abs", "aiter", "all", "anext", "any", "ascii", "bin",
    "breakpoint", "callable", "chr", "compile", "delattr", "dir", "divmod", "eval", "exec",
    "format", "getattr", "globals", "hasattr", "hash", "hex", "id", "input", "isinstance",
    "issubclass", "iter", "len", "locals", "max", "min", "next", "oct", "open", "ord", "pow",
    "print", "repr", "round", "setattr", "sorted", "sum", "vars"] : List String).map Text.ofString

/-- Further names of classes. -/
def otherNames : List (Text × Text) := [("EnvironmentError", "OSError"), ("IOError", "OSError")]

/-- The classes that take arguments. -/
def genericClasses : List Text :=
  (["BaseExceptionGroup", "ExceptionGroup", "dict", "enumerate", "frozenset", "list", "set",
    "tuple", "type"] : List String).map Text.ofString

/-- What a name means. -/
def ofName? (n : Text) : Option Meaning :=
  if n = "None" then some nothing
  else if n = "Ellipsis" then some ellipsis
  else if n = "NotImplemented" then some notImplemented
  else if n = "True" || n = "__debug__" then some (bool true)
  else if n = "False" then some (bool false)
  else match otherNames.find? (·.1 == n) with
    | some (_, c) => some (ofClass c)
    | none =>
      if valueClasses.contains n || errorClasses.contains n then some (ofClass n)
      else if functions.contains n then some (function n)
      else none

/-- The kind of a thing, as messages name it. -/
def kind : Meaning → Text
  | ofClass _ => "type"
  | function _ => "builtin_function_or_method"
  | nothing => "NoneType"
  | ellipsis => "ellipsis"
  | notImplemented => "NotImplementedType"
  | bool _ => "bool"
  | number _ => "int"
  | text _ => "str"
  | tuple _ => "tuple"
  | list _ => "list"
  | generic _ _ => "types.GenericAlias"
  | union _ => "types.UnionType"

mutual

/-- How a thing is shown. -/
def shown : Meaning → Text
  | ofClass c => "<class " ++ c.quoted ++ ">"
  | function f => "<built-in function " ++ f ++ ">"
  | nothing => "None"
  | ellipsis => "Ellipsis"
  | notImplemented => "NotImplemented"
  | bool b => if b then "True" else "False"
  | number n => Text.ofNat n
  | text t => t.quoted
  | tuple [m] => "(" ++ shown m ++ ",)"
  | tuple ms => "(" ++ Text.intercalate ", " (shownAll ms) ++ ")"
  | list ms => "[" ++ Text.intercalate ", " (shownAll ms) ++ "]"
  | generic c [] => c ++ "[()]"
  | generic c ms => c ++ "[" ++ Text.intercalate ", " (named ms) ++ "]"
  | union ms => Text.intercalate " | " (named ms)

def shownAll : List Meaning → List Text
  | [] => []
  | m :: ms => shown m :: shownAll ms

/-- How things are shown within a type: a class by its name. -/
def named : List Meaning → List Text
  | [] => []
  | ofClass c :: ms => c :: named ms
  | ellipsis :: ms => "..." :: named ms
  | m :: ms => shown m :: named ms

end

mutual

/-- Whether two terms mean the same thing. -/
def same : Meaning → Meaning → Bool
  | ofClass a, ofClass b => a == b
  | function a, function b => a == b
  | nothing, nothing => true
  | ellipsis, ellipsis => true
  | notImplemented, notImplemented => true
  | bool a, bool b => a == b
  | number a, number b => a == b
  | text a, text b => a == b
  | tuple as, tuple bs => sameAll as bs
  | list as, list bs => sameAll as bs
  | generic a as, generic b bs => a == b && sameAll as bs
  | union as, union bs => sameAll as bs
  | _, _ => false

def sameAll : List Meaning → List Meaning → Bool
  | [], [] => true
  | a :: as, b :: bs => same a b && sameAll as bs
  | _, _ => false

end

/-- The members of a union, of anything else the thing itself. -/
def alternatives : Meaning → List Meaning
  | union ms => ms
  | m => [m]

/-- Whether a bar may stand beside a thing. -/
def isTypeLike : Meaning → Bool
  | ofClass _ => true
  | generic _ _ => true
  | union _ => true
  | _ => false

/-- The number that a thing counts as. -/
def number? : Meaning → Option Nat
  | bool b => some (if b then 1 else 0)
  | number n => some n
  | _ => none

/-- Things with a bar between them. -/
def either (a b : Meaning) : Except ForwardFault Meaning :=
  let isMember (m : Meaning) : Bool := m.isTypeLike || same m nothing
  if isMember a && isMember b && (a.isTypeLike || b.isTypeLike) then
    let members := (a.alternatives ++ b.alternatives).foldl (fun kept m =>
      if kept.any (same m) then kept else kept ++ [m]) []
    .ok (match members with
      | [m] => m
      | ms => union ms)
  else match a, b with
    | bool x, bool y => .ok (bool (x || y))
    | a, b => match a.number?, b.number? with
      | some m, some n => .ok (number (m ||| n))
      | _, _ => .error (.noUnion a.kind b.kind)

/-- A thing with an argument in brackets, which may be several. -/
def applied (head argument : Meaning) : Except ForwardFault Meaning :=
  match head with
  | ofClass c =>
    if genericClasses.contains c then
      .ok (generic c (match argument with
        | tuple ms => ms
        | m => [m]))
    else .error (.noArguments c)
  | generic _ _ => .error (.notGeneric head.shown)
  | union _ => .error (.notGeneric head.shown)
  | m => .error (.notSubscriptable m.kind)

mutual

/-- What a term means. -/
def ofTerm : Term → Except ForwardFault Meaning
  | .name n => match ofName? n with
    | some m => .ok m
    | none => .error (.undefinedName n)
  | .text t => .ok (text t)
  | .number n => .ok (number n)
  | .ellipsis => .ok ellipsis
  | .tuple ts => do return tuple (← ofTerms ts)
  | .list ts => do return list (← ofTerms ts)
  | .applied head argument => do
    let h ← ofTerm head
    h.applied (← ofTerm argument)
  | .either a b => do
    let m ← ofTerm a
    m.either (← ofTerm b)

def ofTerms : List Term → Except ForwardFault (List Meaning)
  | [] => .ok []
  | t :: ts => do
    let m ← ofTerm t
    return m :: (← ofTerms ts)

end

mutual

/-- A thing with the texts among its arguments read by `read`. -/
def opened (read : Text → Except ForwardFault Meaning) : Meaning → Except ForwardFault Meaning
  | generic c ms => do return generic c (← openedArguments read ms)
  | union ms => do return union (← openedMembers read ms)
  | m => .ok m

def openedArguments (read : Text → Except ForwardFault Meaning) :
    List Meaning → Except ForwardFault (List Meaning)
  | [] => .ok []
  | text t :: ms => do
    let m ← read t
    return m :: (← openedArguments read ms)
  | m :: ms => do
    let m ← opened read m
    return m :: (← openedArguments read ms)

def openedMembers (read : Text → Except ForwardFault Meaning) :
    List Meaning → Except ForwardFault (List Meaning)
  | [] => .ok []
  | m :: ms => do
    let m ← opened read m
    return m :: (← openedMembers read ms)

end

/-- What a text means as a type; texts may stand within one another so many times. -/
def ofText : Nat → Text → Except ForwardFault Meaning
  | 0, t => .error (.notExpression t)
  | depth + 1, t => match Term.read? t with
    | none => .error (.notExpression t)
    | some term => do
      match ← ofTerm term with
      | text inner => ofText depth inner
      | tuple ms => throw (.notOneType (tuple ms).shown)
      | m => opened (ofText depth) m

/-- A class that is known everywhere as a type. -/
def classType (name : Text) : TypeExpr :=
  match name.toString? with
  | some "int" => .atom .int
  | some "str" => .atom .str
  | some "float" => .atom .float
  | some "bool" => .atom .bool
  | some "bytes" => .atom .bytes
  | some "complex" => .atom .complex
  | some "object" => .atom .any
  | some "list" => .atom .anyList
  | some "dict" => .atom .anyDict
  | some "tuple" => .atom .anyTuple
  | some "set" => .atom .anySet
  | some "frozenset" => .frozenSet (.atom .any)
  | some "type" => .instances "type"
  | _ => .undeclared (ofClass name).shown

/-- A class with arguments as a type: a map takes two of them, and of the arguments of other
collections the first one counts. -/
def genericType (name : Text) (arguments : List TypeExpr) (isOpen : Bool) (shown : Text) :
    TypeExpr :=
  match name.toString?, arguments with
  | some "list", [] => .atom .anyList
  | some "list", t :: _ => .list t
  | some "set", [] => .atom .anySet
  | some "set", t :: _ => .set t
  | some "frozenset", [] => .frozenSet (.atom .any)
  | some "frozenset", t :: _ => .frozenSet t
  | some "dict", [] => .atom .anyDict
  | some "dict", [k, v] => .dict k v
  | some "dict", ts =>
    .misused ("Expected two type arguments for <class 'dict'>, got " ++ Text.ofNat ts.length)
  | some "tuple", ts =>
    if isOpen then match ts with
      | [t, _] => .tupleOf t
      | _ => .misused "Variable tuples can only have one type"
    else .tuple ts
  | some "type", _ => .misused "Cannot generate a JsonSchema for core_schema.IsSubclassSchema"
  | _, _ => .undeclared shown

/-- Whether the last of some things is the mark for more of the same. -/
def endsOpen (ms : List Meaning) : Bool := ms.getLast?.any (same ellipsis)

mutual

/-- What a term means, as a type. -/
def toType : Meaning → TypeExpr
  | ofClass c => classType c
  | nothing => .atom .none
  | generic c ms => genericType c (toTypes ms) (endsOpen ms) (generic c ms).shown
  | union ms => .unionOf (toTypes ms)
  | m => .undeclared m.shown

def toTypes : List Meaning → List TypeExpr
  | [] => []
  | m :: ms => toType m :: toTypes ms

end

end Meaning

namespace TypeExpr

/-- The type that a text writes. -/
def ofText (t : Text) : Except ForwardFault TypeExpr :=
  (Meaning.ofText (t.length + 1) t).map Meaning.toType

mutual

/-- The type with every text in it read as a type; those within classes that cannot be read stay
as they are. -/
def resolve : TypeExpr → Except ForwardFault TypeExpr
  | forward t => ofText t
  | list t => do return list (← resolve t)
  | set t => do return set (← resolve t)
  | frozenSet t => do return frozenSet (← resolve t)
  | tuple ts => do return tuple (← resolveAll ts)
  | tupleOf t => do return tupleOf (← resolve t)
  | dict k v => do
    let k ← resolve k
    return dict k (← resolve v)
  | union ts => do return unionOf (← resolveAll ts)
  | annotated t as => do return annotated (← resolve t) as
  | record kind name fields => .ok (record kind name (resolveFields fields))
  | t => .ok t

def resolveAll : List TypeExpr → Except ForwardFault (List TypeExpr)
  | [] => .ok []
  | t :: ts => do
    let t ← resolve t
    return t :: (← resolveAll ts)

/-- The fields of a class with the texts in them read that can be read. -/
def resolveFields :
    List (Text × Presence × TypeExpr) → List (Text × Presence × TypeExpr)
  | [] => []
  | (name, presence, t) :: fs =>
    (name, presence, (resolve t).toOption.getD t) :: resolveFields fs

end

end TypeExpr

end GuardedTools
