import GuardedTools.Dump
import GuardedTools.Http.Target
import GuardedTools.Json.Encoded
import GuardedTools.Text.Blank
import GuardedTools.Text.Case

/-!
# Requests and replies

The messages of the transport.  A request may carry a body, which is JSON if its content type says
so (`Request.body`).  A reply has a status and a content; what stops a request on its way to a
reply is a `Refusal`, which is a reply itself, or a crash, of which the caller learns nothing.

The token that a caller presents (`Bearer.token?`) stands in the authorization header of the request
after the word for the scheme.
-/

namespace GuardedTools.Bearer

/-- The word for the scheme, in small letters. -/
def scheme : Text := "bearer"

/-- The token in the text of an authorization header. -/
def tokenOf (header : Text) : Option Text :=
  match header.trim.cutAt ' ' with
  | none => none
  | some (word, rest) =>
    let token := rest.trim
    if word.lower = scheme && !token.isEmpty && !token.containsChar ' ' then some token else none

/-- The value of the first header of a name, which is given in small letters. -/
def header? (name : Text) (headers : List (Text × Text)) : Option Text :=
  (headers.find? fun h => h.1.asciiLower == name).map (·.2)

/-- The token of a request with some headers. -/
def token? (headers : List (Text × Text)) : Option Text :=
  (header? "authorization" headers).bind tokenOf

end GuardedTools.Bearer

namespace GuardedTools.Http

/-- A request. -/
structure Request where
  method : Text
  target : Target
  headers : List (Text × Text) := []
  bytes : List UInt8 := []
deriving Inhabited

/-- What a reply says. -/
inductive Content where
  | json (j : Json)
  /-- Counts under their names. -/
  | counts (lines : List Text)
  | text (t : Text)
deriving Inhabited

/-- A reply. -/
structure Reply where
  status : Nat
  content : Content
deriving Inhabited

/-- Why a request does not come to its answer. -/
inductive Refusal where
  /-- The caller is told with a status what the matter is. -/
  | told (status : Nat) (detail : Json)
  | crash
deriving Inhabited

namespace Reply

/-- The reply to a request that crashed. -/
def crashed : Reply := { status := 500, content := .text "Internal Server Error" }

/-- A reply that tells a detail. -/
def told (status : Nat) (detail : Json) : Reply :=
  { status, content := .json (Json.record [("detail", detail)]) }

/-- A reply of JSON, which can be sent if its numbers are finite and its texts are Unicode. -/
def ofJson (status : Nat) (j : Json) : Except Refusal Reply :=
  if j.isSendable && j.isScalar then .ok { status, content := .json j } else .error .crash

end Reply

/-! ### Bodies -/

/-- What is wrong with a body: where, in words, and of which kind. -/
structure BodyIssue where
  location : List Json
  message : Text
  kind : Text

/-- Bodies with issues are refused with all of them. -/
def Refusal.ofIssues (issues : List BodyIssue) : Refusal :=
  .told 422 (.array (issues.map fun i => Json.record [
    ("type", .text i.kind), ("loc", .array i.location), ("msg", .text i.message)]))

/-- The body of a request. -/
inductive Body where
  | absent
  | json (j : Json)
  /-- Something that is not said to be JSON. -/
  | other

namespace Request

/-- Whether a content type is one of JSON. -/
def isJsonType (t : Text) : Bool :=
  let type := (((t.cutAt ';').elim t (·.1)).trim).map CodePoint.asciiLower
  match type.splitOn '/' with
  | [main, sub] => main == "application" && (sub == "json" || sub.endsWith "+json")
  | _ => false

/-- The body of a request, if it is what its content type says. -/
def body (r : Request) : Except Refusal Body :=
  if r.bytes.isEmpty then .ok .absent
  else if !(Bearer.header? "content-type" r.headers).any isJsonType then .ok .other
  else match Json.textOfBytes? r.bytes with
    | none => .error unreadable
    | some t => match Json.readBody Json.ReadLimits.standard t with
      | .ok j => .ok (.json j)
      | .error (.malformed _ position) => .error (.ofIssues [{
          location := [.str "body", .int position], message := "JSON decode error",
          kind := "json_invalid" }])
      | .error _ => .error unreadable
where
  /-- Something is wrong with the body, and it is not said where. -/
  unreadable : Refusal := .told 400 (.str "There was an error parsing the body")

end Request

/-- The arguments that the body of a call gives. -/
def Body.arguments : Body → Except Refusal Value
  | absent => .ok .null
  | json .null => .ok .null
  | json (.object members) => match Json.lookup "arguments" members with
    | none => .ok .null
    | some .null => .ok .null
    | some (.text t) => .ok (.text t)
    | some (.object ms) => .ok (Value.ofJson (.object ms))
    | some _ =>
      let location (kind : String) : List Json :=
        [.str "body", .str "arguments", .str kind]
      .error (.ofIssues [
        { location := location "dict[str,any]", message := "Input should be a valid dictionary",
          kind := "dict_type" },
        { location := location "str", message := "Input should be a valid string",
          kind := "string_type" }])
  | _ => .error (.ofIssues [{
      location := [.str "body"]
      message := "Input should be a valid dictionary or object to extract fields from"
      kind := "model_attributes_type" }])

end GuardedTools.Http
