import GuardedTools.Text.Blank
import GuardedTools.Text.Utf8
import GuardedTools.Value

/-!
# Endpoints

`Endpoint.label` is the label under which a request is counted: the template of the route that
answered it, or else its path without the slashes at its end.  `TraceExport` says where traces
are sent to, and what is said in them about the service.
-/

namespace GuardedTools

namespace Endpoint

/-- What is said about the request of which neither route nor path is known. -/
def unknown : Text := "/unknown"

/-- The label of requests that no route answers. -/
def unmatched : Text := "/unmatched"

/-- A path without the slashes at its end; what is left of slashes alone is one. -/
def trimmed (path : Text) : Text :=
  let rest := path.trimEndBy (·.is '/')
  if rest.isEmpty then "/" else rest

/-- The text of a path, which may be given as bytes. -/
def pathText? : Value → Option Text
  | .text t => some t
  | .bytes bs => some (Utf8.decodeLossy bs)
  | _ => none

/-- The label of a request: of its route, its path and its path before decoding. -/
def label (route : Option Value) (path rawPath : Value) : Text :=
  let fallback := (pathText? (if path.isTruthy then path else rawPath)).elim unknown trimmed
  match route with
  | some (.text t) => if t.isEmpty then fallback else t
  | _ => fallback

end Endpoint

namespace TraceExport

def tracesPath : Text := "/v1/traces"

/-- The address that is used if none is given. -/
def standard : Text := "http://localhost:4318" ++ tracesPath

/-- What is said about a service in its traces. -/
def attributes (serviceId deployment : Text) : List (Text × Text) := [
  ("service.name", "toolgate"), ("service.instance.id", serviceId),
  ("deployment.environment", deployment)]

/-- The address for traces, if it is given itself, or the one under a given base. -/
def endpoint (traces base : Option Text) : Text :=
  match traces.filter (!·.isEmpty), base.filter (!·.isEmpty) with
  | some t, _ => t.trim
  | none, some b =>
    let b := b.trim.trimEndBy (·.is '/')
    if b.endsWith tracesPath then b else b ++ tracesPath
  | none, none => standard

end TraceExport

end GuardedTools
