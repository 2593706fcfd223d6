import GuardedTools.Access.Policy
import GuardedTools.Check.Form
import GuardedTools.Files
import GuardedTools.Value.Items
import GuardedTools.Yaml

/-!
# Policy files

A policy can be written down as a YAML document with a table of rules, tables of grants to
principals and to roles, the inheritance of roles, and the grants of the anonymous caller.  A rule
must say a permission; blanks around it do not count.
-/

namespace GuardedTools

/-- Why a file gives no policy. -/
inductive PolicyFileFault where
  | badPath (fault : PathFault)
  | unreadable (fault : FileFault)
  | notUtf8 (fault : Utf8.Fault)
  | notYaml (fault : Yaml.Fault)
  | notAMapping
  | invalid (issues : List Issue)
deriving DecidableEq, Repr

namespace PolicyFile

/-- The title of the document. -/
def title : Text := "PolicyDocument"

/-- The rules without the blanks around their permissions, or the first that says none. -/
def trimmedRules : List (Value × Value) → Except Problem (List (Value × Value))
  | [] => .ok []
  | (tool, permission) :: es =>
    if permission.plain.isBlank then
      .error (.rule ("rule for " ++ tool.shown ++ " has an empty permission"))
    else do
      let rest ← trimmedRules es
      return (tool, .text permission.plain.trim) :: rest

def ruleOfRules : Value → Except Problem Value
  | .dict es => (trimmedRules es).map .dict
  | v => .ok v

/-- The document. -/
def form : Form where
  title
  extra := .forbid
  fields := [
    ("rules", .default (.dict []), .dict (.str {} none) (.str {} none) {}),
    ("grants", .default (.dict []), table),
    ("roles", .default (.dict []), table),
    ("inherits", .default (.dict []), table),
    ("anonymous", .default (.list []), .list (.str {} none) {})]
  rules := [("rules", ruleOfRules)]
where
  /-- Lists of texts by text. -/
  table : Shape := .dict (.str {} none) (.list (.str {} none) {}) {}

/-- The texts of a list. -/
def textsOf (v : Value) : List Text := Value.texts (v.items?.getD [])

/-- The rows of a table. -/
def rowsOf : Value → List (Text × List Text)
  | .dict es => es.map fun e => (e.1.plain, textsOf e.2)
  | _ => []

/-- The rules of a table. -/
def rulesOf : Value → List (Text × Text)
  | .dict es => es.map fun e => (e.1.plain, e.2.plain)
  | _ => []

/-- The policy of the values of a document. -/
def policyOf (values : List (Text × Value)) : Policy :=
  let value := Form.valueOf values
  PolicyOf.ofTables (rulesOf (value "rules")) (rowsOf (value "grants")) (rowsOf (value "roles"))
    (textsOf (value "anonymous")) (rowsOf (value "inherits"))

/-- The policy that a text writes. -/
def read (t : Text) : Except PolicyFileFault Policy := do
  match ← (Yaml.read t).mapError .notYaml with
  | .null => return policyOf (← (form.fill []).mapError .invalid)
  | .dict es => return policyOf (← (form.fill es).mapError .invalid)
  | _ => throw .notAMapping

/-- The policy of a file. -/
def load (fs : Files) (path : Path) : Except PolicyFileFault Policy :=
  match path.fault?, fs.readText path with
  | some fault, _ => .error (.badPath fault)
  | none, .error (.file fault) => .error (.unreadable fault)
  | none, .error (.notUtf8 fault) => .error (.notUtf8 fault)
  | none, .ok t => read t

/-- Whether a fault is told as one of the policy; others are told as what they are. -/
def isReported : PolicyFileFault → Bool
  | .badPath _ => false
  | .notUtf8 _ => false
  | .notYaml fault => fault == .malformed
  | _ => true

/-- What is told of a fault with the policy of a file. -/
def report (path : Path) : PolicyFileFault → Text
  | .badPath fault => fault.message
  | .unreadable fault =>
    "cannot read policy file " ++ path.toText ++ ": " ++ fault.message path.toText
  | .notUtf8 fault => fault.message
  | .notYaml .malformed =>
    "invalid YAML in policy file " ++ path.toText ++ ": " ++ Yaml.Fault.message .malformed
  | .notYaml fault => fault.message
  | .notAMapping => "policy file " ++ path.toText ++ " must contain a mapping"
  | .invalid issues => "invalid policy file " ++ path.toText ++ ": " ++ form.report issues

end PolicyFile

end GuardedTools
