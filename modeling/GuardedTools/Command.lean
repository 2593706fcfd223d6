import GuardedTools.Command.Line
import GuardedTools.Json.Printer
import GuardedTools.Service
import GuardedTools.Settings.Sources
import GuardedTools.Tool.Notation

/-!
# Commands

What operators ask of the program on the command line: the descriptors of all tools, the tools that
a policy has no rule for, and a single decision with its reason.  `Command.ofWords` reads a line
and `Command.run` answers it; the answer says what is printed, which file is written and how the
program ends (`CommandEnd`).
-/

namespace GuardedTools

/-- What a command is asked about: which tools, and where the policy is. -/
inductive Command where
  /-- Print the descriptors of the tools, or write them to a file. -/
  | build (modules : List Text) (out : Option Text)
  /-- Compare the rules of a policy with the tools. -/
  | checkPolicy (policy : Text) (modules : List Text)
  /-- Decide on a call. -/
  | authorize (policy : Text) (modules : List Text) (principal : Option Text) (roles : List Text)
      (tool : Text)
deriving DecidableEq, Inhabited, Repr

/-- Why a command has no answer. -/
inductive CommandFault where
  | imports (e : ImportError)
  | registration (e : RegisterError)
  | policy (path : Path) (e : PolicyFileFault)
  | settings (e : SettingsFault)
  | file (e : FileFault) (path : Path)
  | notUnicode (u : Utf8.Unencodable)

/-- What a command sees of its surroundings. -/
structure CommandScene where
  files : Files
  modules : Modules
  environment : Variables

/-- How the program ends. -/
inductive CommandEnd where
  /-- With an answer, which is printed. -/
  | answered (text : Text)
  /-- With an error that the operator is told. -/
  | failed (message : Text)
  /-- With a fault that nobody expects. -/
  | crashed (fault : CommandFault)
  /-- Because the line is not read. -/
  | unread (e : LineEnd)

namespace Command

/-! ### Reading -/

def moduleOption : CommandOption := { names := ["--module"], valueName := some "MODULE" }

def policyOption : CommandOption :=
  { names := ["--policy"], valueName := some "POLICY", isRequired := true }

def outOption : CommandOption := { names := ["--out"], valueName := some "OUT" }

def principalOption : CommandOption := { names := ["--principal"], valueName := some "PRINCIPAL" }

def roleOption : CommandOption := { names := ["--role"], valueName := some "ROLE" }

def toolOption : CommandOption :=
  { names := ["--tool"], valueName := some "TOOL", isRequired := true }

/-- The program and its commands. -/
def grammar : ProgramGrammar where
  name := "toolgate"
  commands := [
    { name := "build", options := [LineReading.helpOption, moduleOption, outOption] },
    { name := "check-policy", options := [LineReading.helpOption, policyOption, moduleOption] },
    { name := "authorize",
      options := [LineReading.helpOption, policyOption, moduleOption, principalOption, roleOption,
        toolOption] }]

/-- The command that a grammar with its readings stands for. -/
def ofReading (c : CommandGrammar) (r : LineReading) : Command :=
  let modules := r.all moduleOption.key
  let policy := (r.last? policyOption.key).getD ""
  if c.name = "build" then build modules (r.last? outOption.key)
  else if c.name = "check-policy" then checkPolicy policy modules
  else authorize policy modules (r.last? principalOption.key) (r.all roleOption.key)
    ((r.last? toolOption.key).getD "")

/-- The command that the words of a line ask for. -/
def ofWords (ws : List Text) : Except LineEnd Command :=
  (grammar.read ws).map fun (c, r) => ofReading c r

/-! ### Answers -/

/-- The registry of the tools of some modules; if none are named, of those in the settings. -/
def registryOf (s : CommandScene) (modules : List Text) : Except CommandFault Registry := do
  let modules ←
    if modules.isEmpty then
      ((Settings.load s.files s.environment []).mapError .settings).map (·.toolModules)
    else pure modules
  let ds ← (s.modules.load modules).2.mapError .imports
  (Registry.build ds true).mapError .registration

/-- The policy of a file. -/
def policyOf (s : CommandScene) (written : Text) : Except CommandFault Policy :=
  let path := Path.ofText written
  (PolicyFile.load s.files path).mapError (.policy path)

/-- The descriptors of all tools. -/
def descriptorsJson (r : Registry) : Json :=
  Json.record [("tools", .array (r.descriptors.map Descriptor.toJson))]

/-- Whether a policy has a rule for a tool that says something. -/
def isCovered (p : Policy) (tool : Text) : Bool :=
  (p.requiredPermission tool).any (!·.isEmpty)

/-- How the rules of a policy and the tools compare. -/
def coverageJson (p : Policy) (tools : List Text) : Json :=
  let sorted (ts : List Text) : Json := .array ((Text.sort ts).map .text)
  Json.record [
    ("covered", sorted (tools.filter (isCovered p))),
    ("without_rule", sorted (tools.filter (!isCovered p ·))),
    ("rules_for_unknown_tools", sorted ((p.rules.map (·.1)).filter (!tools.contains ·)))]

/-- The caller of a principal with roles; without a principal the anonymous one. -/
def callerOf (principal : Option Text) (roles : List Text) : Identity :=
  match principal with
  | some p => if p.isEmpty then .anonymous else .of p roles
  | none => .anonymous

/-- A decision for operators, who are told the reason. -/
def decisionJson (caller : Identity) (tool : Text) (d : Decision) : Json :=
  Json.record ([("principal", .text caller.auditSubject), ("tool", .text tool),
      ("decision", .text d.word)]
    ++ match d with
      | .allow => []
      | .deny reason => [("reason", .text reason.word)])

/-- Writes a text to a file, in directories that are made on the way. -/
def write (fs : Files) (path : Path) (t : Text) : Files × Option CommandFault :=
  match fs.makeDirectories path.parent with
  | .error e => (fs, some (.file e path.parent))
  | .ok fs => match Utf8.encode t, Utf8.unencodable? t with
    | none, some u => ((fs.write path []).toOption.getD fs, some (.notUnicode u))
    | bytes, _ => match fs.write path (bytes.getD []) with
      | .error e => (fs, some (.file e path))
      | .ok fs => (fs, none)

/-- The JSON that answers a command. -/
def answer (s : CommandScene) : Command → Except CommandFault Json
  | build modules _ => (registryOf s modules).map descriptorsJson
  | checkPolicy policy modules => do
    let p ← policyOf s policy
    let r ← registryOf s modules
    return coverageJson p r.names
  | authorize policy modules principal roles tool => do
    let p ← policyOf s policy
    let r ← registryOf s modules
    let caller := callerOf principal roles
    return decisionJson caller tool (p.decide (some caller) tool (some r.names))

/-- The file that the answer to a command is written to, if it is. -/
def target? : Command → Option Path
  | build _ (some out) => if out.isEmpty then none else some (Path.ofText out)
  | _ => none

/-- The paths that a command looks at, beside the file of settings. -/
def paths (c : Command) : List Path :=
  let policy := match c with
    | build _ _ => []
    | checkPolicy policy _ => [Path.ofText policy]
    | authorize policy _ _ _ _ => [Path.ofText policy]
  policy ++ c.target?.toList

/-- Answers a command: the files afterwards, and the text to print or the fault. -/
def perform (s : CommandScene) (c : Command) : Files × Except CommandFault Text :=
  match answer s c with
  | .error e => (s.files, .error e)
  | .ok j => match c.target? with
    | none => (s.files, .ok (j.indented ++ "\n"))
    | some path => match write s.files path (j.indented ++ "\n") with
      | (fs, none) => (fs, .ok (path.toText ++ "\n"))
      | (fs, some e) => (fs, .error e)

end Command

namespace CommandFault

/-- A fault in words. -/
def message : CommandFault → Text
  | imports e => e.message
  | registration e => e.message
  | policy path e => PolicyFile.report path e
  | settings e => e.message
  | file e path => e.message path.toText
  | notUnicode u => u.message

/-- Whether a fault is one that operators are told; nobody expects the others. -/
def isExpected : CommandFault → Bool
  | imports (.notFound _) => true
  | imports (.notAPackage _ _) => true
  | imports (.build (.refused _)) => true
  | imports _ => false
  | registration (.build (.refused _)) => true
  | registration _ => false
  | policy _ e => PolicyFile.isReported e
  | settings _ => false
  | file _ _ => true
  | notUnicode _ => false

end CommandFault

/-- Reads a line and answers it: the files afterwards, and how the program ends. -/
def Command.run (s : CommandScene) (ws : List Text) : Files × CommandEnd :=
  match Command.ofWords ws with
  | .error e => (s.files, .unread e)
  | .ok c => match c.perform s with
    | (fs, .ok t) => (fs, .answered t)
    | (fs, .error e) => (fs, if e.isExpected then .failed e.message else .crashed e)

namespace CommandEnd

/-- What is printed. -/
def output : CommandEnd → Text
  | answered t => t
  | unread { place, stop := .help } => Command.grammar.usage place ++ "\n"
  | _ => ""

/-- The fault that nobody expects, in words. -/
def crash? : CommandEnd → Option Text
  | crashed fault => some fault.message
  | _ => none

/-- What is printed as an error; a fault that nobody expects is not told by the program itself. -/
def errors : CommandEnd → Text
  | failed message => "ERROR: " ++ message ++ "\n"
  | unread { place, stop := .fault f } =>
    Command.grammar.usage place ++ "\n" ++ place ++ ": error: " ++ f.message ++ "\n"
  | _ => ""

/-- The number that the program ends with. -/
def code : CommandEnd → Nat
  | answered _ => 0
  | failed _ => 1
  | crashed _ => 1
  | unread { stop := .help, .. } => 0
  | unread _ => 2

end CommandEnd

end GuardedTools
