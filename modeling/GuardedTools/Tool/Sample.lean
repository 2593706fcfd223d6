import GuardedTools.Tool.Module

/-!
# Sample tools

The tools that are there without anything being declared: an echo, a sum, a quotient, statistics
of a text, and the time.  The time is asked of whoever imports the module.
-/

namespace GuardedTools.Sample

/-- The name of the module of the sample tools. -/
def moduleName : Text := "toolgate.sample_tools"

def argument (arguments : Arguments) (name : String) : Value :=
  ((arguments.find? (·.1 == Text.ofString name)).map (·.2)).getD .null

/-- The number that a value counts as. -/
def realOf : Value → Binary64
  | .float x => x
  | .int n => .ofInt n
  | .bool b => .ofInt (if b then 1 else 0)
  | _ => .zero

/-- The integer that a value counts as. -/
def wholeOf : Value → Int
  | .int n => n
  | .bool b => if b then 1 else 0
  | _ => 0

/-- The first of the longest words. -/
def longest (words : List Text) : Option Text :=
  words.foldl (fun best w => match best with
    | none => some w
    | some b => if b.length < w.length then some w else some b) none

/-- Statistics of the words of a text; with a number only that many words count. -/
def statistics (text : Text) (top : Value) : Value :=
  let all := text.words
  let words := match top with
    | .int n => all.take n.toNat
    | .bool b => all.take (if b then 1 else 0)
    | _ => all
  .record .model "WordStats" [
    ("words", .int words.length),
    ("characters", .int (Text.intercalate " " words).length),
    ("longest", match longest words with
      | some w => .text w
      | none => .null)] []

def parameter (name : String) (type : TypeExpr) : Parameter := { name := name, type := some type }

def function (name : String) (parameters : List Parameter) (result : TypeExpr)
    (body : Arguments → Outcome) : Function :=
  { name := name, qualifiedName := name, module := some moduleName, parameters,
    result := some result, body }

def echo : Function :=
  function "echo" [parameter "msg" (.atom .str)] (.atom .str) fun as =>
    .returned (argument as "msg")

def add : Function :=
  function "add" [parameter "a" (.atom .int), parameter "b" (.atom .int)] (.atom .int) fun as =>
    .returned (.int (wholeOf (argument as "a") + wholeOf (argument as "b")))

def divide : Function :=
  function "divide" [parameter "a" (.atom .float), parameter "b" (.atom .float)] (.atom .float)
    fun as =>
      let b := realOf (argument as "b")
      if b.equals .zero then .raised (.toolError "division by zero")
      else .returned (.float ((realOf (argument as "a")).div b))

/-- The class that statistics are returned in. -/
def wordStats : TypeExpr :=
  .record (.model {}) "WordStats" [
    ("words", .required, .annotated (.atom .int) [("ge", .int 0)]),
    ("characters", .required, .annotated (.atom .int) [("ge", .int 0)]),
    ("longest", .default .null, .optional (.atom .str))]

def textStatistics : Function :=
  function "word_stats"
    [parameter "text" (.atom .str),
      { name := "top", type := some (.optional (.atom .int)), default := some .null }]
    wordStats fun as =>
      .returned (match argument as "text" with
        | .text t => statistics t (argument as "top")
        | v => v)

def now (time : Text) : Function :=
  function "now" [] (.atom .str) fun _ => .returned (.text time)

/-- A function marked as a tool. -/
def marked (f : Function) (description : String) (name : Option String) : Candidate :=
  .function f none (some {
    description := .text description, name := name.map fun n => .text n })

/-- What the module of the sample tools binds. -/
def bindings (time : Text) : Bindings := [
  ("WordStats", .classObject (some moduleName) "WordStats"),
  ("echo", marked echo "Echoes input" none),
  ("add", marked add "Adds two integers" none),
  ("divide", marked divide "Divides a by b; fails when b is zero" none),
  ("word_stats", marked textStatistics "Counts words and characters in a text" none),
  ("now", marked (now time) "Current UTC time in ISO-8601" (some "clock.now"))]

/-- The module of the sample tools among the modules. -/
def steps (time : Text) : List ModuleStep :=
  (bindings time).map fun b => .define (some b.1) (.ok b.2)

/-- The modules that are there without anything being defined. -/
def modules (time : Text) : Modules := { sources := [(moduleName, steps time)], loaded := [] }

end GuardedTools.Sample
