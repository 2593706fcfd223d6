import GuardedTools.Text.Digit
import GuardedTools.Text.Quoted

/-!
# Command lines

How the words of a command line are read.  A command has options, each with names and perhaps a
value; a long name may be shortened as long as only one option begins that way.  A program has
commands under it: the first word that is no option names one, and what follows is for it.

Every word is first understood by itself (`CommandOptions.understand`), which already finds
ambiguous ones, and then the words are gone through in order.
-/

namespace GuardedTools

/-- An option of a command. -/
structure CommandOption where
  names : List Text
  /-- What stands for the value in the usage; an option without one takes no value. -/
  valueName : Option Text := none
  isRequired : Bool := false
deriving DecidableEq, Inhabited, Repr

namespace CommandOption

/-- All names of an option. -/
def title (o : CommandOption) : Text := Text.intercalate "/" o.names

/-- The name that values are kept under. -/
def key (o : CommandOption) : Text := o.names.getLastD ""

end CommandOption

/-- What is wrong with a command line. -/
inductive LineFault where
  /-- A word begins more than one name. -/
  | ambiguous (written : Text) (names : List Text)
  /-- A value is missing. -/
  | noValue (option : Text)
  /-- An option that takes no value is given one. -/
  | unwantedValue (option value : Text)
  /-- Something required is missing. -/
  | missing (names : List Text)
  /-- There is no such command. -/
  | unknownCommand (written : Text) (commands : List Text)
  /-- Words that mean nothing. -/
  | unrecognized (words : List Text)
deriving DecidableEq, Inhabited, Repr

def LineFault.message : LineFault → Text
  | ambiguous written names =>
    "ambiguous option: " ++ written ++ " could match " ++ Text.intercalate ", " names
  | noValue option => "argument " ++ option ++ ": expected one argument"
  | unwantedValue option value =>
    "argument " ++ option ++ ": ignored explicit argument " ++ value.quoted
  | missing names => "the following arguments are required: " ++ Text.intercalate ", " names
  | unknownCommand written commands =>
    "argument cmd: invalid choice: " ++ written.quoted ++ " (choose from "
      ++ Text.intercalate ", " (commands.map Text.quoted) ++ ")"
  | unrecognized words => "unrecognized arguments: " ++ Text.intercalate " " words

/-- What a word of a command line is. -/
inductive LineWord where
  | plain
  /-- The word after which all are plain. -/
  | separator
  /-- An option, the name it is meant by, and the value that is attached to it. -/
  | option (o : CommandOption) (name : Text) (attached : Option Text)
  /-- A word that looks like an option. -/
  | unknown
deriving DecidableEq, Inhabited, Repr

/-- The options of a command. -/
abbrev CommandOptions := List CommandOption

namespace CommandOptions

/-- All names of all options, each with its option. -/
def allNames (os : CommandOptions) : List (Text × CommandOption) :=
  os.flatMap fun o => o.names.map fun n => (n, o)

/-- The option of a name. -/
def find? (os : CommandOptions) (name : Text) : Option CommandOption :=
  (os.allNames.find? (·.1 == name)).map (·.2)

/-- The options that a word with two hyphens may mean: those with a name that it begins. -/
def beginningWith (os : CommandOptions) (written : Text) : List (Text × LineWord) :=
  let (start, attached) := match written.cutAt '=' with
    | some (start, value) => (start, some value)
    | none => (written, none)
  (os.allNames.filter fun n => n.1.startsWith start).map fun (n, o) => (n, .option o n attached)

/-- The options that a word with one hyphen may mean: the one of its first letter, which the rest
is attached to, and those with a name that it begins. -/
def ofLetter (os : CommandOptions) (written : Text) : List (Text × LineWord) :=
  os.allNames.filterMap fun (n, o) =>
    if n = written.take 2 then some (n, .option o n (some (written.drop 2)))
    else if n.startsWith written then some (n, .option o n none)
    else none

/-- Whether what follows a hyphen is a number. -/
def isNumber (t : Text) : Bool :=
  let isDecimal (p : CodePoint) : Bool := p.decimal?.isSome
  match t.points.dropWhile isDecimal with
  | [] => !t.isEmpty
  | p :: fraction => p.is '.' && !fraction.isEmpty && fraction.all isDecimal

/-- What a word is that no name is and that no name with a value attached is. -/
def guess (os : CommandOptions) (written : Text) : Except LineFault LineWord :=
  let found :=
    if written.startsWith "--" then os.beginningWith written else os.ofLetter written
  match found with
  | [(_, word)] => .ok word
  | _ :: _ :: _ => .error (.ambiguous written (found.map (·.1)))
  | [] =>
    if isNumber (written.drop 1) || written.containsChar ' ' then .ok .plain else .ok .unknown

/-- What a word is. -/
def understand (os : CommandOptions) (written : Text) : Except LineFault LineWord :=
  if !written.startsWith "-" || written.length = 1 then .ok .plain
  else match os.find? written with
    | some o => .ok (.option o written none)
    | none =>
      let attached := (written.cutAt '=').bind fun (name, value) =>
        (os.find? name).map fun o => LineWord.option o name (some value)
      match attached with
      | some word => .ok word
      | none => os.guess written

/-- What each word of a line is; after a separator all are plain. -/
def understandAll (os : CommandOptions) : List Text → Except LineFault (List (Text × LineWord))
  | [] => .ok []
  | w :: ws =>
    if w = "--" then .ok ((w, .separator) :: ws.map fun v => (v, .plain))
    else do
      let word ← os.understand w
      let rest ← os.understandAll ws
      return (w, word) :: rest

end CommandOptions

/-- What the words of a line come to. -/
structure LineReading where
  /-- The values that options were given, in order. -/
  values : List (Text × Text) := []
  /-- The words that mean nothing. -/
  strays : List Text := []
deriving DecidableEq, Inhabited, Repr

/-- How reading a line ends before its end. -/
inductive LineStop where
  /-- Help is asked for. -/
  | help
  | fault (f : LineFault)
deriving DecidableEq, Inhabited, Repr

namespace LineReading

/-- The option that asks for help. -/
def helpOption : CommandOption := { names := ["-h", "--help"] }

/-- An option that takes no value, with text attached: letters after a single hyphen are options of
their own, and otherwise the text is not wanted.  The first argument bounds the letters. -/
def bare (os : CommandOptions) : Nat → CommandOption → Text → Text → LineStop
  | 0, o, _, attached => .fault (.unwantedValue o.title attached)
  | n + 1, o, name, attached =>
    if name.startsWith "--" || attached.isEmpty then .fault (.unwantedValue o.title attached)
    else
      let next := "-" ++ attached.take 1
      match os.find? next with
      | none => .fault (.unwantedValue o.title attached)
      | some o =>
        let rest := attached.drop 1
        if rest.isEmpty then .help else bare os n o next rest

/-- Goes through the words that are for a command. -/
def run (os : CommandOptions) (r : LineReading) :
    List (Text × LineWord) → Except LineStop LineReading
  | [] => .ok r
  | (_, .option o name attached) :: ws =>
    match o.valueName, attached, ws with
    | none, none, _ => .error .help
    | none, some t, _ => .error (bare os t.length o name t)
    | some _, some t, ws => run os { r with values := r.values ++ [(o.key, t)] } ws
    | some _, none, (v, .plain) :: ws => run os { r with values := r.values ++ [(o.key, v)] } ws
    | some _, none, _ => .error (.fault (.noValue o.title))
  | (w, _) :: ws => run os { r with strays := r.strays ++ [w] } ws

/-- The options that are required and were not given. -/
def missing (os : CommandOptions) (r : LineReading) : List Text :=
  (os.filter fun o => o.isRequired && !r.values.any (·.1 == o.key)).map CommandOption.title

/-- Reads the words that are for a command. -/
def ofWords (os : CommandOptions) (ws : List Text) : Except LineStop LineReading := do
  let words ← (os.understandAll ws).mapError .fault
  let r ← run os {} words
  match r.missing os with
  | [] => return r
  | names => throw (.fault (.missing names))

/-- The values of an option in order. -/
def all (r : LineReading) (key : Text) : List Text :=
  (r.values.filter (·.1 == key)).map (·.2)

/-- The value of an option; of several the last counts. -/
def last? (r : LineReading) (key : Text) : Option Text := (r.all key).getLast?

end LineReading

/-! ### Programs -/

/-- A command of a program. -/
structure CommandGrammar where
  name : Text
  options : CommandOptions
deriving DecidableEq, Inhabited, Repr

/-- A program with commands under it. -/
structure ProgramGrammar where
  name : Text
  commands : List CommandGrammar
deriving DecidableEq, Inhabited, Repr

/-- How a line is not read: where, and what the matter is. -/
structure LineEnd where
  /-- The program, or the program and its command. -/
  place : Text
  stop : LineStop
deriving DecidableEq, Inhabited, Repr

namespace ProgramGrammar

/-- The command that a line names, with the words for it and the words before it that mean
nothing. -/
def split (g : ProgramGrammar) (strays : List Text) :
    List (Text × LineWord) → Except LineStop (Text × List Text × List Text)
  | [] => .error (.fault (.missing ["cmd"]))
  | (w, .plain) :: ws => .ok (w, ws.map (·.1), strays)
  | (w, .separator) :: ws =>
    if ws.isEmpty then .error (.fault (.missing ["cmd"])) else .ok (w, ws.map (·.1), strays)
  | (w, .unknown) :: ws => split g (strays ++ [w]) ws
  | (_, .option _ _ none) :: _ => .error .help
  | (_, .option o name (some t)) :: _ =>
    .error (LineReading.bare [LineReading.helpOption] t.length o name t)

/-- Reads a line: the command and what its options say. -/
def read (g : ProgramGrammar) (ws : List Text) :
    Except LineEnd (CommandGrammar × LineReading) := do
  let here (stop : LineStop) : LineEnd := { place := g.name, stop }
  let words ← (CommandOptions.understandAll [LineReading.helpOption] ws).mapError fun f =>
    here (.fault f)
  let (name, rest, before) ← (g.split [] words).mapError here
  match g.commands.find? (·.name == name) with
  | none => throw (here (.fault (.unknownCommand name (g.commands.map (·.name)))))
  | some c =>
    let r ← (LineReading.ofWords c.options rest).mapError fun stop =>
      { place := g.name ++ " " ++ c.name, stop }
    match before ++ r.strays with
    | [] => return (c, r)
    | strays => throw (here (.fault (.unrecognized strays)))

/-! ### Usage -/

/-- The width that the usage is broken at. -/
def usageWidth : Nat := 78

/-- Parts on lines, the first after `used` columns and the others behind an indentation. -/
def fill (indent used : Nat) (line : Text) : List Text → List Text
  | [] => [line]
  | part :: parts =>
    if usageWidth < used + 1 + part.length && !line.isEmpty then
      line :: fill indent (indent + part.length)
        (⟨List.replicate indent (.scalar ' ')⟩ ++ part) parts
    else fill indent (used + 1 + part.length)
      (if line.isEmpty then part else line ++ " " ++ part) parts

/-- How an option is shown in the usage. -/
def optionParts (o : CommandOption) : List Text :=
  let name := o.names.headD ""
  match o.valueName with
  | none => ["[" ++ name ++ "]"]
  | some v => if o.isRequired then [name, v] else ["[" ++ name ++ " " ++ v ++ "]"]

/-- The usage of the program, or of one of its commands. -/
def usage (g : ProgramGrammar) (place : Text) : Text :=
  let start : Text := "usage: "
  match g.commands.find? fun c => g.name ++ " " ++ c.name == place with
  | none =>
    start ++ g.name ++ " [-h] \x7b" ++ Text.intercalate "," (g.commands.map (·.name)) ++ "\x7d ..."
  | some c =>
    let indent := start.length + place.length
    Text.intercalate "\n"
      (fill indent indent (start ++ place) (c.options.flatMap optionParts))

end ProgramGrammar

end GuardedTools
