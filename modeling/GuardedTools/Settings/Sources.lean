import GuardedTools.Json.Reader
import GuardedTools.Settings
import GuardedTools.Settings.EnvFile
import GuardedTools.Text.Case

/-!
# Sources of settings

Settings come from values given directly, from the environment, and from a file of the working
directory, in this order of precedence; maps from several sources are merged.  In the environment
and in the file a setting has the name of its field with a prefix, in letters of any case, and a
field that is not a plain text is written as JSON.
-/

namespace GuardedTools

/-- Where a text value of a setting comes from. -/
inductive SettingSource where
  | environment
  | file
deriving DecidableEq, Inhabited, Repr

def SettingSource.name : SettingSource → Text
  | environment => "EnvSettingsSource"
  | file => "DotEnvSettingsSource"

/-- Why there are no settings. -/
inductive SettingsFault where
  /-- The value of a field is no JSON. -/
  | notJson (field : Text) (source : SettingSource)
  /-- The value of a field is nested too deeply. -/
  | tooDeep
  /-- The file is not in UTF-8. -/
  | notUtf8 (fault : Utf8.Fault)
  /-- The values are not acceptable. -/
  | invalid (issues : List Issue)
deriving DecidableEq, Repr

def SettingsFault.message : SettingsFault → Text
  | notJson field source =>
    "error parsing value for field \"" ++ field ++ "\" from source \"" ++ source.name ++ "\""
  | tooDeep => "maximum recursion depth exceeded"
  | notUtf8 fault => fault.message
  | invalid issues => Settings.form.report issues

namespace Settings

/-- What the names of settings begin with. -/
def variablePrefix : Text := "app_"

/-- The file of settings. -/
def fileName : Text := ".env"

mutual

/-- Entries with others put into them; a map is put into a map. -/
def merge (base : List (Value × Value)) : List (Value × Value) → List (Value × Value)
  | [] => base
  | (k, v) :: es => merge (Value.put k (mergeValue (Value.find? k base) v) base) es

/-- A value put over another. -/
def mergeValue (base : Option Value) : Value → Value
  | .dict es => match base with
    | some (.dict bs) => .dict (merge bs es)
    | _ => .dict es
  | v => v

end

/-- The value of a field that is given as a text. -/
def fieldValue (source : SettingSource) (field t : Text) : Except SettingsFault Value :=
  if (structuredFields.map Text.ofString).contains field then
    match Json.read Json.ReadLimits.standard t with
    | .ok j => .ok (Value.ofJson j)
    | .error .tooDeep => .error .tooDeep
    | .error _ => .error (.notJson field source)
  else .ok (.text t)

/-- The value of a variable whatever the case of its letters; the last one counts. -/
def lookup? (bindings : List EnvFile.Binding) (name : Text) : Option Text :=
  (bindings.reverse.find? fun b => b.1.lower == name).bind (·.2)

/-- The entries that variables give for fields; the absent value gives none. -/
def entriesFrom (source : SettingSource) (bindings : List EnvFile.Binding) :
    List Text → Except SettingsFault (List (Value × Value))
  | [] => .ok []
  | field :: fields => match lookup? bindings (variablePrefix ++ field) with
    | none => entriesFrom source bindings fields
    | some t => do
      let v ← fieldValue source field t
      let rest ← entriesFrom source bindings fields
      return if v.isNull then rest else (.text field, v) :: rest

/-- The bindings of the file, if there is one. -/
def fileBindings (fs : Files) (known : Variables) :
    Except SettingsFault (List EnvFile.Binding) :=
  match fs.readText (Path.ofText fileName) with
  | .error (.file _) => .ok []
  | .error (.notUtf8 fault) => .error (.notUtf8 fault)
  | .ok t => .ok (EnvFile.read known t)

/-- The settings from all sources. -/
def load (fs : Files) (known : Variables) (given : List (Value × Value)) :
    Except SettingsFault Settings := do
  let environment ← entriesFrom .environment (known.map fun v => (v.1, some v.2)) fieldNames
  let file ← entriesFrom .file (← fileBindings fs known) fieldNames
  (ofEntries (merge (merge file environment) given)).mapError .invalid

end Settings

end GuardedTools
