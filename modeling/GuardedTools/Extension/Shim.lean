import GuardedTools.Check.Form
import GuardedTools.Extension
import GuardedTools.Text.Utf8
import GuardedTools.Value.Items

/-!
# The POSIX shim

The extension that gives tools an environment, a seed and a range of memory numbers.  A
configuration (`ShimConfig`) carries the laws that reading it has checked: a seed has its length,
and the range is not empty and ends below 256.  A shim (`Shim`) that is ready has all that its
configuration requires.

A seed is thirty-two bytes that depend on nothing but the name of a service: they begin with the
bytes of the name, and every later byte is an earlier one plus its own position (`Seed.derive`).
-/

namespace GuardedTools

/-! ### Seeds -/

/-- The number of bytes of a seed. -/
def Seed.length : Nat := 32

/-- Thirty-two bytes. -/
structure Seed where
  bytes : List UInt8
  length_eq : bytes.length = Seed.length := by simp
deriving DecidableEq, Repr

/-- Why there is no seed for a name. -/
inductive SeedFault where
  | emptyName
  | notUnicode (u : Utf8.Unencodable)
deriving DecidableEq, Repr

def SeedFault.message : SeedFault → Text
  | emptyName => "service id must not be empty"
  | notUnicode u => u.message

namespace Seed

/-- Writes the byte at a position: one that stands before it, at the remainder of the position, plus the
position itself. -/
def writeByte (count : Nat) (bytes : List UInt8) (i : Nat) : List UInt8 :=
  bytes.set i (bytes.getD (i % count) 0 + i.toUInt8)

/-- Writes the bytes at some positions in order. -/
def writeBytes (count : Nat) (bytes : List UInt8) (positions : List Nat) : List UInt8 :=
  positions.foldl (writeByte count) bytes

theorem length_writeBytes (count : Nat) (bytes : List UInt8) (positions : List Nat) :
    (writeBytes count bytes positions).length = bytes.length := by
  induction positions generalizing bytes with
  | nil => rfl
  | cons i positions ih => exact (ih _).trans List.length_set

/-- Some bytes with zeros behind them, as many as a seed has. -/
def padded (head : List UInt8) : List UInt8 := (head ++ List.replicate length 0).take length

theorem length_padded (head : List UInt8) : (padded head).length = length := by
  simp [padded]

/-- The seed that begins with some bytes, and goes on from them in place. -/
def ofHead (head : List UInt8) : Seed where
  bytes :=
    let head := head.take length
    writeBytes head.length (padded head) (List.range' head.length (length - head.length))
  length_eq := (length_writeBytes _ _ _).trans (length_padded _)

/-- The seed of a service. -/
def derive (serviceId : Text) : Except SeedFault Seed :=
  match Utf8.encode serviceId, Utf8.unencodable? serviceId with
  | some [], _ => .error .emptyName
  | some head, _ => .ok (ofHead head)
  | none, some u => .error (.notUnicode u)
  | none, none => .error .emptyName

/-- The seed of some bytes, if they are as many as a seed has. -/
def ofBytes? (bytes : List UInt8) : Option Seed :=
  if h : bytes.length = length then some { bytes, length_eq := h } else none

end Seed

/-! ### Configurations -/

/-- A range of memory numbers that is not empty; the last one is not in it. -/
structure MemoryRange where
  start : Nat
  stop : Nat
  start_lt_stop : start < stop := by decide
  stop_le : stop ≤ 255 := by decide
deriving DecidableEq, Repr

namespace MemoryRange

/-- The range that is used if none is given. -/
def standard : MemoryRange := { start := 200, stop := 210 }

/-- The numbers of a range, in order. -/
def ids (r : MemoryRange) : List Nat := List.range' r.start (r.stop - r.start)

/-- The range of two numbers, if they are in order and below 256. -/
def ofInts? (start stop : Int) : Option MemoryRange :=
  if h : 0 ≤ start ∧ start < stop ∧ stop ≤ 255 then
    some { start := start.toNat, stop := stop.toNat,
           start_lt_stop := by omega, stop_le := by omega }
  else none

end MemoryRange

/-- The configuration of the shim. -/
structure ShimConfig where
  /-- The seed; it is derived from the name of the service if it is not given. -/
  seed : Option Seed := none
  environment : List (Text × Text) := []
  memory : MemoryRange := .standard
  required : List Text := []
deriving DecidableEq, Repr

namespace ShimConfig

def extensionName : Text := "posix_shim"

def className : Text := "PosixShimConfig"

/-- A seed must have its length. -/
def seedRule : Value → Except Problem Value
  | .bytes bs =>
    if bs.length = Seed.length then .ok (.bytes bs)
    else .error (.rule ("seed must be " ++ Text.ofNat Seed.length ++ " bytes, got "
      ++ Text.ofNat bs.length))
  | v => .ok v

/-- The form of a configuration. -/
def form : Form where
  title := className
  extra := .forbid
  fields := [
    ("seed", .default .null, .nullable (.bytes {})),
    ("env_vars", .default (.dict []), .dict (.str {} none) (.str {} none) {}),
    ("memory_range", .default (.tuple [.int 200, .int 210]), .tuple [.int {}, .int {}] {}),
    ("required_env_vars", .default (.tuple []), .tupleOf (.str {} none) {})]
  rules := [("seed", seedRule)]

/-- The names and texts of a map. -/
def pairs : Value → List (Text × Text)
  | .dict es => es.map fun e => (e.1.plain, e.2.plain)
  | _ => []

/-- The two numbers of a range. -/
def bounds : Value → Int × Int
  | .tuple [.int a, .int b] => (a, b)
  | _ => (0, 0)

/-- The configuration that a map gives, or what is wrong with it. -/
def ofEntries (entries : List (Value × Value)) : Except (List Issue) ShimConfig := do
  let values ← form.fill entries
  let (start, stop) := bounds (Form.valueOf values "memory_range")
  match MemoryRange.ofInts? start stop with
  | none =>
    throw [.here (.rule ("memory_range must satisfy 0 <= start < end <= 255, got "
      ++ Text.ofInt start ++ ".." ++ Text.ofInt stop))]
  | some memory => return {
      seed := match Form.valueOf values "seed" with
        | .bytes bs => Seed.ofBytes? bs
        | _ => none
      environment := pairs (Form.valueOf values "env_vars")
      memory
      required := Value.texts ((Form.valueOf values "required_env_vars").items?.getD []) }

/-- The configuration as one of the shim's extension. -/
def extensionConfig (c : ShimConfig) : ExtensionConfig (Option ShimConfig) :=
  { name := extensionName, className, settings := some c }

/-- The required variables that the environment does not have. -/
def missing (c : ShimConfig) : List Text :=
  c.required.filter fun name => !c.environment.any (·.1 == name)

end ShimConfig

/-- A shim that is ready. -/
structure Shim where
  seed : Seed
  environment : List (Text × Text)
  memory : MemoryRange
deriving DecidableEq, Repr

namespace Shim

/-- The value of a variable. -/
def lookup? (s : Shim) (name : Text) : Option Text :=
  (s.environment.find? (·.1 == name)).map (·.2)

/-- The shim of a configuration in a service. -/
def ofConfig (c : ShimConfig) (serviceId : Text) : Except InitError Shim :=
  match c.missing with
  | [] => match c.seed with
    | some seed => .ok { seed, environment := c.environment, memory := c.memory }
    | none => match Seed.derive serviceId with
      | .ok seed => .ok { seed, environment := c.environment, memory := c.memory }
      | .error fault => .error { kind := .initializationFailed,
                                 extension := ShimConfig.extensionName, detail := fault.message }
  | missing => .error {
      kind := .resourceUnavailable
      extension := ShimConfig.extensionName
      detail := "required environment variables not set: " ++ Text.intercalate ", " missing }

/-- The extension that brings up a shim; `read` finds the shim's configuration in one. -/
def extension {κ σ : Type} (read : κ → Option ShimConfig) (make : Shim → σ) : Extension κ σ where
  apply c context := match read c.settings with
    | none => { state := .error (.refused {
        kind := .invalidConfiguration, extension := ShimConfig.extensionName,
        detail := "expected " ++ ShimConfig.className ++ ", got " ++ c.className }) }
    | some config => match ofConfig config context.serviceId with
      | .error e => { state := .error (.refused e) }
      | .ok shim => { state := .ok (make shim), log := [.shimReady] }

end Shim

end GuardedTools
