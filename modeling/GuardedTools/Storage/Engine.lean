import GuardedTools.Check.Numeral
import GuardedTools.Files
import GuardedTools.Storage.Address
import GuardedTools.Value.Integer

/-!
# Database engines

Opening the database of an address: the directory of a database file is made if it is not there,
and connections are pooled as the kind of database needs.  A database in memory has one connection
that all threads share, because each connection would have a database of its own.
-/

namespace GuardedTools

/-- How connections are pooled. -/
inductive Pool where
  /-- One connection for all. -/
  | shared
  /-- A queue of connections. -/
  | queue
  /-- A connection for each thread. -/
  | perThread
deriving DecidableEq, Inhabited, Repr

def Pool.name : Pool → Text
  | shared => "StaticPool"
  | queue => "QueuePool"
  | perThread => "SingletonThreadPool"

/-- An open database. -/
structure Engine where
  dialect : Text
  pool : Pool
deriving DecidableEq, Inhabited, Repr

/-- Why a database cannot be opened. -/
inductive EngineFault where
  | address (fault : AddressFault)
  | file (fault : FileFault) (path : Text)
  /-- There is no extension of the name. -/
  | noExtension (name : Text)
  /-- There is no dialect of the name. -/
  | noDialect (name : Text)
  /-- A dialect and a driver are named, and more. -/
  | tooManyNames
  /-- The driver of the dialect is not installed. -/
  | noDriver (moduleName : Text)
  /-- The address has parts that a database in a file has not. -/
  | notAFile (address : DatabaseAddress)
  /-- An option says neither yes nor no. -/
  | notTruth (written : Text)
  /-- An option says no number. -/
  | notReal (written : Text)
  /-- An option that says a number has several values. -/
  | severalReals
  /-- An option is no integer. -/
  | notInteger (fault : IntegerFault)
  /-- There are options for the file, and no file. -/
  | noFile
deriving DecidableEq, Inhabited, Repr

namespace EngineFault

/-- The word that names a kind of fault. -/
def kind : EngineFault → Text
  | address fault => fault.kind
  | file _ _ => "OSError"
  | noExtension _ => "NoSuchModuleError"
  | noDialect _ => "NoSuchModuleError"
  | noDriver _ => "ModuleNotFoundError"
  | notAFile _ => "ArgumentError"
  | notInteger fault => fault.kind
  | severalReals => "TypeError"
  | noFile => "TypeError"
  | _ => "ValueError"

def message : EngineFault → Text
  | address fault => fault.message
  | file fault path => fault.message path
  | noExtension name => "Can't load plugin: sqlalchemy.plugins:" ++ name
  | noDialect name => "Can't load plugin: sqlalchemy.dialects:" ++ name
  | tooManyNames => "too many values to unpack (expected 2)"
  | noDriver m => "No module named " ++ m.quoted
  | notAFile a =>
    "Invalid SQLite URL: " ++ a.shown
      ++ "\nValid SQLite URL forms are:\n sqlite:///:memory: (or, sqlite://)\n"
      ++ " sqlite:///relative/path/to/file.db\n sqlite:////absolute/path/to/file.db"
  | notTruth t => "String is not true/false: " ++ t.quoted
  | notReal t => "could not convert string to float: " ++ t.quoted
  | severalReals => "float() argument must be a string or a real number, not 'tuple'"
  | notInteger fault => fault.message
  | noFile => "unsupported operand type(s) for +=: 'NoneType' and 'str'"

end EngineFault

namespace Engine

/-- The path of the directory that a database file is in. -/
def directoryOf (fs : Files) (database : Text) : Path :=
  let p := Path.ofText database
  if p.isAbsolute then p.parent else { root := "/", steps := (fs.home ++ p.steps).dropLast }

/-- Makes the directory of a database file. -/
def prepare (fs : Files) (address : Text) : Except EngineFault Files := do
  if !DatabaseAddress.isSqlite address then return fs
  let a ← (DatabaseAddress.read address).mapError .address
  if a.hasMemoryName then return fs
  let directory := directoryOf fs (a.database.getD "")
  (fs.makeDirectories directory).mapError fun fault => .file fault directory.toText

/-- The dialects that are known, each with the drivers it can use and the modules these are in.  The
first driver is the one that a dialect uses unless another is named. -/
def dialects : List (String × List (String × String)) := [
  ("sqlite", [("pysqlite", "sqlite3"), ("aiosqlite", "aiosqlite"),
    ("pysqlcipher", "pysqlcipher3")]),
  ("postgresql", [("psycopg2", "psycopg2"), ("psycopg", "psycopg"), ("psycopg_async", "psycopg"),
    ("asyncpg", "asyncpg"), ("pg8000", "pg8000"), ("psycopg2cffi", "psycopg2cffi")]),
  ("mysql", serverDrivers),
  ("mariadb", serverDrivers),
  ("oracle", [("cx_oracle", "cx_Oracle"), ("oracledb", "oracledb"),
    ("oracledb_async", "oracledb")]),
  ("mssql", [("pyodbc", "pyodbc"), ("pymssql", "pymssql"), ("aioodbc", "aioodbc")])]
where
  serverDrivers : List (String × String) := [
    ("mysqldb", "MySQLdb"), ("pymysql", "pymysql"), ("aiomysql", "aiomysql"),
    ("asyncmy", "asyncmy"), ("cymysql", "cymysql"), ("mariadbconnector", "mariadb"),
    ("mysqlconnector", "mysql"), ("pyodbc", "pyodbc")]

/-- The only module of a driver that is installed. -/
def installed : Text := "sqlite3"

/-- The module of the driver that an address names. -/
def moduleOf (driver : Text) : Except EngineFault Text := do
  let unknown : EngineFault := .noDialect (driver.replaceChar '+' ".")
  let (dialect, named) ← match driver.splitOn '+' with
    | [dialect] => pure (dialect, none)
    | [dialect, named] => pure (dialect, some named)
    | _ => throw .tooManyNames
  let some (_, drivers) := dialects.find? fun d => Text.ofString d.1 == dialect | throw unknown
  let found := match named with
    | none => drivers.head?
    | some n => if n == Text.ofString "base" then drivers.head?
      else drivers.find? fun d => Text.ofString d.1 == n
  match found with
  | some (_, m) => return m
  | none => throw unknown

/-- Whether an address says who or where a server is. -/
def namesServer (a : DatabaseAddress) : Bool :=
  a.user.any (!·.isEmpty) || a.password.any (!·.isEmpty) || a.host.any (!·.isEmpty)
    || a.port.any (· != 0)

/-! ### Options -/

/-- What an option that says yes or no says. -/
def truthOf : List Text → Except EngineFault Bool
  | [t] =>
    let word := t.trim.lower
    let isOneOf (words : List String) : Bool := words.any fun w => word == Text.ofString w
    if isOneOf ["true", "yes", "on", "y", "t", "1"] then .ok true
    else if isOneOf ["false", "no", "off", "n", "f", "0"] then .ok false
    else .error (.notTruth word)
  | _ => .ok true

def checkReal : List Text → Except EngineFault Unit
  | [t] => if (Numeral.scriptReal? t).isSome then .ok () else .error (.notReal t)
  | _ => .error .severalReals

def checkInteger (values : List Text) : Except EngineFault Unit :=
  let v : Value := match values with
    | [t] => .text t
    | ts => .tuple (ts.map .text)
  match v.toInteger with
  | .ok _ => .ok ()
  | .error fault => .error (.notInteger fault)

/-- The options for the driver; the others are for the file. -/
def driverOptions : List Text := ["uri", "timeout", "isolation_level", "detect_types",
  "check_same_thread", "cached_statements"]

/-- Checks the options of a database in a file. -/
def checkOptions (a : DatabaseAddress) : Except EngineFault Unit := do
  let option (name : Text) (check : List Text → Except EngineFault Unit) :
      Except EngineFault Unit := ((a.option? name).map check).getD (.ok ())
  let isUri ← ((a.option? "uri").map truthOf).getD (.ok false)
  option "timeout" checkReal
  option "detect_types" checkInteger
  option "check_same_thread" fun vs => (truthOf vs).map fun _ => ()
  option "cached_statements" checkInteger
  let isForFile := a.options.any fun o => !driverOptions.contains o.1
  if isUri && isForFile && a.database.isNone then throw .noFile

/-- Whether the options of an address ask for a database in memory. -/
def asksForMemory (a : DatabaseAddress) : Bool := a.option? "mode" == some [Text.ofString "memory"]

/-- Opens the database of an address. -/
def ofAddress (address : Text) : Except EngineFault Engine := do
  let a ← (DatabaseAddress.read address).mapError .address
  match a.option? "plugin" with
  | some (name :: _) => throw (.noExtension name)
  | _ => pure ()
  let m ← moduleOf a.driver
  if m != installed then throw (.noDriver m)
  if namesServer a then throw (.notAFile a)
  checkOptions a
  let pool : Pool :=
    if a.hasMemoryName then .shared else if asksForMemory a then .perThread else .queue
  return { dialect := "sqlite", pool }

end Engine

end GuardedTools
