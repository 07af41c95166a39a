import Matchmaker.Database.Address
import Matchmaker.Database.Engine
import Matchmaker.Text.Blank

/-!
# Drivers

What the database library makes of a URL, as far as its documentation says. An address names a
dialect and, after a plus, a driver. A driver must be known, must be there and must not block, and
the options of the address must have the types that it asks for.

* `Driver.all`: the drivers that the library knows;
* `Backend.ofUrl`: what a URL leads to, or what is wrong with it.
-/

namespace Matchmaker

/-- Why a URL leads to no database. -/
inductive EngineFault where
  | address (fault : AddressFault)
  /-- There is more than one plus in the name of the driver. -/
  | manyNames
  /-- No driver or plugin has this name. -/
  | unknown
  /-- The driver is known and not there. -/
  | absent
  /-- The driver blocks. -/
  | blocking
  /-- An address of a file has a host or an account, or hosts and ports do not fit each other. -/
  | unfit
  /-- An option cannot be read as what it should be. -/
  | optionText
  /-- An option has several values where one is asked for, or belongs to a file that is missing. -/
  | optionType
  deriving DecidableEq, Repr

/-! ## Drivers -/

/-- What can be done with a driver. -/
inductive Readiness where
  | ready
  | blocking
  | absent
  deriving DecidableEq, Repr

/-- A driver of a dialect. -/
structure Driver where
  dialect : String
  name : String
  readiness : Readiness
  deriving DecidableEq, Repr

namespace Driver

/-- The drivers of a dialect that are known and not there. -/
def absentOnes (dialect : String) (names : List String) : List Driver :=
  names.map fun name => ⟨dialect, name, .absent⟩

/-- The drivers of MySQL, most of which serve MariaDB too. -/
def mysqlNames : List String :=
  ["base", "mysqldb", "mysqlconnector", "pymysql", "cymysql", "aiomysql", "asyncmy", "pyodbc",
    "mariadbconnector"]

/-- All drivers that are known. -/
def all : List Driver :=
  [⟨"postgresql", "asyncpg", .ready⟩, ⟨"sqlite", "aiosqlite", .ready⟩,
    ⟨"sqlite", "base", .blocking⟩, ⟨"sqlite", "pysqlite", .blocking⟩] ++
  absentOnes "sqlite" ["pysqlcipher"] ++
  absentOnes "postgresql"
    ["base", "psycopg2", "psycopg", "psycopg_async", "pg8000", "psycopg2cffi"] ++
  absentOnes "mysql" mysqlNames ++ absentOnes "mariadb" mysqlNames ++
  absentOnes "oracle" ["base", "cx_oracle", "oracledb", "oracledb_async"] ++
  absentOnes "mssql" ["base", "pyodbc", "pymssql", "aioodbc"]

/-- The driver of a dialect that is named alone. -/
def ownName : String := "base"

/-- The driver of a dialect. -/
def find (dialect driver : List Char) : Except EngineFault Driver :=
  match all.find? fun d => d.dialect.toList == dialect && d.name.toList == driver with
  | some d => .ok d
  | none => .error .unknown

/-- The driver of a name. -/
def ofName (name : List Char) : Except EngineFault Driver :=
  match Text.splitOn '+' name with
  | [dialect] => find dialect ownName.toList
  | [dialect, driver] => find dialect driver
  | _ => .error .manyNames

end Driver

/-! ## Options -/

/-- What an option is read as. -/
inductive OptionKind where
  | flag
  | whole
  | real
  | text
  deriving DecidableEq, Repr

namespace OptionKind

/-- A text as yes or no. -/
def flag? (s : String) : Option Bool :=
  let word := Text.lower (Text.strip s)
  if ["true", "yes", "on", "y", "t", "1"].contains word then some true
  else if ["false", "no", "off", "n", "f", "0"].contains word then some false
  else none

/-- A text can be read as what is asked for. -/
def admits (s : String) : OptionKind → Bool
  | flag => (flag? s).isSome
  | whole => (Decimal.integer? s).isSome
  | real => (Decimal.real? s).isSome
  | text => true

/-- The values of an option are of its kind. -/
def check (k : OptionKind) : List (List Char) → Except EngineFault Unit
  | [] => .ok ()
  | [value] => if k.admits (String.ofList value) then .ok () else .error .optionText
  | _ => if k = .whole || k = .real then .error .optionType else .ok ()

end OptionKind

/-- The options of a file. -/
def fileOptions : List (String × OptionKind) :=
  [("uri", .flag), ("timeout", .real), ("isolation_level", .text), ("detect_types", .whole),
    ("check_same_thread", .flag), ("cached_statements", .whole)]

namespace Address

/-- An option is given and its first value means yes; several values do too. -/
def isOn (a : Address) (name : String) : Bool :=
  match a.optionValues name with
  | [] => false
  | [value] => (OptionKind.flag? (String.ofList value)).getD false
  | _ => true

/-- A file has neither account nor host, and its options are of their kinds. -/
def checkFile (a : Address) : Except EngineFault Unit := do
  if a.account.any (!·.isEmpty) || a.password.any (!·.isEmpty) || a.host.isSome ||
      a.port.any (· != 0) then
    throw .unfit
  fileOptions.forM fun (name, kind) => kind.check (a.optionValues name)
  let others := a.options.filter fun o => !fileOptions.any (·.1.toList == o.1)
  if a.isOn "uri" && !others.isEmpty && a.database.isNone then throw .optionType

/-- The texts that one option gives with commas between them, or several one each. -/
def listed (values : List (List Char)) : List (List Char) :=
  match values with
  | [value] => Text.splitOn ',' value
  | _ => values

/-- The hosts that are given as options, with the ports behind their colons. -/
def hostPorts : List (List Char) → Except EngineFault (List (List Char × List Char))
  | [] => .ok []
  | token :: rest =>
    match Text.splitOn ':' token with
    | [host] => (hostPorts rest).map ((host, []) :: ·)
    | [host, port] => (hostPorts rest).map ((host, port) :: ·)
    | _ => .error .optionText

/-- Several hosts have as many ports, all of which are numbers. -/
def checkHosts (a : Address) : Except EngineFault Unit := do
  let tokens := a.optionValues "host"
  let given := a.optionValues "port"
  let pairs ← if 1 < tokens.length then hostPorts tokens else .ok []
  if !pairs.isEmpty && !given.isEmpty then throw .unfit
  let hosts := if pairs.isEmpty then listed tokens else pairs.map Prod.fst
  let ports := if pairs.isEmpty then listed given else pairs.map Prod.snd
  unless ports.all fun p => p.isEmpty || (Decimal.integer? (String.ofList p)).isSome do
    throw .unfit
  if !ports.isEmpty && hosts.length != ports.length && (1 < hosts.length || 1 < ports.length) then
    throw .unfit
  if 1 < hosts.length && (ports.isEmpty || (hosts ++ ports).any List.isEmpty) then throw .unfit

/-- The options of a server are of their kinds. -/
def checkServer (a : Address) : Except EngineFault Unit := do
  a.checkHosts
  OptionKind.whole.check (a.optionValues "prepared_statement_cache_size")

end Address

/-! ## What a URL leads to -/

/-- The driver is there. -/
def Driver.checkThere (d : Driver) : Except EngineFault Unit :=
  if d.readiness = .absent then .error .absent else .ok ()

/-- The driver does not block. -/
def Driver.checkAsync (d : Driver) : Except EngineFault Unit :=
  if d.readiness = .blocking then .error .blocking else .ok ()

namespace Address

/-- The options that name plugins, which are not handed on. -/
def pluginOptions : List String := ["plugin", "plugins"]

/-- An address without the options that name plugins; no plugin is known. -/
def withoutPlugins (a : Address) : Except EngineFault Address :=
  if (a.optionValues "plugin").isEmpty then
    .ok { a with options := a.options.filter fun o => !pluginOptions.any (·.toList == o.1) }
  else .error .unknown

/-- The options are what a dialect takes. -/
def checkOptions (a : Address) (dialect : String) : Except EngineFault Unit :=
  if dialect = "sqlite" then a.checkFile else a.checkServer

end Address

namespace Backend

/-- What an address leads to. -/
def ofAddress (a : Address) : Except EngineFault Backend := do
  let a ← a.withoutPlugins
  let d ← Driver.ofName a.driver
  d.checkThere
  a.checkOptions d.dialect
  d.checkAsync
  return { dialect := d.dialect, driver := d.name, url := a.text }

/-- What a URL leads to. -/
def ofUrl (url : String) : Except EngineFault Backend :=
  match Address.read url with
  | .error fault => .error (.address fault)
  | .ok a => ofAddress a

end Backend

end Matchmaker
