import Matchmaker.Connection.Lock
import Matchmaker.Decimal.Numeral
import Matchmaker.Decimal.Shortest
import Matchmaker.Text.Lower
import Matchmaker.Text.Quoted
import Matchmaker.Text.Split

/-!
# Settings

The program is configured by named texts, its environment. The case of a name does not matter, the
last of several texts under one name counts, and names that mean nothing here are left out of
account. A setting without a text has a default; only the URL of the database must be given.

* `Settings.Checked`, `Settings.faults`: all that is wrong with an environment, in the order of the
  settings;
* `Settings.read`: the settings of an environment, if nothing is;
* `Settings.origins`, `Settings.isProduction`: what follows from the settings.
-/

namespace Matchmaker

/-- The levels of the log. -/
inductive LogLevel where
  | debug
  | info
  | warning
  | error
  | critical
  deriving DecidableEq, Repr

namespace LogLevel

/-- All levels. -/
def all : List LogLevel :=
  [debug, info, warning, error, critical]

/-- The name of a level. -/
def name : LogLevel → String
  | debug => "DEBUG"
  | info => "INFO"
  | warning => "WARNING"
  | error => "ERROR"
  | critical => "CRITICAL"

/-- A letter as a capital; a dotless `ı` becomes the same capital as `i`. -/
def capital (c : Char) : Char :=
  if c == 'ı' then 'I' else c.toUpper

/-- The level of a name in any case. -/
def ofName? (s : String) : Option LogLevel :=
  all.find? (·.name == s.map capital)

end LogLevel

/-- What is wrong with the text of a setting. -/
inductive SettingFault where
  | missing
  | notWhole
  /-- A numeral with more digits than are read. -/
  | tooLong
  | notNumber
  | notFlag
  | lockTimeout (given : Int)
  | logLevel (given : String)
  | requestTimeout (given : Float)
  deriving Repr

namespace SettingFault

/-- The wording of a fault. -/
def message : SettingFault → String
  | missing => "Field required"
  | notWhole => "Input should be a valid integer, unable to parse string as an integer"
  | tooLong => "Unable to parse input string as an integer, exceeded maximum size"
  | notNumber => "Input should be a valid number, unable to parse string as a number"
  | notFlag => "Input should be a valid boolean, unable to interpret input"
  | lockTimeout n => "Value error, LOCK_TIMEOUT_MS must be positive, got " ++ toString n
  | logLevel s => "Value error, LOG_LEVEL must be a standard level name, got " ++ Text.quoted s
  | requestTimeout x =>
    "Value error, REQUEST_TIMEOUT_SECONDS must be positive, got " ++ Decimal.text x

end SettingFault

/-- A configuration of the program. -/
structure Settings where
  databaseUrl : String
  databaseUser : String
  databasePassword : String
  databaseName : String
  /-- The name of a database instance in the cloud, empty for none. -/
  cloudInstance : String
  /-- The instance in the cloud is used, where there is one. -/
  useCloud : Bool
  /-- How many milliseconds a transition waits for the lock of a pair. -/
  lockTimeout : Int
  /-- The header that names the caller. -/
  userHeader : String
  environment : String
  logLevel : LogLevel
  /-- How many seconds a request may take. -/
  requestTimeout : Float
  allowedOrigins : String
  deriving Repr

/-- Named texts. -/
abbrev Environment := List (String × String)

/-- The last text under a name, in any case. -/
def Environment.find? (env : Environment) (name : String) : Option String :=
  (env.reverse.find? fun entry => Text.lower entry.1 == Text.lower name).map Prod.snd

namespace Settings

/-- A text as yes or no. -/
def readFlag (s : String) : Except SettingFault Bool :=
  let word := s.map Char.toLower
  if ["1", "true", "t", "yes", "y", "on"].contains word then .ok true
  else if ["0", "false", "f", "no", "n", "off"].contains word then .ok false
  else .error .notFlag

/-- A text as a lock timeout. -/
def readLockTimeout (s : String) : Except SettingFault Int :=
  match Decimal.formInteger s with
  | .error .malformed => .error .notWhole
  | .error .tooLong => .error .tooLong
  | .ok n => if n ≤ 0 then .error (.lockTimeout n) else .ok n

/-- A text as a log level. -/
def readLogLevel (s : String) : Except SettingFault LogLevel :=
  match LogLevel.ofName? s with
  | some level => .ok level
  | none => .error (.logLevel s)

/-- A text as a request timeout, which may be a `nan`. -/
def readRequestTimeout (s : String) : Except SettingFault Float :=
  match Decimal.formReal? s with
  | none => .error .notNumber
  | some x => if x ≤ 0.0 then .error (.requestTimeout x) else .ok x

/-- What a setting's text says, or its default. -/
def readOr {β : Type} (default : β) (readText : String → Except SettingFault β) :
    Option String → Except SettingFault β
  | none => .ok default
  | some s => readText s

/-! ## The settings that are checked -/

/-- The URL of the database, which must be given. -/
def databaseUrlOf : Option String → Except SettingFault String
  | some s => .ok s
  | none => .error .missing

/-- Whether an instance in the cloud is used. -/
def useCloudOf : Option String → Except SettingFault Bool :=
  readOr false readFlag

/-- The lock timeout. -/
def lockTimeoutOf : Option String → Except SettingFault Int :=
  readOr Lock.defaultTimeout readLockTimeout

/-- The level of the log. -/
def logLevelOf : Option String → Except SettingFault LogLevel :=
  readOr .info readLogLevel

/-- The request timeout. -/
def requestTimeoutOf : Option String → Except SettingFault Float :=
  readOr 30.0 readRequestTimeout

/-- What is wrong with a setting, if anything is. -/
def faultOf {β : Type} (f : Option String → Except SettingFault β) (given : Option String) :
    Option SettingFault :=
  match f given with
  | .ok _ => none
  | .error fault => some fault

/-- The settings that are checked. -/
inductive Checked where
  | databaseUrl
  | useCloud
  | lockTimeout
  | logLevel
  | requestTimeout
  deriving DecidableEq, Repr

namespace Checked

/-- All checked settings, in their order. -/
def all : List Checked :=
  [databaseUrl, useCloud, lockTimeout, logLevel, requestTimeout]

/-- The name of a setting. -/
def name : Checked → String
  | databaseUrl => "DATABASE_URL"
  | useCloud => "CLOUD_SQL_USE_UNIX_SOCKET"
  | lockTimeout => "LOCK_TIMEOUT_MS"
  | logLevel => "LOG_LEVEL"
  | requestTimeout => "REQUEST_TIMEOUT_SECONDS"

/-- What is wrong with the text of a setting, or with its absence. -/
def fault? : Checked → Option String → Option SettingFault
  | databaseUrl => faultOf databaseUrlOf
  | useCloud => faultOf useCloudOf
  | lockTimeout => faultOf lockTimeoutOf
  | logLevel => faultOf logLevelOf
  | requestTimeout => faultOf requestTimeoutOf

end Checked

/-- All that is wrong with an environment, each fault with the name of its setting. -/
def faults (env : Environment) : List (String × SettingFault) :=
  Checked.all.filterMap fun k => (k.fault? (env.find? k.name)).map fun fault => (k.name, fault)

/-- The settings of an environment. -/
def read (env : Environment) : Except (List (String × SettingFault)) Settings :=
  match databaseUrlOf (env.find? Checked.databaseUrl.name),
    useCloudOf (env.find? Checked.useCloud.name),
    lockTimeoutOf (env.find? Checked.lockTimeout.name),
    logLevelOf (env.find? Checked.logLevel.name),
    requestTimeoutOf (env.find? Checked.requestTimeout.name) with
  | .ok databaseUrl, .ok useCloud, .ok lockTimeout, .ok logLevel, .ok requestTimeout =>
    .ok
      { databaseUrl, useCloud, lockTimeout, logLevel, requestTimeout,
        databaseUser := (env.find? "DB_USER").getD "tandem_user",
        databasePassword := (env.find? "DB_PASSWORD").getD "",
        databaseName := (env.find? "DB_NAME").getD "tandem",
        cloudInstance := (env.find? "CLOUD_SQL_INSTANCE_CONNECTION").getD "",
        userHeader := (env.find? "AUTH_USER_HEADER").getD "X-User-Id",
        environment := (env.find? "ENVIRONMENT").getD "development",
        allowedOrigins := (env.find? "ALLOWED_ORIGINS").getD "*" }
  | _, _, _, _, _ => .error (faults env)

/-! ## What follows from the settings -/

/-- The origins that browsers may call from. -/
def origins (s : Settings) : List String :=
  (Text.splitOn ',' s.allowedOrigins.toList).map fun origin => Text.strip (String.ofList origin)

/-- The program serves its users. -/
def isProduction (s : Settings) : Bool :=
  s.environment == "production"

end Settings

end Matchmaker
