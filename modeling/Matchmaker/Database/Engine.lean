import Matchmaker.Settings

/-!
# Engines

Which database a configuration leads to, and how its transactions begin. What a URL leads to is for
the database library to say. The program gives a plain PostgreSQL URL the asynchronous driver and
tells by how the URL begins what connections are for: on SQLite a transaction takes the lock of the
writer where it begins, elsewhere connections are kept in a pool. A configuration may lead to an
instance in the cloud instead, which has no address of its own.

* `Engine.withDriver`: a URL with a driver;
* `Engine.ofUrl`: the engine for a URL;
* `Engine.ofSettings`: the engine of a configuration.
-/

namespace Matchmaker

/-- What a URL leads to. -/
structure Backend where
  dialect : String
  driver : String
  url : String
  deriving DecidableEq, Repr

/-- How the connections of an engine are used. -/
inductive Tuning where
  /-- A transaction takes the lock of the writer where it begins. -/
  | immediate
  /-- Connections are kept in a pool. -/
  | pooled
  deriving DecidableEq, Repr

/-- A database to connect to. -/
structure Engine extends Backend where
  tuning : Tuning
  /-- The connection goes to an instance in the cloud. -/
  cloud : Bool
  deriving DecidableEq, Repr

namespace Engine

/-- How a URL begins that names PostgreSQL and no driver. -/
def plainStart : String := "postgresql://"

/-- How it begins with the asynchronous driver. -/
def asyncStart : String := "postgresql+asyncpg://"

/-- A URL with a driver: one that names PostgreSQL alone gets the asynchronous driver. -/
def withDriver (url : String) : String :=
  if plainStart.toList.isPrefixOf url.toList then
    asyncStart ++ String.ofList (url.toList.drop plainStart.length)
  else url

/-- How the connections to a URL are used. -/
def tuningOf (url : String) : Tuning :=
  if "sqlite".toList.isPrefixOf url.toList then .immediate else .pooled

/-- The configuration names an instance in the cloud, which is to be used. -/
def wantsCloud (s : Settings) : Bool :=
  s.useCloud && !s.cloudInstance.isEmpty

variable {ε : Type} (connect : String → Except ε Backend)

/-- The engine for a URL. -/
def ofUrl (url : String) : Except ε Engine := do
  let backend ← connect (withDriver url)
  return { toBackend := backend, tuning := tuningOf (withDriver url), cloud := false }

/-- The engine for the instance in the cloud. -/
def ofCloud : Except ε Engine := do
  let backend ← connect asyncStart
  return { toBackend := backend, tuning := .pooled, cloud := true }

/-- The engine of a configuration. -/
def ofSettings (s : Settings) : Except ε Engine :=
  if wantsCloud s then ofCloud connect else ofUrl connect s.databaseUrl

end Engine

end Matchmaker
