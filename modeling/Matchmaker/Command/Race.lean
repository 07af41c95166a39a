import Matchmaker.Api.Serve
import Matchmaker.Api.Url
import Matchmaker.Command.Report

/-!
# The race check

A check of the running service: for each of some pairs, both members ask each other for a connection
at the same moment, and then each looks how they see the pair. The pair passes when both see an
accepted connection. The paths of the service are put behind a base URL, whatever that ends in.

* `Race.checkPair`: the outcome of a race between two members;
* `Race.run`: the command.
-/

namespace Matchmaker.Command.Race

open Api (Response Service Request)

/-! ## Options -/

/-- The members, two by two. -/
def users : Flag := ⟨["--users"], .some, .whole⟩

/-- Where the service is. -/
def baseUrl : Flag := ⟨["--base-url"], .one, .text⟩

/-- The header that names the caller. -/
def header : Flag := ⟨["--header"], .one, .text⟩

/-- How the command explains itself. -/
def help : List String :=
  ["usage: race_check.py [-h] --users USERS [USERS ...] [--base-url BASE_URL]",
    "                     [--header HEADER]",
    "",
    "Tandem connection race check",
    "",
    "options:",
    "  -h, --help            show this help message and exit",
    "  --users USERS [USERS ...]",
    "                        User ids, consumed two at a time as racing pairs",
    "  --base-url BASE_URL   API base URL",
    "  --header HEADER       Identity header name"]

/-- What the command understands. -/
def grammar : Grammar where
  program := "race_check.py"
  help := help
  flags := [users, baseUrl, header]
  required := [users]

/-! ## The race -/

/-- How the service is reached. -/
structure Client where
  service : Service
  conditions : Conditions
  now : Instant
  base : String
  header : String

/-- The URL of a path of the service. -/
def Client.url (c : Client) (path : String) : String :=
  c.base ++ path

/-- The scheme and the authority of the base. -/
def Client.host (c : Client) : String :=
  (Api.Url.ofText c.base).origin?.getD c.base

/-- A request of a member. The service knows the caller by its own header only. -/
def Client.request (c : Client) (method path : String) (member : Int) : Request where
  method := method
  host := c.host
  target := (Api.Url.ofText (c.url path)).target
  identity := if c.header.toLower == c.service.header.toLower then some (toString member) else none
  body := ""

/-- The response to a request of a member, and the store after it. -/
def Client.send (c : Client) (method path : String) (member : Int) (s : Store) :
    Response × Store :=
  Api.respond c.service c.conditions c.now (c.request method path member) s

/-- The path of the connection with a member. -/
def connectionPath (member : Int) : String :=
  "/api/v1/connections/" ++ toString member

/-- A text of a JSON response, unless it is empty. -/
def textIn (r : Response) (name : String) : Option String :=
  match r.content with
  | .json v =>
    match v.member? name with
    | some (.str (.plain s)) => some s
    | _ => none
  | _ => none

/-- What a response to a request for a connection comes to. -/
def resultOf (r : Response) : String :=
  match textIn r "state", textIn r "error" with
  | some state, _ => state
  | none, some error => error
  | none, none => "http_" ++ toString r.status

/-- `a` asks `b` for a connection. -/
def Client.ask (c : Client) (a b : Int) (s : Store) : String × Store :=
  let (r, s) := c.send "POST" (connectionPath b ++ "/request") a s
  (resultOf r, s)

/-- How `a` sees the pair with `b`. -/
def Client.look (c : Client) (a b : Int) (s : Store) : Option String :=
  let (r, _) := c.send "GET" (connectionPath b) a s
  if r.status = 200 then textIn r "state" else none

/-- The outcome of a race between two members. -/
structure Outcome where
  first : Int
  second : Int
  results : List String
  seenByFirst : Option String
  seenBySecond : Option String
  deriving DecidableEq, Repr

/-- Both members see an accepted connection. -/
def Outcome.passes (o : Outcome) : Bool :=
  o.seenByFirst == some "accepted" && o.seenBySecond == some "accepted"

/-- A race between two members. -/
def checkPair (c : Client) (a b : Int) (s : Store) : Outcome × Store :=
  let (there, s) := c.ask a b s
  let (back, s) := c.ask b a s
  (⟨a, b, [there, back].mergeSort fun x y => !(y < x), c.look a b s, c.look b a s⟩, s)

/-- Why a race between two members cannot be held, if so: one of its requests cannot be sent. -/
def Client.fault? (c : Client) (a b : Int) : Option Fault :=
  [connectionPath b ++ "/request", connectionPath a ++ "/request", connectionPath b,
    connectionPath a].findSome? fun path => Api.Url.unsendable? (c.url path) [c.header]

/-- The pairs of a list of members; one that is left over has no race. -/
def pairsOf : List Int → List (Int × Int)
  | a :: b :: rest => (a, b) :: pairsOf rest
  | _ => []

/-- The races between the members of pairs. -/
def checkAll (c : Client) : List (Int × Int) → Store → List Outcome × Store
  | [], s => ([], s)
  | (a, b) :: rest, s =>
    let (o, s) := checkPair c a b s
    let (os, s) := checkAll c rest s
    (o :: os, s)

/-! ## What is printed -/

/-- A line across the page. -/
def rule : String := String.ofList (List.replicate 60 '=')

/-- What a member sees, in a message. -/
def seen (state : Option String) : String :=
  state.getD "None"

/-- The line about a race. -/
def Outcome.line (o : Outcome) : String :=
  let results := "[" ++ ", ".intercalate (o.results.map Text.quoted) ++ "]"
  let race := toString o.first ++ " <-> " ++ toString o.second ++ ": " ++ results
  if o.passes then "  [OK]   " ++ race
  else "  [FAIL] " ++ race ++ " (a sees " ++ seen o.seenByFirst ++ ", b sees " ++
    seen o.seenBySecond ++ ")"

/-- All lines about races. -/
def lines (base : String) (os : List Outcome) : List String :=
  let total := os.length
  let passed := os.countP Outcome.passes
  ["", rule, "Tandem race check — " ++ toString total ++ " pairs", "Target: " ++ base, rule, ""] ++
    os.map Outcome.line ++
    ["", rule, "Pairs accepted exactly once: " ++ toString passed ++ "/" ++ toString total, rule,
      "",
      if passed = total then "PASS: every pair ended with exactly one accepted connection"
      else "FAIL: " ++ toString (total - passed) ++ " pair(s) not cleanly accepted"]

/-! ## The command -/

/-- The whole numbers given with an option. -/
def wholesOf (u : Understood) (f : Flag) : List Int :=
  ((u.find? f).getD []).filterMap fun
    | .whole n => some n
    | _ => none

/-- The text given with an option, or its default. -/
def textOf (u : Understood) (f : Flag) (default : String) : String :=
  match u.find? f with
  | some [.text s] => s
  | _ => default

/-- The report on races. -/
def reportOf (base : String) (os : List Outcome) : Report :=
  if os.all Outcome.passes then Report.done (lines base os) else Report.failed (lines base os)

/-- Races between the members of pairs, where their requests can be sent. -/
def checkPairs (c : Client) (pairs : List (Int × Int)) (s : Store) :
    Except Failure (Report × Store) :=
  match pairs.findSome? fun p => c.fault? p.1 p.2 with
  | some fault => broken fault
  | none =>
    let (outcomes, s) := checkAll c pairs s
    .ok (reportOf c.base outcomes, s)

/-- Races between the members that arguments name. -/
def run (v : Service) (c : Conditions) (now : Instant) (arguments : List String) (s : Store) :
    Except Failure (Report × Store) :=
  match grammar.read arguments with
  | .error fault => .ok (Report.misused grammar.program fault, s)
  | .ok u =>
    if u.help then .ok (Report.done grammar.help, s)
    else
      let members := wholesOf u users
      if members.length < 2 || members.eraseDups.length != members.length then
        .ok (Report.misused grammar.program (.other "--users needs at least two distinct ids"), s)
      else
        let base := textOf u baseUrl "http://localhost:8000"
        checkPairs ⟨v, c, now, base, textOf u header "X-User-Id"⟩ (pairsOf members) s

end Matchmaker.Command.Race
