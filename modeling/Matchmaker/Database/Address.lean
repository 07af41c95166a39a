import Matchmaker.Decimal.Numeral
import Matchmaker.Text.Percent
import Matchmaker.Text.Split

/-!
# Addresses of databases

A database is addressed by a URL: the name of a dialect and a driver, an account with or without a
password, a host and a port, the name of the database, and options. Of all these only the first must
be there.

* `Address.read`: the address that a URL states;
* `Address.text`: the URL that states an address, options sorted by name.
-/

namespace Matchmaker

/-- What is wrong with the URL of a database. -/
inductive AddressFault where
  /-- It names no driver. -/
  | unreadable
  /-- Its port is no number. -/
  | portNotWhole
  /-- There is no port behind the colon. -/
  | portMissing
  deriving DecidableEq, Repr

/-- The address of a database. -/
structure Address where
  driver : List Char
  account : Option (List Char)
  password : Option (List Char)
  host : Option (List Char)
  port : Option Int
  database : Option (List Char)
  /-- The options, each with all its values in their order. -/
  options : List (List Char × List (List Char))
  deriving DecidableEq, Repr

namespace Address

/-! ## Reading -/

/-- A character of the name of a driver. All that is not ASCII counts as a letter. -/
def isNameChar (c : Char) : Bool :=
  c.isAlphanum || c == '_' || c == '+' || 0x80 ≤ c.toNat

/-- What stands before the first of some characters, and what follows from there. -/
def spanUntil (stops : List Char) (cs : List Char) : List Char × List Char :=
  (cs.takeWhile fun c => !stops.contains c, cs.dropWhile fun c => !stops.contains c)

/-- What stands before the last `c`, and what follows it. -/
def splitLast? (c : Char) (cs : List Char) : Option (List Char × List Char) :=
  match cs.reverse.dropWhile (· != c) with
  | _ :: before => some (before.reverse, (cs.reverse.takeWhile (· != c)).reverse)
  | [] => none

/-- The account, the password and what follows their at sign. The password reaches to the first at
sign; an account without one to the last that no colon or slash stands before. -/
def splitAccount (cs : List Char) : Option (List Char) × Option (List Char) × List Char :=
  let (name, rest) := spanUntil [':', '/'] cs
  let password := spanUntil ['@'] (rest.drop 1)
  match rest.head?, password.2 with
  | some ':', _ :: after => (some name, some password.1, after)
  | _, _ =>
    match splitLast? '@' name with
    | some (account, host) => (some account, none, host ++ rest)
    | none => (none, none, cs)

/-- A host in brackets, and what follows them. -/
def splitBrackets? : List Char → Option (List Char × List Char)
  | '[' :: cs =>
    let (inside, rest) := spanUntil ['/', '?'] cs
    match splitLast? ']' inside with
    | some (host, after) => if host.isEmpty then none else some (host, after ++ rest)
    | none => none
  | _ => none

/-- A host, and what follows it. -/
def splitHost (cs : List Char) : Option (List Char) × List Char :=
  match splitBrackets? cs with
  | some (host, rest) => (some host, rest)
  | none =>
    let (host, rest) := spanUntil ['/', ':', '?'] cs
    (if host.isEmpty then none else some host, rest)

/-- The text of a port behind a colon, and what follows it. -/
def splitPort : List Char → Option (List Char) × List Char
  | ':' :: cs =>
    let (port, rest) := spanUntil ['/', '?'] cs
    (some port, rest)
  | cs => (none, cs)

/-- A port. -/
def readPort : Option (List Char) → Except AddressFault (Option Int)
  | none => .ok none
  | some [] => .error .portMissing
  | some cs =>
    match Decimal.integer? (String.ofList cs) with
    | some n => .ok (some n)
    | none => .error .portNotWhole

/-- The name of a database behind a slash, and what follows it. -/
def splitDatabase : List Char → Option (List Char) × List Char
  | '/' :: cs =>
    let (name, rest) := spanUntil ['?'] cs
    (some (Text.Percent.decode name), rest)
  | cs => (none, cs)

/-- A text of a query, with its pluses and escapes read. -/
def unquoted (cs : List Char) : List Char :=
  Text.Percent.decode (cs.map fun c => if c == '+' then ' ' else c)

/-- An option with a value. -/
def option? (cs : List Char) : Option (List Char × List Char) :=
  match spanUntil ['='] cs with
  | (name, _ :: c :: value) => some (unquoted name, unquoted (c :: value))
  | _ => none

/-- Adds a value to those of an option. -/
def addOption (name value : List Char) :
    List (List Char × List (List Char)) → List (List Char × List (List Char))
  | [] => [(name, [value])]
  | (other, values) :: rest =>
    if other == name then (other, values ++ [value]) :: rest
    else (other, values) :: addOption name value rest

/-- The options behind a question mark, on its line. -/
def readOptions : List Char → List (List Char × List (List Char))
  | '?' :: cs =>
    ((Text.splitOn '&' (cs.takeWhile (· != '\n'))).filterMap option?).foldl
      (fun read o => addOption o.1 o.2 read) []
  | _ => []

/-- The address that a URL states. -/
def read (url : String) : Except AddressFault Address :=
  let driver := url.toList.takeWhile isNameChar
  match url.toList.drop driver.length with
  | ':' :: '/' :: '/' :: cs =>
    if driver.isEmpty then .error .unreadable
    else do
      let (account, password, cs) := splitAccount cs
      let (host, cs) := splitHost cs
      let (portText, cs) := splitPort cs
      let (database, cs) := splitDatabase cs
      let port ← readPort portText
      return { driver, account := account.map Text.Percent.decode,
               password := password.map Text.Percent.decode, host, port, database,
               options := readOptions cs }
  | _ => .error .unreadable

/-- The values of an option, none where it is not given. -/
def optionValues (a : Address) (name : String) : List (List Char) :=
  ((a.options.find? (·.1 == name.toList)).map Prod.snd).getD []

/-! ## Writing -/

/-- A name with escapes for all but the characters of names and some others. -/
def escaped (others : List Char) (cs : List Char) : List Char :=
  Text.Percent.encode (fun c => Text.Percent.isUnreserved c || others.contains c) cs

/-- A text of a query, blanks as pluses. -/
def quoted (cs : List Char) : List Char :=
  (escaped [' '] cs).map fun c => if c == ' ' then '+' else c

/-- What stands before the host. -/
def accountText (a : Address) : List Char :=
  match a.account with
  | none => []
  | some name =>
    escaped [' ', '+'] name ++
      ((a.password.map fun p => ':' :: escaped [' ', '+'] p).getD []) ++ ['@']

/-- A host, between brackets when it holds a colon. -/
def hostText (host : List Char) : List Char :=
  if host.contains ':' then '[' :: host ++ [']'] else host

/-- The options by name. -/
def sortedOptions (a : Address) : List (List Char × List (List Char)) :=
  a.options.mergeSort fun o p => !(String.ofList p.1 < String.ofList o.1)

/-- What stands behind the question mark. -/
def optionsText (a : Address) : List Char :=
  ['&'].intercalate (a.sortedOptions.flatMap fun o =>
    o.2.map fun value => quoted o.1 ++ '=' :: quoted value)

/-- The URL that states an address. -/
def text (a : Address) : String :=
  String.ofList (a.driver ++ "://".toList ++ a.accountText ++ (a.host.map hostText).getD [] ++
    ((a.port.map fun n => ':' :: (toString n).toList).getD []) ++
    ((a.database.map fun d => '/' :: escaped [' ', '+', '/'] d).getD []) ++
    (if a.options.isEmpty then [] else '?' :: a.optionsText))

end Address

end Matchmaker
