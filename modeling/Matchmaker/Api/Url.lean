import Matchmaker.Api.Host
import Matchmaker.Fault
import Matchmaker.Text.Percent

/-!
# URLs

What a client is told to ask for: a scheme before a colon, an authority after two slashes, a path, a
query after a question mark and a fragment after a number sign, each of which may be missing. The
path of a URL without scheme or host is taken from the root.

* `Url.ofText`: the parts of a URL;
* `Url.isReadable`: the parts can be told apart;
* `Url.isValid`: a client accepts the URL;
* `Url.target`: the path and the query to ask for;
* `Url.origin?`: the scheme, the host and the port to ask.
-/

namespace Matchmaker.Api

/-- The parts of a URL. -/
structure Url where
  scheme : List Char
  authority : List Char
  path : List Char
  query : Option (List Char)
  deriving DecidableEq, Repr

namespace Url

/-- A character of a scheme. -/
def isSchemeChar (c : Char) : Bool :=
  c.isAlphanum || c == '+' || c == '.' || c == '-'

/-- A scheme, which may be empty, and what follows its colon. -/
def splitScheme (cs : List Char) : List Char × List Char :=
  let scheme := if (cs.head?.map Char.isAlpha).getD false then cs.takeWhile isSchemeChar else []
  match cs.drop scheme.length with
  | ':' :: rest => (scheme, rest)
  | _ => ([], cs)

/-- An authority and what follows it. -/
def splitAuthority : List Char → List Char × List Char
  | '/' :: '/' :: cs =>
    let inside := fun c => c != '/' && c != '?' && c != '#'
    (cs.takeWhile inside, cs.dropWhile inside)
  | cs => ([], cs)

/-- The parts of a URL. -/
def ofChars (cs : List Char) : Url :=
  let (scheme, cs) := splitScheme cs
  let (authority, cs) := splitAuthority cs
  let cs := cs.takeWhile (· != '#')
  { scheme, authority, path := cs.takeWhile (· != '?'),
    query := match cs.dropWhile (· != '?') with
      | _ :: query => some query
      | [] => none }

/-- The parts of a URL. -/
def ofText (s : String) : Url :=
  ofChars s.toList

/-- A character that is left out of account in a URL. -/
def isSkipped (c : Char) : Bool :=
  c == '\t' || c == '\n' || c == '\x0d'

/-- The parts of a URL can be told apart: its authority holds no brackets, or brackets of both kinds
with an address in them. -/
def isReadable (s : String) : Bool :=
  let authority := (ofChars (s.toList.filter (!isSkipped ·))).authority
  let inside := ((authority.dropWhile (· != '[')).drop 1).takeWhile (· != ']')
  (!authority.contains '[' && !authority.contains ']') ||
    (authority.contains '[' && authority.contains ']' && Host.isLiteral inside)

/-- The host and the port of an authority: what stands behind its last at sign. -/
def address (u : Url) : List Char :=
  (u.authority.reverse.takeWhile (· != '@')).reverse

/-- The host of an authority; one in brackets reaches to the last of them. -/
def host (u : Url) : List Char :=
  if u.address.head? == some '[' && u.address.contains ']' then
    (u.address.reverse.dropWhile (· != ']')).reverse
  else u.address.takeWhile (· != ':')

/-- The text of a port, without the colon before it. -/
def port (u : Url) : List Char :=
  match u.address.drop u.host.length with
  | ':' :: cs => cs
  | cs => cs

/-- A host that looks like an address, in brackets or of four numbers, is one. -/
def isValidHost (cs : List Char) : Bool :=
  let parts := Text.splitOn '.' cs
  let isNumber := fun part => (Decimal.allDigits Decimal.asciiDigit? part).isSome
  if cs.head? == some '[' && cs.getLast? == some ']' then Host.isIPv6 (cs.drop 1).dropLast
  else parts.length != 4 || !parts.all isNumber || Host.isIPv4 cs

/-- A port is a whole number, if it is given. -/
def isValidPort (cs : List Char) : Bool :=
  cs.isEmpty || (Decimal.integer? (String.ofList cs)).isSome

/-- A URL with a scheme and a host. -/
def isAbsolute (u : Url) : Bool :=
  !u.scheme.isEmpty && !u.host.isEmpty

/-- The longest URL that is accepted. -/
def maxLength : Nat := 65536

/-- A client accepts a URL. -/
def isValid (s : String) : Bool :=
  let u := ofText s
  s.length ≤ maxLength && s.toList.all (fun c => 0x20 ≤ c.toNat && c.toNat != 0x7F) &&
    isValidHost u.host && isValidPort u.port &&
    !(u.scheme.isEmpty && u.authority.isEmpty && "//".toList.isPrefixOf u.path)

/-- Why a request to a URL, with these texts in its headers, cannot be sent, if so: the URL is not
accepted, or a text is not ASCII. -/
def unsendable? (url : String) (headers : List String) : Option Fault :=
  if !isValid url then some .unusable
  else if headers.any fun h => h.toList.any fun c => 0x80 ≤ c.toNat then some .unwritable
  else none

/-- The path and the query to ask for. -/
def target (u : Url) : String :=
  let path := if u.isAbsolute then u.path else '/' :: u.path.dropWhile (· == '/')
  String.ofList (path ++ (u.query.map ('?' :: ·)).getD [])

/-- A character that is escaped in the name of a host. -/
def isEscapedInHost (c : Char) : Bool :=
  " #/:<>?@[]^".toList.contains c

/-- The host as it is asked for: an address in brackets as it is, and a name in small letters, with
escapes. -/
def sentHost (u : Url) : List Char :=
  if u.host.head? == some '[' && u.host.getLast? == some ']' then u.host
  else Text.Percent.encode (!isEscapedInHost ·) (u.host.map Char.toLower)

/-- The scheme in small letters. -/
def sentScheme (u : Url) : List Char :=
  u.scheme.map Char.toLower

/-- The port that a scheme stands for. -/
def defaultPort? (scheme : String) : Option Int :=
  [("ftp", 21), ("http", 80), ("https", 443), ("ws", 80), ("wss", 443)].lookup scheme

/-- The port behind a colon, unless the scheme stands for it. -/
def sentPort (u : Url) : List Char :=
  match Decimal.integer? (String.ofList u.port) with
  | some n =>
    if defaultPort? (String.ofList u.sentScheme) = some n then [] else ':' :: (toString n).toList
  | none => []

/-- The scheme, the host and the port that are asked, where a URL gives the first two. -/
def origin? (u : Url) : Option String :=
  if u.isAbsolute then
    some (String.ofList (u.sentScheme ++ "://".toList ++ u.sentHost ++ u.sentPort))
  else none

end Url

end Matchmaker.Api
