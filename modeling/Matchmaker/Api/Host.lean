import Matchmaker.Decimal.Numeral
import Matchmaker.Text.Quoted
import Matchmaker.Text.Split

/-!
# Hosts

A host is a name, an address of four numbers, or an address of eight groups of hexadecimal digits,
which stands in brackets. Two of its groups may be written as four numbers, one run of groups may be
left out, and it may name a scope after a percent sign.

* `Host.isIPv4`: an address of four numbers;
* `Host.isIPv6`: an address of eight groups;
* `Host.isLiteral`: what may stand in brackets.
-/

namespace Matchmaker.Api.Host

/-- A number of an address of four numbers. -/
def isOctet (cs : List Char) : Bool :=
  match Decimal.allDigits Decimal.asciiDigit? cs with
  | some [_] => true
  | some ds => ds.head? != some 0 && Decimal.value ds ≤ 255
  | none => false

/-- An address of four numbers. -/
def isIPv4 (cs : List Char) : Bool :=
  let parts := Text.splitOn '.' cs
  parts.length == 4 && parts.all isOctet

/-- A group of an address of eight groups: one to four hexadecimal digits. -/
def isGroup (cs : List Char) : Bool :=
  !cs.isEmpty && cs.length ≤ 4 && cs.all fun c => (Text.hexDigit? c).isSome

/-- The groups of an address; four numbers at its end stand for two of them. -/
def groups? (cs : List Char) : Option (List (List Char)) :=
  let parts := Text.splitOn ':' cs
  let last := parts.getLast?.getD []
  if !last.contains '.' then some parts
  else if isIPv4 last then some (parts.dropLast ++ [['0'], ['0']]) else none

/-- The groups before or after the ones that are left out. There are none where the address begins
or ends with them, which leaves an empty part. -/
def present (parts : List (List Char)) : List (List Char) :=
  if parts == [[]] then [] else parts

/-- The groups of an address are eight, or fewer where some are left out. -/
def areGroups (parts : List (List Char)) : Bool :=
  match ((parts.drop 1).dropLast).idxOf? [] with
  | none => parts.length == 8 && parts.all isGroup
  | some i =>
    let groups := present (parts.take (i + 1)) ++ present (parts.drop (i + 2))
    groups.length < 8 && groups.all isGroup

/-- A scope, which is not empty and holds no percent sign. -/
def isScope (cs : List Char) : Bool :=
  !cs.isEmpty && !cs.contains '%'

/-- An address of eight groups, of at least three parts. -/
def isIPv6 (cs : List Char) : Bool :=
  let address := cs.takeWhile (· != '%')
  let scope := cs.drop address.length
  (scope.isEmpty || isScope (scope.drop 1)) && !cs.contains '/' &&
    3 ≤ (Text.splitOn ':' address).length && ((groups? address).map areGroups).getD false

/-- An address of a later kind: its version in hexadecimal digits, a dot and more. -/
def isFuture (cs : List Char) : Bool :=
  let version := cs.takeWhile fun c => (Text.hexDigit? c).isSome
  !version.isEmpty &&
    match cs.drop version.length with
    | '.' :: rest => !rest.isEmpty
    | _ => false

/-- What may stand in brackets. -/
def isLiteral : List Char → Bool
  | 'v' :: cs => isFuture cs
  | cs => isIPv6 cs

end Matchmaker.Api.Host
