import Matchmaker.Text.Percent
import Matchmaker.Text.Split

/-!
# Paths

The target of a request: a path, a query after a question mark, and a fragment after a number sign,
which is dropped. Dot segments are resolved and percent escapes decoded before a path is looked at.

* `Target.ofText`: the parts of a target;
* `Target.segments`: the texts between the slashes of the path;
* `Target.withoutSlash?`: the target whose path does not end in a slash;
* `Target.toText`: a target with all characters escaped that have no place in one.
-/

namespace Matchmaker.Api

/-- What a request is directed at. -/
structure Target where
  /-- The decoded path. -/
  path : List Char
  query : List Char
  deriving DecidableEq, Repr

namespace Target

/-- Takes the last part away, unless nothing but the start of the path is left. -/
def ascend (parts : List (List Char)) : List (List Char) :=
  if parts == [[]] then parts else parts.dropLast

/-- Resolves dot segments, from the left. -/
def resolve (parts : List (List Char)) : List (List Char) :=
  parts.foldl
    (fun done part =>
      if part == ['.'] then done else if part == ['.', '.'] then ascend done else done ++ [part])
    []

/-- The parts of a target. -/
def ofText (s : String) : Target :=
  let cs := s.toList.takeWhile (· != '#')
  let path := ['/'].intercalate (resolve (Text.splitOn '/' (cs.takeWhile (· != '?'))))
  let path := if path.head? == some '/' then path else '/' :: path
  { path := Text.Percent.decode path, query := (cs.dropWhile (· != '?')).drop 1 }

/-- The texts between the slashes of the path. -/
def segments (t : Target) : List String :=
  (Text.splitOn '/' (t.path.drop 1)).map String.ofList

/-- The target whose path does not end in a slash, where this one does. -/
def withoutSlash? (t : Target) : Option Target :=
  if t.path.getLast? == some '/' && t.path != ['/'] then
    some { t with path := (t.path.reverse.dropWhile (· == '/')).reverse }
  else none

/-- The characters that stand for themselves in a target. -/
def isPlain (c : Char) : Bool :=
  Text.Percent.isUnreserved c || ":/%#?=@[]!$&'()*+,;".toList.contains c

/-- A target as text. -/
def toText (t : Target) : String :=
  let cs := if t.query.isEmpty then t.path else t.path ++ '?' :: t.query
  String.ofList (Text.Percent.encode isPlain cs)

end Target

end Matchmaker.Api
