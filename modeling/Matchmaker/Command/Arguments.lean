import Matchmaker.Decimal.Numeral
import Matchmaker.Text.Quoted

/-!
# Arguments

The arguments of a command are options, each with the values that follow it. An option may be
shortened as long as no other starts in the same way, and its value may follow an equals sign. What
starts with a dash is an option, unless it is a dash alone, a negative number, has a blank in it, or
stands behind a double dash; what is neither an option nor the value of one is left over.

* `Grammar.read`: the options and their values, a call for help, or the first fault;
* `UsageFault.message`: the wording of a fault.
-/

namespace Matchmaker.Command

/-- How many values follow an option. -/
inductive Arity where
  | none
  | one
  | some
  deriving DecidableEq, Repr

/-- What the values of an option are read as. -/
inductive Reading where
  | text
  | whole
  | real
  deriving DecidableEq, Repr

/-- A value that has been read. -/
inductive Argument where
  | text (s : String)
  | whole (n : Int)
  | real (x : Float)
  deriving Repr

/-- An option of a command. -/
structure Flag where
  /-- Its names; the last is the long one. -/
  names : List String
  arity : Arity
  reading : Reading
  deriving DecidableEq, Repr

/-- The names of an option in messages. -/
def Flag.label (f : Flag) : String :=
  "/".intercalate f.names

/-- The option that asks for help. -/
def helpFlag : Flag :=
  ⟨["-h", "--help"], .none, .text⟩

/-- What a command understands. -/
structure Grammar where
  program : String
  help : List String
  flags : List Flag
  /-- The options that must be given. -/
  required : List Flag

/-- What is wrong with the arguments of a command. -/
inductive UsageFault where
  | ambiguous (given : String) (names : List String)
  | noValue (f : Flag)
  | noValues (f : Flag)
  | unwanted (f : Flag) (given : String)
  | notWhole (f : Flag) (given : String)
  | notReal (f : Flag) (given : String)
  | missing (fs : List Flag)
  | leftOver (texts : List String)
  /-- A fault that a command finds itself. -/
  | other (message : String)
  deriving Repr

namespace UsageFault

/-- The wording of a fault. -/
def message : UsageFault → String
  | ambiguous given names =>
    "ambiguous option: " ++ given ++ " could match " ++ ", ".intercalate names
  | noValue f => "argument " ++ f.label ++ ": expected one argument"
  | noValues f => "argument " ++ f.label ++ ": expected at least one argument"
  | unwanted f given =>
    "argument " ++ f.label ++ ": ignored explicit argument " ++ Text.quoted given
  | notWhole f given => "argument " ++ f.label ++ ": invalid int value: " ++ Text.quoted given
  | notReal f given => "argument " ++ f.label ++ ": invalid float value: " ++ Text.quoted given
  | missing fs =>
    "the following arguments are required: " ++ ", ".intercalate (fs.map Flag.label)
  | leftOver texts => "unrecognized arguments: " ++ " ".intercalate texts
  | other message => message

end UsageFault

/-! ## Options and values -/

/-- What starts a new part of the arguments. -/
inductive Mark where
  /-- A double dash. -/
  | divider
  | unknown (s : String)
  /-- An option, and the value given with its name. -/
  | flag (f : Flag) (given : Option String)
  deriving Repr

/-- An argument: a mark or a value. -/
inductive Token where
  | mark (m : Mark)
  | value (s : String)
  deriving Repr

/-- A text and what stands behind its first equals sign. -/
def splitEquals (s : String) : String × Option String :=
  let cs := s.toList
  match cs.dropWhile (· != '=') with
  | _ :: rest => (String.ofList (cs.takeWhile (· != '=')), some (String.ofList rest))
  | [] => (s, none)

/-- A text without the line feed that it may end in. -/
def dropLineFeed (cs : List Char) : List Char :=
  if cs.getLast? == some '\n' then cs.dropLast else cs

/-- A minus and digits, with or without a point and digits behind it. A line feed may follow. -/
def isNegativeNumber (s : String) : Bool :=
  match dropLineFeed s.toList with
  | '-' :: cs =>
    let isDigit := fun c => (Decimal.digit? c).isSome
    match cs.dropWhile isDigit with
    | [] => !cs.isEmpty
    | '.' :: fraction => !fraction.isEmpty && fraction.all isDigit
    | _ => false
  | _ => false

namespace Grammar

/-- All options with each of their names. -/
def named (g : Grammar) : List (Flag × String) :=
  (helpFlag :: g.flags).flatMap fun f => f.names.map fun n => (f, n)

/-- The option of exactly this name. -/
def called? (g : Grammar) (name : String) : Option Flag :=
  (g.named.find? (·.2 == name)).map Prod.fst

/-- The options that a shortened long name may stand for. -/
def longMatches (g : Grammar) (s : String) : List (Flag × String × Option String) :=
  let (start, given) := splitEquals s
  (g.named.filter fun n => start.toList.isPrefixOf n.2.toList).map fun n => (n.1, n.2, given)

/-- The value right behind the short name of an option. An option without values may be repeated
there. -/
def behindShort (f : Flag) (rest : List Char) : Option String :=
  let isRepeated := fun c => f.arity == .none && f.names.contains (String.ofList ['-', c])
  let left := rest.dropWhile isRepeated
  if left.isEmpty && !rest.isEmpty then none else some (String.ofList left)

/-- The options that a text with a single dash may stand for: a short name with a value behind it,
or the start of a name. -/
def shortMatches (g : Grammar) (s : String) : List (Flag × String × Option String) :=
  g.named.filterMap fun n =>
    if n.2.toList == s.toList.take 2 then some (n.1, n.2, behindShort n.1 (s.toList.drop 2))
    else if s.toList.isPrefixOf n.2.toList then some (n.1, n.2, none)
    else none

/-- The options that a text may stand for. -/
def matching (g : Grammar) (s : String) : List (Flag × String × Option String) :=
  if "--".toList.isPrefixOf s.toList then g.longMatches s else g.shortMatches s

/-- What a text with a dash stands for that no option fits. -/
def strange (s : String) : Token :=
  if isNegativeNumber s || s.toList.contains ' ' then .value s else .mark (.unknown s)

/-- The one option that a text may stand for. -/
def shortened (g : Grammar) (s : String) : Except UsageFault Token :=
  match g.matching s with
  | [] => .ok (strange s)
  | [(f, _, given)] => .ok (.mark (.flag f given))
  | ms => .error (.ambiguous s (ms.map fun m => m.2.1))

/-- What a text that starts with a dash stands for. -/
def dashed (g : Grammar) (s : String) : Except UsageFault Token :=
  let (name, given) := splitEquals s
  match g.called? s, g.called? name with
  | some f, _ => .ok (.mark (.flag f none))
  | none, some f =>
    let isShort := name.length == 2
    .ok (.mark (.flag f (if isShort then given.bind fun v => behindShort f v.toList else given)))
  | none, none => g.shortened s

/-- What an argument stands for. -/
def token (g : Grammar) (s : String) : Except UsageFault Token :=
  if s.toList.head? == some '-' && s.length != 1 then g.dashed s else .ok (.value s)

/-- What the arguments stand for; behind a double dash all are values. -/
def tokens (g : Grammar) : List String → Except UsageFault (List Token)
  | [] => .ok []
  | s :: rest =>
    if s == "--" then .ok (.mark .divider :: rest.map .value)
    else do return (← g.token s) :: (← g.tokens rest)

end Grammar

/-- A mark and the values up to the next one. -/
structure Part where
  mark : Mark
  values : List String
  deriving Repr

/-- The values before the first mark, and the parts. -/
def parts : List Token → List String × List Part
  | [] => ([], [])
  | .value s :: ts => (s :: (parts ts).1, (parts ts).2)
  | .mark m :: ts => ([], ⟨m, (parts ts).1⟩ :: (parts ts).2)

/-! ## Reading values -/

/-- Reads a value of an option. -/
def Flag.read (f : Flag) (s : String) : Except UsageFault Argument :=
  match f.reading with
  | .text => .ok (.text s)
  | .whole =>
    match Decimal.integer? s with
    | some n => .ok (.whole n)
    | none => .error (.notWhole f s)
  | .real =>
    match Decimal.real? s with
    | some x => .ok (.real x)
    | none => .error (.notReal f s)

/-- What has been understood so far. -/
structure Understood where
  /-- The program is asked to explain itself. -/
  help : Bool
  /-- The options with their values, in their order. -/
  given : List (Flag × List Argument)
  leftOver : List String
  deriving Repr

/-- The values that an option takes of those that follow it, and those it leaves. -/
def Flag.take (f : Flag) (values : List String) : Except UsageFault (List String × List String) :=
  match f.arity, values with
  | .none, vs => .ok ([], vs)
  | .one, v :: vs => .ok ([v], vs)
  | .one, [] => .error (.noValue f)
  | .some, [] => .error (.noValues f)
  | .some, vs => .ok (vs, [])

/-- The values of an option, of which one may be given behind an equals sign or a short name. -/
def Flag.values (f : Flag) (given : Option String) (following : List String) :
    Except UsageFault (List String × List String) :=
  match given with
  | none => f.take following
  | some v => if f.arity = .none then .error (.unwanted f v) else .ok ([v], following)

/-- Understands the parts, up to a call for help. -/
def understand (u : Understood) : List Part → Except UsageFault Understood
  | [] => .ok u
  | ⟨.divider, vs⟩ :: rest => understand { u with leftOver := u.leftOver ++ "--" :: vs } rest
  | ⟨.unknown s, vs⟩ :: rest => understand { u with leftOver := u.leftOver ++ s :: vs } rest
  | ⟨.flag f given, vs⟩ :: rest => do
    if f == helpFlag && given.isNone then return { u with help := true }
    let (mine, others) ← f.values given vs
    let arguments ← mine.mapM f.read
    understand
      { u with given := u.given ++ [(f, arguments)], leftOver := u.leftOver ++ others } rest

namespace Grammar

/-- The options that must be given and are not. -/
def missing (g : Grammar) (u : Understood) : List Flag :=
  g.required.filter fun f => !u.given.any (·.1 == f)

/-- Nothing is missing, and nothing is left over. -/
def complete (g : Grammar) (u : Understood) : Except UsageFault Understood :=
  if !(g.missing u).isEmpty then .error (.missing (g.missing u))
  else if !u.leftOver.isEmpty then .error (.leftOver u.leftOver)
  else .ok u

/-- The options with their values, or a call for help. -/
def read (g : Grammar) (arguments : List String) : Except UsageFault Understood := do
  let (early, rest) := parts (← g.tokens arguments)
  let u ← understand ⟨false, [], early⟩ rest
  if u.help then .ok u else g.complete u

end Grammar

/-- The values of an option, where it is given last. -/
def Understood.find? (u : Understood) (f : Flag) : Option (List Argument) :=
  (u.given.reverse.find? (·.1 == f)).map Prod.snd

end Matchmaker.Command
