import Modbus.Bound
import Modbus.Console.Pattern
import Modbus.Text.Shortest
import Modbus.Text.Split

/-!
# Log filters

A filter says what is logged: directives separated by commas, each of them a
level, or a target or a span or both and perhaps a level for them.  A span may
have fields, whose values are truth values, numbers or search patterns.  Unless
the environment has a filter, the tool logs its own events at the level of its
settings and others from warnings on.

A directive is read without the white space around it, but its parts are taken
out of the directive as it stands, at the same distances from its beginning in
octets.  White space in front thus moves the parts, and one that begins inside a
character cannot be taken out at all.
-/

namespace Modbus.Console.Log

/-- The targets of the tool's own events. -/
def ownTargets : List String := ["modstack", "modctl", "common"]

/-- The filter for a level. -/
def directive (level : String) : String :=
  "warn" ++ String.join (ownTargets.map fun target => "," ++ target ++ "=" ++ level)

/-- What is wrong with a filter. -/
inductive Fault where
  | directive
  | level
  | field (fault : Pattern.Fault)
  /-- A part begins or ends inside a character. -/
  | split
  deriving DecidableEq, Repr, Inhabited

/-- A fault in words; without words, nothing more can be done. -/
def Fault.message? : Fault → Option String
  | directive => some "invalid filter directive"
  | level => some ("error parsing level filter: expected one of \"off\", \"error\", \"warn\", "
      ++ "\"info\", \"debug\", \"trace\", or a number 0-5")
  | field fault => some ("invalid field filter: " ++ fault.message)
  | split => none

/-! ## Parts -/

/-- The text behind so many octets. -/
def behind : Nat → List Char → Except Fault (List Char)
  | 0, characters => .ok characters
  | _, [] => .error .split
  | count, character :: rest =>
    if count < character.utf8Size then .error .split
    else behind (count - character.utf8Size) rest

/-- The text of so many octets. -/
def upTo : Nat → List Char → Except Fault (List Char)
  | 0, _ => .ok []
  | _, [] => .error .split
  | count, character :: rest =>
    if count < character.utf8Size then .error .split
    else (upTo (count - character.utf8Size) rest).map (character :: ·)

/-- The part of a directive between two distances from its beginning. -/
def part (first last : Nat) (source : List Char) : Except Fault (List Char) := do
  upTo (last - first) (← behind first source)

/-! ## Levels and fields -/

/-- The names of levels. -/
def levels : List String := ["off", "error", "warn", "info", "debug", "trace"]

/-- Whether a text is a level: its name, or its number. -/
def isLevel (characters : List Char) : Bool :=
  levels.contains (String.ofList (characters.map Char.toLower))
    || (Text.Natural.parse? 10 Bound.most64 characters).any (· < levels.length)

/-- Refuses what is no level; it may be left out. -/
def checkLevel (characters : List Char) : Except Fault Unit :=
  if characters.isEmpty || isLevel characters then .ok () else .error .level

/-- The names of what is no finite number. -/
def irregular : List String := ["inf", "infinity", "nan"]

def isNumber (characters : List Char) : Bool :=
  let unsigned := match characters with
    | '+' :: rest | '-' :: rest => rest
    | characters => characters
  (Text.Decimal.parse? characters).isSome
    || irregular.contains (String.ofList (unsigned.map Char.toLower))

/-- Refuses what is no field: a name, and perhaps an equals sign and a value. -/
def checkField (characters : List Char) : Except Fault Unit :=
  match Text.Split.parts '=' characters with
  | _ :: value :: _ =>
    if isNumber value then .ok () else (Pattern.check value).mapError .field
  | _ => if characters.isEmpty then .error .directive else .ok ()

/-! ## Directives -/

/-- Where in a directive a character stands.  The parts that are not over yet know where
they begin. -/
inductive Place where
  | front
  | target (start : Nat)
  | span (start : Nat)
  | field (start : Nat)
  /-- Behind the fields of a span. -/
  | fields
  /-- Behind a span. -/
  | behindSpan
  | level (start : Nat)
  deriving DecidableEq, Repr, Inhabited

def mayBegin (character : Char) : Bool :=
  Text.isAlphanumeric character || ['-', ':', '_'].contains character

def Place.next (source : List Char) (place : Place) (distance : Nat) (character : Char) :
    Except Fault Place :=
  match place, character with
  | front, '[' => .ok (span (distance + 1))
  | front, character => if mayBegin character then .ok (target distance) else .error .directive
  | target start, '=' => (part start distance source).map fun _ => level (distance + 1)
  | target start, '[' => (part start distance source).map fun _ => span (distance + 1)
  | target start, _ => .ok (target start)
  | span start, ']' => (part start distance source).map fun _ => behindSpan
  | span start, '\x7b' => (part start distance source).map fun _ => field (distance + 1)
  | span start, _ => .ok (span start)
  | field start, '\x7d' => do
    checkField (← part start distance source)
    .ok fields
  | field start, _ => .ok (field start)
  | fields, ']' => .ok behindSpan
  | behindSpan, '=' => .ok (level (distance + 1))
  | level start, _ => .ok (level start)
  | _, _ => .error .directive

/-- Refuses a directive that ends at a place. -/
def Place.checkEnd (source : List Char) : Place → Except Fault Unit
  | target start => (behind start source).map fun _ => ()
  | level start => do checkLevel (← behind start source)
  | behindSpan => .ok ()
  | _ => .error .directive

/-- Refuses what is no directive from a place on. -/
def Place.check (source : List Char) (place : Place) (distance : Nat) :
    List Char → Except Fault Unit
  | [] => place.checkEnd source
  | character :: rest => do
    let next ← place.next source distance character
    next.check source (distance + character.utf8Size) rest

/-- Refuses what is no directive. -/
def checkDirective (source : List Char) : Except Fault Unit :=
  Place.front.check source 0 (Text.Split.trim Text.isBlank source)

/-- Refuses what is no filter.  Nothing between two commas is no directive. -/
def check (filter : String) : Except Fault Unit :=
  ((Text.Split.parts ',' filter.toList).filter fun part => !part.isEmpty).forM checkDirective

end Modbus.Console.Log
