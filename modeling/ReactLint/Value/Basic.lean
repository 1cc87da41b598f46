import ReactLint.Calendar
import ReactLint.Fault
import ReactLint.Number.Shortest
import ReactLint.Text.Notation

/-!
# Values of data files

The values that configuration files, rule files and requests hold, and the two ways in which
messages show them: `repr` quotes texts, `str` shows a text as it stands and a date in the ISO form.
Inside a list or a mapping every value is shown by `repr`. A whole number that has too many digits
to be read cannot be shown either, nor can lists that are nested too deeply.

Byte strings, sets, tuples and collections that hold themselves have no constructor of their own;
they are known by what can be done with them.
-/

namespace ReactLint

/-- What can be done with a value, where `α` are values. -/
structure Traits (α : Type) where
  kind : String
  shown : Except Fault String
  isTruthy : Bool := true
  isKey : Bool := false
  elements? : Option (List α) := none
  deriving Repr

inductive Value where
  | null
  | bool (b : Bool)
  | int (n : Int)
  | float (x : Binary64)
  | text (s : String)
  | list (items : List Value)
  | mapping (entries : List (Value × Value))
  | date (d : Date)
  | time (t : TimeOfDay)
  | moment (m : Moment)
  | other (t : Traits Value)
  deriving Repr, Inhabited

namespace Value

def kindName : Value → String
  | .null => "NoneType"
  | .bool _ => "bool"
  | .int _ => "int"
  | .float _ => "float"
  | .text _ => "str"
  | .list _ => "list"
  | .mapping _ => "dict"
  | .date _ => "datetime.date"
  | .time _ => "datetime.time"
  | .moment _ => "datetime.datetime"
  | .other t => t.kind

/-- Whether a value counts as present: nothing, zero and what is empty do not. -/
def isTruthy : Value → Bool
  | .null => false
  | .bool b => b
  | .int n => n != 0
  | .float x => !x.isZero
  | .text s => s != ""
  | .list items => !items.isEmpty
  | .mapping entries => !entries.isEmpty
  | .other t => t.isTruthy
  | _ => true

/-- Only a value without lists and mappings can be a key or a member of a set. -/
def isKey : Value → Bool
  | .list _ => false
  | .mapping _ => false
  | .other t => t.isKey
  | _ => true

def text? : Value → Option String
  | .text s => some s
  | _ => none

def isText (v : Value) (s : String) : Bool := v.text? == some s

def int? : Value → Option Int
  | .bool b => some (if b then 1 else 0)
  | .int n => some n
  | _ => none

/-- Equality of keys. Numbers are equal by value, whatever their kind. -/
def sameKey : Value → Value → Bool
  | .null, .null => true
  | .text s, .text t => s == t
  | .date d, .date e => d == e
  | .time s, .time t => s == t
  | .moment m, .moment n => m == n
  | .float x, .float y =>
    match x.toInt?, y.toInt? with
    | some m, some n => m == n
    | none, none => x == y && x != .nan
    | _, _ => false
  | .float x, w => x.toInt?.isSome && x.toInt? == w.int?
  | v, .float y => y.toInt?.isSome && y.toInt? == v.int?
  | .other t, .other u =>
    t.isKey && u.isKey && t.kind == u.kind && t.shown.toOption.isSome &&
      t.shown.toOption == u.shown.toOption
  | v, w => v.int?.isSome && v.int? == w.int?

def field? (key : String) : List (Value × Value) → Option Value
  | [] => none
  | (k, v) :: entries => if k.isText key then some v else field? key entries

/-- Stores a value under a key: a known key keeps its place and takes the new value. -/
def putKey (key v : Value) : List (Value × Value) → List (Value × Value)
  | [] => [(key, v)]
  | (k, w) :: entries =>
    if k.sameKey key then (k, v) :: entries else (k, w) :: putKey key v entries

def dateRepr (d : Date) : String := s!"datetime.date({d.year}, {d.month}, {d.day})"

def lateFields (t : TimeOfDay) : String :=
  if t.microsecond = 0 then (if t.second = 0 then "" else s!", {t.second}")
  else s!", {t.second}, {t.microsecond}"

def timeRepr (t : TimeOfDay) : String :=
  s!"datetime.time({t.hour}, {t.minute}{lateFields t})"

def zoneRepr (seconds : Int) : String :=
  if seconds = 0 then "datetime.timezone.utc"
  else
    let days := seconds.fdiv 86400
    let rest := seconds.fmod 86400
    let day := if days = 0 then "" else if rest = 0 then s!"days={days}" else s!"days={days}, "
    let second := if rest = 0 then "" else s!"seconds={rest}"
    s!"datetime.timezone(datetime.timedelta({day}{second}))"

def momentRepr (m : Moment) : String :=
  let zone := (m.zone.map fun z => ", tzinfo=" ++ zoneRepr z).getD ""
  s!"datetime.datetime({m.date.year}, {m.date.month}, {m.date.day}, {m.time.hour}, " ++
    s!"{m.time.minute}{lateFields m.time}{zone})"

mutual

def repr : Value → String
  | .null => "None"
  | .bool b => if b then "True" else "False"
  | .int n => toString n
  | .float x => x.render
  | .text s => Text.quoted s
  | .list items => "[" ++ ", ".intercalate (reprItems items) ++ "]"
  | .mapping entries => "\x7b" ++ ", ".intercalate (reprEntries entries) ++ "\x7d"
  | .date d => dateRepr d
  | .time t => timeRepr t
  | .moment m => momentRepr m
  | .other t => t.shown.toOption.getD ""

def reprItems : List Value → List String
  | [] => []
  | v :: vs => repr v :: reprItems vs

def reprEntries : List (Value × Value) → List String
  | [] => []
  | (k, v) :: rest => (repr k ++ ": " ++ repr v) :: reprEntries rest

end

def str : Value → String
  | .text s => s
  | .date d => d.iso
  | .time t => t.iso
  | .moment m => m.written " "
  | v => v.repr

mutual

/-- The fault that keeps a value out of a message. Lists and mappings may be nested `room` deep. -/
def showFault? (room : Nat) : Value → Option Fault
  | .int n => if Text.isShort n then none else some .tooManyDigits
  | .list items =>
    match room with
    | 0 => some .tooDeep
    | room + 1 => itemsFault? room items
  | .mapping entries =>
    match room with
    | 0 => some .tooDeep
    | room + 1 => entriesFault? room entries
  | .other t =>
    match t.shown with
    | .ok _ => none
    | .error f => some f
  | _ => none

def itemsFault? (room : Nat) : List Value → Option Fault
  | [] => none
  | v :: vs => (showFault? room v).or (itemsFault? room vs)

def entriesFault? (room : Nat) : List (Value × Value) → Option Fault
  | [] => none
  | (k, v) :: rest => ((showFault? room k).or (showFault? room v)).or (entriesFault? room rest)

end

/-- What stepping through a value yields: the items of a list, the keys of a mapping, the
characters of a text. Other values cannot be stepped through. -/
def elements? : Value → Option (List Value)
  | .list items => some items
  | .mapping entries => some (entries.map Prod.fst)
  | .text s => some (s.toList.map fun c => .text (String.singleton c))
  | .other t => t.elements?
  | _ => none

def isInfix (needle : List Char) : List Char → Bool
  | [] => needle.isEmpty
  | c :: cs => needle.isPrefixOf (c :: cs) || isInfix needle cs

def containsText (s : String) : Value → Bool
  | .list items => items.any (·.isText s)
  | .mapping entries => entries.any (·.1.isText s)
  | .text t => isInfix s.toList t.toList
  | .other t => (t.elements?.getD []).any (·.isText s)
  | _ => false

theorem str_text (s : String) : (Value.text s).str = s := by simp [str]

theorem isText_text (s t : String) : (Value.text s).isText t = (s == t) := by
  simp [isText, text?]

end Value

end ReactLint
