import ReactLint.Occurrence

/-!
# Allow-lists

Lists of values under names, which may be keys of any kind. They only grow. An occurrence is
suppressed when its rule names a list and the text of its first group is a member, letter for
letter.
-/

namespace ReactLint

/-- The lists, in the order in which their names came up. -/
abbrev AllowLists := List (Value × List Value)

namespace AllowLists

/-- Values that cost nothing as an initial state. -/
def safeStateInitializers : List Value :=
  ["Number", "String", "Boolean", "Array", "Object", "Symbol", "BigInt", "true", "false", "null",
    "undefined", "NaN", "Infinity"].map .text

def builtin : AllowLists := [(.text "safe_state_initializers", safeStateInitializers)]

def find? (name : Value) : AllowLists → Option (List Value)
  | [] => none
  | (n, members) :: rest => if n.sameKey name then some members else find? name rest

def addMembers (members : List Value) : List Value → List Value
  | [] => members
  | v :: vs =>
    addMembers (if members.any (·.sameKey v) then members else members ++ [v]) vs

def extend (name : Value) (values : List Value) : AllowLists → AllowLists
  | [] => [(name, addMembers [] values)]
  | (n, members) :: rest =>
    if n.sameKey name then (n, addMembers members values) :: rest
    else (n, members) :: extend name values rest

def allows (lists : AllowLists) (name : Value) (s : String) : Bool :=
  ((lists.find? name).getD []).any (·.isText s)

def suppresses (lists : AllowLists) (r : Rule) (capture : Option String) : Bool :=
  match r.allowList, capture with
  | some name, some s => lists.allows name s
  | _, _ => false

/-- As `suppresses`, but refuses a name that cannot be looked up. -/
def checkSuppresses (lists : AllowLists) (r : Rule) (capture : Option String) :
    Except Fault Bool :=
  match r.allowList, capture with
  | some name, some _ => if name.isKey then .ok (lists.suppresses r capture) else .error .notKey
  | _, _ => .ok false

def keep (lists : AllowLists) (r : Rule) (os : List Occurrence) : List Occurrence :=
  os.filter fun o => !lists.suppresses r o.capture

/-- As `keep`, but refuses a name that cannot be looked up. -/
def checkKeep (lists : AllowLists) (r : Rule) : List Occurrence → Except Fault (List Occurrence)
  | [] => .ok []
  | o :: os => do
    let dropped ← lists.checkSuppresses r o.capture
    let kept ← checkKeep lists r os
    pure (if dropped then kept else o :: kept)

theorem find?_cons (name n : Value) (members : List Value) (rest : AllowLists) :
    find? name ((n, members) :: rest) =
      if n.sameKey name then some members else find? name rest := rfl

theorem extend_cons (name n : Value) (values members : List Value) (rest : AllowLists) :
    extend name values ((n, members) :: rest) =
      if n.sameKey name then (n, addMembers members values) :: rest
      else (n, members) :: extend name values rest := rfl

theorem suppresses_of_no_list {r : Rule} (h : r.allowList = none) (lists : AllowLists)
    (capture : Option String) : lists.suppresses r capture = false := by
  simp [suppresses, h]

end AllowLists

end ReactLint
