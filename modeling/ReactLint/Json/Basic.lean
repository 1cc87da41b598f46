import ReactLint.Value.Basic

/-!
# JSON values

Objects keep their members in the order in which they were written; where a name is given twice,
the later member counts. A text may hold one half of a pair of UTF-16 units without the other; it is
kept apart from the texts that consist of characters.
-/

namespace ReactLint

inductive Json where
  | null
  | bool (b : Bool)
  | int (n : Int)
  | float (x : Binary64)
  | text (s : String)
  /-- The code points of a text, of which some are no characters. -/
  | broken (points : List Nat)
  | list (items : List Json)
  | object (members : List (String × Json))
  deriving Repr, Inhabited

namespace Json

def field? (name : String) : Json → Option Json
  | .object members => members.reverse.lookup name
  | _ => none

def text? : Json → Option String
  | .text s => some s
  | _ => none

def int? : Json → Option Int
  | .int n => some n
  | _ => none

def list? : Json → Option (List Json)
  | .list items => some items
  | _ => none

mutual

def toValue : Json → Value
  | .null => .null
  | .bool b => .bool b
  | .int n => .int n
  | .float x => .float x
  | .text s => .text s
  | .broken _ => .other { kind := "str", shown := .error .unpairedUnit, isKey := true }
  | .list items => .list (toValues items)
  | .object members => .mapping (toEntries members [])

def toValues : List Json → List Value
  | [] => []
  | j :: js => toValue j :: toValues js

def toEntries : List (String × Json) → List (Value × Value) → List (Value × Value)
  | [], entries => entries
  | (name, j) :: rest, entries => toEntries rest (Value.putKey (.text name) (toValue j) entries)

end

mutual

def depth : Json → Nat
  | .list items => itemsDepth items + 1
  | .object members => membersDepth members + 1
  | _ => 0

def itemsDepth : List Json → Nat
  | [] => 0
  | j :: js => max (depth j) (itemsDepth js)

def membersDepth : List (String × Json) → Nat
  | [] => 0
  | (_, j) :: rest => max (depth j) (membersDepth rest)

end

end Json

end ReactLint
