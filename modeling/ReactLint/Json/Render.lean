import ReactLint.Fault
import ReactLint.Json.Basic

/-!
# Writing JSON

The written form uses printable ASCII characters only: any other character is written by its UTF-16
units. Members and items stand on lines of their own, indented by two blanks a level; an empty list
or object takes no line. A whole number with too many digits cannot be written.
-/

namespace ReactLint.Json

def escapeUnit (n : Nat) : List Char := ['\\', 'u'] ++ Text.hexDigits 4 n

def units (n : Nat) : List Nat :=
  if n < 0x10000 then [n]
  else [0xD800 + (n - 0x10000) / 0x400, 0xDC00 + (n - 0x10000) % 0x400]

def escapeChar (c : Char) : List Char :=
  if c = '"' then ['\\', '"']
  else if c = '\\' then ['\\', '\\']
  else if c = '\n' then ['\\', 'n']
  else if c = '\r' then ['\\', 'r']
  else if c = '\t' then ['\\', 't']
  else if c = '\x08' then ['\\', 'b']
  else if c = '\x0c' then ['\\', 'f']
  else if 32 ≤ c.toNat ∧ c.toNat < 127 then [c]
  else (units c.toNat).flatMap escapeUnit

def textChars (s : String) : List Char := '"' :: s.toList.flatMap escapeChar ++ ['"']

/-- A unit without a partner is written by its digits. -/
def brokenChars (points : List Nat) : List Char :=
  '"' :: points.flatMap (fun n => if n < 0xD800 ∨ 0xE000 ≤ n then escapeChar (.ofNat n)
    else escapeUnit n) ++ ['"']

def natChars (n : Nat) : List Char := Nat.toDigits 10 n

def intChars : Int → List Char
  | .ofNat n => natChars n
  | .negSucc n => '-' :: natChars (n + 1)

def floatChars : Binary64 → List Char
  | .nan => "NaN".toList
  | .infinite negative => if negative then "-Infinity".toList else "Infinity".toList
  | x => x.render.toList

def newline (level : Nat) : List Char := '\n' :: List.replicate (2 * level) ' '

mutual

def chars (level : Nat) : Json → List Char
  | .null => "null".toList
  | .bool b => if b then "true".toList else "false".toList
  | .int n => intChars n
  | .float x => floatChars x
  | .text s => textChars s
  | .broken points => brokenChars points
  | .list [] => ['[', ']']
  | .list (j :: js) =>
    '[' :: newline (level + 1) ++ chars (level + 1) j ++ itemChars (level + 1) js ++
      newline level ++ [']']
  | .object [] => ['\x7b', '\x7d']
  | .object ((name, j) :: rest) =>
    '\x7b' :: newline (level + 1) ++ textChars name ++ [':', ' '] ++ chars (level + 1) j ++
      memberChars (level + 1) rest ++ newline level ++ ['\x7d']

def itemChars (level : Nat) : List Json → List Char
  | [] => []
  | j :: js => ',' :: newline level ++ chars level j ++ itemChars level js

def memberChars (level : Nat) : List (String × Json) → List Char
  | [] => []
  | (name, j) :: rest =>
    ',' :: newline level ++ textChars name ++ [':', ' '] ++ chars level j ++
      memberChars level rest

end

def render (j : Json) : String := String.ofList (chars 0 j)

mutual

/-- Whether all parts of a value that have no parts themselves pass a test. -/
def leavesAll (test : Json → Bool) : Json → Bool
  | .list items => itemsAll test items
  | .object members => membersAll test members
  | j => test j

def itemsAll (test : Json → Bool) : List Json → Bool
  | [] => true
  | j :: js => leavesAll test j && itemsAll test js

def membersAll (test : Json → Bool) : List (String × Json) → Bool
  | [] => true
  | (_, j) :: rest => leavesAll test j && membersAll test rest

end

def isShort : Json → Bool
  | .int n => Text.isShort n
  | _ => true

/-- As `render`, but refuses a whole number that has too many digits. -/
def write (j : Json) : Except Fault String :=
  if j.leavesAll isShort then .ok j.render else .error .tooManyDigits

end ReactLint.Json
