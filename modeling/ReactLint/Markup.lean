import ReactLint.Fault
import ReactLint.Text.Character

/-!
# Console markup

What is printed on a console is a line of markup or a table. In markup a tag in brackets sets a
style up to the closing tag of the same name. A text that is to be shown as it stands has its tags
escaped: a backslash goes in front of each, and the backslashes already there are doubled.

A styled text is shown as it stands; it loses the control characters that would move the cursor.

A tag behind an odd number of backslashes opens and closes nothing. After escaping every tag stands
behind an odd number of them, so that an escaped text opens and closes none.
-/

namespace ReactLint

/-- A text with a style of its own, parts of which have further styles. -/
structure StyledText where
  text : String
  style : String := ""
  spans : List (Nat × Nat × String) := []
  deriving DecidableEq, Repr

namespace StyledText

def isDropped (c : Char) : Bool := [7, 8, 11, 12, 13].contains c.toNat

def clean (s : String) : String := String.ofList (s.toList.filter fun c => !isDropped c)

def of (s : String) (style : String := "") : StyledText := { text := clean s, style }

def append (t : StyledText) (s style : String) : StyledText :=
  let s := clean s
  { t with
    text := t.text ++ s
    spans := t.spans ++ [(t.text.length, t.text.length + s.length, style)] }

end StyledText

inductive Justify where
  | left
  | center
  | right
  deriving DecidableEq, Repr

def Justify.name : Justify → String
  | .left => "left"
  | .center => "center"
  | .right => "right"

structure Column where
  header : String
  style : String := ""
  justify : Justify := .left
  noWrap : Bool := false
  minWidth : Option Nat := none
  deriving DecidableEq, Repr

inductive Cell where
  | markup (s : String)
  | styled (t : StyledText)
  deriving DecidableEq, Repr

structure Table where
  title : Cell
  columns : List Column
  rows : List (List Cell)
  deriving DecidableEq, Repr

inductive Printed where
  | line (markup : String)
  | table (t : Table)
  deriving DecidableEq, Repr

namespace Markup

/-! ## Tags -/

inductive Piece where
  | text (cs : List Char)
  /-- A bracket that opens no tag, and the backslashes in front of it. -/
  | bracket (slashes : Nat)
  /-- What stands between the brackets of a tag, and the backslashes in front of it. -/
  | tag (slashes : Nat) (inside : List Char)

def isBracket (c : Char) : Bool := c == '[' || c == ']'

def isTagStart (c : Char) : Bool := c.isLower || c == '#' || c == '/' || c == '@'

/-- The inside of the tag that a bracket in front of `cs` opens. -/
def tag? (cs : List Char) : Option (List Char) :=
  if cs.head?.any isTagStart && cs.find? isBracket == some ']' then
    some (cs.takeWhile fun c => !isBracket c)
  else none

def backslashes (n : Nat) : List Char := List.replicate n '\\'

/-- The pieces of a text behind its first `skip` characters; `slashes` counts the backslashes that
have been read but belong to no piece yet. -/
def scan : Nat → Nat → List Char → List Piece
  | _, slashes, [] => [.text (backslashes slashes)]
  | skip + 1, slashes, _ :: cs => scan skip slashes cs
  | 0, slashes, c :: cs =>
    if c = '\\' then scan 0 (slashes + 1) cs
    else if c = '[' then
      match tag? cs with
      | some inside => .tag slashes inside :: scan (inside.length + 1) 0 cs
      | none => .bracket slashes :: scan 0 0 cs
    else .text (backslashes slashes ++ [c]) :: scan 0 0 cs

def Piece.escaped : Piece → List Char
  | .text cs => cs
  | .bracket n => backslashes n ++ ['[']
  | .tag n inside => backslashes (2 * n + 1) ++ '[' :: (inside ++ [']'])

def escapeTags (cs : List Char) : List Char := (scan 0 0 cs).flatMap Piece.escaped

/-- A single backslash at the end would escape what is printed next, so it is doubled. -/
def closeEnd (cs : List Char) : List Char :=
  match cs.reverse with
  | ['\\'] => cs ++ ['\\']
  | '\\' :: c :: _ => if c = '\\' then cs else cs ++ ['\\']
  | _ => cs

def escape (s : String) : String := String.ofList (closeEnd (escapeTags s.toList))

/-! ## What is shown -/

def tagName (inside : List Char) : List Char :=
  Text.trim ((inside.takeWhile (· != '=')).map Char.toLower)

/-- The names of the open tags behind a further tag, the innermost first. A closing tag without a
name closes the innermost one. -/
def openTags? (names : List (List Char)) (inside : List Char) : Option (List (List Char)) :=
  match tagName inside with
  | '/' :: name =>
    match Text.trim name with
    | [] => if names.isEmpty then none else some names.tail
    | name => if name ∈ names then some (names.erase name) else none
  | name => some (name :: names)

/-- The text that pieces show: tags are left out, as is the last backslash in front of a bracket. -/
def showPieces : List (List Char) → List Piece → Except Fault (List Char)
  | _, [] => .ok []
  | names, .text cs :: ps => do pure (cs ++ (← showPieces names ps))
  | names, .bracket n :: ps => do pure (backslashes (n - 1) ++ '[' :: (← showPieces names ps))
  | names, .tag n inside :: ps =>
    if n % 2 = 1 then do
      pure (backslashes (n / 2) ++ '[' :: inside ++ ']' :: (← showPieces names ps))
    else match openTags? names inside with
      | some names => do pure (backslashes (n / 2) ++ (← showPieces names ps))
      | none => .error .unmatchedTag

def plain (s : String) : Except Fault String :=
  (showPieces [] (scan 0 0 s.toList)).map String.ofList

/-! ## Lines that are always shown -/

def isSimple (s : String) : Bool := s.toList.all fun c => c.isAlphanum || c == ' ' || c == '-'

def isPlain (s : String) : Bool := s.toList.all fun c => !isBracket c && c != '\\'

inductive Style where
  | dim
  | boldRed
  | boldGreen
  deriving DecidableEq, Repr

def Style.name : Style → String
  | .dim => "dim"
  | .boldRed => "bold red"
  | .boldGreen => "bold green"

/-- A line of which the first part has a style. What is not fixed in it is shown as it stands. -/
structure Notice where
  style : Style
  label : String
  /-- What follows the label in its style. -/
  name : String := ""
  stop : String := ""
  gap : String := ""
  /-- What follows without a style. -/
  text : String := ""
  isFixed : (isPlain label && isPlain stop && isPlain gap) = true := by decide

def Notice.markup (n : Notice) : String :=
  "[" ++ n.style.name ++ "]" ++ n.label ++ escape n.name ++ n.stop ++ "[/" ++ n.style.name ++ "]" ++
    n.gap ++ escape n.text

end Markup

def Printed.notice (n : Markup.Notice) : Printed := .line n.markup

end ReactLint
