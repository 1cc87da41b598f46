import ReactLint.Fault

/-!
# A place in a YAML text

What is left of the text, and the index, the line and the column of the place. The layout of YAML
is read off columns; a byte order mark takes up none.
-/

namespace ReactLint.Yaml

def isBreak (c : Char) : Bool :=
  c == '\n' || c == '\u0085' || c == '\u2028' || c == '\u2029'

/-- The newline that a line end stands for; the line and the paragraph separator stay what they
are. -/
def breakText (c : Char) : Char := if c = '\u0085' then '\n' else c

def isSpaceTab (c : Char) : Bool := c == ' ' || c == '\t'

def isBlank (c : Char) : Bool := isSpaceTab c || isBreak c

def orEnd (p : Char → Bool) : Option Char → Bool
  | none => true
  | some c => p c

def andNotEnd (p : Char → Bool) : Option Char → Bool
  | none => false
  | some c => p c

def isNameChar (c : Char) : Bool := c.isAlphanum || c == '-' || c == '_'

structure Cursor where
  rest : List Char
  index : Nat := 0
  line : Nat := 0
  column : Nat := 0
  deriving Inhabited

namespace Cursor

def peek (c : Cursor) : Option Char := c.rest.head?

def peekAt (c : Cursor) (k : Nat) : Option Char := c.rest[k]?

def step (c : Cursor) : Cursor :=
  match c.rest with
  | [] => c
  | ch :: rest =>
    if isBreak ch then { rest, index := c.index + 1, line := c.line + 1, column := 0 }
    else { c with rest, index := c.index + 1,
                  column := if ch = '\uFEFF' then c.column else c.column + 1 }

def forward : Nat → Cursor → Cursor
  | 0, c => c
  | n + 1, c => forward n c.step

/-- The place at which `rest`, an end of what is left, begins. -/
def jumpTo (c : Cursor) (rest : List Char) : Cursor := c.forward (c.rest.length - rest.length)

def span (p : Char → Bool) (c : Cursor) : List Char × Cursor :=
  let cs := c.rest.takeWhile p
  (cs, c.forward cs.length)

def skip (p : Char → Bool) (c : Cursor) : Cursor := (c.span p).2

def lineBreak? (c : Cursor) : Option (Char × Cursor) :=
  match c.rest with
  | ch :: _ => if isBreak ch then some (breakText ch, c.step) else none
  | [] => none

def skipBreak (c : Cursor) : Cursor := (c.lineBreak?.map Prod.snd).getD c

def skipComment (c : Cursor) : Cursor :=
  if c.peek = some '#' then c.skip fun ch => !isBreak ch else c

def endLine (c : Cursor) : Read Cursor :=
  let c := (c.skip (· == ' ')).skipComment
  if orEnd isBreak c.peek then .ok c.skipBreak else .error .malformed

end Cursor

def isSeparator (cs : List Char) : Bool :=
  (cs.take 3 == ['-', '-', '-'] || cs.take 3 == ['.', '.', '.']) && orEnd isBlank cs[3]?

end ReactLint.Yaml
