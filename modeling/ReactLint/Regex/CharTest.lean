import ReactLint.Text.Case
import ReactLint.Text.Character

/-!
# Tests of one character

A test accepts or refuses one character of the text. A set lists characters, ranges and kinds of
characters and may be negated. Letters may be compared without their case, either the ASCII letters
only or all of them; an item then accepts a character when it holds one of the character's forms.
-/

namespace ReactLint

inductive Folding where
  | exact
  | ascii
  | full
  deriving DecidableEq, Repr, Inhabited

inductive CharKind where
  | digit
  | blank
  | word
  deriving DecidableEq, Repr

def CharKind.holds (ascii : Bool) (c : Char) : CharKind → Bool
  | .digit => if ascii then c.isDigit else Text.isDigit c
  | .blank => if ascii then Text.isAsciiBlank c else Text.isBlank c
  | .word => if ascii then Text.isAsciiWord c else Text.isWord c

inductive SetItem where
  | char (c : Char)
  | range (lo hi : Nat)
  | kind (k : CharKind) (negated ascii : Bool)
  deriving DecidableEq, Repr

def Folding.lower : Folding → Nat → Nat
  | .exact, n => n
  | .ascii, n => Text.lowerAsciiPoint n
  | .full, n => Text.lowerPoint n

def Folding.same (f : Folding) (m n : Nat) : Bool :=
  let m' := f.lower m
  let n' := f.lower n
  m' == n' || (f == .full && (Text.alikePoints m').contains n')

def Folding.forms (f : Folding) (n : Nat) : List Nat :=
  match f with
  | .exact => [n]
  | .ascii =>
    let m := Text.lowerAsciiPoint n
    if 97 ≤ m && m ≤ 122 then [m, m - 32] else [m]
  | .full =>
    let m := Text.lowerPoint n
    (m :: Text.alikePoints m).flatMap fun e => e :: Text.capitalsOf e

def SetItem.accepts (f : Folding) (c : Char) : SetItem → Bool
  | .char d => f.same c.toNat d.toNat
  | .range lo hi => (f.forms c.toNat).any fun n => lo ≤ n && n ≤ hi
  | .kind k negated ascii => k.holds ascii c != negated

inductive CharTest where
  | any
  | notNewline
  | char (c : Char)
  | set (negated : Bool) (items : List SetItem) (folding : Folding)
  deriving DecidableEq, Repr

def CharTest.accepts : CharTest → Char → Bool
  | .any, _ => true
  | .notNewline, c => c != '\n'
  | .char d, c => c == d
  | .set negated items f, c => items.any (·.accepts f c) != negated

def Folding.isCased (f : Folding) (n : Nat) : Bool := (f.forms n) != [n]

/-- The test for one given code point; a code point that no text can hold is refused throughout. -/
def CharTest.point (f : Folding) (n : Nat) : CharTest :=
  if n.isValidChar then
    let c := Char.ofNat n
    if f.isCased n then .set false [.char c] f else .char c
  else .set false [.range n n] .exact

theorem CharTest.accepts_char (c d : Char) : (CharTest.char d).accepts c = (c == d) := rfl

theorem CharTest.accepts_notNewline (c : Char) : CharTest.notNewline.accepts c = (c != '\n') := rfl

theorem Folding.same_exact (m n : Nat) : Folding.exact.same m n = (m == n) := by
  simp [Folding.same, Folding.lower]

theorem Folding.same_self (f : Folding) (n : Nat) : f.same n n = true := by
  simp [Folding.same]

end ReactLint
