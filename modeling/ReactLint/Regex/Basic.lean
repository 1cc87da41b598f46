import ReactLint.Regex.CharTest

/-!
# Regular expressions

The expressions that a search runs. A repetition of a one-character test is a `run`, any other
repetition is a `loop`. Groups are numbered from one. An expression that looks behind carries the
fixed width of its body.
-/

namespace ReactLint

/-- How many times a repetition may be entered; no `max` is no upper limit. -/
structure Bounds where
  min : Nat
  max : Option Nat
  deriving DecidableEq, Repr

inductive Greed where
  | greedy
  | lazy
  | possessive
  deriving DecidableEq, Repr

inductive Anchor where
  | textStart
  | lineStart
  | textEnd
  | lastLineEnd
  | lineEnd
  | boundary (negated ascii : Bool)
  deriving DecidableEq, Repr

inductive Regex where
  | empty
  | one (t : CharTest)
  | seq (a b : Regex)
  | alt (a b : Regex)
  | run (t : CharTest) (bounds : Bounds) (greed : Greed)
  | loop (body : Regex) (bounds : Bounds) (greed : Greed)
  | group (n : Nat) (body : Regex)
  | backref (n : Nat) (folding : Folding)
  | ahead (negated : Bool) (body : Regex)
  | behind (negated : Bool) (width : Nat) (body : Regex)
  | atomic (body : Regex)
  | ifGroup (n : Nat) (yes no : Regex)
  | anchor (a : Anchor)
  deriving DecidableEq, Repr, Inhabited

namespace Regex

def ofList : List Regex → Regex
  | [] => .empty
  | [a] => a
  | a :: as => .seq a (ofList as)

def setItems? (f : Folding) : Regex → Option (List SetItem)
  | .one (.char c) => some [.char c]
  | .one (.set false items g) => if g = f || g = .exact then some items else none
  | _ => none

/-- One choice after another. Choices between single characters are one set. -/
def ofChoices (f : Folding) (choices : List Regex) : Regex :=
  match choices with
  | [] => .empty
  | [a] => a
  | a :: as =>
    match (a :: as).mapM (setItems? f) with
    | some items => .one (.set false items.flatten.eraseDups f)
    | none => go a as
where
  go : Regex → List Regex → Regex
    | a, [] => a
    | a, b :: bs => .alt a (go b bs)

def times (body : Regex) (bounds : Bounds) (greed : Greed) : Regex :=
  match body with
  | .one t => .run t bounds greed
  | _ => .loop body bounds greed

def widthLimit : Nat := Nat.pow 2 64

/-- The least and the greatest number of characters that an expression can take, where `groups`
gives the widths of the groups that are already closed. -/
def width (groups : List (Nat × Nat × Nat)) : Regex → Nat × Nat
  | .empty => (0, 0)
  | .one _ => (1, 1)
  | .seq a b =>
    let (la, ha) := a.width groups
    let (lb, hb) := b.width groups
    (min (la + lb) widthLimit, min (ha + hb) widthLimit)
  | .alt a b =>
    let (la, ha) := a.width groups
    let (lb, hb) := b.width groups
    (min la lb, max ha hb)
  | .run _ bounds _ => (min bounds.min widthLimit, bounds.max.getD widthLimit)
  | .loop body bounds _ =>
    let (lo, hi) := body.width groups
    (min (lo * bounds.min) widthLimit,
      match bounds.max with
      | some m => min (hi * m) widthLimit
      | none => if hi = 0 then 0 else widthLimit)
  | .group _ body => body.width groups
  | .backref n _ => (groups.lookup n).getD (0, 0)
  | .ahead .. => (0, 0)
  | .behind .. => (0, 0)
  | .atomic body => body.width groups
  | .ifGroup _ yes no =>
    let (la, ha) := yes.width groups
    let (lb, hb) := no.width groups
    (min la lb, max ha hb)
  | .anchor _ => (0, 0)

/-! ## Building expressions -/

def word (s : String) : List Regex := s.toList.map fun c => .one (.char c)

def anyCase (s : String) : List Regex := s.toList.map fun c => .one (.point .full c.toNat)

def blankTest : CharTest := .set false [.kind .blank false false] .exact

def blanks : Regex := .run blankTest ⟨0, none⟩ .greedy

def someBlanks : Regex := .run blankTest ⟨1, none⟩ .greedy

def noneOf (s : String) : CharTest := .set true (s.toList.map .char) .exact

def free (s : String) : Regex := .run (noneOf s) ⟨0, none⟩ .greedy

def lazyFree (s : String) : Regex := .run (noneOf s) ⟨0, none⟩ .lazy

def oneOf : List (List Regex) → Regex
  | [] => .empty
  | [a] => .ofList a
  | a :: as => .alt (.ofList a) (oneOf as)

def upperItem : SetItem := .range 65 90

def lowerItem : SetItem := .range 97 122

def digitItem : SetItem := .range 48 57

def among (items : List SetItem) : CharTest := .set false items .exact

def many (t : CharTest) : Regex := .run t ⟨0, none⟩ .greedy

end Regex

end ReactLint
