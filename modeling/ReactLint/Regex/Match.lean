import ReactLint.Regex.Basic

/-!
# Matching

An expression is run at an offset of the text with a continuation that says what has to follow. It
offers its ways of matching to the continuation one after another, the preferred one first, and the
first that the continuation accepts is the answer. The text is an array of characters, and every
offset counts characters.
-/

namespace ReactLint

/-- The offset reached so far and the spans of the groups that were closed, the last one first. -/
structure Cursor where
  pos : Nat
  groups : List (Nat × Nat × Nat)
  deriving DecidableEq, Repr

namespace Cursor

def start (i : Nat) : Cursor := ⟨i, []⟩

def span? (s : Cursor) (n : Nat) : Option (Nat × Nat) := s.groups.lookup n

def moveTo (s : Cursor) (i : Nat) : Cursor := { s with pos := i }

def close (s : Cursor) (n start : Nat) : Cursor :=
  { s with groups := (n, start, s.pos) :: s.groups }

end Cursor

namespace Regex

variable (t : Array Char)

abbrev Next := Cursor → Option Cursor

/-- Where the run of characters from `i` on that a test accepts ends, after at most `limit`. -/
def runEnd (p : CharTest) (i : Nat) : Nat → Nat
  | 0 => i
  | limit + 1 =>
    match t[i]? with
    | some c => if p.accepts c then runEnd p (i + 1) limit else i
    | none => i

/-- Tries the offsets `lo + n`, …, `lo`. -/
def descend (s : Cursor) (k : Next) (lo : Nat) : Nat → Option Cursor
  | 0 => k (s.moveTo lo)
  | n + 1 =>
    match k (s.moveTo (lo + n + 1)) with
    | some r => some r
    | none => descend s k lo n

/-- Tries the offsets from `i` on, as long as the characters between are accepted, and at most `n`
of them. -/
def creep (p : CharTest) (s : Cursor) (k : Next) (i : Nat) : Nat → Option Cursor
  | 0 => k (s.moveTo i)
  | n + 1 =>
    match k (s.moveTo i) with
    | some r => some r
    | none =>
      match t[i]? with
      | some c => if p.accepts c then creep p s k (i + 1) n else none
      | none => none

def execRun (p : CharTest) (b : Bounds) (g : Greed) (s : Cursor) (k : Next) : Option Cursor :=
  let lo := s.pos + b.min
  let room := (b.max.getD t.size) - b.min
  if runEnd t p s.pos b.min < lo then none
  else match g with
    | .greedy => descend s k lo (runEnd t p lo room - lo)
    | .lazy => creep t p s k lo room
    | .possessive => k (s.moveTo (runEnd t p lo room))

def require (body : Cursor → Next → Option Cursor) : Nat → Cursor → Next → Option Cursor
  | 0, s, k => k s
  | n + 1, s, k => body s fun s' => require body n s' k

/-- Further rounds of a loop, at most `budget` of them. A round that starts where the round before
it started is not entered, so `fuel` rounds are never used up when `fuel` exceeds the characters
left by two. -/
def greedyRounds (body : Cursor → Next → Option Cursor) :
    Nat → Option Nat → Option Nat → Cursor → Next → Option Cursor
  | 0, _, _, s, k => k s
  | fuel + 1, budget, last, s, k =>
    if budget = some 0 ∨ last = some s.pos then k s
    else match body s fun s' => greedyRounds body fuel (budget.map (· - 1)) (some s.pos) s' k with
      | some r => some r
      | none => k s

def lazyRounds (body : Cursor → Next → Option Cursor) :
    Nat → Option Nat → Option Nat → Cursor → Next → Option Cursor
  | 0, _, _, s, k => k s
  | fuel + 1, budget, last, s, k =>
    match k s with
    | some r => some r
    | none =>
      if budget = some 0 ∨ last = some s.pos then none
      else body s fun s' => lazyRounds body fuel (budget.map (· - 1)) (some s.pos) s' k

/-- `n` rounds, each of which keeps its first way of matching. -/
def firstRounds (first : Cursor → Option Cursor) : Nat → Cursor → Option Cursor
  | 0, s => some s
  | n + 1, s => (first s).bind (firstRounds first n)

def allRounds (first : Cursor → Option Cursor) : Nat → Option Nat → Option Nat → Cursor → Cursor
  | 0, _, _, s => s
  | fuel + 1, budget, last, s =>
    if budget = some 0 ∨ last = some s.pos then s
    else match first s with
      | some s' => allRounds first fuel (budget.map (· - 1)) (some s.pos) s'
      | none => s

def execLoop (body : Cursor → Next → Option Cursor) (b : Bounds) (g : Greed) (s : Cursor)
    (k : Next) : Option Cursor :=
  let budget := b.max.map (· - b.min)
  match g with
  | .greedy => require body b.min s fun s' =>
      greedyRounds body (t.size - s'.pos + 2) budget none s' k
  | .lazy => require body b.min s fun s' =>
      lazyRounds body (t.size - s'.pos + 2) budget none s' k
  | .possessive =>
    match firstRounds (body · some) b.min s with
    | some s' => k (allRounds (body · some) (t.size - s'.pos + 2) budget none s')
    | none => none

def isWordAt (ascii : Bool) (i : Nat) : Bool :=
  match t[i]? with
  | some c => CharKind.word.holds ascii c
  | none => false

/-- Whether a place in the text is one that an anchor names. A text without characters has no
place that is a boundary between words, nor one that is not. -/
def anchored (i : Nat) : Anchor → Bool
  | .textStart => i == 0
  | .lineStart => i == 0 || t[i - 1]? == some '\n'
  | .textEnd => i == t.size
  | .lastLineEnd => i == t.size || (i + 1 == t.size && t[i]? == some '\n')
  | .lineEnd => i == t.size || t[i]? == some '\n'
  | .boundary negated ascii =>
    t.size != 0 &&
      ((i != 0 && isWordAt t ascii (i - 1)) != isWordAt t ascii i) != negated

def repeats (f : Folding) (i j : Nat) : Nat → Bool
  | 0 => true
  | n + 1 =>
    match t[i]?, t[j]? with
    | some c, some d => f.lower c.toNat == f.lower d.toNat && repeats f (i + 1) (j + 1) n
    | _, _ => false

def exec : Regex → Cursor → Next → Option Cursor
  | .empty, s, k => k s
  | .one p, s, k =>
    match t[s.pos]? with
    | some c => if p.accepts c then k (s.moveTo (s.pos + 1)) else none
    | none => none
  | .seq a b, s, k => exec a s fun s' => exec b s' k
  | .alt a b, s, k =>
    match exec a s k with
    | some r => some r
    | none => exec b s k
  | .run p b g, s, k => execRun t p b g s k
  | .loop body b g, s, k => execLoop t (exec body) b g s k
  | .group n body, s, k => exec body s fun s' => k (s'.close n s.pos)
  | .backref n f, s, k =>
    match s.span? n with
    | some (i, j) =>
      if repeats t f s.pos i (j - i) then k (s.moveTo (s.pos + (j - i))) else none
    | none => none
  | .ahead negated body, s, k =>
    match exec body s some with
    | some s' => if negated then none else k (s'.moveTo s.pos)
    | none => if negated then k s else none
  | .behind negated width body, s, k =>
    match if width ≤ s.pos then exec body (s.moveTo (s.pos - width)) some else none with
    | some s' => if negated then none else k (s'.moveTo s.pos)
    | none => if negated then k s else none
  | .atomic body, s, k =>
    match exec body s some with
    | some s' => k s'
    | none => none
  | .ifGroup n yes no, s, k => if (s.span? n).isSome then exec yes s k else exec no s k
  | .anchor a, s, k => if anchored t s.pos a then k s else none

def matchAt (r : Regex) (i : Nat) : Option Cursor := exec t r (.start i) some

def searchFrom (r : Regex) (i : Nat) : Nat → Option (Nat × Cursor)
  | 0 => none
  | n + 1 =>
    match matchAt t r i with
    | some s => some (i, s)
    | none => searchFrom r (i + 1) n

/-- The first match at or after offset `i`: where it starts, and the cursor at its end. -/
def search (r : Regex) (i : Nat) : Option (Nat × Cursor) := searchFrom t r i (t.size + 1 - i)

end Regex

end ReactLint
