import ReactLint.Rule.Basic

/-!
# Occurrences

One rule is scanned over a text from left to right. After a match the scan goes on at its end, and
after a match without characters one character further, so it always ends. A scan is a value: its
cursor is moved by taking the next occurrence and is shared with no other scan.

The snippet of an occurrence is the matched text without the blanks at its ends; its end offset
counts the characters of the snippet from the start of the match.
-/

namespace ReactLint

structure Occurrence where
  line : Int
  snippet : String
  start : Int
  stop : Int
  /-- The text of the first group, if the pattern has groups and the first one took part. -/
  capture : Option String := none
  deriving DecidableEq, Repr

/-- The line of an offset, counted from one: a line more for each newline in front of it. -/
def lineAt (t : Array Char) (n : Nat) : Nat := (t.extract 0 n).count '\n' + 1

def addLine (lines : Array Nat × Nat) (c : Char) : Array Nat × Nat :=
  let n := if c = '\n' then lines.2 + 1 else lines.2
  (lines.1.push n, n)

def lineTable (t : Array Char) : Array Nat := (t.foldl addLine (#[1], 1)).1

def lineIn (t : Array Char) (lines : Array Nat) (n : Nat) : Nat := lines[n]?.getD (lineAt t n)

/-- An offset as the end of a slice: a negative one counts from the end of the text. -/
def clampOffset (size : Nat) (offset : Int) : Nat :=
  if offset < 0 then (offset + size).toNat else min offset.toNat size

def lineNumberAt (t : Array Char) (offset : Int) : Nat := lineAt t (clampOffset t.size offset)

def slice (t : Array Char) (start stop : Nat) : List Char := (t.extract start stop).toList

namespace Occurrence

def onLine (t : Array Char) (line : Nat) (m : Pattern.Match) : Occurrence :=
  let snippet := Text.trim (slice t m.start m.stop)
  { line
    snippet := String.ofList snippet
    start := m.start
    stop := m.start + snippet.length
    capture := (m.group? 1).map fun (i, j) => String.ofList (slice t i j) }

def ofMatch (t : Array Char) (m : Pattern.Match) : Occurrence := onLine t (lineAt t m.start) m

end Occurrence

/-- A scan of one pattern over one text; `pos` is its cursor. -/
structure Scan where
  pattern : Pattern
  text : Array Char
  pos : Nat := 0

namespace Scan

def resume (m : Pattern.Match) : Nat := if m.start < m.stop then m.stop else m.start + 1

/-- The next match and the scan behind it. A scan that has ended stays ended. -/
def next (s : Scan) : Option Pattern.Match × Scan :=
  match s.pattern.search s.text s.pos with
  | some m => (some m, { s with pos := resume m })
  | none => (none, { s with pos := s.text.size + 1 })

def step (s : Scan) : Option Occurrence × Scan :=
  let (m, s') := s.next
  (m.map (.ofMatch s.text), s')

def matchesUpTo : Nat → Scan → List Pattern.Match
  | 0, _ => []
  | n + 1, s =>
    match s.next with
    | (some m, s') => m :: matchesUpTo n s'
    | (none, _) => []

def matchList (s : Scan) : List Pattern.Match := matchesUpTo (s.text.size + 2 - s.pos) s

def interleave : List Scan → List Nat → List (Option Occurrence)
  | _, [] => []
  | scans, k :: ks =>
    match scans[k]? with
    | some s =>
      let (o, s') := s.step
      o :: interleave (scans.set k s') ks
    | none => none :: interleave scans ks

end Scan

def Rule.occurrences (r : Rule) (t : Array Char) : List Occurrence :=
  let lines := lineTable t
  ({ pattern := r.pattern, text := t } : Scan).matchList.map fun m =>
    .onLine t (lineIn t lines m.start) m

theorem lineAt_zero (t : Array Char) : lineAt t 0 = 1 := by
  simp [lineAt]

theorem lineAt_succ (t : Array Char) {n : Nat} (h : n < t.size) :
    lineAt t (n + 1) = if t[n] = '\n' then lineAt t n + 1 else lineAt t n := by
  have push : t.extract 0 (n + 1) = (t.extract 0 n).push t[n] := by
    simp
  simp only [lineAt, push, Array.count_push, beq_iff_eq]
  split <;> rfl

theorem lineAt_min (t : Array Char) (n : Nat) : lineAt t (min n t.size) = lineAt t n := by
  have same : t.extract 0 (min n t.size) = t.extract 0 n := by
    apply Array.ext <;> simp
  simp [lineAt, same]

/-- What the table holds after the characters in front of the offset `i`. -/
def LinesUpTo (t : Array Char) (i : Nat) (lines : Array Nat × Nat) : Prop :=
  lines.2 = lineAt t i ∧ lines.1.size = i + 1 ∧ ∀ j ≤ i, lines.1[j]? = some (lineAt t j)

theorem linesUpTo_addLine {t : Array Char} {i : Nat} {lines : Array Nat × Nat} (h : i < t.size)
    (known : LinesUpTo t i lines) : LinesUpTo t (i + 1) (addLine lines t[i]) := by
  obtain ⟨last, size, below⟩ := known
  have line : (addLine lines t[i]).2 = lineAt t (i + 1) := by
    simp [addLine, last, lineAt_succ t h]
  refine ⟨line, by simp [addLine, size], fun j hj => ?_⟩
  rcases Nat.lt_or_eq_of_le hj with hlt | rfl
  · have hne : j ≠ i + 1 := by omega
    simp [addLine, Array.getElem?_push, size, hne, below j (by omega)]
  · rw [← line, addLine, ← size]
    exact Array.getElem?_push_size

theorem linesUpTo_size (t : Array Char) : LinesUpTo t t.size (t.foldl addLine (#[1], 1)) :=
  Array.foldl_induction (motive := LinesUpTo t) (by simp [LinesUpTo, lineAt_zero])
    fun i _ known => linesUpTo_addLine i.isLt known

theorem lineIn_lineTable (t : Array Char) (n : Nat) : lineIn t (lineTable t) n = lineAt t n := by
  obtain ⟨-, size, known⟩ := linesUpTo_size t
  by_cases h : n ≤ t.size
  · simp [lineIn, lineTable, known n h]
  · have none : (lineTable t)[n]? = none := by
      rw [Array.getElem?_eq_none_iff, lineTable, size]
      omega
    simp [lineIn, none]

theorem Rule.occurrences_eq_map (r : Rule) (t : Array Char) :
    r.occurrences t =
      ({ pattern := r.pattern, text := t } : Scan).matchList.map (.ofMatch t) := by
  simp [occurrences, lineIn_lineTable, Occurrence.ofMatch]

theorem lineNumberAt_ofNat (t : Array Char) (n : Nat) : lineNumberAt t n = lineAt t n := by
  have h : ¬ (n : Int) < 0 := by omega
  simp [lineNumberAt, clampOffset, h, lineAt_min]

theorem Scan.lt_resume (m : Pattern.Match) : m.start < resume m := by
  unfold resume
  split <;> omega

end ReactLint
