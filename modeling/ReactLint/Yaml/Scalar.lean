import ReactLint.Text.Notation
import ReactLint.Yaml.Cursor

/-!
# Scalars of YAML

The three ways in which a scalar is written. A quoted scalar ends at its quote; a plain one ends
where the layout or an indicator ends it; a block scalar holds the lines that are indented deeper
than what surrounds it. Line ends inside a quoted, a plain or a folded scalar are folded: one
becomes a blank, and of several the first is left out.
-/

namespace ReactLint.Yaml

def folded (first : Char) (more : List Char) : List Char :=
  if first ≠ '\n' then first :: more else if more.isEmpty then [' '] else more

/-! ## Quoted scalars -/

def readQuotedBreaks : Nat → List Char → Read (List Char × List Char)
  | 0, _ => .error .malformed
  | fuel + 1, cs =>
    if isSeparator cs then .error .malformed
    else match cs.dropWhile isSpaceTab with
      | c :: rest =>
        if isBreak c then do
          let (breaks, rest) ← readQuotedBreaks fuel rest
          pure (breakText c :: breaks, rest)
        else .ok ([], c :: rest)
      | [] => .ok ([], [])

def shortEscape? : Char → Option Char
  | '0' => some '\x00'
  | 'a' => some '\x07'
  | 'b' => some '\x08'
  | 't' => some '\t'
  | '\t' => some '\t'
  | 'n' => some '\n'
  | 'v' => some '\x0b'
  | 'f' => some '\x0c'
  | 'r' => some '\r'
  | 'e' => some '\x1b'
  | ' ' => some ' '
  | '"' => some '"'
  | '\\' => some '\\'
  | '/' => some '/'
  | 'N' => some '\u0085'
  | '_' => some '\u00a0'
  | 'L' => some '\u2028'
  | 'P' => some '\u2029'
  | _ => none

def escapeWidth? : Char → Option Nat
  | 'x' => some 2
  | 'u' => some 4
  | 'U' => some 8
  | _ => none

/-- The character of an escaped code point. A surrogate half is no character, and the replacement
character stands in for it. -/
def escapedPoint (n : Nat) : Read Char :=
  match Text.charOf? n with
  | some c => .ok c
  | none =>
    if n < 0x110000 then .ok '\uFFFD'
    else if n < Nat.pow 2 31 then .error (.fault .badScalar)
    else .error (.fault .pointTooLarge)

def readQuoted (double : Bool) : Nat → List Char → Read (List Char × List Char)
  | 0, _ => .error .malformed
  | fuel + 1, cs =>
    match cs with
    | [] => .error .malformed
    | '\'' :: '\'' :: rest =>
      if double then do
        let (text, rest) ← readQuoted double fuel ('\'' :: rest)
        pure ('\'' :: text, rest)
      else do
        let (text, rest) ← readQuoted double fuel rest
        pure ('\'' :: text, rest)
    | c :: rest =>
      if c = (if double then '"' else '\'') then .ok ([], rest)
      else if double && c == '\\' then
        match rest with
        | [] => .error .malformed
        | e :: rest =>
          match shortEscape? e, escapeWidth? e with
          | some d, _ => do
            let (text, rest) ← readQuoted double fuel rest
            pure (d :: text, rest)
          | none, some width =>
            let digits := rest.take width
            match if digits.length = width then Text.ofHex? digits else none with
            | some n => do
              let d ← escapedPoint n
              let (text, rest) ← readQuoted double fuel (rest.drop width)
              pure (d :: text, rest)
            | none => .error .malformed
          | none, none =>
            if isBreak e then do
              let (breaks, rest) ← readQuotedBreaks (rest.length + 1) rest
              let (text, rest) ← readQuoted double fuel rest
              pure (breaks ++ text, rest)
            else .error .malformed
      else if isBlank c then
        let blanks := cs.takeWhile isSpaceTab
        match cs.dropWhile isSpaceTab with
        | [] => .error .malformed
        | b :: rest =>
          if isBreak b then do
            let (breaks, rest) ← readQuotedBreaks (rest.length + 1) rest
            let (text, rest) ← readQuoted double fuel rest
            pure (folded (breakText b) breaks ++ text, rest)
          else do
            let (text, rest) ← readQuoted double fuel (b :: rest)
            pure (blanks ++ text, rest)
      else do
        let (text, rest) ← readQuoted double fuel rest
        pure (c :: text, rest)

/-! ## Plain scalars -/

def isFlowMark (c : Char) : Bool :=
  c == ',' || c == '[' || c == ']' || c == '\x7b' || c == '\x7d'

def plainChunk (flow : Bool) : List Char → List Char
  | [] => []
  | c :: rest =>
    if isBlank c then []
    else if c = ':' && orEnd (fun d => isBlank d || (flow && isFlowMark d)) rest.head? then []
    else if flow && (isFlowMark c || c == '?') then []
    else c :: plainChunk flow rest

/-- Blanks and line ends behind the first line end in a plain scalar; `none` if a mark that
separates documents follows. -/
def plainBreaks : Nat → Cursor → Option (List Char) × Cursor
  | 0, c => (some [], c)
  | fuel + 1, c =>
    if c.peek = some ' ' then plainBreaks fuel c.step
    else match c.lineBreak? with
      | some (b, next) =>
        if isSeparator next.rest then (none, next)
        else
          let (more, last) := plainBreaks fuel next
          (more.map (b :: ·), last)
      | none => (some [], c)

/-- What stands between two chunks of a plain scalar, and whether it holds a line end. Nothing
between them ends the scalar. -/
def plainGap (c : Cursor) : List Char × Cursor × Bool :=
  let (blanks, c) := c.span (· == ' ')
  match c.lineBreak? with
  | none => (blanks, c, false)
  | some (b, next) =>
    if isSeparator next.rest then ([], next, true)
    else match plainBreaks (next.rest.length + 1) next with
      | (none, last) => ([], last, true)
      | (some more, last) => (folded b more, last, true)

/-- The chunks of a plain scalar in a context that is indented to `indent`. The answer also says
whether a line end stands behind the last of them. -/
def readPlain (flow : Bool) (indent : Nat) :
    Nat → List Char → Bool → Cursor → List Char × Cursor × Bool
  | 0, _, broken, c => ([], c, broken)
  | fuel + 1, gap, broken, c =>
    let chunk := plainChunk flow c.rest
    if c.peek = some '#' || chunk.isEmpty then ([], c, broken)
    else
      let (next, c, broken) := plainGap (c.forward chunk.length)
      if next.isEmpty || c.peek = some '#' || (!flow && c.column < indent) then
        (gap ++ chunk, c, broken)
      else
        let (text, last, broken) := readPlain flow indent fuel next broken c
        (gap ++ chunk ++ text, last, broken)

/-! ## Block scalars -/

inductive Chomping where
  | strip
  | clip
  | keep
  deriving DecidableEq, Repr

def chomping? : Option Char → Option Chomping
  | some '+' => some .keep
  | some '-' => some .strip
  | _ => none

def increment? (c : Cursor) : Read (Option Nat × Cursor) :=
  match c.peek with
  | some '0' => .error .malformed
  | some d => .ok (if d.isDigit then (some (d.toNat - 48), c.step) else (none, c))
  | none => .ok (none, c)

def readIndicators (c : Cursor) : Read (Chomping × Option Nat × Cursor) := do
  match chomping? c.peek with
  | some k =>
    let (n, c) ← increment? c.step
    pure (k, n, c)
  | none =>
    let (n, c) ← increment? c
    match n, chomping? c.peek with
    | some _, some k => pure (k, n, c.step)
    | _, _ => pure (.clip, n, c)

def skipIndent (indent : Nat) (c : Cursor) : Cursor :=
  c.forward ((c.rest.takeWhile (· == ' ')).take (indent - c.column)).length

def blockBreaks (indent : Nat) : Nat → Cursor → List Char × Cursor
  | 0, c => ([], c)
  | fuel + 1, c =>
    let c := skipIndent indent c
    match c.lineBreak? with
    | some (b, next) =>
      let (more, last) := blockBreaks indent fuel next
      (b :: more, last)
    | none => ([], c)

def blockIndent : Nat → Nat → Cursor → List Char × Nat × Cursor
  | 0, deepest, c => ([], deepest, c)
  | fuel + 1, deepest, c =>
    match c.lineBreak? with
    | some (b, next) =>
      let (more, deepest, last) := blockIndent fuel deepest next
      (b :: more, deepest, last)
    | none =>
      if c.peek = some ' ' then blockIndent fuel (max deepest c.step.column) c.step
      else ([], deepest, c)

/-- The lines of a block scalar that is indented to `indent`. The answer holds the text up to the
last line, the line end behind it and the blank lines behind that. -/
def readBlockLines (fold : Bool) (indent : Nat) :
    Nat → List Char → Cursor → List Char × List Char × List Char × Cursor
  | 0, breaks, c => ([], [], breaks, c)
  | fuel + 1, breaks, c =>
    if c.column = indent ∧ c.peek.isSome then
      let starts := !andNotEnd isSpaceTab c.peek
      let (line, c) := c.span fun ch => !isBreak ch
      let ends := (c.lineBreak?.map fun b => [b.1]).getD []
      let (after, c) := blockBreaks indent (c.rest.length + 1) c.skipBreak
      if c.column = indent ∧ c.peek.isSome then
        let joint :=
          if fold && ends == ['\n'] && starts && !andNotEnd isSpaceTab c.peek then
            (if after.isEmpty then [' '] else [])
          else ends
        let (text, last, tail, c) := readBlockLines fold indent fuel after c
        (breaks ++ line ++ joint ++ text, last, tail, c)
      else (breaks ++ line, ends, after, c)
    else ([], [], breaks, c)

def readBlock (fold : Bool) (outer : Int) (c : Cursor) : Read (List Char × Cursor) := do
  let (chomp, increment, c) ← readIndicators c
  unless orEnd (fun ch => ch == ' ' || isBreak ch) c.peek do throw .malformed
  let c ← c.endLine
  let least := max (outer + 1).toNat 1
  let (breaks, indent, c) :=
    match increment with
    | some n =>
      let indent := least + n - 1
      let (breaks, c) := blockBreaks indent (c.rest.length + 1) c
      (breaks, indent, c)
    | none =>
      let (breaks, deepest, c) := blockIndent (c.rest.length + 1) 0 c
      (breaks, max least deepest, c)
  let (text, last, tail, c) := readBlockLines fold indent (c.rest.length + 1) breaks c
  pure (match chomp with
    | .strip => (text, c)
    | .clip => (text ++ last, c)
    | .keep => (text ++ last ++ tail, c))

end ReactLint.Yaml
