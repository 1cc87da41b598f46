import ReactLint.Toml.Table

/-!
# TOML documents

A document is read statement by statement; each statement ends its line. A carriage return counts
only in front of a newline, and is then left out. Arrays and tables that are written as values may
be nested `room` deep.
-/

namespace ReactLint.Toml

def skipFiller : Nat → List Char → Read (List Char)
  | 0, cs => .ok cs
  | fuel + 1, cs =>
    match cs with
    | '#' :: _ => do skipFiller fuel (← skipComment cs)
    | c :: rest => if isSpace c || c == '\n' then skipFiller fuel rest else .ok cs
    | [] => .ok []

def filler (cs : List Char) : Read (List Char) := skipFiller (cs.length + 1) cs

mutual

def readValue : Nat → Nat → List Char → Read (Value × List Char)
  | 0, _, _ => .error .malformed
  | _ + 1, 0, '[' :: _ => .error (.fault .tooDeep)
  | fuel + 1, room + 1, '[' :: cs => do
    match ← filler cs with
    | ']' :: rest => pure (.list [], rest)
    | cs =>
      let (items, rest) ← readItems fuel room cs
      pure (.list items, rest)
  | _ + 1, 0, '\x7b' :: _ => .error (.fault .tooDeep)
  | fuel + 1, room + 1, '\x7b' :: cs => do
    match skipSpace cs with
    | '\x7d' :: rest => pure (.mapping [], rest)
    | cs =>
      let (entries, rest) ← readPairs fuel room [] cs
      pure (.mapping (toPairs entries), rest)
  | _ + 1, _, cs => readScalar cs

def readItems : Nat → Nat → List Char → Read (List Value × List Char)
  | 0, _, _ => .error .malformed
  | fuel + 1, room, cs => do
    let (v, rest) ← readValue fuel room cs
    match ← filler rest with
    | ']' :: rest => pure ([v], rest)
    | ',' :: rest =>
      match ← filler rest with
      | ']' :: rest => pure ([v], rest)
      | cs =>
        let (vs, rest) ← readItems fuel room cs
        pure (v :: vs, rest)
    | _ => throw .malformed

def readPairs : Nat → Nat → Entries → List Char → Read (Entries × List Char)
  | 0, _, _, _ => .error .malformed
  | fuel + 1, room, es, cs => do
    let (key, rest) ← readKey cs
    match rest with
    | '=' :: rest =>
      let (v, rest) ← readValue fuel room (skipSpace rest)
      let es ← Entries.assign v key es
      match skipSpace rest with
      | '\x7d' :: rest => pure (es, rest)
      | ',' :: rest => readPairs fuel room es (skipSpace rest)
      | _ => throw .malformed
    | _ => throw .malformed

end

def readStatement (room : Nat) (cs : List Char) : Read (Statement × List Char) :=
  match cs with
  | '[' :: '[' :: cs => do
    let (path, rest) ← readKey (skipSpace cs)
    match rest with
    | ']' :: ']' :: rest => pure (.appendTable path, rest)
    | _ => throw .malformed
  | '[' :: cs => do
    let (path, rest) ← readKey (skipSpace cs)
    match rest with
    | ']' :: rest => pure (.openTable path, rest)
    | _ => throw .malformed
  | cs => do
    let (key, rest) ← readKey cs
    match rest with
    | '=' :: rest =>
      let (v, rest) ← readValue (2 * rest.length + 2) room (skipSpace rest)
      pure (.assign key v, rest)
    | _ => throw .malformed

def endLine (cs : List Char) : Read (List Char) := do
  match ← skipComment (skipSpace cs) with
  | [] => pure []
  | '\n' :: rest => pure rest
  | _ => throw .malformed

def readLines (room : Nat) : Nat → Draft → List Char → Read Draft
  | 0, _, _ => .error .malformed
  | fuel + 1, d, cs =>
    match skipSpace cs with
    | [] => .ok d
    | '\n' :: rest => readLines room fuel d rest
    | '#' :: rest => do readLines room fuel d (← endLine ('#' :: rest))
    | cs => do
      let (statement, rest) ← readStatement room cs
      let d ← d.add statement
      readLines room fuel d (← endLine rest)

def joinNewlines : List Char → List Char
  | '\r' :: '\n' :: cs => '\n' :: joinNewlines cs
  | c :: cs => c :: joinNewlines cs
  | [] => []

/-- The entries of a document in the order in which their keys came up. -/
def decode (room : Nat) (text : String) : Read (List (Value × Value)) := do
  let cs := joinNewlines text.toList
  let d ← readLines room (cs.length + 1) {} cs
  pure (toPairs d.entries)

end ReactLint.Toml
