import ReactLint.Yaml.Scalar

/-!
# Tokens of YAML

The indicators, names and scalars of a text, with the starts and ends of block collections that its
layout implies. A text in front of a colon is a key only if the colon stands on the same line and
not too far away, so a place that may turn out to be a key is kept until it is known: then the token
for it goes in at that place, after tokens that have been read since.
-/

namespace ReactLint.Yaml

inductive Directive where
  | version (major : Nat)
  | handle (name uri : String)
  | other
  deriving DecidableEq, Repr

inductive Token where
  | directive (d : Directive)
  | documentStart
  | documentEnd
  | sequenceStart
  | mappingStart
  | blockEnd
  | flowSequenceStart
  | flowSequenceEnd
  | flowMappingStart
  | flowMappingEnd
  | blockEntry
  | flowEntry
  | key
  | value
  | alias (name : String)
  | anchor (name : String)
  | tag (handle : Option String) (suffix : String)
  | scalar (text : String) (plain : Bool)
  deriving DecidableEq, Repr, Inhabited

/-! ## Names, tags and directives -/

def endsName (c : Char) : Bool := isBlank c || "?:,]\x7d%@`".toList.contains c

def readName (c : Cursor) : Read (String × Cursor) :=
  let (name, c) := c.span isNameChar
  if name.isEmpty || !orEnd endsName c.peek then .error .malformed
  else .ok (String.ofList name, c)

def isUriChar (c : Char) : Bool :=
  c.isAlphanum || "-;/?:@&=+$,_.!~*'()[]".toList.contains c

def readUriBytes : List Char → Read (List UInt8 × List Char)
  | '%' :: a :: b :: rest =>
    match Text.ofHex? [a, b] with
    | some n => do
      let (bytes, rest) ← readUriBytes rest
      pure (n.toUInt8 :: bytes, rest)
    | none => .error .malformed
  | '%' :: _ => .error .malformed
  | cs => .ok ([], cs)

def readUriChars : Nat → List Char → Read (List Char × List Char)
  | 0, _ => .error .malformed
  | fuel + 1, cs =>
    match cs with
    | '%' :: _ => do
      let (bytes, rest) ← readUriBytes cs
      match String.fromUTF8? ⟨bytes.toArray⟩ with
      | some s =>
        let (more, rest) ← readUriChars fuel rest
        pure (s.toList ++ more, rest)
      | none => throw .malformed
    | c :: rest =>
      if isUriChar c then do
        let (more, rest) ← readUriChars fuel rest
        pure (c :: more, rest)
      else .ok ([], cs)
    | [] => .ok ([], [])

def readUri (c : Cursor) : Read (String × Cursor) := do
  let (uri, rest) ← readUriChars (c.rest.length + 1) c.rest
  if uri.isEmpty then throw .malformed
  pure (String.ofList uri, c.jumpTo rest)

def readHandle (c : Cursor) : Read (String × Cursor) :=
  if c.peek ≠ some '!' then .error .malformed
  else if c.peekAt 1 = some ' ' then .ok ("!", c.step)
  else
    let (name, last) := c.step.span isNameChar
    if last.peek = some '!' then .ok ("!" ++ String.ofList name ++ "!", last.step)
    else .error .malformed

def isBlankOrBreak (c : Char) : Bool := c == ' ' || isBreak c

def readTag (c : Cursor) : Read (Token × Cursor) := do
  let (token, c) ←
    if c.peekAt 1 = some '<' then do
      let (uri, c) ← readUri (c.forward 2)
      if c.peek ≠ some '>' then throw .malformed
      pure (Token.tag none uri, c.step)
    else if orEnd isBlank (c.peekAt 1) then pure (Token.tag none "!", c.step)
    else do
      let word := (c.rest.drop 1).takeWhile fun ch => !isBlankOrBreak ch
      let (handle, c) ← if word.contains '!' then readHandle c else pure ("!", c.step)
      let (uri, c) ← readUri c
      pure (Token.tag (some handle) uri, c)
  if orEnd isBlankOrBreak c.peek then pure (token, c) else throw .malformed

def readDigits (c : Cursor) : Read (Nat × Cursor) :=
  let (ds, c) := c.span Char.isDigit
  if ds.isEmpty then .error .malformed
  else .ok (Text.ofDigits 10 (ds.map fun d => d.toNat - 48), c)

def readVersion (c : Cursor) : Read (Directive × Cursor) := do
  let (major, c) ← readDigits (c.skip (· == ' '))
  if c.peek ≠ some '.' then throw .malformed
  let (_, c) ← readDigits c.step
  if orEnd isBlankOrBreak c.peek then pure (.version major, c) else throw .malformed

def readHandleDirective (c : Cursor) : Read (Directive × Cursor) := do
  let (name, c) ← readHandle (c.skip (· == ' '))
  if c.peek ≠ some ' ' then throw .malformed
  let (uri, c) ← readUri (c.skip (· == ' '))
  if orEnd isBlankOrBreak c.peek then pure (.handle name uri, c) else throw .malformed

def readDirective (c : Cursor) : Read (Directive × Cursor) := do
  let (name, c) := c.span isNameChar
  if name.isEmpty || !orEnd isBlankOrBreak c.peek then throw .malformed
  let (d, c) ←
    if name = "YAML".toList then readVersion c
    else if name = "TAG".toList then readHandleDirective c
    else pure (.other, c.skip fun ch => !isBreak ch)
  pure (d, ← c.endLine)

/-! ## The layout -/

/-- A place that may turn out to be a key. -/
structure KeyPlace where
  /-- How many tokens stand in front of it. -/
  position : Nat
  /-- Nothing but a key is possible here. -/
  required : Bool
  index : Nat
  line : Nat
  column : Nat

structure Layout where
  cursor : Cursor
  tokens : List Token := []
  /-- The columns of the open block collections, the innermost first. -/
  indents : List Nat := []
  flow : Nat := 0
  keyAllowed : Bool := true
  /-- The places that may turn out to be keys, by the number of open flow collections. -/
  keys : List (Nat × KeyPlace) := []

namespace Layout

abbrev Scan := StateT Layout Read

def fail {α : Type} : Scan α := throw .malformed

def indent (l : Layout) : Int := (l.indents.head?.map Int.ofNat).getD (-1)

def isFlow (l : Layout) : Bool := 0 < l.flow

def emit (t : Token) : Scan Unit := modify fun l => { l with tokens := l.tokens ++ [t] }

def moveTo (c : Cursor) : Scan Unit := modify fun l => { l with cursor := c }

def allowKey (b : Bool) : Scan Unit := modify fun l => { l with keyAllowed := b }

/-- How far behind a place that may be a key its colon may stand. -/
def keyReach : Nat := 1024

/-- Gives up the places from which no colon can be reached any more. -/
def dropStaleKeys : Scan Unit := do
  let l ← get
  let isStale (k : Nat × KeyPlace) : Bool :=
    k.2.line != l.cursor.line || l.cursor.index - k.2.index > keyReach
  if l.keys.any fun k => isStale k && k.2.required then fail
  set { l with keys := l.keys.filter fun k => !isStale k }

def dropKey : Scan Unit := do
  let l ← get
  if (l.keys.lookup l.flow).any KeyPlace.required then fail
  set { l with keys := l.keys.filter fun k => k.1 != l.flow }

def noteKey : Scan Unit := do
  let l ← get
  if l.keyAllowed then
    dropKey
    let place : KeyPlace :=
      { position := l.tokens.length, required := !l.isFlow && l.indent == l.cursor.column
        index := l.cursor.index, line := l.cursor.line, column := l.cursor.column }
    modify fun l => { l with keys := (l.flow, place) :: l.keys }

/-- Ends the block collections that are indented deeper than `column`. -/
def unwind (column : Int) : Scan Unit := do
  let l ← get
  unless l.isFlow do
    let closed := (l.indents.takeWhile fun n => column < Int.ofNat n).length
    set { l with indents := l.indents.drop closed
                 tokens := l.tokens ++ List.replicate closed Token.blockEnd }

def openBlock (column : Nat) : Scan Bool := do
  let l ← get
  if l.indent < column then
    set { l with indents := column :: l.indents }
    pure true
  else pure false

def skipFiller : Nat → Scan Unit
  | 0 => pure ()
  | fuel + 1 => do
    let l ← get
    let c := (l.cursor.skip (· == ' ')).skipComment
    match c.lineBreak? with
    | some (_, next) =>
      set { l with cursor := next, keyAllowed := l.keyAllowed || !l.isFlow }
      skipFiller fuel
    | none => set { l with cursor := c }

def indicator (t : Token) (width : Nat) : Scan Unit := do
  emit t
  moveTo ((← get).cursor.forward width)

def documentMark (t : Token) : Scan Unit := do
  unwind (-1)
  dropKey
  allowKey false
  indicator t 3

def directive : Scan Unit := do
  unwind (-1)
  dropKey
  allowKey false
  let (d, c) ← readDirective (← get).cursor.step
  emit (.directive d)
  moveTo c

def openFlow (t : Token) : Scan Unit := do
  noteKey
  modify fun l => { l with flow := l.flow + 1 }
  allowKey true
  indicator t 1

def closeFlow (t : Token) : Scan Unit := do
  dropKey
  unless (← get).isFlow do fail
  modify fun l => { l with flow := l.flow - 1 }
  allowKey false
  indicator t 1

def flowEntry : Scan Unit := do
  allowKey true
  dropKey
  indicator .flowEntry 1

def startBlock (t : Token) : Scan Unit := do
  let l ← get
  unless l.isFlow do
    unless l.keyAllowed do fail
    if ← openBlock l.cursor.column then emit t

def blockEntry : Scan Unit := do
  startBlock .sequenceStart
  allowKey true
  dropKey
  indicator .blockEntry 1

def explicitKey : Scan Unit := do
  startBlock .mappingStart
  allowKey (!(← get).isFlow)
  dropKey
  indicator .key 1

def insertAt (ts : List Token) (n : Nat) (more : List Token) : List Token :=
  ts.take n ++ more ++ ts.drop n

/-- A colon: it makes a key of the place that was noted last in this collection. -/
def colon : Scan Unit := do
  let l ← get
  match l.keys.lookup l.flow with
  | some place =>
    set { l with keys := l.keys.filter fun k => k.1 != l.flow }
    let opens ← if l.isFlow then pure false else openBlock place.column
    modify fun l => { l with
      tokens := insertAt l.tokens place.position (if opens then [.mappingStart, .key] else [.key]) }
    allowKey false
  | none =>
    startBlock .mappingStart
    allowKey (!l.isFlow)
    dropKey
  indicator .value 1

def name (t : String → Token) : Scan Unit := do
  noteKey
  allowKey false
  let (s, c) ← readName (← get).cursor.step
  emit (t s)
  moveTo c

def tag : Scan Unit := do
  noteKey
  allowKey false
  let (t, c) ← readTag (← get).cursor
  emit t
  moveTo c

def blockScalar (fold : Bool) : Scan Unit := do
  allowKey true
  dropKey
  let l ← get
  let (text, c) ← readBlock fold l.indent l.cursor.step
  emit (.scalar (String.ofList text) false)
  moveTo c

def quotedScalar (double : Bool) : Scan Unit := do
  noteKey
  allowKey false
  let c := (← get).cursor
  let (text, rest) ← readQuoted double (c.rest.length + 1) c.rest.tail
  emit (.scalar (String.ofList text) false)
  moveTo (c.jumpTo rest)

def plainScalar : Scan Unit := do
  noteKey
  let l ← get
  let (text, c, broken) :=
    readPlain l.isFlow (l.indent + 1).toNat (l.cursor.rest.length + 1) [] false l.cursor
  emit (.scalar (String.ofList text) true)
  moveTo c
  allowKey broken

/-- The characters with which no plain scalar begins, unless the next one makes it plain. -/
def isIndicator (c : Char) : Bool := "-?:,[]\x7b\x7d#&*!|>'\"%@`".toList.contains c

def startsPlain (flow : Bool) (c : Char) (next : Option Char) : Bool :=
  (!isBlank c && !isIndicator c) ||
    (!orEnd isBlank next && (c == '-' || (!flow && (c == '?' || c == ':'))))

def token (ch : Char) : Scan Unit := do
  let l ← get
  let c := l.cursor
  let next := c.peekAt 1
  let alone := orEnd isBlank next
  let isMark := c.column == 0 && isSeparator c.rest
  match ch with
  | '[' => openFlow .flowSequenceStart
  | '\x7b' => openFlow .flowMappingStart
  | ']' => closeFlow .flowSequenceEnd
  | '\x7d' => closeFlow .flowMappingEnd
  | ',' => flowEntry
  | '*' => name .alias
  | '&' => name .anchor
  | '!' => tag
  | '\'' => quotedScalar false
  | '"' => quotedScalar true
  | _ =>
    if ch == '%' && c.column == 0 then directive
    else if ch == '-' && isMark then documentMark .documentStart
    else if ch == '.' && isMark then documentMark .documentEnd
    else if ch == '-' && alone then blockEntry
    else if ch == '?' && (l.isFlow || alone) then explicitKey
    else if ch == ':' && (l.isFlow || alone) then colon
    else if ch == '|' && !l.isFlow then blockScalar false
    else if ch == '>' && !l.isFlow then blockScalar true
    else if startsPlain l.isFlow ch next then plainScalar
    else fail

def tokensLeft : Nat → Scan Unit
  | 0 => fail
  | fuel + 1 => do
    let l ← get
    skipFiller (l.cursor.rest.length + 1)
    dropStaleKeys
    let l ← get
    unwind l.cursor.column
    match l.cursor.peek with
    | some ch =>
      token ch
      tokensLeft fuel
    | none =>
      unwind (-1)
      dropKey

end Layout

def tokenize (cs : List Char) : Read (List Token) := do
  let rest := if cs.head? = some '\uFEFF' then cs.tail else cs
  let (_, l) ← (Layout.tokensLeft (rest.length + 1)).run { cursor := { rest } }
  pure l.tokens

end ReactLint.Yaml
