import ReactLint.Fault
import ReactLint.Pattern.Flags
import ReactLint.Pattern.Token
import ReactLint.Regex.Basic
import ReactLint.Text.Name
import ReactLint.Text.Notation

/-!
# Reading a pattern

A pattern is a choice between sequences of pieces. Each piece is a character, a set, an anchor, a
group or a back-reference, and may carry one quantifier. The flags in force are resolved while the
pattern is read, so the expression that comes out depends on none.

Two faults are only reported once the whole pattern has been read: a look-behind of no fixed width,
and a repetition in a pattern whose flags allow none.
-/

namespace ReactLint.Pattern

structure ParseState where
  rest : List Token
  /-- The flags given with the pattern and by a group of letters at its start. -/
  flags : Flags
  opened : Nat := 0
  /-- The groups that have been closed, with their widths. -/
  closed : List (Nat × Nat × Nat) := []
  names : List (List Char × Nat) := []
  /-- Inside a look-behind, how many groups had been opened in front of it. -/
  behindFrom : Option Nat := none
  asked : List Nat := []
  unfixed : Bool := false
  repetition : Bool := false
  /-- How many more groups may be opened inside one another. -/
  room : Nat
  /-- The code point of the character with a name. -/
  called : List Char → Option Nat
  deriving Inhabited

abbrev Parse := StateT ParseState Read

def fail {α : Type} : Parse α := throw .malformed

def setRest (ts : List Token) : Parse Unit := modify fun s => { s with rest := ts }

def peek? : Parse (Option Token) := do
  match (← get).rest with
  | [] => pure none
  | .dangling :: _ => fail
  | t :: _ => pure (some t)

def next? : Parse (Option Token) := do
  let t ← peek?
  setRest (← get).rest.tail
  pure t

def next : Parse Token := do
  match ← next? with
  | some t => pure t
  | none => fail

def accept (c : Char) : Parse Bool := do
  if (← peek?) = some (.plain c) then
    setRest (← get).rest.tail
    pure true
  else pure false

def expect (c : Char) : Parse Unit := do
  unless ← accept c do fail

def takePlain (p : Char → Bool) (n : Nat) : Parse (List Char) := do
  let (cs, rest) := Token.spanPlain p n (← get).rest
  setRest rest
  pure cs

def takeUntil (stop : Char) : Parse (List Char) := do
  match Token.untilPlain? stop (← get).rest with
  | some ([], _) => fail
  | some (cs, rest) => setRest rest; pure cs
  | none => fail

def isOctal (c : Char) : Bool := '0' ≤ c && c ≤ '7'

def digitValue (c : Char) : Nat := c.toNat - 48

def inside {α : Type} (body : Parse α) : Parse α := do
  let room := (← get).room
  if room = 0 then throw (.fault .tooDeep)
  modify fun s => { s with room := room - 1 }
  let a ← body
  modify fun s => { s with room }
  pure a

def ofOctal (cs : List Char) : Nat := Text.ofDigits 8 (cs.map digitValue)

def ofDecimal (cs : List Char) : Nat := Text.ofDigits 10 (cs.map digitValue)

inductive Escaped where
  | point (n : Nat)
  | kind (k : CharKind) (negated : Bool)
  | anchor (a : Anchor)
  | reference (n : Nat)

def kindEscape? : Char → Option (CharKind × Bool)
  | 'd' => some (.digit, false)
  | 'D' => some (.digit, true)
  | 's' => some (.blank, false)
  | 'S' => some (.blank, true)
  | 'w' => some (.word, false)
  | 'W' => some (.word, true)
  | _ => none

/-- Escapes of one control character; `\b` is one of them only inside a set. -/
def controlEscape? : Char → Option Nat
  | 'a' => some 7
  | 'f' => some 12
  | 'n' => some 10
  | 'r' => some 13
  | 't' => some 9
  | 'v' => some 11
  | '\\' => some 92
  | _ => none

def hexEscape (n : Nat) : Parse Nat := do
  let cs ← takePlain Text.isHex n
  match Text.ofHex? cs with
  | some point =>
    if cs.length ≠ n then fail
    else if point ≤ 0x10FFFF then pure point
    else if point < Nat.pow 2 31 then fail
    else throw (.fault .pointTooLarge)
  | none => fail

def namedEscape : Parse Nat := do
  expect '\x7b'
  match (← get).called (← takeUntil '\x7d') with
  | some point => pure point
  | none => fail

def pointEscape (c : Char) : Parse Nat := do
  match c with
  | 'x' => hexEscape 2
  | 'u' => hexEscape 4
  | 'U' => hexEscape 8
  | 'N' => namedEscape
  | _ => if c.isAlphanum then fail else pure c.toNat

def setEscape (c : Char) : Parse Escaped := do
  match kindEscape? c, controlEscape? c with
  | some (k, negated), _ => pure (.kind k negated)
  | none, some n => pure (.point n)
  | none, none =>
    if c = 'b' then pure (.point 8)
    else if isOctal c then
      let n := ofOctal (c :: (← takePlain isOctal 2))
      if n ≤ 0o377 then pure (.point n) else fail
    else .point <$> pointEscape c

def checkBehind (n : Nat) : Parse Unit := do
  let s ← get
  match s.behindFrom with
  | some before => unless (s.closed.lookup n).isSome && n ≤ before do fail
  | none => pure ()

def reference (n : Nat) : Parse Escaped := do
  unless ((← get).closed.lookup n).isSome do fail
  checkBehind n
  pure (.reference n)

/-- An escape that opens with a digit other than zero: three octal digits are a character, one or
two digits are a reference. -/
def numberEscape (c : Char) : Parse Escaped := do
  match ← peek? with
  | some (.plain d) =>
    if d.isDigit then
      setRest (← get).rest.tail
      let three ← if isOctal c && isOctal d then takePlain isOctal 1 else pure []
      match three with
      | [e] =>
        let n := ofOctal [c, d, e]
        if n ≤ 0o377 then pure (.point n) else fail
      | _ => reference (ofDecimal [c, d])
    else reference (ofDecimal [c])
  | _ => reference (ofDecimal [c])

def pieceEscape (flags : Flags) (c : Char) : Parse Escaped := do
  match kindEscape? c, controlEscape? c with
  | some (k, negated), _ => pure (.kind k negated)
  | none, some n => pure (.point n)
  | none, none =>
    match c with
    | 'A' => pure (.anchor .textStart)
    | 'Z' => pure (.anchor .textEnd)
    | 'b' => pure (.anchor (.boundary false flags.ascii))
    | 'B' => pure (.anchor (.boundary true flags.ascii))
    | '0' => do pure (.point (ofOctal ('0' :: (← takePlain isOctal 2))))
    | _ => if c.isDigit then numberEscape c else .point <$> pointEscape c

inductive Member where
  | point (n : Nat)
  | kind (k : CharKind) (negated : Bool)

def Member.item (flags : Flags) : Member → SetItem
  | .point n => if n.isValidChar then .char (Char.ofNat n) else .range n n
  | .kind k negated => .kind k negated flags.ascii

def member : Token → Parse Member
  | .plain c => pure (.point c.toNat)
  | .escape c => do
    match ← setEscape c with
    | .point n => pure (.point n)
    | .kind k negated => pure (.kind k negated)
    | _ => fail
  | .dangling => fail

/-- The items of a set up to its closing bracket, which closes nothing while there are none. -/
def setBody (flags : Flags) : Nat → List SetItem → Parse (List SetItem)
  | 0, _ => fail
  | fuel + 1, items => do
    let t ← next
    if t = .plain ']' && !items.isEmpty then pure items.reverse
    else
      let low ← member t
      if ← accept '-' then
        let u ← next
        if u = .plain ']' then
          pure ((.char '-') :: low.item flags :: items).reverse
        else
          match low, ← member u with
          | .point lo, .point hi =>
            if hi < lo then fail else setBody flags fuel (.range lo hi :: items)
          | _, _ => fail
      else setBody flags fuel (low.item flags :: items)

def setPiece (flags : Flags) : Parse Regex := do
  let negated ← accept '^'
  let items := (← setBody flags ((← get).rest.length + 1) []).eraseDups
  match negated, items with
  | false, [.char c] => pure (.one (.point flags.folding c.toNat))
  | _, _ => pure (.one (.set negated items flags.folding))

def repeatLimit : Nat := Nat.pow 2 32 - 1

def braces? (ts : List Token) : Option (List Char × List Char × List Token) :=
  let (lo, ts₁) := Token.spanPlain Char.isDigit ts.length ts
  let (hi, ts₂) :=
    match ts₁ with
    | .plain ',' :: ts' => Token.spanPlain Char.isDigit ts'.length ts'
    | _ => (lo, ts₁)
  match ts₂ with
  | .plain '}' :: rest => if ts.head? = some (.plain '}') then none else some (lo, hi, rest)
  | _ => none

def repeatCount (cs : List Char) : Parse (Option Nat) := do
  if cs.isEmpty then pure none
  else if (← get).rest = [.dangling] then fail
  else if Text.digitLimit < cs.length then throw (.fault .tooManyDigits)
  else if repeatLimit ≤ ofDecimal cs then throw (.fault .repeatTooLarge)
  else pure (some (ofDecimal cs))

/-- The bounds that a quantifier sets, or `none` where a brace is an ordinary character. -/
def quantifier? (c : Char) : Parse (Option Bounds) := do
  match c with
  | '*' => pure (some ⟨0, none⟩)
  | '+' => pure (some ⟨1, none⟩)
  | '?' => pure (some ⟨0, some 1⟩)
  | _ =>
    match braces? (← get).rest with
    | none => pure none
    | some (lo, hi, rest) =>
      setRest rest
      let least := (← repeatCount lo).getD 0
      let most ← repeatCount hi
      match most with
      | some m => if m < least then fail else pure (some ⟨least, most⟩)
      | none => pure (some ⟨least, none⟩)

inductive PieceKind where
  | anchor
  | repetition
  | other
  deriving DecidableEq

structure Piece where
  kind : PieceKind
  regex : Regex

def Piece.plain (r : Regex) : Piece := ⟨.other, r⟩

def greed : Parse Greed := do
  match ← accept '?' with
  | true => pure .lazy
  | false =>
    match ← accept '+' with
    | true => pure .possessive
    | false => pure .greedy

/-- Applies a quantifier to the last piece, which must be neither an anchor nor a repetition. -/
def quantify (bounds : Bounds) (pieces : List Piece) : Parse (List Piece) := do
  match pieces with
  | ⟨.other, body⟩ :: before =>
    let greed ← greed
    modify fun s => { s with repetition := true }
    pure (⟨.repetition, body.times bounds greed⟩ :: before)
  | _ => fail

def flagLetters : Nat → Char → Flags → Parse (Flags × Char)
  | 0, _, _ => fail
  | fuel + 1, c, on => do
    match Flags.ofLetter? c with
    | none => fail
    | some flag =>
      let on := on.union flag
      if flag.locale || (flag.namesAlphabet && on.alphabet != flag) then fail
      else match ← next with
        | .plain d => if d = ')' || d = '-' || d = ':' then pure (on, d) else flagLetters fuel d on
        | _ => fail

def offLetters : Nat → Char → Flags → Parse Flags
  | 0, _, _ => fail
  | fuel + 1, c, off => do
    match Flags.ofLetter? c with
    | none => fail
    | some flag =>
      if flag.namesAlphabet then fail
      else match ← next with
        | .plain d => if d = ':' then pure (off.union flag) else offLetters fuel d (off.union flag)
        | _ => fail

/-- The flags of a group: `none` where they hold for the whole pattern, else those that the group
turns on and off. -/
def groupFlags (c : Char) : Parse (Option (Flags × Flags)) := do
  let fuel := (← get).rest.length + 2
  let (on, stop) ← if c = '-' then pure (({} : Flags), '-') else flagLetters fuel c {}
  if stop = ')' then
    modify fun s => { s with flags := s.flags.union on }
    pure none
  else if on.template then fail
  else
    let off ← if stop = '-' then
        match ← next with
        | .plain d => offLetters fuel d {}
        | _ => fail
      else pure {}
    if off.template || on.overlaps off then fail else pure (some (on, off))

def openGroup (name : Option (List Char)) : Parse Nat := do
  let s ← get
  let n := s.opened + 1
  match name with
  | none => set { s with opened := n }
  | some name =>
    if (s.names.lookup name).isSome then fail
    else set { s with opened := n, names := (name, n) :: s.names }
  pure n

def closeGroup (n : Nat) (body : Regex) : Parse Unit :=
  modify fun s => { s with closed := (n, body.width s.closed) :: s.closed }

def groupName (stop : Char) : Parse (List Char) := do
  let name ← takeUntil stop
  unless Text.isName name do fail
  pure name

def groupLimit : Nat := Nat.pow 2 30 - 1

def condition : Parse Nat := do
  let name ← takeUntil ')'
  let n ← if Text.isName name then
      match (← get).names.lookup name with
      | some n => pure n
      | none => fail
    else match Text.readInt? name with
      | some (.ofNat n) =>
        if n = 0 || groupLimit ≤ n then fail
        else
          modify fun s => { s with asked := n :: s.asked }
          pure n
      | _ => fail
  checkBehind n
  pure n

inductive Group where
  | piece (r : Regex)
  | comment
  | flags

inductive Opening where
  | capture (name : Option (List Char))
  | noncapturing (on off : Flags)
  | atomic
  | ahead (negated : Bool)
  | behind (negated : Bool)
  | condition (n : Nat)
  | closed (g : Group)

def lookBehindOpening : Parse Opening := do
  match ← next with
  | .plain '=' => pure (.behind false)
  | .plain '!' => pure (.behind true)
  | _ => fail

def namedOpening (flags : Flags) : Parse Opening := do
  match ← next with
  | .plain '<' => do pure (.capture (some (← groupName '>')))
  | .plain '=' => do
    match (← get).names.lookup (← groupName ')') with
    | none => fail
    | some n =>
      let _ ← reference n
      pure (.closed (.piece (.backref n flags.folding)))
  | _ => fail

def opening (flags : Flags) : Parse Opening := do
  if ← accept '?' then
    match ← next with
    | .plain 'P' => namedOpening flags
    | .plain ':' => pure (.noncapturing {} {})
    | .plain '#' => do
      match Token.untilPlain? ')' (← get).rest with
      | some (_, rest) => setRest rest; pure (.closed .comment)
      | none => fail
    | .plain '=' => pure (.ahead false)
    | .plain '!' => pure (.ahead true)
    | .plain '<' => lookBehindOpening
    | .plain '(' => .condition <$> condition
    | .plain '>' => pure .atomic
    | .plain c => do
      match ← groupFlags c with
      | none => pure (.closed .flags)
      | some (on, off) => pure (.noncapturing on off)
    | _ => fail
  else pure (.capture none)

def Escaped.piece (flags : Flags) : Escaped → Piece
  | .point n => .plain (.one (.point flags.folding n))
  | .kind k negated => .plain (.one (.set false [.kind k negated flags.ascii] .exact))
  | .anchor a => ⟨.anchor, .anchor a⟩
  | .reference n => .plain (.backref n flags.folding)

def isVerboseBlank (c : Char) : Bool :=
  c == ' ' || c == '\t' || c == '\n' || c == '\r' || c == '\x0b' || c == '\x0c'

def plainPiece (flags : Flags) : Char → Piece
  | '.' => .plain (.one (if flags.dotAll then .any else .notNewline))
  | '^' => ⟨.anchor, .anchor (if flags.multiline then .lineStart else .textStart)⟩
  | '$' => ⟨.anchor, .anchor (if flags.multiline then .lineEnd else .lastLineEnd)⟩
  | c => .plain (.one (.point flags.folding c.toNat))

mutual

/-- The choices of a pattern or of a group. Flags that a pattern sets at its start hold for all of
its choices. -/
def choices : Nat → Flags → Bool → Bool → Parse (List Regex)
  | 0, _, _, _ => fail
  | fuel + 1, flags, top, first => do
    let a ← pieces fuel flags (top && first) []
    if ← accept '|' then
      let s ← get
      let as ← choices fuel (if top then s.flags else flags) top false
      pure (a :: as)
    else pure [a]

/-- A sequence of pieces; those read so far stand in `acc`, the last one first. -/
def pieces : Nat → Flags → Bool → List Piece → Parse Regex
  | 0, _, _, _ => fail
  | fuel + 1, flags, first, acc => do
    match ← peek? with
    | none | some (.plain '|') | some (.plain ')') =>
      pure (.ofList (acc.reverse.map Piece.regex))
    | some t =>
      setRest (← get).rest.tail
      match t with
      | .escape c => do
        let e ← pieceEscape flags c
        pieces fuel flags first (e.piece flags :: acc)
      | .plain c =>
        if flags.verbose && isVerboseBlank c then pieces fuel flags first acc
        else if flags.verbose && c = '#' then
          setRest (Token.skipPast '\n' (← get).rest)
          pieces fuel flags first acc
        else if c = '[' then
          let r ← setPiece flags
          pieces fuel flags first (.plain r :: acc)
        else if c = '*' || c = '+' || c = '?' || c = '{' then
          match ← quantifier? c with
          | none => pieces fuel flags first (plainPiece flags c :: acc)
          | some bounds =>
            let acc ← quantify bounds acc
            pieces fuel flags first acc
        else if c = '(' then
          match ← group fuel flags with
          | .piece r => pieces fuel flags first (.plain r :: acc)
          | .comment => pieces fuel flags first acc
          | .flags =>
            let s ← get
            if first && acc.isEmpty then pieces fuel s.flags first acc else fail
        else pieces fuel flags first (plainPiece flags c :: acc)
      | .dangling => fail

def group : Nat → Flags → Parse Group
  | 0, _ => fail
  | fuel + 1, flags => do
    match ← opening flags with
    | .closed g => pure g
    | .capture name =>
      let n ← openGroup name
      let body := Regex.ofChoices flags.folding (← inside (choices fuel flags false true))
      expect ')'
      closeGroup n body
      pure (.piece (.group n body))
    | .noncapturing on off =>
      let inner := flags.within on off
      let body := Regex.ofChoices inner.folding (← inside (choices fuel inner false true))
      expect ')'
      pure (.piece body)
    | .atomic =>
      let body := Regex.ofChoices flags.folding (← inside (choices fuel flags false true))
      expect ')'
      pure (.piece (.atomic body))
    | .ahead negated =>
      let body := Regex.ofChoices flags.folding (← inside (choices fuel flags false true))
      expect ')'
      pure (.piece (.ahead negated body))
    | .behind negated =>
      let outer := (← get).behindFrom
      modify fun s => { s with behindFrom := some (outer.getD s.opened) }
      let body := Regex.ofChoices flags.folding (← inside (choices fuel flags false true))
      modify fun s => { s with behindFrom := outer }
      expect ')'
      let (lo, hi) := body.width (← get).closed
      if lo ≠ hi || repeatLimit < lo then modify fun s => { s with unfixed := true }
      pure (.piece (.behind negated lo body))
    | .condition n =>
      let yes ← inside (pieces fuel flags false [])
      let no ← match ← accept '|' with
        | true => inside (pieces fuel flags false [])
        | false => pure .empty
      expect ')'
      pure (.piece (.ifGroup n yes no))

end

def flagLimit : Int := Nat.pow 2 31

/-- The expression that a pattern stands for, and the number of its groups, which may be nested
`room` deep. The table `called` has the names of characters. -/
def parse (called : List Char → Option Nat) (room : Nat) (source : List Char) (flags : Int) :
    Read (Regex × Nat) := do
  let given := Flags.ofInt flags
  let (as, s) ← (choices (3 * source.length + 8) given true true).run
    { rest := Token.scan source, flags := given, room, called }
  if s.flags.locale then throw (.fault .localeFlag)
  if s.flags.ascii && s.flags.unicode then throw (.fault .alphabetClash)
  if !s.rest.isEmpty then throw .malformed
  if s.asked.any (s.opened < ·) then throw .malformed
  if s.unfixed || (s.flags.template && s.repetition) then throw .malformed
  if flags < -flagLimit || flagLimit ≤ flags then throw (.fault .flagsTooLarge)
  pure (Regex.ofChoices s.flags.folding as, s.opened)

end ReactLint.Pattern
