import ReactLint.Text.Split
import ReactLint.Yaml.Token

/-!
# Nodes of YAML

The tree that the tokens of a document describe. Every node has a tag: its own, or the one that its
form and its text imply. An alias stands for the node that its anchor marks; the tree is finite, so
an alias inside the collection that it marks stays an alias. Collections may be nested `room` deep.
-/

namespace ReactLint.Yaml

inductive Tag where
  | null
  | bool
  | int
  | float
  | text
  | timestamp
  | sequence
  | mapping
  | set
  /-- Pairs in their order, which may repeat a key. -/
  | pairs
  | binary
  /-- The key that takes over the pairs of other mappings. -/
  | merge
  /-- The key for the default value of a mapping. -/
  | default
  | unknown
  deriving DecidableEq, Repr, Inhabited

inductive Node where
  | scalar (tag : Tag) (text : String)
  | sequence (tag : Tag) (items : List Node)
  | mapping (tag : Tag) (pairs : List (Node × Node))
  /-- An alias inside the collection that it marks, which is a mapping or a sequence. -/
  | inner (mapping : Bool)
  deriving Inhabited

def standardUri : String := "tag:yaml.org,2002:"

def standardTags : List (String × Tag) :=
  [("null", .null), ("bool", .bool), ("int", .int), ("float", .float), ("str", .text),
    ("timestamp", .timestamp), ("seq", .sequence), ("map", .mapping), ("set", .set),
    ("omap", .pairs), ("pairs", .pairs), ("binary", .binary), ("merge", .merge),
    ("value", .default)]

def Tag.ofUri (uri : String) : Tag :=
  ((standardTags.map fun (name, t) => (standardUri ++ name, t)).lookup uri).getD .unknown

/-! ## The tag of a plain text -/

def truthWords : List (String × Bool) :=
  [("yes", true), ("no", false), ("true", true), ("false", false), ("on", true), ("off", false)]

def casings (word : String) : List String :=
  [word, word.capitalize, String.ofList (word.toList.map Char.toUpper)]

def isTruthWord (s : String) : Bool := (truthWords.flatMap fun w => casings w.1).contains s

def isNullWord (s : String) : Bool := s == "" || s == "~" || (casings "null").contains s

def dropSign : List Char → List Char
  | c :: cs => if c = '+' ∨ c = '-' then cs else c :: cs
  | [] => []

def isDigitOrLine (c : Char) : Bool := c.isDigit || c == '_'

/-- Digits and underscores, of which the first is a digit. -/
def isDigits : List Char → Bool
  | c :: cs => c.isDigit && cs.all isDigitOrLine
  | [] => false

/-- One of sixty: one digit, or two of which the first is below six. -/
def isSixtieth : List Char → Bool
  | [a] => a.isDigit
  | [a, b] => '0' ≤ a && a ≤ '5' && b.isDigit
  | _ => false

def colonParts (cs : List Char) : List (List Char) := Text.parts ':' cs

def startsAboveZero : List Char → Bool
  | c :: _ => c != '0'
  | [] => false

def isIntText (cs : List Char) : Bool :=
  match dropSign cs with
  | ['0'] => true
  | '0' :: 'b' :: ds => !ds.isEmpty && ds.all fun c => c == '0' || c == '1' || c == '_'
  | '0' :: 'x' :: ds => !ds.isEmpty && ds.all fun c => Text.isHex c || c == '_'
  | '0' :: ds => ds.all fun c => ('0' ≤ c && c ≤ '7') || c == '_'
  | ds =>
    match colonParts ds with
    | first :: more => isDigits first && startsAboveZero first && more.all isSixtieth
    | [] => false

def isExponent : List Char → Bool
  | [] => true
  | [_] => false
  | e :: s :: ds =>
    (e == 'e' || e == 'E') && (s == '+' || s == '-') && !ds.isEmpty && ds.all Char.isDigit

def isFractionText (cs : List Char) : Bool := isExponent (cs.dropWhile isDigitOrLine)

def isInfinityText (cs : List Char) : Bool :=
  [".inf", ".Inf", ".INF"].contains (String.ofList (dropSign cs))

def isFloatText (cs : List Char) : Bool :=
  let ds := dropSign cs
  let whole := ds.takeWhile fun c => c != '.'
  match ds.dropWhile fun c => c != '.' with
  | '.' :: fraction =>
    (isDigits whole && isFractionText fraction) ||
    (cs.head? == some '.' && andNotEnd Char.isDigit fraction.head? && isFractionText fraction) ||
    (match colonParts whole with
      | first :: more =>
        isDigits first && !more.isEmpty && more.all isSixtieth && fraction.all isDigitOrLine
      | [] => false) ||
    isInfinityText cs || [".nan", ".NaN", ".NAN"].contains (String.ofList cs)
  | _ => false

structure Stamp where
  year : Nat
  month : Nat
  day : Nat
  /-- Hour, minute, second, the digits behind the point and the distance from universal time. -/
  time : Option (Nat × Nat × Nat × List Char × Option Int)

def natOf (ds : List Char) : Nat := Text.ofDigits 10 (ds.map fun d => d.toNat - 48)

def digits? (least most : Nat) (cs : List Char) : Option (Nat × List Char) :=
  let ds := (cs.take most).takeWhile Char.isDigit
  if least ≤ ds.length then some (natOf ds, cs.drop ds.length) else none

def drop? (c : Char) : List Char → Option (List Char)
  | d :: cs => if d = c then some cs else none
  | [] => none

def zone? (cs : List Char) : Option (Option Int) :=
  match cs.dropWhile isSpaceTab with
  | [] => if cs.isEmpty then some none else none
  | ['Z'] => some (some 0)
  | sign :: rest =>
    if sign = '+' ∨ sign = '-' then do
      let (hour, rest) ← digits? 1 2 rest
      let minute ← match rest with
        | [] => some 0
        | ':' :: rest => do
          let (minute, rest) ← digits? 2 2 rest
          if rest.isEmpty then some minute else none
        | _ => none
      let n : Int := (hour * 60 + minute) * 60
      some (some (if sign = '-' then -n else n))
    else none

def dropGap? : List Char → Option (List Char)
  | c :: cs =>
    if c = 'T' ∨ c = 't' then some cs
    else if isSpaceTab c then some (cs.dropWhile isSpaceTab)
    else none
  | [] => none

def stamp? (cs : List Char) : Option Stamp := do
  let (year, cs) ← digits? 4 4 cs
  let (month, cs) ← digits? 1 2 (← drop? '-' cs)
  let (day, cs) ← digits? 1 2 (← drop? '-' cs)
  if cs.isEmpty then some ⟨year, month, day, none⟩
  else do
    let (hour, cs) ← digits? 1 2 (← dropGap? cs)
    let (minute, cs) ← digits? 2 2 (← drop? ':' cs)
    let (second, cs) ← digits? 2 2 (← drop? ':' cs)
    let (fraction, cs) := match cs with
      | '.' :: cs => cs.span Char.isDigit
      | cs => ([], cs)
    some ⟨year, month, day, some (hour, minute, second, fraction, ← zone? cs)⟩

def isStampText (cs : List Char) : Bool :=
  (stamp? cs).any fun s => s.time.isSome || cs.length == 10

def Tag.ofPlain (s : String) : Tag :=
  let cs := s.toList
  if isTruthWord s then .bool
  else if isFloatText cs then .float
  else if isIntText cs then .int
  else if s == "<<" then .merge
  else if isNullWord s then .null
  else if isStampText cs then .timestamp
  else if s == "=" then .default
  else .text

/-! ## The tree -/

structure Compose where
  tokens : List Token
  anchors : List (String × Node) := []
  handles : List (String × String) := []
  /-- How many more collections may be opened inside one another. -/
  room : Nat

namespace Compose

abbrev Composer := StateT Compose Read

def fail {α : Type} : Composer α := throw .malformed

def peek : Composer (Option Token) := do pure (← get).tokens.head?

def advance : Composer Unit := modify fun c => { c with tokens := c.tokens.tail }

def accept (t : Token) : Composer Bool := do
  if (← peek) = some t then
    advance
    pure true
  else pure false

def expect (t : Token) : Composer Unit := do
  unless ← accept t do fail

def nextIn (ts : List Token) : Composer Bool := do
  match ← peek with
  | some t => pure (ts.contains t)
  | none => pure false

def takeAnchor? : Composer (Option String) := do
  match ← peek with
  | some (.anchor name) =>
    advance
    pure (some name)
  | _ => pure none

def takeTag? : Composer (Option String) := do
  match ← peek with
  | some (.tag none uri) =>
    advance
    pure (some uri)
  | some (.tag (some handle) suffix) =>
    advance
    match (← get).handles.lookup handle with
    | some uri => pure (some (uri ++ suffix))
    | none => fail
  | _ => pure none

def properties : Composer (Option String × Option String) := do
  match ← takeAnchor? with
  | some name => pure (some name, ← takeTag?)
  | none =>
    let tag ← takeTag?
    let anchor ← if tag.isSome then takeAnchor? else pure none
    pure (anchor, tag)

def mark (anchor : Option String) (n : Node) : Composer Unit :=
  match anchor with
  | some name => modify fun c => { c with anchors := (name, n) :: c.anchors }
  | none => pure ()

def inside {α : Type} (body : Composer α) : Composer α := do
  let room := (← get).room
  if room = 0 then throw (.fault .tooDeep)
  modify fun c => { c with room := room - 1 }
  let a ← body
  modify fun c => { c with room }
  pure a

def collectionTag (tag : Option String) (implied : Tag) : Tag :=
  match tag with
  | none => implied
  | some uri => if uri = "!" then implied else .ofUri uri

/-- The tag of a scalar. A lone exclamation mark has its text read as a plain one. -/
def scalarTag (tag : Option String) (text : String) (plain : Bool) : Tag :=
  match tag with
  | none => if plain then .ofPlain text else .text
  | some uri => if uri = "!" then .ofPlain text else .ofUri uri

def emptyNode : Node := .scalar .null ""

mutual

/-- A node. A block collection is possible only where `block` says so, and a sequence that is not
indented only where `inMapping` does. -/
def node (block inMapping : Bool) : Nat → Composer Node
  | 0 => fail
  | fuel + 1 => do
    match ← peek with
    | some (.alias name) =>
      advance
      match (← get).anchors.lookup name with
      | some n => pure n
      | none => fail
    | _ =>
      let (anchor, tag) ← properties
      let c ← get
      if anchor.any fun name => (c.anchors.lookup name).isSome then fail
      let sequence (close : Bool) (items : Composer (List Node)) : Composer Node := do
        if close then advance
        mark anchor (.inner false)
        let n := Node.sequence (collectionTag tag .sequence) (← inside items)
        mark anchor n
        pure n
      let mapping (pairs : Composer (List (Node × Node))) : Composer Node := do
        advance
        mark anchor (.inner true)
        let n := Node.mapping (collectionTag tag .mapping) (← inside pairs)
        mark anchor n
        pure n
      let scalar (text : String) (plain : Bool) : Composer Node := do
        let n := Node.scalar (scalarTag tag text plain) text
        mark anchor n
        pure n
      let lone : Composer Node :=
        if anchor.isSome || tag.isSome then scalar "" true else fail
      match ← peek with
      | some (.scalar text plain) =>
        advance
        scalar text plain
      | some .flowSequenceStart => sequence true (flowItems true fuel)
      | some .flowMappingStart => mapping (flowPairs true fuel)
      | some .blockEntry =>
        if inMapping then sequence false (looseItems fuel) else lone
      | some .sequenceStart =>
        if block then sequence true (blockItems fuel) else lone
      | some .mappingStart =>
        if block then mapping (blockPairs fuel) else lone
      | _ => lone

def nodeUnless (stops : List Token) (block inMapping : Bool) : Nat → Composer Node
  | 0 => fail
  | fuel + 1 => do
    if ← nextIn stops then pure emptyNode else node block inMapping fuel

def blockItems : Nat → Composer (List Node)
  | 0 => fail
  | fuel + 1 => do
    if ← accept .blockEntry then
      let n ← nodeUnless [.blockEntry, .blockEnd] true false fuel
      pure (n :: (← blockItems fuel))
    else
      expect .blockEnd
      pure []

/-- The items of a block sequence in a mapping, which is not indented and has no end of its own. -/
def looseItems : Nat → Composer (List Node)
  | 0 => fail
  | fuel + 1 => do
    if ← accept .blockEntry then
      let n ← nodeUnless [.blockEntry, .key, .value, .blockEnd] true false fuel
      pure (n :: (← looseItems fuel))
    else pure []

def valueUnless (stops : List Token) (block inMapping : Bool) : Nat → Composer Node
  | 0 => fail
  | fuel + 1 => do
    if ← accept .value then nodeUnless stops block inMapping fuel else pure emptyNode

def blockPairs : Nat → Composer (List (Node × Node))
  | 0 => fail
  | fuel + 1 => do
    if ← accept .key then
      let k ← nodeUnless [.key, .value, .blockEnd] true true fuel
      let v ← valueUnless [.key, .value, .blockEnd] true true fuel
      pure ((k, v) :: (← blockPairs fuel))
    else
      expect .blockEnd
      pure []

/-- The items of a flow sequence; a pair among them is a mapping of its own. -/
def flowItems (first : Bool) : Nat → Composer (List Node)
  | 0 => fail
  | fuel + 1 => do
    if ← accept .flowSequenceEnd then pure []
    else
      unless first do expect .flowEntry
      if ← accept .flowSequenceEnd then pure []
      else if ← accept .key then
        let k ← nodeUnless [.value, .flowEntry, .flowSequenceEnd] false false fuel
        let v ← valueUnless [.flowEntry, .flowSequenceEnd] false false fuel
        pure (.mapping .mapping [(k, v)] :: (← flowItems false fuel))
      else
        let n ← node false false fuel
        pure (n :: (← flowItems false fuel))

/-- The pairs of a flow mapping; a lone node is a key with an empty value. -/
def flowPairs (first : Bool) : Nat → Composer (List (Node × Node))
  | 0 => fail
  | fuel + 1 => do
    if ← accept .flowMappingEnd then pure []
    else
      unless first do expect .flowEntry
      if ← accept .flowMappingEnd then pure []
      else if ← accept .key then
        let k ← nodeUnless [.value, .flowEntry, .flowMappingEnd] false false fuel
        let v ← valueUnless [.flowEntry, .flowMappingEnd] false false fuel
        pure ((k, v) :: (← flowPairs false fuel))
      else
        let n ← node false false fuel
        pure ((n, emptyNode) :: (← flowPairs false fuel))

end

def standardHandles : List (String × String) := [("!", "!"), ("!!", standardUri)]

/-- The directives in front of a document: one version at most, and no handle twice. -/
def directives (versioned : Bool) (own : List (String × String)) :
    Nat → Composer (List (String × String))
  | 0 => fail
  | fuel + 1 => do
    match ← peek with
    | some (.directive d) =>
      advance
      match d with
      | .version major =>
        if versioned || major ≠ 1 then fail else directives true own fuel
      | .handle name uri =>
        if (own.lookup name).isSome then fail else directives versioned ((name, uri) :: own) fuel
      | .other => directives versioned own fuel
    | _ => pure own

def skipEnds : Nat → Composer Unit
  | 0 => pure ()
  | fuel + 1 => do
    if ← accept .documentEnd then skipEnds fuel

def document (fuel : Nat) : Composer (Option Node) := do
  match ← peek with
  | none => pure none
  | some t =>
    let explicit := match t with
      | .directive _ => true
      | t => t == .documentStart
    let own ← directives false [] fuel
    modify fun c => { c with handles := own ++ standardHandles }
    if explicit then expect .documentStart
    let stops : List Token := [.documentStart, .documentEnd]
    let ends := match ← peek with
      | none => true
      | some (.directive _) => true
      | some t => stops.contains t
    let n ← if explicit && ends then pure emptyNode else node true false fuel
    skipEnds fuel
    if (← peek).isSome then fail
    pure (some n)

end Compose

def compose (room : Nat) (cs : List Char) : Read (Option Node) := do
  let tokens ← tokenize cs
  let (n, _) ← (Compose.document (4 * tokens.length + 4)).run { tokens, room }
  pure n

end ReactLint.Yaml
