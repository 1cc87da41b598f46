import ReactLint.Fault
import ReactLint.Text.Notation
import ReactLint.Value.Basic

/-!
# Scalars of TOML

Texts in their four forms, whole and floating-point numbers, dates and times, as TOML 1.0 writes
them. A reader takes the characters that are left and answers with what it has read and what is left
behind it.
-/

namespace ReactLint.Toml

def isSpace (c : Char) : Bool := c == ' ' || c == '\t'

def skipSpace (cs : List Char) : List Char := cs.dropWhile isSpace

/-- The characters that may stand in no line: the ASCII controls but for the tab. -/
def isControl (c : Char) : Bool := (c.toNat < 32 && c != '\t') || c.toNat == 127

def skipComment : List Char → Read (List Char)
  | '#' :: cs =>
    let (comment, rest) := cs.span (· != '\n')
    if comment.any isControl then .error .malformed else .ok rest
  | cs => .ok cs

/-! ## Texts -/

def shortEscape? : Char → Option Char
  | 'b' => some '\x08'
  | 't' => some '\t'
  | 'n' => some '\n'
  | 'f' => some '\x0c'
  | 'r' => some '\r'
  | '"' => some '"'
  | '\\' => some '\\'
  | _ => none

def consRead (c? : Option Char) (more : Read (List Char × List Char)) :
    Read (List Char × List Char) :=
  match c?, more with
  | some c, .ok (cs, rest) => .ok (c :: cs, rest)
  | none, _ => .error .malformed
  | _, .error e => .error e

def readBasic : List Char → Read (List Char × List Char)
  | [] => .error .malformed
  | '"' :: cs => .ok ([], cs)
  | '\\' :: 'u' :: a :: b :: c :: d :: cs =>
    consRead (Text.ofHexPoint? [a, b, c, d]) (readBasic cs)
  | '\\' :: 'U' :: a :: b :: c :: d :: e :: f :: g :: h :: cs =>
    consRead (Text.ofHexPoint? [a, b, c, d, e, f, g, h]) (readBasic cs)
  | '\\' :: e :: cs => consRead (shortEscape? e) (readBasic cs)
  | c :: cs => consRead (if isControl c || c == '\\' then none else some c) (readBasic cs)

/-- Where a text of several lines stands: in its contents, behind a backslash that must end its
line, or in the white space that such a backslash removes. -/
inductive LineMode where
  | contents
  | lineEnd
  | indent
  deriving DecidableEq, Repr

def readBasicLines : LineMode → List Char → Read (List Char × List Char)
  | _, [] => .error .malformed
  | .lineEnd, c :: cs =>
    if c = '\n' then readBasicLines .indent cs
    else if isSpace c then readBasicLines .lineEnd cs
    else .error .malformed
  | _, '"' :: '"' :: '"' :: cs => .ok ([], cs)
  | _, '\\' :: 'u' :: a :: b :: c :: d :: cs =>
    consRead (Text.ofHexPoint? [a, b, c, d]) (readBasicLines .contents cs)
  | _, '\\' :: 'U' :: a :: b :: c :: d :: e :: f :: g :: h :: cs =>
    consRead (Text.ofHexPoint? [a, b, c, d, e, f, g, h]) (readBasicLines .contents cs)
  | _, '\\' :: e :: cs =>
    if e = '\n' then readBasicLines .indent cs
    else if isSpace e then readBasicLines .lineEnd cs
    else consRead (shortEscape? e) (readBasicLines .contents cs)
  | mode, c :: cs =>
    if mode = .indent && (isSpace c || c == '\n') then readBasicLines .indent cs
    else
      consRead (if (isControl c && c != '\n') || c == '\\' then none else some c)
        (readBasicLines .contents cs)

def readLiteral : List Char → Read (List Char × List Char)
  | [] => .error .malformed
  | '\'' :: cs => .ok ([], cs)
  | c :: cs => consRead (if isControl c then none else some c) (readLiteral cs)

def readLiteralLines : List Char → Read (List Char × List Char)
  | [] => .error .malformed
  | '\'' :: '\'' :: '\'' :: cs => .ok ([], cs)
  | c :: cs => consRead (if isControl c && c != '\n' then none else some c) (readLiteralLines cs)

/-- Up to two more quotes behind the three that close a text belong to it. -/
def lateQuotes (quote : Char) (text rest : List Char) : List Char × List Char :=
  let extra := (rest.take 2).takeWhile (· == quote)
  (text ++ extra, rest.drop extra.length)

def dropNewline : List Char → List Char
  | '\n' :: cs => cs
  | cs => cs

def asText : Read (List Char × List Char) → Read (Value × List Char)
  | .ok (cs, rest) => .ok (.text (String.ofList cs), rest)
  | .error e => .error e

def readText? : List Char → Option (Read (Value × List Char))
  | '"' :: '"' :: '"' :: cs => some <| asText do
    let (text, rest) ← readBasicLines .contents (dropNewline cs)
    pure (lateQuotes '"' text rest)
  | '"' :: cs => some (asText (readBasic cs))
  | '\'' :: '\'' :: '\'' :: cs => some <| asText do
    let (text, rest) ← readLiteralLines (dropNewline cs)
    pure (lateQuotes '\'' text rest)
  | '\'' :: cs => some (asText (readLiteral cs))
  | _ => none

/-! ## Dates and times -/

def digitPair? : List Char → Option (Nat × List Char)
  | a :: b :: cs =>
    if a.isDigit && b.isDigit then some ((a.toNat - 48) * 10 + (b.toNat - 48), cs) else none
  | _ => none

def dropChar? (c : Char) : List Char → Option (List Char)
  | d :: cs => if d = c then some cs else none
  | [] => none

/-- Microseconds behind a point: six digits count, and any more are left out. -/
def readMicroseconds : List Char → Nat × List Char
  | '.' :: cs =>
    let (ds, rest) := cs.span Char.isDigit
    if ds.isEmpty then (0, '.' :: cs)
    else
      let kept := ds.take 6
      (Text.ofDigits 10 ((kept ++ List.replicate (6 - kept.length) '0').map
        fun c => c.toNat - 48), rest)
  | cs => (0, cs)

def readTime? (cs : List Char) : Option (TimeOfDay × List Char) := do
  let (hour, cs) ← digitPair? cs
  let (minute, cs) ← digitPair? (← dropChar? ':' cs)
  let (second, cs) ← digitPair? (← dropChar? ':' cs)
  let (microsecond, rest) := readMicroseconds cs
  let t : TimeOfDay := ⟨hour, minute, second, microsecond⟩
  if t.isValid then some (t, rest) else none

def readDistance? (cs : List Char) : Option (Int × List Char) := do
  let (hour, cs) ← digitPair? cs
  let (minute, cs) ← digitPair? (← dropChar? ':' cs)
  if hour < 24 && minute < 60 then some ((hour * 60 + minute) * 60, cs) else none

def readZone (cs : List Char) : Option Int × List Char :=
  match cs with
  | c :: rest =>
    if c = 'Z' ∨ c = 'z' then (some 0, rest)
    else if c = '+' ∨ c = '-' then
      match readDistance? rest with
      | some (n, rest) => (some (if c = '-' then -n else n), rest)
      | none => (none, cs)
    else (none, cs)
  | [] => (none, [])

def readDate? (cs : List Char) : Option (Date × List Char) := do
  let (century, cs) ← digitPair? cs
  let (year, cs) ← digitPair? cs
  let (month, cs) ← digitPair? (← dropChar? '-' cs)
  let (day, cs) ← digitPair? (← dropChar? '-' cs)
  if 1 ≤ month && month ≤ 12 && 1 ≤ day && day ≤ 31 then
    some (⟨century * 100 + year, month, day⟩, cs)
  else none

def readLaterTime? : List Char → Option (TimeOfDay × List Char)
  | c :: cs => if c = 'T' ∨ c = 't' ∨ c = ' ' then readTime? cs else none
  | [] => none

def readCalendar? (cs : List Char) : Option (Read (Value × List Char)) :=
  match readDate? cs with
  | some (date, rest) =>
    let read : Value × List Char :=
      match readLaterTime? rest with
      | some (time, rest) =>
        let (zone, rest) := readZone rest
        (.moment ⟨date, time, zone⟩, rest)
      | none => (.date date, rest)
    some (if date.isValid then .ok read else .error .malformed)
  | none => (readTime? cs).map fun (t, rest) => .ok (.time t, rest)

/-! ## Numbers -/

/-- Digits, with single underscores between them, which are left out. -/
def spanGrouped (p : Char → Bool) : List Char → List Char × List Char
  | '_' :: c :: cs =>
    if p c then
      let (ds, rest) := spanGrouped p cs
      (c :: ds, rest)
    else ([], '_' :: c :: cs)
  | c :: cs =>
    if p c then
      let (ds, rest) := spanGrouped p cs
      (c :: ds, rest)
    else ([], c :: cs)
  | [] => ([], [])

def spanNumber? (p : Char → Bool) : List Char → Option (List Char × List Char)
  | c :: cs =>
    if p c then
      let (ds, rest) := spanGrouped p cs
      some (c :: ds, rest)
    else none
  | [] => none

def valueIn (base : Nat) (ds : List Char) : Nat :=
  Text.ofDigits base (ds.filterMap Text.hexValue?)

def readRadix? : List Char → Option (Value × List Char)
  | '0' :: mark :: cs => do
    let (base, isDigit) ← match mark with
      | 'x' => some (16, Text.isHex)
      | 'b' => some (2, fun c => c == '0' || c == '1')
      | 'o' => some (8, fun c => decide ('0' ≤ c) && decide (c ≤ '7'))
      | _ => none
    let (ds, rest) ← spanNumber? isDigit cs
    some (.int (valueIn base ds), rest)
  | _ => none

def readSign : List Char → Bool × List Char
  | '-' :: cs => (true, cs)
  | '+' :: cs => (false, cs)
  | cs => (false, cs)

def signed (negative : Bool) (n : Nat) : Int := if negative then -n else n

def readWhole? : List Char → Option (List Char × List Char)
  | '0' :: cs => some (['0'], cs)
  | cs => spanNumber? Char.isDigit cs

def readFraction : List Char → Option (List Char) × List Char
  | '.' :: cs =>
    match spanNumber? Char.isDigit cs with
    | some (ds, rest) => (some ds, rest)
    | none => (none, '.' :: cs)
  | cs => (none, cs)

def readExponent : List Char → Option Int × List Char
  | c :: cs =>
    if c = 'e' ∨ c = 'E' then
      let (negative, digits) := readSign cs
      match spanNumber? Char.isDigit digits with
      | some (ds, rest) => (some (signed negative (valueIn 10 ds)), rest)
      | none => (none, c :: cs)
    else (none, c :: cs)
  | [] => (none, [])

def readDecimal? (cs : List Char) : Option (Read (Value × List Char)) := do
  let (negative, cs) := readSign cs
  let (whole, cs) ← readWhole? cs
  let (fraction, cs) := readFraction cs
  let (exponent, rest) := readExponent cs
  match fraction, exponent with
  | none, none =>
    if whole.length ≤ Text.digitLimit then
      some (.ok (.int (signed negative (valueIn 10 whole)), rest))
    else some (.error (.fault .tooManyDigits))
  | _, _ =>
    let ds := fraction.getD []
    some (.ok (.float (.ofDecimal negative (valueIn 10 (whole ++ ds))
      (exponent.getD 0 - ds.length)), rest))

def constants : List (String × Value) :=
  [("true", .bool true), ("false", .bool false), ("inf", .float (.infinite false)),
    ("+inf", .float (.infinite false)), ("-inf", .float (.infinite true)), ("nan", .float .nan),
    ("+nan", .float .nan), ("-nan", .float .nan)]

def readConstant? (cs : List Char) : Option (Value × List Char) :=
  constants.findSome? fun (name, v) =>
    if name.toList.isPrefixOf cs then some (v, cs.drop name.length) else none

def readScalar (cs : List Char) : Read (Value × List Char) :=
  (readText? cs <|> readCalendar? cs <|> (readRadix? cs).map Except.ok <|> readDecimal? cs <|>
    (readConstant? cs).map Except.ok).getD (.error .malformed)

/-! ## Keys -/

def isBareKey (c : Char) : Bool := c.isAlphanum || c == '-' || c == '_'

def asString : Read (List Char × List Char) → Read (String × List Char)
  | .ok (cs, rest) => .ok (String.ofList cs, rest)
  | .error e => .error e

def readKeyPart : List Char → Read (String × List Char)
  | '"' :: cs => asString (readBasic cs)
  | '\'' :: cs => asString (readLiteral cs)
  | cs =>
    let (part, rest) := cs.span isBareKey
    if part.isEmpty then .error .malformed else .ok (String.ofList part, rest)

def readKeyTail : Nat → List Char → Read (List String × List Char)
  | 0, _ => .error .malformed
  | fuel + 1, cs =>
    match skipSpace cs with
    | '.' :: cs => do
      let (part, rest) ← readKeyPart (skipSpace cs)
      let (parts, rest) ← readKeyTail fuel rest
      pure (part :: parts, rest)
    | cs => .ok ([], cs)

def readKey (cs : List Char) : Read (List String × List Char) := do
  let (part, rest) ← readKeyPart cs
  let (parts, rest) ← readKeyTail (rest.length + 1) rest
  pure (part :: parts, rest)

end ReactLint.Toml
