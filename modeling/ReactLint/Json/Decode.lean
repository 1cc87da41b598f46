import ReactLint.Json.Basic
import ReactLint.Text.Notation

/-!
# Reading JSON

The grammar of RFC 8259, and beyond it the three names `NaN`, `Infinity` and `-Infinity`. Two
escaped UTF-16 units that form a pair are one character; a unit that has no partner stays as it is,
but for the name of a member, where it counts as the replacement character: nothing looks at such a
name. A number with a point or an exponent is a floating-point number.
-/

namespace ReactLint.Json

def isSpace (c : Char) : Bool := c == ' ' || c == '\t' || c == '\n' || c == '\r'

def skipSpace (cs : List Char) : List Char := cs.dropWhile isSpace

def unit? (a b c d : Char) : Option Nat := Text.ofHex? [a, b, c, d]

def shortEscape? : Char → Option Nat
  | '"' => some 34
  | '\\' => some 92
  | '/' => some 47
  | 'b' => some 8
  | 'f' => some 12
  | 'n' => some 10
  | 'r' => some 13
  | 't' => some 9
  | _ => none

/-- The code points and escaped units of a text, from behind its opening quote, and what follows
its closing one. -/
def readUnits : List Char → Option (List Nat × List Char)
  | [] => none
  | '"' :: cs => some ([], cs)
  | '\\' :: 'u' :: a :: b :: c :: d :: cs => do
    let u ← unit? a b c d
    let (us, rest) ← readUnits cs
    pure (u :: us, rest)
  | '\\' :: e :: cs => do
    let u ← shortEscape? e
    let (us, rest) ← readUnits cs
    pure (u :: us, rest)
  | c :: cs =>
    if c.toNat < 32 then none
    else do
      let (us, rest) ← readUnits cs
      pure (c.toNat :: us, rest)

def isHigh (u : Nat) : Bool := 0xD800 ≤ u && u < 0xDC00

def isLow (u : Nat) : Bool := 0xDC00 ≤ u && u < 0xE000

/-- Joins pairs of units, so that code points are left. -/
def joinUnits : List Nat → List Nat
  | u :: v :: us =>
    if isHigh u && isLow v then (0x10000 + (u - 0xD800) * 0x400 + (v - 0xDC00)) :: joinUnits us
    else u :: joinUnits (v :: us)
  | us => us

def isCharacter (n : Nat) : Bool := !isHigh n && !isLow n

def ofPoints (points : List Nat) : Json :=
  if points.all isCharacter then .text (String.ofList (points.map Char.ofNat)) else .broken points

def nameOf (points : List Nat) : String :=
  String.ofList (points.map fun n => if isCharacter n then Char.ofNat n else '\uFFFD')

def readText (cs : List Char) : Option (List Nat × List Char) :=
  (readUnits cs).map fun (us, rest) => (joinUnits us, rest)

def spanDigits : List Char → List Char × List Char
  | c :: cs =>
    if c.isDigit then
      let (ds, rest) := spanDigits cs
      (c :: ds, rest)
    else ([], c :: cs)
  | [] => ([], [])

def decimalValue (ds : List Char) : Nat := Text.ofDigits 10 (ds.map fun c => c.toNat - 48)

def readFraction : List Char → Option (List Char) × List Char
  | '.' :: cs =>
    match spanDigits cs with
    | ([], _) => (none, '.' :: cs)
    | (ds, rest) => (some ds, rest)
  | cs => (none, cs)

def readSign : List Char → Bool × List Char
  | '-' :: cs => (true, cs)
  | '+' :: cs => (false, cs)
  | cs => (false, cs)

def readExponent : List Char → Option Int × List Char
  | c :: cs =>
    if c = 'e' ∨ c = 'E' then
      let (negative, cs') := readSign cs
      match spanDigits cs' with
      | ([], _) => (none, c :: cs)
      | (ds, rest) =>
        let n : Int := decimalValue ds
        (some (if negative then -n else n), rest)
    else (none, c :: cs)
  | [] => (none, [])

/-- The digits in front of a point or an exponent. A leading zero stands alone. -/
def readWhole : List Char → List Char × List Char
  | '0' :: cs => (['0'], cs)
  | cs => spanDigits cs

def readMagnitude (negative : Bool) (cs : List Char) : Option (Json × List Char) :=
  let (whole, rest) := readWhole cs
  if whole.isEmpty then none
  else
    let (fraction, rest) := readFraction rest
    let (exponent, rest) := readExponent rest
    match fraction, exponent with
    | none, none =>
      let n : Int := decimalValue whole
      some (.int (if negative then -n else n), rest)
    | _, _ =>
      let ds := fraction.getD []
      some (.float (.ofDecimal negative (decimalValue (whole ++ ds))
        (exponent.getD 0 - ds.length)), rest)

def readNumber : List Char → Option (Json × List Char)
  | '-' :: cs => readMagnitude true cs
  | cs => readMagnitude false cs

def constants : List (String × Json) :=
  [("null", .null), ("true", .bool true), ("false", .bool false), ("NaN", .float .nan),
    ("Infinity", .float (.infinite false)), ("-Infinity", .float (.infinite true))]

def dropName? (name : List Char) (cs : List Char) : Option (List Char) :=
  if name.isPrefixOf cs then some (cs.drop name.length) else none

def readConstant (cs : List Char) : Option (Json × List Char) :=
  constants.findSome? fun (name, j) => (dropName? name.toList cs).map fun rest => (j, rest)

mutual

def readValue : Nat → List Char → Option (Json × List Char)
  | 0, _ => none
  | fuel + 1, cs =>
    match skipSpace cs with
    | '"' :: rest => (readText rest).map fun (points, rest) => (ofPoints points, rest)
    | '[' :: rest =>
      match skipSpace rest with
      | ']' :: rest => some (.list [], rest)
      | rest => (readItems fuel rest).map fun (js, rest) => (.list js, rest)
    | '\x7b' :: rest =>
      match skipSpace rest with
      | '\x7d' :: rest => some (.object [], rest)
      | rest => (readMembers fuel rest).map fun (ms, rest) => (.object ms, rest)
    | rest => readConstant rest <|> readNumber rest

def readItems : Nat → List Char → Option (List Json × List Char)
  | 0, _ => none
  | fuel + 1, cs =>
    match readValue fuel cs with
    | none => none
    | some (j, rest) =>
      match skipSpace rest with
      | ',' :: rest => (readItems fuel rest).map fun (js, rest) => (j :: js, rest)
      | ']' :: rest => some ([j], rest)
      | _ => none

def readMembers : Nat → List Char → Option (List (String × Json) × List Char)
  | 0, _ => none
  | fuel + 1, cs =>
    match skipSpace cs with
    | '"' :: rest =>
      match readText rest with
      | none => none
      | some (name, rest) =>
        match skipSpace rest with
        | ':' :: rest =>
          match readValue fuel rest with
          | none => none
          | some (j, rest) =>
            match skipSpace rest with
            | ',' :: rest =>
              (readMembers fuel rest).map fun (ms, rest) => ((nameOf name, j) :: ms, rest)
            | '\x7d' :: rest => some ([(nameOf name, j)], rest)
            | _ => none
        | _ => none
    | _ => none

end

def decodeChars (cs : List Char) : Option Json :=
  match readValue (2 * cs.length + 2) cs with
  | some (j, rest) => if (skipSpace rest).isEmpty then some j else none
  | none => none

def decode (s : String) : Option Json := decodeChars s.toList

end ReactLint.Json
