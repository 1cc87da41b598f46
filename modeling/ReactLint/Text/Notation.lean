import ReactLint.Text.Character

/-!
# Written numbers and quoted texts

A whole number may stand between blanks, may carry one sign, may be written with the decimal digits
of any script, and may have single underscores between its digits. More than 4300 digits are
refused.

A text is quoted with single quotes, or with double quotes when it holds a single quote and no
double one. The quote in use, the backslash, the newline, the tab and the carriage return are
escaped by a backslash, and characters that are not printable by their code points.
-/

namespace ReactLint.Text

/-! ## Whole numbers -/

def digitLimit : Nat := 4300

/-- Digits with single underscores between them, most significant first. `started` says that a
digit has been read, so that an underscore may follow. -/
def digitValues : Bool → List Char → Option (List Nat)
  | started, [] => if started then some [] else none
  | started, '_' :: cs => if started then (digitValues false cs) else none
  | _, c :: cs => do
    let d ← digitValue? c
    let ds ← digitValues true cs
    pure (d :: ds)

/-- Whether a whole number has few enough digits to be written; as many are written as are read. -/
def isShort (n : Int) : Bool := n.natAbs < Nat.pow 10 digitLimit

def ofDigits (base : Nat) (ds : List Nat) : Nat := ds.foldl (fun n d => n * base + d) 0

def readNat? (cs : List Char) : Option Nat := do
  let ds ← digitValues false cs
  if ds.length ≤ digitLimit then some (ofDigits 10 ds) else none

/-- The blanks that may stand around a number: all but the information separators. -/
def isOuterBlank (c : Char) : Bool := isBlank c && !(28 ≤ c.toNat && c.toNat ≤ 31)

def readInt? (cs : List Char) : Option Int :=
  match ((cs.dropWhile isOuterBlank).reverse.dropWhile isOuterBlank).reverse with
  | '-' :: ds => (readNat? ds).map fun n => -(n : Int)
  | '+' :: ds => (readNat? ds).map Int.ofNat
  | ds => (readNat? ds).map Int.ofNat

/-! ## Hexadecimal digits -/

def hexValue? (c : Char) : Option Nat :=
  if c.isDigit then some (c.toNat - 48)
  else if 'a' ≤ c ∧ c ≤ 'f' then some (c.toNat - 87)
  else if 'A' ≤ c ∧ c ≤ 'F' then some (c.toNat - 55)
  else none

def isHex (c : Char) : Bool := (hexValue? c).isSome

def ofHex? (cs : List Char) : Option Nat := (cs.mapM hexValue?).map (ofDigits 16)

def charOf? (n : Nat) : Option Char := if n.isValidChar then some (Char.ofNat n) else none

def ofHexPoint? (cs : List Char) : Option Char := (ofHex? cs).bind charOf?

/-! ## Quoted texts -/

def hexDigits (width n : Nat) : List Char :=
  let ds := Nat.toDigits 16 n
  List.replicate (width - ds.length) '0' ++ ds

def escapePoint (n : Nat) : List Char :=
  if n < 0x100 then ['\\', 'x'] ++ hexDigits 2 n
  else if n < 0x10000 then ['\\', 'u'] ++ hexDigits 4 n
  else ['\\', 'U'] ++ hexDigits 8 n

def quoteChar (quote c : Char) : List Char :=
  if c = quote ∨ c = '\\' then ['\\', c]
  else if c = '\n' then ['\\', 'n']
  else if c = '\t' then ['\\', 't']
  else if c = '\r' then ['\\', 'r']
  else if isPrintable c then [c]
  else escapePoint c.toNat

def quoteFor (cs : List Char) : Char := if '\'' ∈ cs ∧ '"' ∉ cs then '"' else '\''

def quoted (s : String) : String :=
  let cs := s.toList
  let quote := quoteFor cs
  String.ofList (quote :: cs.flatMap (quoteChar quote) ++ [quote])

end ReactLint.Text
