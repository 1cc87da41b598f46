import ReactLint.Number.Binary64
import ReactLint.Text.Case
import ReactLint.Text.Split
import ReactLint.Value.Basic
import ReactLint.Yaml.Node

/-!
# YAML documents

The value of the one document that a text holds, by the rules of YAML 1.1 for scalars: `no` is a
truth value, `012` is octal and `1:30` counts in sixties. A text without a document has no value.
Later pairs of a mapping win over earlier ones with the same key, and a mapping's own pairs win over
those that it takes over by the merge key. Where a scalar is asked for, a mapping stands for its
default value.
-/

namespace ReactLint.Yaml

/-! ## Scalars -/

def natIn? (base : Nat) (ds : List Char) : Option Nat := do
  let values ← ds.mapM Text.hexValue?
  if values.isEmpty || values.any (base ≤ ·) then none else some (Text.ofDigits base values)

def orBad {α : Type} : Option α → Read α
  | some a => .ok a
  | none => .error (.fault .badScalar)

def withoutLines (cs : List Char) : List Char := cs.filter (· != '_')

def ofSixtieths (parts : List Int) : Int := parts.foldl (fun n d => n * 60 + d) 0

def magnitude (cs : List Char) : Read Int :=
  match cs with
  | ['0'] => .ok 0
  | '0' :: 'b' :: ds => do pure (Int.ofNat (← orBad (natIn? 2 ds)))
  | '0' :: 'x' :: ds => do pure (Int.ofNat (← orBad (natIn? 16 ds)))
  | '0' :: ds => do pure (Int.ofNat (← orBad (natIn? 8 ('0' :: ds))))
  | _ => do
    let parts ← orBad ((colonParts cs).mapM Text.readInt?)
    pure (ofSixtieths parts)

def isMinus (cs : List Char) : Bool := cs.head? == some '-'

def intValue (s : String) : Read Value := do
  let cs := withoutLines s.toList
  if cs.isEmpty then throw (.fault .emptyNumber)
  let n ← magnitude (dropSign cs)
  pure (.int (if isMinus cs then -n else n))

def decimal? (cs : List Char) : Option Binary64 := do
  let whole := cs.takeWhile Char.isDigit
  let rest := cs.dropWhile Char.isDigit
  let (fraction, rest) := match rest with
    | '.' :: rest => rest.span Char.isDigit
    | rest => ([], rest)
  if whole.isEmpty && fraction.isEmpty then none
  let exponent ← match rest with
    | [] => some 0
    | e :: rest => if e = 'e' ∨ e = 'E' then readPower? rest else none
  some (.ofDecimal false (natOf (whole ++ fraction)) (exponent - fraction.length))
where
  readPower? (cs : List Char) : Option Int :=
    let ds := dropSign cs
    if ds.isEmpty || !ds.all Char.isDigit then none
    else some (if isMinus cs then -(natOf ds : Int) else natOf ds)

def floatOf? (cs : List Char) : Option Binary64 :=
  let cs := Text.trim cs
  let ds := dropSign cs
  let word := String.ofList ds
  let x? :=
    if word = "inf" || word = "infinity" then some (.infinite false)
    else if word = "nan" then some .nan
    else decimal? ds
  x?.map fun x => if isMinus cs then x.neg else x

def sumSixtieths : Binary64 → Nat → List Binary64 → Binary64
  | sum, _, [] => sum
  | sum, base, d :: ds => sumSixtieths (sum.add (d.mul (.ofNat base))) (base * 60) ds

def floatValue (s : String) : Read Value := do
  let cs := (withoutLines s.toList).map Char.toLower
  if cs.isEmpty then throw (.fault .emptyNumber)
  let ds := dropSign cs
  let x ←
    if String.ofList ds = ".inf" then pure (.infinite false)
    else if String.ofList ds = ".nan" then pure .nan
    else match colonParts ds with
      | [_] => orBad (floatOf? ds)
      | parts => do
        let xs ← orBad (parts.mapM floatOf?)
        pure (sumSixtieths (.finite false 0 0) 1 xs.reverse)
  pure (.float (if isMinus cs then x.neg else x))

def truthValue (s : String) : Read Value :=
  match truthWords.lookup (String.ofList (s.toList.map Char.toLower)) with
  | some b => .ok (.bool b)
  | none => .error (.fault .unknownTruth)

def microseconds (ds : List Char) : Nat :=
  let kept := ds.take 6
  natOf (kept ++ List.replicate (6 - kept.length) '0')

def momentValue (s : String) : Read Value :=
  match stamp? s.toList with
  | none => .error (.fault .notMoment)
  | some stamp =>
    let date : Date := ⟨stamp.year, stamp.month, stamp.day⟩
    if !date.isValid then .error (.fault .badScalar)
    else match stamp.time with
      | none => .ok (.date date)
      | some (hour, minute, second, fraction, zone) =>
        let time : TimeOfDay := ⟨hour, minute, second, microseconds fraction⟩
        if time.isValid && zone.all fun z => z.natAbs < 86400 then
          .ok (.moment ⟨date, time, zone⟩)
        else .error (.fault .badScalar)

/-! ## Bytes -/

def base64Value? (c : Char) : Option Nat :=
  if 'A' ≤ c ∧ c ≤ 'Z' then some (c.toNat - 65)
  else if 'a' ≤ c ∧ c ≤ 'z' then some (c.toNat - 71)
  else if c.isDigit then some (c.toNat + 4)
  else if c = '+' then some 62
  else if c = '/' then some 63
  else none

/-- The bytes that groups of four characters write. `place` counts the characters of the group at
hand, of which `left` holds the bits that no byte has taken yet. Enough equals signs behind the
first two characters end the text; other characters are left out. -/
def bytesOf? (place left signs : Nat) : List Char → Option (List Nat)
  | [] => if place = 0 then some [] else none
  | c :: cs =>
    if c = '=' then
      if 2 ≤ place ∧ 4 ≤ place + signs + 1 then some []
      else bytesOf? place left (if 2 ≤ place then signs + 1 else signs) cs
    else match base64Value? c with
      | none => bytesOf? place left signs cs
      | some v =>
        let bits := left * 64 + v
        match place with
        | 0 => bytesOf? 1 v 0 cs
        | 1 => (bytesOf? 2 (bits % 16) 0 cs).map (bits / 16 :: ·)
        | 2 => (bytesOf? 3 (bits % 4) 0 cs).map (bits / 4 :: ·)
        | _ => (bytesOf? 0 0 0 cs).map (bits :: ·)

def shownByte (quote : Char) (n : Nat) : List Char :=
  if n < 128 then Text.quoteChar quote (Char.ofNat n) else Text.escapePoint n

def ofBytes (bytes : List Nat) : Value :=
  let quote := Text.quoteFor (bytes.map Char.ofNat)
  .other
    { kind := "bytes"
      shown := .ok (String.ofList ('b' :: quote :: bytes.flatMap (shownByte quote) ++ [quote]))
      isTruthy := !bytes.isEmpty
      isKey := true
      elements? := some (bytes.map fun n : Nat => .int n) }

def binaryValue (s : String) : Read Value :=
  if s.toList.any fun c => 128 ≤ c.toNat then .error .malformed
  else match bytesOf? 0 0 0 s.toList with
    | some bytes => .ok (ofBytes bytes)
    | none => .error .malformed

def scalarValue (tag : Tag) (s : String) : Read Value :=
  match tag with
  | .null => .ok .null
  | .bool => truthValue s
  | .int => intValue s
  | .float => floatValue s
  | .text => .ok (.text s)
  | .timestamp => momentValue s
  | .binary => binaryValue s
  | _ => .error .malformed

/-! ## Collections -/

/-- The pairs of a mapping: those that it takes over, and its own. -/
structure Pairs where
  merged : List (Value × Value) := []
  own : List (Value × Value) := []

def Pairs.all (ps : Pairs) : List (Value × Value) := ps.merged ++ ps.own

def Node.isMergeKey : Node → Bool
  | .scalar .merge _ => true
  | .sequence .merge _ => true
  | .mapping .merge _ => true
  | _ => false

def ofPairs (pairs : List (Value × Value)) : List (Value × Value) :=
  pairs.foldl (fun es (k, v) => Value.putKey k v es) []

def shownAll (room : Nat) (opening closing : String) (vs : List Value) : Except Fault String :=
  match Value.itemsFault? room vs with
  | some f => .error f
  | none => .ok (opening ++ ", ".intercalate (vs.map Value.repr) ++ closing)

def ofSet (room : Nat) (keys : List Value) : Value :=
  .other
    { kind := "set"
      shown := if keys.isEmpty then .ok "set()" else shownAll room "\x7b" "\x7d" keys
      isTruthy := !keys.isEmpty
      elements? := some keys }

def ofPair (room : Nat) (k v : Value) : Value :=
  .other
    { kind := "tuple"
      shown := shownAll room "(" ")" [k, v]
      isKey := k.isKey && v.isKey
      elements? := some [k, v] }

/-- A value that holds itself, as the inside of it is seen. -/
def ofInner (mapping : Bool) : Value :=
  .other
    { kind := if mapping then "dict" else "list"
      shown := .ok (if mapping then "\x7b...\x7d" else "[...]") }

def Node.text? : Node → Option String
  | .scalar _ s => some s
  | .mapping _ pairs => defaultText? pairs
  | _ => none
where
  defaultText? : List (Node × Node) → Option String
    | [] => none
    | (.scalar .default _, v) :: _ => v.text?
    | _ :: rest => defaultText? rest

variable (room : Nat)

mutual

def Node.toValue : Node → Read Value
  | .scalar tag s => scalarValue tag s
  | .sequence tag items =>
    if tag = .sequence then do pure (.list (← toValues items))
    else if tag = .pairs then do pure (.list (← pairValues items))
    else .error .malformed
  | .mapping tag pairs =>
    if tag = .mapping then do pure (.mapping (ofPairs (← toPairs pairs).all))
    else if tag = .set then do pure (ofSet room ((ofPairs (← toPairs pairs).all).map Prod.fst))
    else match Node.text? (.mapping tag pairs) with
      | some s => scalarValue tag s
      | none => .error .malformed
  | .inner mapping => .ok (ofInner mapping)

def pairValues : List Node → Read (List Value)
  | [] => .ok []
  | .mapping _ [(k, v)] :: ns => do
    let pair := ofPair room (← k.toValue) (← v.toValue)
    pure (pair :: (← pairValues ns))
  | _ => .error .malformed

def toValues : List Node → Read (List Value)
  | [] => .ok []
  | n :: ns => do
    let v ← n.toValue
    pure (v :: (← toValues ns))

/-- A key: anything but a collection. The key for a default value is a text like others. -/
def toKey : Node → Read Value
  | .scalar .default s => .ok (.text s)
  | .scalar tag s => scalarValue tag s
  | _ => .error .malformed

def toPairs : List (Node × Node) → Read Pairs
  | [] => .ok {}
  | (k, v) :: rest =>
    if k.isMergeKey then do
      let taken ← mergePairs v
      let ps ← toPairs rest
      pure { ps with merged := taken ++ ps.merged }
    else do
      let key ← toKey k
      let value ← v.toValue
      let ps ← toPairs rest
      pure { ps with own := (key, value) :: ps.own }

def mergePairs : Node → Read (List (Value × Value))
  | .mapping _ pairs => do pure (← toPairs pairs).all
  | .sequence _ items => mergeAll items
  | _ => .error .malformed

def mergeAll : List Node → Read (List (Value × Value))
  | [] => .ok []
  | .mapping _ pairs :: rest => do
    let first := (← toPairs pairs).all
    pure ((← mergeAll rest) ++ first)
  | _ :: _ => .error .malformed

end

/-! ## Texts -/

def isPrintable (c : Char) : Bool :=
  let n := c.toNat
  n == 9 || n == 10 || n == 13 || (32 ≤ n && n ≤ 126) || n == 0x85 ||
    (0xA0 ≤ n && n ≤ 0xFFFD) || 0x10000 ≤ n

def decode (text : String) : Read Value := do
  let cs := Text.unifyLines text.toList
  unless cs.all isPrintable do throw .malformed
  match ← compose room cs with
  | some n => n.toValue room
  | none => pure .null

end ReactLint.Yaml
