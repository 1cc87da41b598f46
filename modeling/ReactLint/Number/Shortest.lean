import ReactLint.Number.Binary64

/-!
# The fewest digits that read back

A finite number is written with the fewest decimal digits that lie nearer to it than to any other
number. For one digit, two digits and so on, the two neighbours of the number on that decimal grid
are tried; the first grid with a hit wins, of two hits the nearer, and of two equally near the even
one.

In the written form a number from `1e-4` up to below `1e16` is positional and keeps a point; any
other has an exponent with a sign and at least two digits.
-/

namespace ReactLint.Binary64

/-- The decimals that read back as a given number, as fractions over one denominator: the number
itself, the two ends of its interval, and whether the ends belong to it. -/
structure Interval where
  value : Nat
  low : Nat
  high : Nat
  den : Nat
  closed : Bool
  deriving Repr

def interval (m : Nat) (e : Int) : Interval :=
  let narrow := m = Nat.pow 2 52 ∧ minExponent < e
  let (up, den) := if 2 ≤ e then (Nat.pow 2 (e - 2).toNat, 1) else (1, Nat.pow 2 (2 - e).toNat)
  { value := 4 * m * up
    low := (if narrow then 4 * m - 1 else 4 * m - 2) * up
    high := (4 * m + 2) * up
    den
    closed := m % 2 == 0 }

def Interval.covers (i : Interval) (num den : Nat) : Bool :=
  let x := num * i.den
  if i.closed then i.low * den ≤ x && x ≤ i.high * den else i.low * den < x && x < i.high * den

/-- The number of digits in front of the point of a positive fraction; it is negative where zeros
follow the point. -/
def pointPlace (num den : Nat) : Nat → Int → Int
  | 0, p => p
  | fuel + 1, p =>
    let (a, b) := if 0 ≤ p then (num, den * Nat.pow 10 p.toNat)
      else (num * Nat.pow 10 (-p).toNat, den)
    if b ≤ a then pointPlace num den fuel (p + 1)
    else if 10 * a < b then pointPlace num den fuel (p - 1)
    else p

/-- The preferred number of `n` digits in the interval, with the point in front of its digits moved
by `p` places. -/
def onGrid (i : Interval) (p : Int) (n : Nat) : Option Nat :=
  let shift := p - n
  let (u, d) := if 0 ≤ shift then (Nat.pow 10 shift.toNat, 1)
    else (1, Nat.pow 10 (-shift).toNat)
  let floor := i.value * d / (i.den * u)
  let hit (k : Nat) : Bool := i.covers (k * u) d
  match hit floor, hit (floor + 1) with
  | false, false => none
  | true, false => some floor
  | false, true => some (floor + 1)
  | true, true =>
    let twice := 2 * i.value * d
    let middle := (2 * floor + 1) * u * i.den
    if twice < middle then some floor
    else if middle < twice then some (floor + 1)
    else if floor % 2 = 0 then some floor else some (floor + 1)

def firstGrid (i : Interval) (p : Int) : Nat → Nat → Nat × Int
  | 0, n => ((onGrid i p n).getD 0, p - n)
  | fuel + 1, n =>
    match onGrid i p n with
    | some digits => (digits, p - n)
    | none => firstGrid i p fuel (n + 1)

/-- The fewest digits for a positive number, and the power of ten that goes with them. -/
def shortest (m : Nat) (e : Int) : Nat × Int :=
  let i := interval m e
  let guess : Int := ((i.value.log2 : Int) - i.den.log2) * 30103 / 100000
  firstGrid i (pointPlace i.value i.den 8 guess) 17 1

def dropZeros : Nat → List Char → List Char
  | 0, cs => cs
  | n + 1, cs => if cs.getLast? = some '0' && 1 < cs.length then dropZeros n cs.dropLast else cs

def exponentText (e : Int) : List Char :=
  let ds := Nat.toDigits 10 e.natAbs
  (if e < 0 then '-' else '+') :: (if ds.length < 2 then '0' :: ds else ds)

/-- The written form of the number with the digits `ds` behind `0.` moved by `point` places. -/
def layout (ds : List Char) (point : Int) : List Char :=
  if point ≤ -4 ∨ 16 < point then
    let tail := ds.drop 1
    ds.take 1 ++ (if tail.isEmpty then [] else '.' :: tail) ++ 'e' :: exponentText (point - 1)
  else if point ≤ 0 then ['0', '.'] ++ List.replicate (-point).toNat '0' ++ ds
  else if ds.length ≤ point.toNat then
    ds ++ List.replicate (point.toNat - ds.length) '0' ++ ['.', '0']
  else ds.take point.toNat ++ '.' :: ds.drop point.toNat

def render : Binary64 → String
  | .nan => "nan"
  | .infinite negative => if negative then "-inf" else "inf"
  | .finite negative m e =>
    let body :=
      if m = 0 then ['0', '.', '0']
      else
        let (digits, power) := shortest m e
        let ds := Nat.toDigits 10 digits
        layout (dropZeros ds.length ds) (power + ds.length)
    String.ofList (if negative then '-' :: body else body)

end ReactLint.Binary64
