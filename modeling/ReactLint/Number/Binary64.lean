/-!
# Binary floating-point numbers

A number of 64-bit binary floating point is a sign, a mantissa below `2 ^ 53` and a power of two
from `-1074` to `971`, or an infinity, or no number at all. A decimal is read as the nearest such
number, a tie going to the even mantissa; a sum and a product are the numbers nearest to the exact
ones. All arithmetic is exact, on whole numbers. An infinity stays one, and a sum or a product that
is undefined is no number.
-/

namespace ReactLint

inductive Binary64 where
  | finite (negative : Bool) (mantissa : Nat) (exponent : Int)
  | infinite (negative : Bool)
  | nan
  deriving DecidableEq, Repr, Inhabited

namespace Binary64

def minExponent : Int := -1074

def maxExponent : Int := 971

/-- The quotient rounded to the nearest whole number, a tie to the even one. -/
def divRound (num den : Nat) : Nat :=
  let q := num / den
  let r := num % den
  if 2 * r < den then q
  else if den < 2 * r then q + 1
  else if q % 2 = 0 then q else q + 1

/-- `num / den` divided by `2 ^ e` and rounded. -/
def scaled (num den : Nat) (e : Int) : Nat :=
  if 0 ≤ e then divRound num (den * Nat.pow 2 e.toNat)
  else divRound (num * Nat.pow 2 (-e).toNat) den

def ofRatio (negative : Bool) (num den : Nat) : Binary64 :=
  if num = 0 then .finite negative 0 0
  else
    let guess := (num.log2 : Int) - den.log2 - 53
    let below := if 0 ≤ guess then num < den * Nat.pow 2 guess.toNat * Nat.pow 2 53
      else num * Nat.pow 2 (-guess).toNat < den * Nat.pow 2 53
    let e := max (if below then guess else guess + 1) minExponent
    let m := scaled num den e
    let (m, e) := if m = Nat.pow 2 53 then (Nat.pow 2 52, e + 1) else (m, e)
    if maxExponent < e then .infinite negative
    else .finite negative m e

def ofDecimal (negative : Bool) (digits : Nat) (exponent : Int) : Binary64 :=
  let size : Int := (digits.log2 : Int)
  if digits = 0 then .finite negative 0 0
  else if 2000 < size / 4 + exponent then .infinite negative
  else if size + exponent < -2000 then .finite negative 0 0
  else if 0 ≤ exponent then ofRatio negative (digits * Nat.pow 10 exponent.toNat) 1
  else ofRatio negative digits (Nat.pow 10 (-exponent).toNat)

def isZero : Binary64 → Bool
  | .finite _ m _ => m == 0
  | _ => false

def toInt? : Binary64 → Option Int
  | .finite negative m e =>
    let sign (n : Nat) : Int := if negative then -n else n
    if 0 ≤ e then some (sign (m * Nat.pow 2 e.toNat))
    else
      let unit := Nat.pow 2 (-e).toNat
      if m % unit = 0 then some (sign (m / unit)) else none
  | _ => none

/-! ## Sums and products -/

def isNegative : Binary64 → Bool
  | .finite negative _ _ => negative
  | .infinite negative => negative
  | .nan => false

def ofNat (n : Nat) : Binary64 := ofRatio false n 1

/-- The numerator, with its sign, of a finite number as a fraction over `2 ^ 1074`. -/
def numerator (negative : Bool) (mantissa : Nat) (exponent : Int) : Int :=
  let n : Int := mantissa * Nat.pow 2 (exponent + 1074).toNat
  if negative then -n else n

def denominator : Nat := Nat.pow 2 1074

def neg : Binary64 → Binary64
  | .finite negative m e => .finite (!negative) m e
  | .infinite negative => .infinite (!negative)
  | .nan => .nan

def add : Binary64 → Binary64 → Binary64
  | .finite s m e, .finite t n f =>
    let sum := numerator s m e + numerator t n f
    if sum = 0 then .finite (s && t) 0 0
    else ofRatio (decide (sum < 0)) sum.natAbs denominator
  | .infinite s, .infinite t => if s = t then .infinite s else .nan
  | .infinite s, .finite .. => .infinite s
  | .finite .., .infinite t => .infinite t
  | _, _ => .nan

def mul : Binary64 → Binary64 → Binary64
  | .finite s m e, .finite t n f =>
    ofRatio (s != t) ((numerator false m e).natAbs * (numerator false n f).natAbs)
      (denominator * denominator)
  | .infinite s, y => if y = .nan || y.isZero then .nan else .infinite (s != y.isNegative)
  | x, .infinite t => if x = .nan || x.isZero then .nan else .infinite (x.isNegative != t)
  | _, _ => .nan

/-- Whether the whole number `n` is greater than a number; nothing is greater than no number. -/
def isBelow (x : Binary64) (n : Nat) : Bool :=
  match x with
  | .finite s m e => decide (numerator s m e < n * denominator)
  | .infinite negative => negative
  | .nan => false

def truncate? : Binary64 → Option Int
  | .finite s m e => some ((numerator s m e).tdiv denominator)
  | _ => none

end Binary64

end ReactLint
