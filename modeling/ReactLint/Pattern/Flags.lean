import ReactLint.Regex.CharTest

/-!
# Pattern flags

Flags are given to a pattern as the bits of a whole number, and some of them also by letters inside
the pattern.
-/

namespace ReactLint.Pattern

structure Flags where
  template : Bool := false
  ignoreCase : Bool := false
  locale : Bool := false
  multiline : Bool := false
  dotAll : Bool := false
  unicode : Bool := false
  verbose : Bool := false
  ascii : Bool := false
  deriving DecidableEq, Repr, Inhabited

/-- Bit `k` of a whole number; a negative number has all high bits set. -/
def bit (n : Int) (k : Nat) : Bool := (n.fdiv (Nat.pow 2 k)) % 2 == 1

namespace Flags

def ofInt (n : Int) : Flags where
  template := bit n 0
  ignoreCase := bit n 1
  locale := bit n 2
  multiline := bit n 3
  dotAll := bit n 4
  unicode := bit n 5
  verbose := bit n 6
  ascii := bit n 8

def ofLetter? : Char → Option Flags
  | 'i' => some { ignoreCase := true }
  | 'L' => some { locale := true }
  | 'm' => some { multiline := true }
  | 's' => some { dotAll := true }
  | 'x' => some { verbose := true }
  | 'a' => some { ascii := true }
  | 't' => some { template := true }
  | 'u' => some { unicode := true }
  | _ => none

def union (f g : Flags) : Flags where
  template := f.template || g.template
  ignoreCase := f.ignoreCase || g.ignoreCase
  locale := f.locale || g.locale
  multiline := f.multiline || g.multiline
  dotAll := f.dotAll || g.dotAll
  unicode := f.unicode || g.unicode
  verbose := f.verbose || g.verbose
  ascii := f.ascii || g.ascii

def without (f g : Flags) : Flags where
  template := f.template && !g.template
  ignoreCase := f.ignoreCase && !g.ignoreCase
  locale := f.locale && !g.locale
  multiline := f.multiline && !g.multiline
  dotAll := f.dotAll && !g.dotAll
  unicode := f.unicode && !g.unicode
  verbose := f.verbose && !g.verbose
  ascii := f.ascii && !g.ascii

def overlaps (f g : Flags) : Bool := f.without g != f

def alphabet (f : Flags) : Flags where
  locale := f.locale
  unicode := f.unicode
  ascii := f.ascii

def namesAlphabet (f : Flags) : Bool := f.alphabet != {}

def within (f on off : Flags) : Flags :=
  ((if on.namesAlphabet then f.without f.alphabet else f).union on).without off

def folding (f : Flags) : Folding :=
  if f.ignoreCase then (if f.ascii then .ascii else .full) else .exact

end Flags

end ReactLint.Pattern
