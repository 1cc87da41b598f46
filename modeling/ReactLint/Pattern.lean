import ReactLint.Regex.Match

/-!
# Patterns

A pattern is kept as it was written, together with the expression that it stands for.
-/

namespace ReactLint

instance decidableEqExcept {ε α : Type} [DecidableEq ε] [DecidableEq α] :
    DecidableEq (Except ε α)
  | .ok a, .ok b => decidable_of_iff (a = b) ⟨congrArg Except.ok, Except.ok.inj⟩
  | .error e, .error f => decidable_of_iff (e = f) ⟨congrArg Except.error, Except.error.inj⟩
  | .ok _, .error _ => .isFalse nofun
  | .error _, .ok _ => .isFalse nofun

structure Pattern where
  source : String
  flags : Int
  regex : Regex
  groupCount : Nat
  deriving DecidableEq, Repr

namespace Pattern

def hasCapture (p : Pattern) : Bool := 0 < p.groupCount

/-- A match: the span of the text that it covers, and the spans of the groups. -/
structure Match where
  start : Nat
  stop : Nat
  groups : List (Nat × Nat × Nat)
  deriving DecidableEq, Repr

def search (p : Pattern) (t : Array Char) (i : Nat) : Option Match :=
  (p.regex.search t i).map fun (start, s) => ⟨start, s.pos, s.groups⟩

def Match.group? (m : Match) (n : Nat) : Option (Nat × Nat) := m.groups.lookup n

end Pattern

end ReactLint
