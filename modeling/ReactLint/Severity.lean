/-!
# Severities

The four levels of an issue, from high to info. Where a level comes as a text, a text that names no
level ranks as the lowest one. A threshold may be written in lower case.
-/

namespace ReactLint

inductive Severity where
  | high
  | medium
  | low
  | info
  deriving DecidableEq, Repr, Inhabited

namespace Severity

def all : List Severity := [.high, .medium, .low, .info]

def name : Severity → String
  | .high => "High"
  | .medium => "Medium"
  | .low => "Low"
  | .info => "Info"

def rank : Severity → Nat
  | .high => 3
  | .medium => 2
  | .low => 1
  | .info => 0

def ofName? (s : String) : Option Severity := all.find? fun l => l.name == s

def word : Severity → String
  | .high => "high"
  | .medium => "medium"
  | .low => "low"
  | .info => "info"

def ofWord? (s : String) : Option Severity := all.find? fun l => l.word == s

def rankOf (s : String) : Nat := ((ofName? s).map rank).getD 0

def reaches (level threshold : String) : Bool :=
  let threshold := ((ofWord? threshold).map name).getD threshold
  rankOf threshold ≤ rankOf level

theorem ofName?_name (l : Severity) : ofName? l.name = some l := by
  cases l <;> decide

theorem mem_all (l : Severity) : l ∈ all := by
  cases l <;> decide

theorem mem_names {s : String} : s ∈ all.map name ↔ ∃ l : Severity, s = l.name := by
  rw [List.mem_map]
  exact ⟨fun ⟨l, _, hl⟩ => ⟨l, hl.symm⟩, fun ⟨l, hl⟩ => ⟨l, mem_all l, hl.symm⟩⟩

theorem ofName?_eq_some_iff {s : String} {l : Severity} : ofName? s = some l ↔ s = l.name := by
  constructor
  · intro h
    have hname := List.find?_some h
    exact (beq_iff_eq.mp hname).symm
  · rintro rfl
    exact ofName?_name l

theorem ofWord?_word (l : Severity) : ofWord? l.word = some l := by
  cases l <;> decide

theorem rankOf_name (l : Severity) : rankOf l.name = l.rank := by
  simp [rankOf, ofName?_name]

end Severity

end ReactLint
