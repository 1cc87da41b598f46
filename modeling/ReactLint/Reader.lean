import ReactLint.Pattern
import ReactLint.Value.Basic

/-!
# Readers

The formats of the files and the language of patterns are not the tool's own: it takes the readers
that it is given, and what is proved of it holds for all of them.
-/

namespace ReactLint

structure Readers where
  config : ByteArray → Read (List (Value × Value))
  rules : ByteArray → Read Value
  /-- The expression that a pattern stands for under some flags, and the number of its groups. -/
  pattern : String → Int → Read (Regex × Nat)
  /-- How deeply the values that messages show may be nested. -/
  room : Nat

def Readers.compile (R : Readers) (source : String) (flags : Int) : Read Pattern := do
  let (regex, groupCount) ← R.pattern source flags
  pure { source, flags, regex, groupCount }

end ReactLint
