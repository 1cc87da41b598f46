/-!
# Pattern tokens

A pattern is read as plain characters and escapes of one character. A backslash at the very end
escapes nothing.
-/

namespace ReactLint.Pattern

inductive Token where
  | plain (c : Char)
  | escape (c : Char)
  | dangling
  deriving DecidableEq, Repr

namespace Token

def scan : List Char → List Token
  | [] => []
  | '\\' :: c :: cs => .escape c :: scan cs
  | ['\\'] => [.dangling]
  | c :: cs => .plain c :: scan cs

def chars : Token → List Char
  | .plain c => [c]
  | .escape c => ['\\', c]
  | .dangling => ['\\']

/-- The plain characters at the front that satisfy `p`, at most `n` of them, and the rest. -/
def spanPlain (p : Char → Bool) : Nat → List Token → List Char × List Token
  | n + 1, .plain c :: ts =>
    if p c then
      let (cs, rest) := spanPlain p n ts
      (c :: cs, rest)
    else ([], .plain c :: ts)
  | _, ts => ([], ts)

def untilPlain? (stop : Char) : List Token → Option (List Char × List Token)
  | [] => none
  | .plain c :: ts =>
    if c = stop then some ([], ts)
    else (untilPlain? stop ts).map fun (cs, rest) => (c :: cs, rest)
  | t :: ts => (untilPlain? stop ts).map fun (cs, rest) => (t.chars ++ cs, rest)

/-- What follows the first plain `stop`; with none, the end. -/
def skipPast (stop : Char) : List Token → List Token
  | [] => []
  | .dangling :: ts => .dangling :: ts
  | t :: ts => if t = .plain stop then ts else skipPast stop ts

end Token

end ReactLint.Pattern
