import ReactLint.Occurrence
import ReactLint.Regex.Basic

/-!
# Facts about a whole text

A fact is a yes-or-no question about the text, answered before any rule runs. There is one so far:
whether the text calls `memo`, with or without `React.` in front.
-/

namespace ReactLint

/-- The answers to the questions, by name. -/
abbrev Facts := List (String × Bool)

namespace Context

def memoWrapper : String := "has_memo_wrapper"

/-- `\b(?:React\.)?memo\s*\(` -/
def memoCall : Regex :=
  .ofList (.anchor (.boundary false false) ::
    .loop (.ofList (Regex.word "React.")) ⟨0, some 1⟩ .greedy ::
    (Regex.word "memo" ++ Regex.blanks :: Regex.word "("))

def hasMemoWrapper (t : Array Char) : Bool := (memoCall.search t 0).isSome

def questions : List (String × (Array Char → Bool)) := [(memoWrapper, hasMemoWrapper)]

def detect (t : Array Char) : Facts := questions.map fun (name, ask) => (name, ask t)

def isKnown (name : Value) : Bool := questions.any fun (n, _) => name.isText n

/-- A fact that is not there counts as false. -/
def isSet (facts : Facts) (name : Value) : Bool :=
  match name with
  | .text s => (facts.lookup s).getD false
  | _ => false

end Context

def Rule.isOpen (r : Rule) (facts : Facts) : Bool :=
  match r.gate with
  | some name => Context.isSet facts name
  | none => true

/-- The occurrences of a rule in a text, none at all while its gate is closed. -/
def Rule.gatedOccurrences (r : Rule) (facts : Facts) (t : Array Char) : List Occurrence :=
  if r.isOpen facts then r.occurrences t else []

/-- As `gatedOccurrences`, but refuses a gate that cannot be looked up. -/
def Rule.extract (r : Rule) (facts : Facts) (t : Array Char) : Except Fault (List Occurrence) :=
  match r.gate with
  | some name => if name.isKey then .ok (r.gatedOccurrences facts t) else .error .notKey
  | none => .ok (r.gatedOccurrences facts t)

end ReactLint
