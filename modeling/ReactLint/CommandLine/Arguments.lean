import ReactLint.Text.Split

/-!
# Arguments

Options come as `--long value`, `--long=value`, `-s value` or `-svalue`, and short ones without a
value may be bundled. Two dashes end the options. An option that takes a value takes whatever
stands next, and the last of repeated options wins. Arguments that are no options are operands.
-/

namespace ReactLint.CommandLine

structure OptionSpec where
  /-- The long name, without its dashes. -/
  long : String
  short : Option Char := none
  takesValue : Bool := false

structure Setting where
  long : String
  value : String := ""
  deriving DecidableEq, Repr

structure Arguments where
  settings : List Setting := []
  operands : List String := []
  deriving DecidableEq, Repr

namespace Arguments

def has (a : Arguments) (long : String) : Bool := a.settings.any fun s => s.long == long

def value? (a : Arguments) (long : String) : Option String :=
  (a.settings.reverse.find? fun s => s.long == long).map Setting.value

/-- What one argument sets, and the option that still waits for its value. -/
abbrev Reading := Option (List Setting × Option String)

def readLong (specs : List OptionSpec) (cs : List Char) : Reading := do
  let name := cs.takeWhile (· != '=')
  let spec ← specs.find? fun s => s.long.toList == name
  match cs.dropWhile (· != '='), spec.takesValue with
  | [], true => some ([], some spec.long)
  | [], false => some ([⟨spec.long, ""⟩], none)
  | _ :: value, true => some ([⟨spec.long, String.ofList value⟩], none)
  | _ :: _, false => none

def readShort (specs : List OptionSpec) : List Char → Reading
  | [] => some ([], none)
  | c :: cs => do
    let spec ← specs.find? fun s => s.short == some c
    match spec.takesValue, cs with
    | true, [] => some ([], some spec.long)
    | true, _ :: _ => some ([⟨spec.long, String.ofList cs⟩], none)
    | false, _ =>
      let (more, waiting) ← readShort specs cs
      some (⟨spec.long, ""⟩ :: more, waiting)

def isOption : List Char → Bool
  | '-' :: _ :: _ => true
  | _ => false

def readOption (specs : List OptionSpec) : List Char → Reading
  | '-' :: '-' :: cs => readLong specs cs
  | cs => readShort specs cs.tail

/-- Reads arguments; `waiting` is the option that takes the next one as its value. Where operands
may not stand between options, the first of them ends the options. -/
def read (specs : List OptionSpec) (mixed : Bool) :
    Option String → List String → Arguments → Option Arguments
  | some _, [], _ => none
  | some long, v :: rest, a =>
    read specs mixed none rest { a with settings := a.settings ++ [⟨long, v⟩] }
  | none, [], a => some a
  | none, arg :: rest, a =>
    if arg = "--" then some { a with operands := a.operands ++ rest }
    else if isOption arg.toList then
      match readOption specs arg.toList with
      | some (settings, waiting) =>
        read specs mixed waiting rest { a with settings := a.settings ++ settings }
      | none => none
    else if mixed then read specs mixed none rest { a with operands := a.operands ++ [arg] }
    else some { a with operands := a.operands ++ arg :: rest }

def ofList? (specs : List OptionSpec) (args : List String) : Option Arguments :=
  read specs true none args {}

def ofFront? (specs : List OptionSpec) (args : List String) : Option Arguments :=
  read specs false none args {}

end Arguments

end ReactLint.CommandLine
