import ReactLint.CommandLine.Arguments

/-!
# Commands

The tool analyses one file, lists the rules, starts a project or says its version. A command line
that is none of these is a mistake in usage.
-/

namespace ReactLint.CommandLine

structure AnalyzeOptions where
  /-- The file to analyse; without one the standard input is. -/
  target : Option String := none
  config : String := ""
  format : String := ""
  output : String := ""
  failOn : String := ""
  explain : Bool := false
  verbose : Bool := false
  debug : Bool := false
  deriving DecidableEq, Repr

inductive Command where
  | version
  | analyze (o : AnalyzeOptions)
  | rules (config : String)
  | start
  deriving DecidableEq, Repr

namespace Command

def commonOptions : List OptionSpec := [{ long := "version", short := some 'V' }]

def configOption : OptionSpec := { long := "config", short := some 'c', takesValue := true }

def analyzeOptions : List OptionSpec :=
  [configOption,
    { long := "format", short := some 'f', takesValue := true },
    { long := "output", short := some 'o', takesValue := true },
    { long := "fail-on", takesValue := true },
    { long := "explain", short := some 'e' },
    { long := "verbose", short := some 'v' },
    { long := "debug" }]

def analyzeOf (a : Arguments) : Option Command :=
  let value (long : String) : String := (a.value? long).getD ""
  if a.operands.length ≤ 1 then
    some <| .analyze
      { target := a.operands.head?
        config := value "config"
        format := value "format"
        output := value "output"
        failOn := value "fail-on"
        explain := a.has "explain"
        verbose := a.has "verbose"
        debug := a.has "debug" }
  else none

def ofName? (name : String) (args : List String) : Option Command :=
  if name = "analyze" then (Arguments.ofList? analyzeOptions args).bind analyzeOf
  else if name = "rules" then do
    let a ← Arguments.ofList? [configOption] args
    if a.operands.isEmpty then some (.rules ((a.value? "config").getD "")) else none
  else if name = "init" then do
    let a ← Arguments.ofList? [] args
    if a.operands.isEmpty then some .start else none
  else none

/-- The command that a command line asks for. Asking for the version comes before all else. -/
def ofArgs? (args : List String) : Option Command := do
  let a ← Arguments.ofFront? commonOptions args
  if a.has "version" then some .version
  else match a.operands with
    | name :: rest => ofName? name rest
    | [] => none

end Command

end ReactLint.CommandLine
