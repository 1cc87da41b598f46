import ReactLint.CommandLine.Command
import ReactLint.Config.Load
import ReactLint.Console.Plain
import ReactLint.Reader.Standard
import ReactLint.Registry.Load
import ReactLint.Report.Json
import ReactLint.Report.Sarif
import ReactLint.Report.Terminal

/-!
# Running a command

A run reads the disk, the environment and the standard input, and leaves behind messages, tables,
a text on the standard output, an exit code and perhaps a changed disk. A run that cannot do its
work exits with 2 and changes nothing; one that finds issues at or above the threshold exits with 1.
A fault ends a run with 1, wherever it has got to: what was printed and written before it stays. One
such fault is a line or a table that the console does not take, since some parts of what is printed
are not escaped.
-/

namespace ReactLint.CommandLine

structure Session where
  place : Place := {}
  environment : Config.Environment := {}
  input : ByteArray := .empty
  now : Moment
  readers : Readers := .standard
  console : Console := .plain

structure Outcome where
  exit : Nat := 0
  messages : List Printed := []
  tables : List Printed := []
  stdout : String := ""
  /-- The level from which on log entries are shown, if the run has set one. -/
  level : Option LogLevel := none
  logs : List LogEntry := []
  fault : Option Fault := none
  place : Place

/-- Why a run does not go on: a check refuses it with a message, or there is a fault. -/
inductive Stop where
  | refuse (message : Printed)
  | fail (f : Fault)

namespace Outcome

def fail (o : Outcome) (f : Fault) : Outcome := { o with exit := 1, fault := some f }

def say (K : Console) (o : Outcome) (ps : List Printed) : Except Outcome Outcome :=
  let (shown, fault) := K.print ps
  let o := { o with messages := o.messages ++ shown }
  match fault with
  | none => .ok o
  | some f => .error (o.fail f)

def stop (K : Console) (o : Outcome) : Stop → Outcome
  | .refuse message =>
    match o.say K [message] with
    | .ok o => { o with exit := 2 }
    | .error o => o
  | .fail f => o.fail f

/-- A step of a run, after which the run goes on or has a final outcome. -/
def attempt {α : Type} (K : Console) (o : Outcome) (x : Except Stop α) : Except Outcome α :=
  x.mapError (o.stop K)

def final : Except Outcome Outcome → Outcome
  | .ok o => o
  | .error o => o

end Outcome

inductive StartFailure where
  | config (e : ConfigError)
  | rule (e : RuleError)
  | fault (f : Fault)
  deriving DecidableEq, Repr

namespace StartFailure

def ofConfig : ConfigFailure → StartFailure
  | .config e => .config e
  | .fault f => .fault f

def ofRegistry : Failure → StartFailure
  | .rule e => .rule e
  | .fault f => .fault f

def stop : StartFailure → Stop
  | .config e =>
    .refuse
      (.notice { style := .boldRed, label := "Config error:", gap := " ", text := e.message })
  | .rule e =>
    .refuse (.notice { style := .boldRed, label := "Rule error:", gap := " ", text := e.message })
  | .fault f => .fail f

end StartFailure

def load (s : Session) (config : String) :
    List LogEntry × Except StartFailure (Config × Registry) :=
  match Config.load s.readers s.place s.environment {} config with
  | .error e => ([], .error (.ofConfig e))
  | .ok c =>
    let e := Registry.build s.readers s.place c {}
    match e.result with
    | .error f => (e.logs, .error (.ofRegistry f))
    | .ok _ => (e.logs, .ok (c, e.registry))

/-! ## Analysing -/

/-- The configuration with the options of the command line. An option that is not valid is shown as
it was given. -/
def withOptions (c : Config) (o : AnalyzeOptions) : Except Stop Config := do
  let format ←
    if o.format = "" then pure c.format
    else match Format.ofWord? o.format with
      | some f => pure f
      | none => throw (.refuse (.line s!"[bold red]Invalid format:[/bold red] {o.format}"))
  let failOn ←
    if o.failOn = "" then pure c.failOn
    else match Severity.ofAnyCase? o.failOn with
      | some l => pure l
      | none => throw (.refuse (.line s!"[bold red]Invalid fail-on level:[/bold red] {o.failOn}"))
  pure { c with format, failOn, explain := if o.explain then .bool true else c.explain }

def readInput (s : Session) : Except Stop (String × String) :=
  match Place.textOf s.input with
  | .ok code => .ok ("<stdin>", Text.unifyLineEnds code)
  | .error f => .error (.fail f)

def readSource (s : Session) (target : Option String) : Except Stop (String × String) :=
  match target.map Path.ofString with
  | none => readInput s
  | some p =>
    if p.text = "-" then readInput s
    else match s.place.readText p with
      | .ok code => .ok (p.text, code)
      | .error _ => .error (.refuse (.line s!"[bold red]Cannot read {p.text}:[/bold red]"))

def tooLarge (c : Config) (code : String) : Printed :=
  .notice
    { style := .boldRed, label := "Input too large:", gap := " "
      text := s!"{code.utf8ByteSize} bytes (limit {c.maxInput.toValue.str} KB)" }

def checkSize (c : Config) (code : String) : Except Stop Unit :=
  if c.maxInput.bytes < code.utf8ByteSize then .error (.refuse (tooLarge c code)) else .ok ()

structure Ready where
  options : AnalyzeOptions
  config : Config
  registry : Registry
  source : String
  code : String
  /-- What the run has left behind so far. -/
  outcome : Outcome

def logLevel (o : AnalyzeOptions) : LogLevel :=
  if o.debug then .debug else if o.verbose then .info else .warning

def countMessages (o : AnalyzeOptions) (g : Registry) : List Printed :=
  if o.verbose || o.debug then
    [.notice { style := .dim, label := "Rules enabled: ", name := toString g.enabled.length }]
  else []

def prepare (s : Session) (o : AnalyzeOptions) : Except Outcome Ready := do
  let (logs, loaded) := load s o.config
  let start : Outcome := { place := s.place, level := some (logLevel o), logs }
  let (c, registry) ← start.attempt s.console (loaded.mapError StartFailure.stop)
  let config ← start.attempt s.console (withOptions c o)
  let outcome ← start.say s.console (countMessages o registry)
  let (source, code) ← outcome.attempt s.console (readSource s o.target)
  outcome.attempt s.console (checkSize config code)
  pure { options := o, config, registry, source, code, outcome }

namespace Ready

def reportText? (r : Ready) (report : Report) : Option String :=
  match r.config.format with
  | .terminal => none
  | .json => some report.jsonText
  | .sarif => some (report.sarifText r.source)

def printed (r : Ready) (report : Report) : List Printed :=
  match r.config.format with
  | .terminal => report.printed
      { source := r.source, explain := r.config.explain.isTruthy
        showSummary := r.config.showSummary.isTruthy }
  | _ => []

/-- The text that is written to a file: what is printed, or the JSON report. -/
def fileText (r : Ready) (report : Report) : String :=
  (r.reportText? report).getD report.jsonText

def exitCode (r : Ready) (report : Report) : Nat :=
  if report.isError then 2
  else if report.issues.any fun i => Severity.reaches i.severity r.config.failOn.word then 1
  else 0

def duration (tenths : Nat) : String := s!"{tenths / 10}.{tenths % 10}ms"

def timing (r : Ready) (tenths : Nat) : List Printed :=
  if r.options.debug then
    [.notice { style := .dim, label := "Analysis duration: ", name := duration tenths }]
  else []

/-- The message that a file was written, if it is asked for. The name of the file is shown as it was
given. -/
def fileNote (r : Ready) : List Printed :=
  if r.options.verbose then [.line s!"[dim]Report written to {r.options.output}[/dim]"] else []

def save (K : Console) (r : Ready) (report : Report) (o : Outcome) : Except Outcome Outcome :=
  if r.options.output = "" then .ok o
  else match o.place.writeText (.ofString r.options.output) (r.fileText report) with
    | .error f => .error (o.fail f)
    | .ok place => { o with place }.say K r.fileNote

def finish (K : Console) (r : Ready) (report : Report) (logs : List LogEntry) (tenths : Nat) :
    Outcome := .final do
  let o := { r.outcome with logs := r.outcome.logs ++ logs }
  let o ← o.say K (r.timing tenths ++ r.printed report)
  let o := { o with stdout := ((r.reportText? report).map (· ++ "\n")).getD "" }
  let o ← r.save K report o
  pure { o with exit := r.exitCode report }

end Ready

def analyze (s : Session) (o : AnalyzeOptions) (tenths : Nat) : Outcome :=
  match prepare s o with
  | .error outcome => outcome
  | .ok r =>
    let (report, logs) := r.registry.analyzeText s.now r.code
    r.finish s.console report logs tenths

/-! ## The other commands -/

def ruleColumns : List Column :=
  [{ header := "ID", style := "cyan", noWrap := true },
    { header := "Severity", justify := .center },
    { header := "Type", style := "magenta" },
    { header := "Title" },
    { header := "Enabled", justify := .center }]

def ruleTitle (r : Rule) : StyledText :=
  let title := StyledText.of r.title
  match r.gate with
  | some gate =>
    if gate.isTruthy then title.append s!" (only when {gate.str})" "dim" else title
  | none => title

/-- The fault that keeps the fact that a rule requires out of its title. -/
def titleFault? (room : Nat) (r : Rule) : Option Fault :=
  r.gate.bind fun gate => if gate.isTruthy then gate.showFault? room else none

def ruleRow (g : Registry) (r : Rule) : List Cell :=
  [.markup r.id, .markup r.severity.name, .markup r.type, .styled (ruleTitle r),
    .markup (if g.isEnabled r.id then "[green]yes[/green]" else "[red]no[/red]")]

def ruleTable (g : Registry) : Table :=
  { title := .markup "Rerender Rules", columns := ruleColumns, rows := g.rules.map (ruleRow g) }

def listRules (s : Session) (config : String) : Outcome :=
  let (logs, loaded) := load s config
  let o : Outcome := { place := s.place, logs }
  match loaded with
  | .error e => o.stop s.console e.stop
  | .ok (_, g) =>
    match g.rules.findSome? (titleFault? s.readers.room) with
    | some f => o.fail f
    | none =>
      match s.console.print [.table (ruleTable g)] with
      | (tables, none) => { o with tables }
      | (_, some f) => o.fail f

def startProject (s : Session) : Outcome :=
  let p := ({} : Path).child Config.fileName
  let o : Outcome := { place := s.place }
  match s.place.entry? p with
  | .error f => o.fail f
  | .ok (some _) => .final <| { o with exit := 1 }.say s.console
      [.line (s!"[yellow]⚠[/yellow]  {Config.fileName} already exists at " ++ s.place.shown p)]
  | .ok none =>
    match s.place.writeText p Config.starter with
    | .error f => o.fail f
    | .ok place => .final <| { o with place }.say s.console
        [.line ("[green]✓[/green] Created " ++ s.place.shown p)]

def runCommand (s : Session) (tenths : Nat) : Command → Outcome
  | .version => { place := s.place, stdout := s!"{toolName} {toolVersion}\n" }
  | .analyze o => analyze s o tenths
  | .rules config => listRules s config
  | .start => startProject s

/-- Runs a command line; `tenths` is how long the analysis takes. -/
def run (s : Session) (tenths : Nat) (args : List String) : Outcome :=
  match Command.ofArgs? args with
  | some c => runCommand s tenths c
  | none => { place := s.place, exit := 2 }

end ReactLint.CommandLine
