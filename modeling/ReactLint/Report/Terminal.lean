import ReactLint.Markup
import ReactLint.Report.Basic
import ReactLint.Text.Case

/-!
# The terminal report

The issues are shown in one table a severity, the known severities first and from high to info, and
a summary counts them.
-/

namespace ReactLint

namespace Terminal

def pillStyle (severity : String) : String :=
  match Severity.ofName? severity with
  | some .high => "bold white on red"
  | some .medium => "bold black on yellow"
  | some .low => "bold black on bright_cyan"
  | some .info => "bold white on grey37"
  | none => ""

def icon (severity : String) : String :=
  match Severity.ofName? severity with
  | some .high => "🔴"
  | some .medium => "🟡"
  | some .low => "🔵"
  | some .info => "⚪"
  | none => ""

def pill (severity : String) : StyledText :=
  .of s!" {icon severity} {Text.upper severity} " (pillStyle severity)

def groupKeys (issues : List Issue) : List String :=
  let known := Severity.all.map Severity.name
  known ++ ((issues.map Issue.severity).filter fun s => !known.contains s).eraseDups

/-- The issues by severity, each group in the given order, without empty groups. -/
def groupBySeverity (issues : List Issue) : List (String × List Issue) :=
  ((groupKeys issues).map fun s => (s, issues.filter fun i => i.severity == s)).filter
    fun g => !g.2.isEmpty

def columns : List Column :=
  [{ header := "Rule", style := "cyan", noWrap := true },
    { header := "Line", style := "green", justify := .right },
    { header := "Issue", minWidth := some 24 },
    { header := "Snippet", style := "magenta" }]

def description (explain : Bool) (i : Issue) : StyledText :=
  let title := StyledText.of i.title "bold"
  if explain then
    (title.append s!"\n\nWhy: {i.why}" "default").append s!"\nFix: {i.fix}" "default"
  else title

def row (explain : Bool) (i : Issue) : List Cell :=
  [.markup i.id, .markup (toString i.occurrence.line), .styled (description explain i),
    .styled (.of i.occurrence.snippet)]

def groupTable (explain : Bool) (g : String × List Issue) : Table :=
  { title := .styled (pill g.1), columns, rows := g.2.map (row explain) }

def count (issues : List Issue) (s : Severity) : Nat :=
  (issues.filter fun i => i.severity == s.name).length

def summary (r : Report) (source : String) : List Printed :=
  let counts := Severity.all.map fun s => s!"{s.name} {count r.issues s}"
  [.line "", .notice { style := .dim, label := "Source:", gap := "   ", text := source },
    .notice { style := .dim, label := "Issues:", gap := "   ", text := toString r.total },
    .notice { style := .dim, label := "By level:", gap := " ", text := "  ".intercalate counts }]

def failureNotice (reason : String) : Printed :=
  .notice { style := .boldRed, label := "✗ Analysis failed:", gap := " ", text := reason }

def cleanNotice (source : String) : Printed :=
  .notice
    { style := .boldGreen, label := "✅ No re-render or accessibility issues found in "
      name := source, stop := "." }

end Terminal

structure TerminalOptions where
  source : String := "<stdin>"
  explain : Bool := false
  showSummary : Bool := true

open Terminal in
/-- What is printed for a report. The id of an issue is handed to the console as it stands. -/
def Report.printed (r : Report) (o : TerminalOptions) : List Printed :=
  match r.findings with
  | .failed reason => [.line "", failureNotice reason]
  | .found [] => [.line "", cleanNotice o.source]
  | .found issues =>
    ((groupBySeverity issues).flatMap fun g => [.line "", .table (groupTable o.explain g)]) ++
      (if o.showSummary then summary r o.source else [])

end ReactLint
