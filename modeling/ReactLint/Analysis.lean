import ReactLint.Registry.Basic
import ReactLint.Report.Basic

/-!
# Analysis

Every enabled rule of a registry is scanned over the text, what its allow-list names is dropped, and
the issues are ranked. Anything but a text is answered by a report of an error.
-/

namespace ReactLint

def invalidInput : String := "Invalid or missing code provided."

namespace Registry

def issuesOf (g : Registry) (facts : Facts) (t : Array Char) (r : Rule) : List Issue :=
  (g.lists.keep r (r.gatedOccurrences facts t)).map (Issue.ofRule r)

def rawIssues (g : Registry) (t : Array Char) : List Issue :=
  g.enabled.flatMap (g.issuesOf (Context.detect t) t)

def issues (g : Registry) (t : Array Char) : List Issue := Issue.rank (g.rawIssues t)

/-- As `issuesOf`, but refuses a gate or an allow-list that cannot be looked up. -/
def checkIssuesOf (g : Registry) (facts : Facts) (t : Array Char) (r : Rule) :
    Except Fault (List Issue) := do
  let found ← r.extract facts t
  let kept ← g.lists.checkKeep r found
  pure (kept.map (Issue.ofRule r))

/-- As `rawIssues`, but stops at the first look-up that is refused. -/
def checkRawIssues (g : Registry) (t : Array Char) : Except Fault (List Issue) := do
  let found ← g.enabled.mapM (g.checkIssuesOf (Context.detect t) t)
  pure found.flatten

def factsText (facts : Facts) : String :=
  Value.repr (.mapping (facts.map fun (name, b) => (.text name, .bool b)))

def analyzeText (g : Registry) (now : Moment) (code : String) : Report × List LogEntry :=
  let t := code.toList.toArray
  let issues := g.issues t
  let message := s!"Analyzed {t.size} chars with {g.enabled.length} rules: " ++
    s!"{issues.length} issue(s), facts=" ++ factsText (Context.detect t)
  ({ timestamp := now.stamp, findings := .found issues }, [⟨.debug, message⟩])

def analyze (g : Registry) (now : Moment) (code : Value) : Report × List LogEntry :=
  match code with
  | .text s => g.analyzeText now s
  | v =>
    ({ timestamp := now.stamp, findings := .failed invalidInput },
      [⟨.debug, s!"Rejected input of type {v.kindName}"⟩])

/-- The report of `analyze`, unless a look-up on the way to it is refused. -/
def checkAnalyze (g : Registry) (now : Moment) (code : Value) : Except Fault Report :=
  match code with
  | .text s => do
    let found ← g.checkRawIssues s.toList.toArray
    pure { timestamp := now.stamp, findings := .found (Issue.rank found) }
  | _ => .ok { timestamp := now.stamp, findings := .failed invalidInput }

theorem analyze_text (g : Registry) (now : Moment) (code : String) :
    (g.analyze now (.text code)).1.issues = g.issues code.toList.toArray := rfl

end Registry

end ReactLint
