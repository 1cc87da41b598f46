import ReactLint.Calendar
import ReactLint.Occurrence

/-!
# Issues and reports

An issue is an occurrence with the descriptive fields of its rule. A report lists issues, the most
severe first and those of one level by line; issues that agree in both keep their order. A report
on something that is no text carries an error and no list.
-/

namespace ReactLint

structure Issue where
  id : String
  type : String
  title : String
  why : String
  fix : String
  severity : String
  occurrence : Occurrence
  deriving DecidableEq, Repr

namespace Issue

def ofRule (r : Rule) (o : Occurrence) : Issue :=
  { id := r.id, type := r.type, title := r.title, why := r.why, fix := r.fix
    severity := r.severity.name, occurrence := o }

/-- Whether the first issue may stand in front of the second. -/
def precedes (a b : Issue) : Bool :=
  let ra := Severity.rankOf a.severity
  let rb := Severity.rankOf b.severity
  rb < ra || (ra == rb && a.occurrence.line ≤ b.occurrence.line)

/-- The ranked list: severity downwards, then lines upwards, ties in the given order. -/
def rank (issues : List Issue) : List Issue := issues.mergeSort precedes

end Issue

inductive Status where
  | error
  | clean
  | issuesFound
  deriving DecidableEq, Repr

def Status.name : Status → String
  | .error => "Error"
  | .clean => "Clean"
  | .issuesFound => "Issues Found"

/-- What an analysis found: the reason why there was none, or the ranked issues. -/
inductive Findings where
  | failed (reason : String)
  | found (issues : List Issue)
  deriving DecidableEq, Repr

structure Report where
  timestamp : String
  findings : Findings
  deriving DecidableEq, Repr

namespace Report

def status (r : Report) : Status :=
  match r.findings with
  | .failed _ => .error
  | .found [] => .clean
  | .found (_ :: _) => .issuesFound

def issues? (r : Report) : Option (List Issue) :=
  match r.findings with
  | .failed _ => none
  | .found issues => some issues

def issues (r : Report) : List Issue := r.issues?.getD []

def reason? (r : Report) : Option String :=
  match r.findings with
  | .failed reason => some reason
  | .found _ => none

def total (r : Report) : Nat := r.issues.length

def isError (r : Report) : Bool := r.status = .error

def isClean (r : Report) : Bool := r.status = .clean

/-- The fields of a report one by one, as they are handed to the writers. The writers take any
combination of them; that they fit together is what `Report` adds. -/
structure Fields where
  timestamp : String
  status : Status
  total : Int := 0
  issues? : Option (List Issue) := none
  error? : Option String := none
  deriving DecidableEq, Repr

def Fields.issues (f : Fields) : List Issue := f.issues?.getD []

def fields (r : Report) : Fields :=
  { timestamp := r.timestamp, status := r.status, total := r.total, issues? := r.issues?
    error? := r.reason? }

theorem issues_fields (r : Report) : r.fields.issues = r.issues := rfl

theorem isError_iff (r : Report) : r.isError = true ↔ r.issues? = none := by
  rcases r with ⟨stamp, _ | (_ | _)⟩ <;> simp [isError, status, issues?]

theorem isClean_iff (r : Report) : r.isClean = true ↔ r.issues? = some [] := by
  rcases r with ⟨stamp, _ | (_ | _)⟩ <;> simp [isClean, status, issues?]

end Report

end ReactLint
