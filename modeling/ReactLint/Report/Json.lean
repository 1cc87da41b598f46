import ReactLint.Json.Render
import ReactLint.Report.Basic

/-!
# The JSON report

The form in which a report is sent and stored. A report of an error has a reason and no list of
issues. The text of the first group is not part of it.
-/

namespace ReactLint

def Issue.toJson (i : Issue) : Json :=
  .object [("id", .text i.id), ("type", .text i.type), ("title", .text i.title),
    ("why", .text i.why), ("fix", .text i.fix), ("severity", .text i.severity),
    ("occurrence", .object [
      ("lineNumber", .int i.occurrence.line),
      ("snippet", .text i.occurrence.snippet),
      ("charStart", .int i.occurrence.start),
      ("charEnd", .int i.occurrence.stop)])]

namespace Report

namespace Fields

/-- The text of an error, which a report of one may lack. -/
def errorJson (f : Fields) : Json := (f.error?.map Json.text).getD .null

def toJson (f : Fields) : Json :=
  if f.status = .error then
    .object [("timestamp", .text f.timestamp), ("status", .text f.status.name),
      ("error", f.errorJson)]
  else
    .object [("timestamp", .text f.timestamp), ("status", .text f.status.name),
      ("totalIssues", .int f.total), ("issues", .list (f.issues.map Issue.toJson))]

def jsonText (f : Fields) : String := f.toJson.render

/-- As `jsonText`, but refuses numbers that have too many digits. -/
def checkJsonText (f : Fields) : Except Fault String := f.toJson.write

end Fields

def toJson (r : Report) : Json := r.fields.toJson

def jsonText (r : Report) : String := r.fields.jsonText

theorem toJson_found (stamp : String) (issues : List Issue) :
    toJson ⟨stamp, .found issues⟩ =
      .object [("timestamp", .text stamp),
        ("status", .text (Report.status ⟨stamp, .found issues⟩).name),
        ("totalIssues", .int issues.length), ("issues", .list (issues.map Issue.toJson))] := by
  cases issues <;> rfl

end Report

end ReactLint
