import ReactLint.Report.Json

/-!
# The SARIF report

The form that code-scanning services read, version 2.1.0. The rules that were found stand once each,
in the order of their first issue, and every issue is one result. A report of an error has no
results and says that the run was not successful.
-/

namespace ReactLint

def toolName : String := "rerender"

def toolVersion : String := "0.1.0"

namespace Sarif

def schema : String :=
  "https://raw.githubusercontent.com/oasis-tcs/sarif-spec/main/" ++
    "sarif-2.1/schema/sarif-schema-2.1.0.json"

def level (severity : String) : String :=
  match Severity.ofName? severity with
  | some .high => "error"
  | some .medium => "warning"
  | some .low => "note"
  | some .info => "note"
  | none => "warning"

def text (s : String) : Json := .object [("text", .text s)]

def ruleJson (i : Issue) : Json :=
  .object [("id", .text i.id), ("name", .text i.type), ("shortDescription", text i.title),
    ("fullDescription", text i.why), ("help", text i.fix),
    ("defaultConfiguration", .object [("level", .text (level i.severity))]),
    ("properties", .object [("severity", .text i.severity)])]

def firstOfEach (seen : List String) : List Issue → List Issue
  | [] => []
  | i :: is =>
    if seen.contains i.id then firstOfEach seen is else i :: firstOfEach (i.id :: seen) is

def resultJson (uri : String) (i : Issue) : Json :=
  .object [("ruleId", .text i.id), ("level", .text (level i.severity)), ("message", text i.title),
    ("locations", .list [.object [("physicalLocation", .object [
      ("artifactLocation", .object [("uri", .text uri)]),
      ("region", .object [
        ("startLine", .int i.occurrence.line),
        ("charOffset", .int i.occurrence.start),
        ("charLength", .int (i.occurrence.stop - i.occurrence.start)),
        ("snippet", text i.occurrence.snippet)])])]])]

def failureJson (error : Json) : Json :=
  .object [("executionSuccessful", .bool false),
    ("toolExecutionNotifications", .list [.object [("message", .object [("text", error)])]])]

end Sarif

namespace Report

open Sarif in
def Fields.toSarif (f : Fields) (uri : String) : Json :=
  let driver := Json.object [("name", .text toolName), ("version", .text toolVersion),
    ("rules", .list ((firstOfEach [] f.issues).map ruleJson))]
  let run := [("tool", Json.object [("driver", driver)]),
    ("results", .list (f.issues.map (resultJson uri)))]
  let invocations :=
    if f.status = .error then [("invocations", Json.list [failureJson f.errorJson])] else []
  .object [("$schema", .text schema), ("version", .text "2.1.0"),
    ("runs", .list [.object (run ++ invocations)])]

def Fields.sarifText (f : Fields) (uri : String) : String := (f.toSarif uri).render

def Fields.checkSarifText (f : Fields) (uri : String) : Except Fault String := (f.toSarif uri).write

def toSarif (r : Report) (uri : String) : Json := r.fields.toSarif uri

def sarifText (r : Report) (uri : String) : String := r.fields.sarifText uri

end Report

end ReactLint
