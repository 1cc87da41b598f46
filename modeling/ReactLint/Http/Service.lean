import ReactLint.Analysis
import ReactLint.Config.Basic
import ReactLint.Http.Framework
import ReactLint.Number.Binary64
import ReactLint.Report.Json
import ReactLint.Report.Sarif

/-!
# The HTTP service

The service says its name and its health, and analyses the text that a request brings. A request
without a text is answered by 400, a text above the size limit by 413. The size of a text that
cannot be encoded is not known: such a text ends in a fault. Answers may be read by the origins that
the service allows.
-/

namespace ReactLint.Http

/-- The largest size of a text in bytes, in the form in which it was set. -/
inductive Limit where
  | whole (bytes : Int)
  | fraction (bytes : Binary64)
  /-- Something with which no size can be compared. -/
  | incomparable

namespace Limit

def ofKilobytes : Value → Except Fault Limit
  | .int n => .ok (.whole (n * 1024))
  | .bool b => .ok (.whole (if b then 1024 else 0))
  | .float x => .ok (.fraction (x.mul (.ofNat 1024)))
  | .text _ => .ok .incomparable
  | .list _ => .ok .incomparable
  | _ => .error .notNumber

def isBelow (l : Limit) (size : Nat) : Except Fault Bool :=
  match l with
  | .whole n => .ok (decide (n < size))
  | .fraction x => .ok (x.isBelow size)
  | .incomparable => .error .notNumber

def shown : Limit → String
  | .whole n => toString n
  | .fraction x => toString (x.truncate?.getD 0)
  | .incomparable => ""

end Limit

structure Service where
  registry : Registry
  limit : Limit := .whole (256 * 1024)
  /-- The limit as it was set. -/
  kilobytes : Value := .int 256
  origins : Value := .list [.text "*"]

/-! ## Origins -/

def Service.allows (s : Service) (origin : String) : Bool := s.origins.containsText origin

/-- The origin that may read the answer to a request: any, if all are allowed and the request
brings no cookie. -/
def Service.allowOrigin (s : Service) (r : Request) : Option String :=
  match r.header? "origin" with
  | none => none
  | some origin =>
    if s.allows "*" then some (if (r.header? "cookie").isSome then origin else "*")
    else if s.allows origin then some origin
    else none

/-! ## Answers -/

def missingCode : Json :=
  .object [("error", .text "Missing \"code\" parameter in the request body."),
    ("expectedFormat", .text "\x7b\"code\": \"...\"\x7d")]

/-- The code that a request brings; `null` counts as none. -/
def codeOf (members : Option (List (String × Json))) : Json :=
  (members.bind fun ms => (Json.object ms).field? "code").getD .null

namespace Service

def tooLarge (s : Service) (code : String) : Response :=
  { status := 413
    body := some (.object [("error", .text s!"Code exceeds maximum size of {s.kilobytes.str} KB.")])
    logs := [⟨.warning, s!"Rejected {code.length}-char input above {s.limit.shown} bytes"⟩] }

def report (s : Service) (now : Moment) (v : Value) : Response :=
  let (report, logs) := s.registry.analyze now v
  { status := 200
    body := some report.toJson
    logs := logs ++ [⟨.info, s!"POST /analyze → {report.status.name} ({report.total} issues)"⟩] }

def analyze (s : Service) (now : Moment) (code : Json) : Except Fault Response :=
  match code with
  | .null => .ok { status := 400, body := some missingCode }
  | .broken _ => .error .unpairedUnit
  | .text code => do
    if ← s.limit.isBelow code.utf8ByteSize then pure (s.tooLarge code)
    else pure (s.report now (.text code))
  | j => .ok (s.report now j.toValue)

def answer (s : Service) (now : Moment) : Demand → Except Fault Response
  | .root =>
    .ok { status := 200
          body := some (.object [("name", .text toolName), ("version", .text toolVersion)]) }
  | .health =>
    .ok { status := 200
          body := some (.object
            [("status", .text "ok"), ("rules", .int s.registry.enabled.length)]) }
  | .analysis members => s.analyze now (codeOf members)

def respond (F : Framework) (s : Service) (now : Moment) (r : Request) : Except Fault Response := do
  let response ← match F r with
    | .error response => pure response
    | .ok demand => s.answer now demand
  pure { response with allowOrigin := s.allowOrigin r }

end Service

/-! ## Setting up -/

def settingsOf (known : List String) (settings : List (Value × Value)) :
    Except Fault (String → Option Value) :=
  if settings.all fun (k, _) => known.any k.isText then
    .ok fun name => Value.field? name settings
  else .error .unknownField

def Service.ofSettings (registry : Registry) (scan server : List (Value × Value)) :
    Except Fault Service := do
  let scan ← settingsOf ["max_input_kb", "fail_on"] scan
  let server ← settingsOf ["cors_origins"] server
  let kilobytes := (scan "max_input_kb").getD (.int 256)
  let origins := (server "cors_origins").getD (.list [.text "*"])
  if origins.elements?.isNone then throw .notIterable
  pure { registry, limit := ← Limit.ofKilobytes kilobytes, kilobytes, origins }

def Service.ofConfig (registry : Registry) (c : Config) : Except Fault Service :=
  ofSettings registry [(.text "max_input_kb", c.maxInput.toValue)]
    [(.text "cors_origins", c.origins)]

end ReactLint.Http
