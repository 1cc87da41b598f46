import ReactLint.Value.Basic

/-!
# Rule errors and log entries

A `RuleError` is a rule definition that is refused. Work on rules fails with one of them or with a
fault.
-/

namespace ReactLint

inductive RuleError where
  | notMapping (source : String)
  | missingKeys (source label : String) (keys : List String)
  | missingField (label field : String)
  | badSeverity (id shown : String)
  | badPattern (id : String)
  | noCapture (id : String)
  | unknownFlag (shown : String)
  | duplicate (id : String)
  | unknownList (id shown : String)
  | unreadable (path : String)
  deriving DecidableEq, Repr

def RuleError.message : RuleError → String
  | .notMapping source => s!"{source}: rule entry must be a mapping"
  | .missingKeys source label keys =>
    s!"{source}: rule {label} is missing " ++ ", ".intercalate keys
  | .missingField label field => s!"Rule {label}: missing required field '{field}'"
  | .badSeverity id shown =>
    s!"Rule {id}: invalid severity {shown} (expected one of High, Medium, Low, Info)"
  | .badPattern id => s!"Rule {id}: pattern does not compile"
  | .noCapture id => s!"Rule {id}: suppress_if_capture_in requires a capture group"
  | .unknownFlag shown => s!"Unknown regex flag: {shown}"
  | .duplicate id => s!"Duplicate rule id: {id}"
  | .unknownList id shown => s!"Rule {id}: unknown allow-list {shown}"
  | .unreadable path => s!"Failed to read rules from {path}"

inductive Failure where
  | rule (e : RuleError)
  | fault (f : Fault)
  deriving DecidableEq, Repr

/-- The failure with an error, unless a fault comes before it. -/
def Failure.orFault (e : RuleError) : Option Fault → Failure
  | none => .rule e
  | some f => .fault f

/-- The failure with an error whose message shows a value. -/
def Failure.showing (room : Nat) (v : Value) (e : RuleError) : Failure :=
  .orFault e (v.showFault? room)

inductive LogLevel where
  | debug
  | info
  | warning
  deriving DecidableEq, Repr

def LogLevel.name : LogLevel → String
  | .debug => "DEBUG"
  | .info => "INFO"
  | .warning => "WARNING"

def LogLevel.shows : LogLevel → LogLevel → Bool
  | .debug, _ => true
  | .info, l => l != .debug
  | .warning, l => l == .warning

structure LogEntry where
  level : LogLevel
  message : String
  deriving DecidableEq, Repr

end ReactLint
