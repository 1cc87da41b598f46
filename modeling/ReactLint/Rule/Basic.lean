import ReactLint.Failure
import ReactLint.Reader
import ReactLint.Severity
import ReactLint.Text.Character

/-!
# Rules

A rule reports every place at which its pattern matches. It may be gated on a fact about the whole
text, and it may name an allow-list; a match whose first group holds a member of that list is not
reported. Both names come from data files and may be values of any kind.
-/

namespace ReactLint

structure Rule where
  id : String
  type : String
  title : String
  why : String
  fix : String
  severity : Severity
  pattern : Pattern
  /-- The fact that the rule requires. -/
  gate : Option Value := none
  /-- The allow-list that the rule names. -/
  allowList : Option Value := none

namespace Rule

def isGated (r : Rule) : Bool := r.gate.isSome

def hasCapture (r : Rule) : Bool := r.pattern.hasCapture

structure Draft where
  id : Value
  type : Value
  title : Value
  why : Value
  fix : Value
  severity : Value
  pattern : Value
  flags : Value := .int 0
  gate : Value := .null
  allowList : Value := .null

def Draft.label (d : Draft) : String := if d.id.isTruthy then d.id.str else "<unnamed>"

def Draft.labelFault? (room : Nat) (d : Draft) : Option Fault :=
  if d.id.isTruthy then d.id.showFault? room else none

def required (room : Nat) (d : Draft) (name : String) (v : Value) : Except Failure String :=
  match v.text? with
  | some s => if Text.isBlankText s then refuse else .ok s
  | none => refuse
where
  refuse : Except Failure String :=
    .error (.orFault (.missingField d.label name) (d.labelFault? room))

def severityOf (room : Nat) (id : String) (v : Value) : Except Failure Severity :=
  match v.text?.bind Severity.ofName? with
  | some l => .ok l
  | none => .error (.showing room v (.badSeverity id v.repr))

def flagsOf (v : Value) : Except Failure Int :=
  match v.int? with
  | some n => .ok n
  | none => .error (.fault .notNumber)

def compileFor (R : Readers) (id source : String) (flags : Int) : Except Failure Pattern :=
  (R.compile source flags).mapError fun e => .orFault (.badPattern id) e.fault?

def optional : Value → Option Value
  | .null => none
  | v => some v

def ofDraft (R : Readers) (d : Draft) : Except Failure Rule := do
  let id ← required R.room d "id" d.id
  let type ← required R.room d "type" d.type
  let title ← required R.room d "title" d.title
  let why ← required R.room d "why" d.why
  let fix ← required R.room d "fix" d.fix
  let source ← required R.room d "pattern" d.pattern
  let severity ← severityOf R.room id d.severity
  let pattern ← compileFor R id source (← flagsOf d.flags)
  let allowList := optional d.allowList
  if allowList.isSome && !pattern.hasCapture then throw (.rule (.noCapture id))
  pure { id, type, title, why, fix, severity, pattern, gate := optional d.gate, allowList }

end Rule

end ReactLint
