import ReactLint.AllowList
import ReactLint.Context

/-!
# The registry

The rules in the order of their registration, the ids of those that are switched off, and the
allow-lists. Every operation answers with the registry after it, the log entries that it wrote and
its result; an operation that fails may have done a part of its work.
-/

namespace ReactLint

structure Registry where
  rules : List Rule := []
  disabled : List String := []
  lists : AllowLists := AllowLists.builtin

structure Effect (α : Type) where
  registry : Registry
  logs : List LogEntry := []
  result : Except Failure α

namespace Effect

/-- Does one operation after another; the second is not begun when the first fails. -/
def andThen {α β : Type} (e : Effect α) (next : α → Registry → Effect β) : Effect β :=
  match e.result with
  | .ok a =>
    let e' := next a e.registry
    { e' with logs := e.logs ++ e'.logs }
  | .error f => { registry := e.registry, logs := e.logs, result := .error f }

end Effect

namespace Registry

def ids (g : Registry) : List String := g.rules.map Rule.id

def get? (g : Registry) (id : String) : Option Rule := g.rules.find? fun r => r.id == id

def has (g : Registry) (id : String) : Bool := g.ids.contains id

def isEnabled (g : Registry) (id : String) : Bool := g.has id && !g.disabled.contains id

def enabled (g : Registry) : List Rule := g.rules.filter fun r => !g.disabled.contains r.id

def checkList (g : Registry) (r : Rule) : Except Failure Unit :=
  match r.allowList with
  | none => .ok ()
  | some name =>
    if !name.isKey then .error (.fault .notKey)
    else if (g.lists.find? name).isSome then .ok ()
    -- a name that is a key is no list, so nothing is nested in it
    else .error (.showing 0 name (.unknownList r.id name.repr))

/-- A gate on an unknown fact is allowed, with a warning. -/
def checkGate (r : Rule) : Except Failure (List LogEntry) :=
  match r.gate with
  | none => .ok []
  | some name =>
    if !name.isKey then .error (.fault .notKey)
    else if Context.isKnown name then .ok []
    else .ok [⟨.warning, s!"Rule {r.id} is gated on unknown context fact " ++ name.repr ++
      "; it will never run"⟩]

def register (g : Registry) (r : Rule) : Effect Unit :=
  if g.has r.id then { registry := g, result := .error (.rule (.duplicate r.id)) }
  else match g.checkList r, checkGate r with
    | .error f, _ => { registry := g, result := .error f }
    | .ok _, .error f => { registry := g, result := .error f }
    | .ok _, .ok logs =>
      { registry := { g with rules := g.rules ++ [r] }, logs, result := .ok () }

/-- Adds rules one after another, up to the first that is refused. -/
def registerAll : List Rule → Registry → Effect Unit
  | [], g => { registry := g, result := .ok () }
  | r :: rs, g => (g.register r).andThen fun _ => registerAll rs

def extendList (g : Registry) (name values : Value) : Effect Unit :=
  if !name.isKey then { registry := g, result := .error (.fault .notKey) }
  else match values.elements? with
    | none => { registry := g, result := .error (.fault .notIterable) }
    | some vs =>
      if vs.all Value.isKey then
        { registry := { g with lists := g.lists.extend name vs }, result := .ok () }
      else { registry := g, result := .error (.fault .notKey) }

/-- The warnings for ids that no rule has; a value that cannot be an id is a fault. -/
def unknownIds (g : Registry) : List Value → List LogEntry × Option Fault
  | [] => ([], none)
  | v :: vs =>
    if !v.isKey then ([], some .notKey)
    else
      let (logs, fault) := g.unknownIds vs
      if g.ids.any v.isText then (logs, fault)
      else (⟨.warning, "Config references unknown rule " ++ v.str⟩ :: logs, fault)

def isDeselected (enable disable : Value) (id : String) : Bool :=
  (enable.isTruthy && !enable.containsText id) || disable.containsText id

/-- Switches off the rules that a selection leaves out; rules that are registered later are not
touched by it. -/
def select (g : Registry) (enable disable : Value) : Effect Unit :=
  match enable.elements?, disable.elements? with
  | some on, some off =>
    match g.unknownIds (on ++ off) with
    | (logs, some fault) => { registry := g, logs, result := .error (.fault fault) }
    | (logs, none) =>
      { registry := { g with disabled := g.ids.filter (isDeselected enable disable) }
        logs, result := .ok () }
  | _, _ => { registry := g, result := .error (.fault .notIterable) }

end Registry

end ReactLint
