import ReactLint.Rule.Basic
import ReactLint.Text.Case

/-!
# Rule entries

A rule file holds rules as mappings. An entry must have seven keys; its flags are names, in any
letter case, of which every one adds a bit.
-/

namespace ReactLint.Rule

def flagNames : List (String × Nat) :=
  [("IGNORECASE", 2), ("DOTALL", 16), ("MULTILINE", 8), ("VERBOSE", 64)]

def flagBit (name : Value) : Except Failure Nat :=
  match name with
  | .text s =>
    match flagNames.lookup (Text.upper s) with
    | some bit => .ok bit
    | none => .error (.rule (.unknownFlag name.repr))
  | _ => .error (.fault .flagNotText)

def unionBits (n : Nat) : List Value → Except Failure Nat
  | [] => .ok n
  | name :: names => do unionBits (n ||| (← flagBit name)) names

def parseFlags (names : Value) : Except Failure Nat :=
  if names.isTruthy then
    match names.elements? with
    | some items => unionBits 0 items
    | none => .error (.fault .notIterable)
  else .ok 0

def requiredKeys : List String := ["id", "type", "title", "why", "fix", "severity", "pattern"]

def entryField (entries : List (Value × Value)) (name : String) : Value :=
  (Value.field? name entries).getD .null

/-- The id of an entry, which is taken as a text whatever its kind. -/
def entryId (room : Nat) (v : Value) : Except Failure String :=
  match v.showFault? room with
  | none => .ok v.str
  | some f => .error (.fault f)

def entryDraft (entries : List (Value × Value)) (id : String) (flags : Nat) : Draft where
  id := .text id
  type := entryField entries "type"
  title := entryField entries "title"
  why := entryField entries "why"
  fix := entryField entries "fix"
  severity := entryField entries "severity"
  pattern := entryField entries "pattern"
  flags := .int flags
  gate := entryField entries "requires_context_fact"
  allowList := entryField entries "suppress_if_capture_in"

def ofEntry (R : Readers) (entry : Value) (source : String) : Except Failure Rule :=
  match entry with
  | .mapping entries =>
    let missing := requiredKeys.filter fun k => (Value.field? k entries).isNone
    if missing.isEmpty then do
      let id ← entryId R.room (entryField entries "id")
      let flags ← parseFlags (entryField entries "flags")
      ofDraft R (entryDraft entries id flags)
    else
      let label := ((Value.field? "id" entries).map Value.str).getD "<unnamed>"
      .error (.showing R.room (entryField entries "id") (.missingKeys source label missing))
  | _ => .error (.rule (.notMapping source))

def fieldNames : List String :=
  requiredKeys ++ ["flags", "requires_context_fact", "suppress_if_capture_in"]

/-- The rule with the given fields, of which the seven required ones must all be there. -/
def ofFields (R : Readers) (fields : List (Value × Value)) : Except Failure Rule :=
  if fields.all fun (k, _) => fieldNames.any k.isText then
    ofDraft R
      { id := entryField fields "id"
        type := entryField fields "type"
        title := entryField fields "title"
        why := entryField fields "why"
        fix := entryField fields "fix"
        severity := entryField fields "severity"
        pattern := entryField fields "pattern"
        flags := (Value.field? "flags" fields).getD (.int 0)
        gate := entryField fields "requires_context_fact"
        allowList := entryField fields "suppress_if_capture_in" }
  else .error (.fault .unknownField)

end ReactLint.Rule
