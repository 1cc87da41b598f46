import ReactLint.Toml.Scalar

/-!
# Tables of TOML

A document grows by statements: a header opens a table or adds one to an array of tables, and a
pair of a key and a value adds to the table that the last header opened. What has been written once
is never written again: a table is closed when a header has opened it, and a table that dotted keys
have made is closed when the next header comes; arrays and tables that are written as values are
closed from the start.
-/

namespace ReactLint.Toml

inductive Node where
  | value (v : Value)
  /-- A table; a closed one cannot be opened by a header or reached by a dotted key. -/
  | table (closed : Bool) (entries : List (String × Node))
  /-- An array of tables, of which the last one is the one that can grow. -/
  | tables (earlier : List (List (String × Node))) (last : List (String × Node))
  deriving Inhabited

abbrev Entries := List (String × Node)

mutual

def Node.toValue : Node → Value
  | .value v => v
  | .table _ entries => .mapping (toPairs entries)
  | .tables earlier last => .list (toRows earlier ++ [.mapping (toPairs last)])

def toPairs : List (String × Node) → List (Value × Value)
  | [] => []
  | (k, n) :: rest => (.text k, n.toValue) :: toPairs rest

def toRows : List (List (String × Node)) → List Value
  | [] => []
  | es :: rest => .mapping (toPairs es) :: toRows rest

end

namespace Entries

def put (key : String) (node : Node) : Entries → Entries
  | [] => [(key, node)]
  | (k, n) :: rest => if k = key then (k, node) :: rest else (k, n) :: put key node rest

/-- Changes the table at the end of a path. Tables that are missing on the way are made, and an
array of tables is entered at its last one. -/
def within (change : Entries → Read Entries) : List String → Entries → Read Entries
  | [], es => change es
  | k :: ks, es =>
    match (es.lookup k).getD (.table false []) with
    | .table closed inner => do pure (put k (.table closed (← within change ks inner)) es)
    | .tables earlier last => do pure (put k (.tables earlier (← within change ks last)) es)
    | .value _ => .error .malformed

def alter (change : Option Node → Read Node) (path : List String) (es : Entries) : Read Entries :=
  match path.getLast? with
  | some key =>
    within (fun inner => do pure (put key (← change (inner.lookup key)) inner)) path.dropLast es
  | none => .error .malformed

def openTable : List String → Entries → Read Entries :=
  alter fun
    | none => .ok (.table true [])
    | some (.table false inner) => .ok (.table true inner)
    | some _ => .error .malformed

def appendTable : List String → Entries → Read Entries :=
  alter fun
    | none => .ok (.tables [] [])
    | some (.tables earlier last) => .ok (.tables (earlier ++ [last]) [])
    | some _ => .error .malformed

def close : List String → Entries → Read Entries :=
  alter fun
    | some (.table _ inner) => .ok (.table true inner)
    | some n => .ok n
    | none => .error .malformed

def assign (v : Value) : List String → Entries → Read Entries
  | [], _ => .error .malformed
  | [k], es => if (es.lookup k).isSome then .error .malformed else .ok (put k (.value v) es)
  | k :: ks, es =>
    match (es.lookup k).getD (.table false []) with
    | .table false inner => do pure (put k (.table false (← assign v ks inner)) es)
    | _ => .error .malformed

end Entries

inductive Statement where
  | openTable (path : List String)
  | appendTable (path : List String)
  | assign (key : List String) (v : Value)

structure Draft where
  entries : Entries := []
  /-- The table that the last header opened. -/
  header : List String := []
  /-- The tables that dotted keys have made or entered since then. -/
  dotted : List (List String) := []

namespace Draft

def settle (d : Draft) : Read Entries :=
  d.dotted.foldlM (fun es path => Entries.close path es) d.entries

def pathsThrough (header key : List String) : List (List String) :=
  (List.range key.length).tail.map fun n => header ++ key.take n

def add (d : Draft) : Statement → Read Draft
  | .openTable path => do
    pure { entries := ← Entries.openTable path (← d.settle), header := path }
  | .appendTable path => do
    pure { entries := ← Entries.appendTable path (← d.settle), header := path }
  | .assign key v => do
    let entries ← Entries.within (Entries.assign v key) d.header d.entries
    pure { d with entries, dotted := d.dotted ++ pathsThrough d.header key }

end Draft

end ReactLint.Toml
