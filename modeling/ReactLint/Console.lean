import ReactLint.Markup

/-!
# Consoles

How markup is shown is up to the console: the tags that it knows, and the texts that it refuses
because their tags do not match. What the tool relies on is that a text without any marks is shown
as it stands and that a notice, in which every foreign part is escaped, is taken.

A table is shown as a whole or not at all. Of several things to be printed those in front of the
first that is refused are shown.
-/

namespace ReactLint

structure Console where
  /-- The text that markup shows. -/
  shown : String → Except Fault String
  shown_simple : ∀ s, Markup.isSimple s = true → shown s = .ok s
  takes_notice : ∀ n : Markup.Notice, ∃ t, shown n.markup = .ok t

structure ShownTable where
  title : String
  headers : List String
  rows : List (List String)
  deriving DecidableEq, Repr

namespace Console

def cell (K : Console) : Cell → Except Fault String
  | .markup s => K.shown s
  | .styled t => .ok t.text

def table (K : Console) (t : Table) : Except Fault ShownTable := do
  let title ← K.cell t.title
  let headers ← t.columns.mapM fun c => K.shown c.header
  let rows ← t.rows.mapM fun row => row.mapM K.cell
  pure { title, headers, rows }

def refusal? (K : Console) : Printed → Option Fault
  | .line s => Fault.ofResult? (K.shown s)
  | .table t => Fault.ofResult? (K.table t)

/-- Prints one thing after another, up to the first that is refused. -/
def print (K : Console) : List Printed → List Printed × Option Fault
  | [] => ([], none)
  | p :: ps =>
    match K.refusal? p with
    | some f => ([], some f)
    | none =>
      let (shown, fault) := K.print ps
      (p :: shown, fault)

end Console

namespace Justify

def pad (width : Nat) (s : String) : Justify → String
  | .left => s ++ spaces (width - s.length)
  | .center =>
    let room := width - s.length
    spaces (room / 2) ++ s ++ spaces (room - room / 2)
  | .right => spaces (width - s.length) ++ s
where
  spaces (n : Nat) : String := String.ofList (List.replicate n ' ')

end Justify

namespace ShownTable

def widths (t : ShownTable) : List Nat :=
  t.rows.foldl (fun ws row => List.zipWith (fun w s => max w s.length) ws row)
    (t.headers.map String.length)

/-- A row in columns that are as wide as their widest cell. -/
def lineOf (t : ShownTable) (justify : List Justify) (row : List String) : String :=
  "  ".intercalate (List.zipWith (fun j (w, s) => j.pad w s) justify (t.widths.zip row))

def lines (t : ShownTable) (justify : List Justify) : List String :=
  t.title :: (t.headers :: t.rows).map (t.lineOf justify)

end ShownTable

def Console.lines (K : Console) : Printed → Except Fault (List String)
  | .line s => do pure [← K.shown s]
  | .table t => do pure ((← K.table t).lines (t.columns.map Column.justify))

end ReactLint
