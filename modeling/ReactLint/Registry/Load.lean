import ReactLint.Catalog.Basic
import ReactLint.Config.Basic
import ReactLint.Disk.Basic
import ReactLint.Rule.Entry

/-!
# Loading rules

The rule files of a folder are loaded in ascending order of their names, and the rules of a file in
the order in which they stand there. The first one that is refused ends the loading; what was
registered before it stays.
-/

namespace ReactLint.Registry

def ruleFolder : String := ".rerender-rules"

def isRuleFile (name : String) : Bool := [".yaml", ".yml"].contains (Path.suffix name)

variable (R : Readers)

def readRuleFile (w : Place) (p : Path) (label : String) : Except Failure Value :=
  match w.readBytes p with
  | .error _ => .error (.rule (.unreadable label))
  | .ok bytes => (R.rules bytes).mapError fun e => .orFault (.unreadable label) e.fault?

/-- The entries of a document: a list holds them all, and anything else is one. -/
def entriesOf : Value → List Value
  | .list items => items
  | v => [v]

def registerEntries (source : String) : List Value → Registry → Effect Unit
  | [], g => { registry := g, result := .ok () }
  | entry :: entries, g =>
    match Rule.ofEntry R entry source with
    | .error f => { registry := g, result := .error f }
    | .ok r => (g.register r).andThen fun _ => registerEntries source entries

/-- Loads one rule file and answers with the number of its rules. An empty document has none and
leaves no trace. -/
def loadFile (w : Place) (p : Path) (g : Registry) : Effect Nat :=
  let label := w.shown p
  match readRuleFile R w p label with
  | .error f => { registry := g, result := .error f }
  | .ok .null => { registry := g, result := .ok 0 }
  | .ok v =>
    let entries := entriesOf v
    (registerEntries R label entries g).andThen fun _ g =>
      { registry := g
        logs := [⟨.info, s!"Loaded {entries.length} custom rule(s) from {label}"⟩]
        result := .ok entries.length }

def loadFiles (w : Place) : List Path → Registry → Effect Nat
  | [], g => { registry := g, result := .ok 0 }
  | p :: ps, g =>
    (loadFile R w p g).andThen fun n g => (loadFiles w ps g).andThen fun m g =>
      { registry := g, result := .ok (n + m) }

def ruleFiles (w : Place) (folder : Path) : Except Fault (List Path) :=
  (w.namesIn folder).map fun names => (names.filter isRuleFile).map folder.child

def loadFolder (w : Place) (folder : Path) (g : Registry) : Effect Nat :=
  match ruleFiles w folder with
  | .ok ps => loadFiles R w ps g
  | .error f => { registry := g, result := .error (.fault f) }

def extendLists (lists : List (String × List String)) (g : Registry) : Registry :=
  { g with
    lists := lists.foldl (fun ls (name, vs) => ls.extend (.text name) (vs.map .text)) g.lists }

/-- The registry of the project in the folder `root`: the allow-lists come first, since rules name
them, then the catalog, the rules of the project and the selection of rules. -/
def build (w : Place) (c : Config) (root : Path) : Effect Unit :=
  (registerAll Catalog.rules (extendLists c.allowLists {})).andThen fun _ g =>
    (loadFolder R w (root.child ruleFolder) g).andThen fun _ g =>
      g.select c.enable c.disable

end ReactLint.Registry
