import ReactLint.Config.Basic
import ReactLint.Disk.Basic
import ReactLint.Reader

/-!
# Loading the configuration

The configuration file is the one that is asked for, or the one with the usual name in the root of
the project. Without the latter the configuration is the default one. The environment comes last in
every case.
-/

namespace ReactLint.Config

def fileName : String := ".rerender.toml"

def starter : String :=
  "# Rerender Configuration\n" ++
  "version = \"1.0\"\n" ++
  "\n" ++
  "[scan]\n" ++
  "max_input_kb = 256        # inputs above this size are rejected by the CLI and server\n" ++
  "fail_on = \"high\"          # info | low | medium | high — exit 1 at or above this level\n" ++
  "\n" ++
  "[output]\n" ++
  "format = \"terminal\"       # terminal | json | sarif\n" ++
  "show_summary = true\n" ++
  "explain = false           # print the why/fix text under each issue\n" ++
  "\n" ++
  "[rules]\n" ++
  "# enable = [\"A001\", \"B001\"]   # empty = all enabled\n" ++
  "# disable = [\"E001\"]\n" ++
  "\n" ++
  "[allowlist]\n" ++
  "# safe_state_initializers = [\"useInitialCount\"]\n" ++
  "\n" ++
  "[server]\n" ++
  "cors_origins = [\"*\"]\n"

/-- The path of the file that is asked for, or of the one with the usual name. -/
def sought (root : Path) (asked : String) : Path :=
  if asked = "" then root.child fileName else .ofString asked

/-- The file to read and its name in messages. A file that is asked for must exist. -/
def findFile (w : Place) (root : Path) (asked : String) :
    Except ConfigFailure (Option (Path × String)) := do
  let p := sought root asked
  if ← (w.isFile p).mapError .fault then
    pure (some (p, if asked = "" then w.shown p else p.text))
  else if asked = "" then pure none
  else throw (.config (.notFound asked))

variable (R : Readers)

def readDocument (w : Place) (p : Path) (label : String) : Except ConfigFailure Entries :=
  match w.readBytes p with
  | .error _ => .error (.config (.unparsable label))
  | .ok bytes => (R.config bytes).mapError fun e => .orFault (.unparsable label) e.fault?

def ofFile (w : Place) : Option (Path × String) → Except ConfigFailure Config
  | none => .ok {}
  | some (p, label) => do
    let doc ← readDocument R w p label
    ofDocument R.room label doc

def load (w : Place) (env : Environment) (root : Path) (asked : String) :
    Except ConfigFailure Config := do
  let file ← findFile w root asked
  let c ← ofFile R w file
  (c.override env).mapError .fault

end ReactLint.Config
