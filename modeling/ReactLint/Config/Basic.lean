import ReactLint.Severity
import ReactLint.Text.Case
import ReactLint.Text.Split
import ReactLint.Value.Basic

/-!
# The configuration

A configuration comes from a document of sections and is then changed by the environment. Five
sections are known; keys that a section does not know are left out. The threshold, the format and
the largest input size are checked; the environment can set the same three, where a setting that is
not valid counts as none, and can add to the rules that are switched off. All else is taken over as
it stands, whatever its kind.
-/

namespace ReactLint

inductive Format where
  | terminal
  | json
  | sarif
  deriving DecidableEq, Repr

namespace Format

def all : List Format := [.terminal, .json, .sarif]

def word : Format → String
  | .terminal => "terminal"
  | .json => "json"
  | .sarif => "sarif"

def ofWord? (s : String) : Option Format := all.find? fun f => f.word == s

theorem ofWord?_word (f : Format) : ofWord? f.word = some f := by cases f <;> decide

end Format

def Severity.ofAnyCase? (s : String) : Option Severity := ofWord? (Text.lowerAscii s)

/-- The largest size of an input, in units of 1024 bytes. -/
inductive SizeLimit where
  | kilobytes (n : Nat)
  /-- The truth value, which counts as one. -/
  | truth
  deriving DecidableEq, Repr

namespace SizeLimit

def bytes : SizeLimit → Nat
  | .kilobytes n => n * 1024
  | .truth => 1024

def toValue : SizeLimit → Value
  | .kilobytes n => .int n
  | .truth => .bool true

def ofValue? : Value → Option SizeLimit
  | .int n => if 0 < n then some (.kilobytes n.toNat) else none
  | .bool true => some .truth
  | _ => none

def ofText? (s : String) : Option SizeLimit :=
  (Text.readInt? s.toList).bind fun n => if 0 < n then some (.kilobytes n.toNat) else none

theorem bytes_of_ofValue? {v : Value} {l : SizeLimit} (h : ofValue? v = some l) :
    1024 ≤ l.bytes := by
  cases v with
  | int n =>
    by_cases hn : 0 < n
    · simp only [ofValue?, hn, if_true, Option.some.injEq] at h
      subst h
      simp only [bytes]
      omega
    · simp [ofValue?, hn] at h
  | bool b =>
    cases b <;> simp [ofValue?] at h
    simp [← h, bytes]
  | _ => simp [ofValue?] at h

end SizeLimit

structure Config where
  version : Value := .text "1.0"
  maxInput : SizeLimit := .kilobytes 256
  /-- The severity from which on issues make a run fail. -/
  failOn : Severity := .high
  format : Format := .terminal
  showSummary : Value := .bool true
  explain : Value := .bool false
  enable : Value := .list []
  disable : Value := .list []
  /-- What is added to the allow-lists, by name. -/
  allowLists : List (String × List String) := []
  /-- The origins that may read the answers of the service. -/
  origins : Value := .list [.text "*"]

inductive ConfigError where
  | notFound (path : String)
  | unparsable (path : String)
  | notTable (path kind : String)
  | listsNotTable
  | listNotTexts (name : String)
  | badFailOn (shown : String)
  | badFormat (shown : String)
  | badSize
  deriving DecidableEq, Repr

def ConfigError.message : ConfigError → String
  | .notFound path => s!"Config file not found: {path}"
  | .unparsable path => s!"Failed to parse {path}"
  | .notTable path kind =>
    s!"Invalid configuration in {path}: '{kind}' object has no attribute 'items'"
  | .listsNotTable => "[allowlist] must be a table of name = [values]"
  | .listNotTexts name => s!"[allowlist] {name} must be a list of strings"
  | .badFailOn shown => s!"Invalid scan.fail_on: {shown}"
  | .badFormat shown => s!"Invalid output.format: {shown}"
  | .badSize => "scan.max_input_kb must be positive"

inductive ConfigFailure where
  | config (e : ConfigError)
  | fault (f : Fault)
  deriving DecidableEq, Repr

def ConfigFailure.orFault (e : ConfigError) : Option Fault → ConfigFailure
  | none => .config e
  | some f => .fault f

def ConfigFailure.showing (room : Nat) (v : Value) (e : ConfigError) : ConfigFailure :=
  .orFault e (v.showFault? room)

namespace Config

abbrev Entries := List (Value × Value)

/-- The entries of a section; a section that is missing has none. -/
def sectionOf (path : String) (doc : Entries) (name : String) : Except ConfigError Entries :=
  match Value.field? name doc with
  | none => .ok []
  | some (.mapping entries) => .ok entries
  | some v => .error (.notTable path v.kindName)

/-- The texts that a value lists, if it lists nothing else. -/
def texts? : Value → Option (List String)
  | .list items => items.mapM Value.text?
  | _ => none

def listsOf : Entries → Except ConfigError (List (String × List String))
  | [] => .ok []
  | (name, v) :: rest =>
    match texts? v with
    | some values => do pure ((name.str, values) :: (← listsOf rest))
    | none => .error (.listNotTexts name.str)

def allowListsOf (doc : Entries) : Except ConfigError (List (String × List String)) :=
  match Value.field? "allowlist" doc with
  | none => .ok []
  | some (.mapping entries) => listsOf entries
  | some _ => .error .listsNotTable

structure Sections where
  scan : Entries
  output : Entries
  rules : Entries
  lists : List (String × List String)
  server : Entries

def sectionsOf (path : String) (doc : Entries) : Except ConfigError Sections := do
  let scan ← sectionOf path doc "scan"
  let output ← sectionOf path doc "output"
  let rules ← sectionOf path doc "rules"
  let lists ← allowListsOf doc
  let server ← sectionOf path doc "server"
  pure { scan, output, rules, lists, server }

/-- A field that is checked: the value that `read` makes of it, or `base` where it is missing. -/
def checked {α : Type} (name : String) (base : α) (read : Value → Option α)
    (refuse : Value → ConfigFailure) (entries : Entries) : Except ConfigFailure α :=
  match Value.field? name entries with
  | none => .ok base
  | some v =>
    match read v with
    | some a => .ok a
    | none => .error (refuse v)

def failOnOf (room : Nat) : Entries → Except ConfigFailure Severity :=
  checked "fail_on" ({} : Config).failOn (fun v => v.text?.bind Severity.ofAnyCase?)
    fun v => .showing room v (.badFailOn v.repr)

def formatOf (room : Nat) : Entries → Except ConfigFailure Format :=
  checked "format" ({} : Config).format (fun v => v.text?.bind Format.ofWord?)
    fun v => .showing room v (.badFormat v.repr)

def maxInputOf : Entries → Except ConfigFailure SizeLimit :=
  checked "max_input_kb" ({} : Config).maxInput SizeLimit.ofValue? fun _ => .config .badSize

/-- The configuration that a document describes. The sections come first, then the threshold, the
format and the size. -/
def ofDocument (room : Nat) (path : String) (doc : Entries) : Except ConfigFailure Config := do
  let s ← (sectionsOf path doc).mapError .config
  let failOn ← failOnOf room s.scan
  let format ← formatOf room s.output
  let maxInput ← maxInputOf s.scan
  let base : Config := {}
  let field (es : Entries) (name : String) (v : Value) : Value := (Value.field? name es).getD v
  pure
    { version := field doc "version" base.version
      maxInput, failOn, format
      showSummary := field s.output "show_summary" base.showSummary
      explain := field s.output "explain" base.explain
      enable := field s.rules "enable" base.enable
      disable := field s.rules "disable" base.disable
      allowLists := s.lists
      origins := field s.server "cors_origins" base.origins }

/-! ## The environment -/

/-- The settings of the environment; an empty one counts as none. -/
structure Environment where
  failOn : String := ""
  format : String := ""
  disableRules : String := ""
  maxInputKb : String := ""

/-- The parts of a text between commas, without the blanks around them; empty ones are left out. -/
def segments (s : String) : List String :=
  (((Text.parts ',' s.toList).map Text.trim).filter fun part => !part.isEmpty).map String.ofList

/-- Adds rule ids to those that are switched off, of which there must be a list. -/
def addDisabled (env : Environment) (disable : Value) : Except Fault Value :=
  if env.disableRules = "" then .ok disable
  else match disable with
    | .list items => .ok (.list (items ++ (segments env.disableRules).map .text))
    | _ => .error .notExtendable

def override (env : Environment) (c : Config) : Except Fault Config := do
  let disable ← addDisabled env c.disable
  pure { c with
    failOn := (Severity.ofAnyCase? env.failOn).getD c.failOn
    format := (Format.ofWord? env.format).getD c.format
    maxInput := (SizeLimit.ofText? env.maxInputKb).getD c.maxInput
    disable }

theorem segments_empty : segments "" = [] := by decide

end Config

end ReactLint
