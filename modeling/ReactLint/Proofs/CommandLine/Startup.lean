import ReactLint.Proofs.Console
import ReactLint.Proofs.Registry.Faults

/-!
# How a start can end

A command starts by loading the configuration and the rules of the working folder. Either both are
there, or the start is refused with a message and the exit code 2, or it ends in a fault and the
exit code 1. The last is the case for paths that are too long, for what a reader of documents or
patterns neither takes nor calls malformed, for values that cannot be shown, and for values of a
kind that nothing checks. All of these are listed; a start never succeeds while one of them is
present.
-/

namespace ReactLint

def ConfigFailure.fault? : ConfigFailure → Option Fault
  | .config _ => none
  | .fault f => some f

@[simp]
theorem ConfigFailure.fault?_orFault (e : ConfigError) (f? : Option Fault) :
    (ConfigFailure.orFault e f?).fault? = f? := by
  cases f? <;> rfl

namespace Config

inductive DocumentFault (room : Nat) (label : String) (doc : Entries) : Fault → Prop where
  | failOn {scan : Entries} {v : Value} {f : Fault} : sectionOf label doc "scan" = .ok scan →
      Value.field? "fail_on" scan = some v → v.showFault? room = some f →
      DocumentFault room label doc f
  | format {output : Entries} {v : Value} {f : Fault} : sectionOf label doc "output" = .ok output →
      Value.field? "format" output = some v → v.showFault? room = some f →
      DocumentFault room label doc f

section Readers

variable (R : Readers)

inductive FileFault (w : Place) (p : Path) (label : String) : Fault → Prop where
  | document {bytes : ByteArray} {f : Fault} : w.readBytes p = .ok bytes →
      R.config bytes = .error (.fault f) → FileFault w p label f
  | field {bytes : ByteArray} {doc : Entries} {f : Fault} : w.readBytes p = .ok bytes →
      R.config bytes = .ok doc → DocumentFault R.room label doc f → FileFault w p label f

/-- The faults of the configuration file, of its name and of adding to what it switches off. -/
inductive LoadFault (w : Place) (env : Environment) (root : Path) (asked : String) :
    Fault → Prop where
  | name : w.locate (sought root asked) = .error .nameTooLong →
      LoadFault w env root asked .nameTooLong
  | file {p : Path} {label : String} {f : Fault} :
      findFile w root asked = .ok (some (p, label)) → FileFault R w p label f →
      LoadFault w env root asked f
  | disable {file : Option (Path × String)} {c : Config} : findFile w root asked = .ok file →
      ofFile R w file = .ok c → env.disableRules ≠ "" → (∀ items, c.disable ≠ .list items) →
      LoadFault w env root asked .notExtendable

end Readers

theorem accounts_checked {α : Type} (name : String) (base : α) (read : Value → Option α)
    (refuse : Value → ConfigFailure) (entries : Entries) :
    Accounts ConfigFailure.fault?
      (fun f => ∃ v, Value.field? name entries = some v ∧ read v = none ∧
        (refuse v).fault? = some f)
      (checked name base read refuse entries) := by
  rw [checked]
  cases hv : Value.field? name entries with
  | none => simp [Accounts]
  | some v =>
    cases hread : read v with
    | some a => simp [Accounts, hread]
    | none => simp [Accounts, hread]

/-- A value that cannot be shown is no text, so that no check accepts it. -/
theorem accounts_checked_showing {α : Type} (room : Nat) (name : String) (base : α)
    (read : String → Option α) (e : Value → ConfigError) (entries : Entries) :
    Accounts ConfigFailure.fault?
      (fun f => ∃ v, Value.field? name entries = some v ∧ v.showFault? room = some f)
      (checked name base (fun v => v.text?.bind read) (fun v => .showing room v (e v))
        entries) := by
  refine (accounts_checked name base _ _ entries).congr fun f => ?_
  simp only [ConfigFailure.showing, ConfigFailure.fault?_orFault]
  refine exists_congr fun v => and_congr_right fun _ => and_iff_right_of_imp fun hv => ?_
  cases htext : v.text? with
  | none => rfl
  | some s =>
    rw [Rule.showFault?_of_text? htext] at hv
    cases hv

theorem quiet_mapError {α : Type} {x : Except ConfigError α} (e : ConfigFailure)
    (h : x.mapError .config = .error e) : e.fault? = none := by
  cases x with
  | ok a => cases h
  | error e' =>
    cases h
    rfl

theorem sectionsOf_eq_ok {label : String} {doc : Entries} {s : Sections}
    (h : sectionsOf label doc = .ok s) :
    sectionOf label doc "scan" = .ok s.scan ∧ sectionOf label doc "output" = .ok s.output ∧
      sectionOf label doc "rules" = .ok s.rules ∧ allowListsOf doc = .ok s.lists ∧
      sectionOf label doc "server" = .ok s.server := by
  simp only [sectionsOf] at h
  obtain ⟨scan, hscan, h⟩ := bind_eq_ok.mp h
  obtain ⟨output, houtput, h⟩ := bind_eq_ok.mp h
  obtain ⟨rules, hrules, h⟩ := bind_eq_ok.mp h
  obtain ⟨lists, hlists, h⟩ := bind_eq_ok.mp h
  obtain ⟨server, hserver, h⟩ := bind_eq_ok.mp h
  cases h
  exact ⟨hscan, houtput, hrules, hlists, hserver⟩

theorem quiet_maxInputOf (scan : Entries) (e : ConfigFailure) (h : maxInputOf scan = .error e) :
    e.fault? = none := by
  simp only [maxInputOf, checked] at h
  split at h
  · cases h
  · split at h
    · cases h
    · cases h
      rfl

theorem accounts_ofDocument (room : Nat) (label : String) (doc : Entries) :
    Accounts ConfigFailure.fault? (DocumentFault room label doc) (ofDocument room label doc) := by
  rw [ofDocument]
  refine .bind_of_quiet quiet_mapError fun s hs => ?_
  obtain ⟨hscan, houtput, -, -, -⟩ := sectionsOf_eq_ok (mapError_eq_ok.mp hs)
  have hfailOn : Accounts ConfigFailure.fault? _ (failOnOf room s.scan) :=
    accounts_checked_showing room "fail_on" _ _ _ s.scan
  have hformat : Accounts ConfigFailure.fault? _ (formatOf room s.output) :=
    accounts_checked_showing room "format" _ _ _ s.output
  refine (hfailOn.bind fun failOn _ => hformat.bind_quiet fun format e he => ?_).congr
    fun f => ⟨?_, fun hf => ?_⟩
  · cases hmax : maxInputOf s.scan with
    | error e' =>
      rw [hmax] at he
      cases he
      exact quiet_maxInputOf s.scan _ hmax
    | ok maxInput =>
      rw [hmax] at he
      cases he
  · rintro (⟨v, hv, hshown⟩ | ⟨v, hv, hshown⟩)
    · exact .failOn hscan hv hshown
    · exact .format houtput hv hshown
  · cases hf with
    | failOn hscan' hv hshown =>
      rw [hscan] at hscan'
      cases hscan'
      exact .inl ⟨_, hv, hshown⟩
    | format houtput' hv hshown =>
      rw [houtput] at houtput'
      cases houtput'
      exact .inr ⟨_, hv, hshown⟩

theorem fileFault_iff {R : Readers} {w : Place} {p : Path} {label : String} {bytes : ByteArray}
    {doc : Entries} {f : Fault} (hbytes : w.readBytes p = .ok bytes)
    (hdecode : R.config bytes = .ok doc) :
    FileFault R w p label f ↔ DocumentFault R.room label doc f := by
  constructor
  · intro hf
    cases hf with
    | document hbytes' he =>
      cases hbytes.symm.trans hbytes'
      cases hdecode.symm.trans he
    | field hbytes' hdoc hf =>
      cases hbytes.symm.trans hbytes'
      cases hdecode.symm.trans hdoc
      exact hf
  · exact .field hbytes hdecode

theorem accounts_file (R : Readers) (w : Place) (p : Path) (label : String) :
    Accounts ConfigFailure.fault? (FileFault R w p label) (ofFile R w (some (p, label))) := by
  rw [ofFile]
  cases hbytes : w.readBytes p with
  | error e =>
    rw [readDocument, hbytes]
    exact fun f hf => nomatch hf
  | ok bytes =>
    have hread : readDocument R w p label =
        (R.config bytes).mapError fun e => .orFault (.unparsable label) e.fault? := by
      simp only [readDocument, hbytes]
    rw [hread]
    cases hdecode : R.config bytes with
    | error e =>
      intro f hf
      dsimp only at hf
      rw [ConfigFailure.fault?_orFault] at hf
      cases e with
      | malformed => cases hf
      | fault f' =>
        cases hf
        exact .document hbytes hdecode
    | ok doc =>
      exact (accounts_ofDocument R.room label doc).congr
        fun f => (fileFault_iff hbytes hdecode).symm

theorem accounts_findFile (w : Place) (root : Path) (asked : String) :
    Accounts ConfigFailure.fault?
      (fun f => w.locate (sought root asked) = .error .nameTooLong ∧ f = .nameTooLong)
      (findFile w root asked) := by
  rw [findFile]
  rcases w.isFile_cases (sought root asked) with ⟨found, hfound, hnamed⟩ | ⟨hfound, hlong⟩
  · rw [hfound]
    have hnone (f : Fault) : ¬ (w.locate (sought root asked) = .error .nameTooLong ∧
        f = .nameTooLong) := fun h => hnamed h.1
    cases found with
    | true => exact hnone
    | false =>
      by_cases hasked : asked = ""
      · simp only [hasked, if_true]
        exact hasked ▸ hnone
      · simp only [hasked, if_false]
        exact fun f hf => nomatch hf
  · rw [hfound]
    intro f hf
    cases hf
    exact ⟨hlong, rfl⟩

theorem accounts_override (env : Environment) (c : Config) :
    Accounts ConfigFailure.fault?
      (fun f => env.disableRules ≠ "" ∧ (∀ items, c.disable ≠ .list items) ∧ f = .notExtendable)
      ((c.override env).mapError .fault) := by
  by_cases henv : env.disableRules = ""
  · simp only [override, addDisabled, henv, if_true]
    exact fun f hf => hf.1 rfl
  · by_cases hlist : ∃ items, c.disable = .list items
    · obtain ⟨items, hitems⟩ := hlist
      simp only [override, addDisabled, henv, if_false, hitems]
      exact fun f hf => hf.2.1 items rfl
    · have hno (items : List Value) : c.disable ≠ .list items := fun h => hlist ⟨items, h⟩
      have hadd : addDisabled env c.disable = .error .notExtendable := by
        simp only [addDisabled, henv, if_false]
      rw [override, hadd]
      intro f hf
      cases hf
      exact ⟨henv, hno, rfl⟩

theorem accounts_load (R : Readers) (w : Place) (env : Environment) (root : Path)
    (asked : String) :
    Accounts ConfigFailure.fault? (LoadFault R w env root asked) (load R w env root asked) := by
  have hofFile (file : Option (Path × String)) : Accounts ConfigFailure.fault?
      (fun f => ∃ p label, file = some (p, label) ∧ FileFault R w p label f) (ofFile R w file) := by
    cases file with
    | none => simp [ofFile, Accounts]
    | some found =>
      obtain ⟨p, label⟩ := found
      refine (accounts_file R w p label).congr fun f => ⟨fun hf => ⟨p, label, rfl, hf⟩, ?_⟩
      rintro ⟨p', label', hsame, hf⟩
      cases hsame
      exact hf
  rw [load]
  refine ((accounts_findFile w root asked).bind_result fun file _ =>
    (hofFile file).bind_result fun c _ => accounts_override env c).congr fun f => ⟨?_, fun hf => ?_⟩
  · rintro (⟨hlong, rfl⟩ | ⟨file, hfound, ⟨p, label, rfl, hf⟩ | ⟨c, hc, henv, hno, rfl⟩⟩)
    · exact .name hlong
    · exact .file hfound hf
    · exact .disable hfound hc henv hno
  · cases hf with
    | name hlong => exact .inl ⟨hlong, rfl⟩
    | file hfound hf => exact .inr ⟨_, hfound, .inl ⟨_, _, rfl, hf⟩⟩
    | disable hfound hc henv hno => exact .inr ⟨_, hfound, .inr ⟨_, hc, henv, hno, rfl⟩⟩

end Config

namespace CommandLine

def StartFailure.fault? : StartFailure → Option Fault
  | .config _ => none
  | .rule _ => none
  | .fault f => some f

theorem StartFailure.fault?_ofConfig (e : ConfigFailure) :
    (StartFailure.ofConfig e).fault? = e.fault? := by
  cases e <;> rfl

theorem StartFailure.fault?_ofRegistry (e : Failure) :
    (StartFailure.ofRegistry e).fault? = e.fault? := by
  cases e <;> rfl

/-- The faults of what a start reads: the configuration file, the rule files and the selection of
rules that the configuration makes. -/
inductive StartFault (s : Session) (config : String) : Fault → Prop where
  | config {f : Fault} : Config.LoadFault s.readers s.place s.environment {} config f →
      StartFault s config f
  | rules {f : Fault} :
      Registry.FolderFault s.readers s.place (({} : Path).child Registry.ruleFolder) f →
      StartFault s config f
  | selection {c : Config} {f : Fault} :
      Config.load s.readers s.place s.environment {} config = .ok c →
      Registry.SelectionFault c.enable c.disable f → StartFault s config f

theorem accounts_start (s : Session) (config : String) :
    Accounts StartFailure.fault? (StartFault s config) (load s config).2 := by
  have hconfig := Config.accounts_load s.readers s.place s.environment {} config
  rw [load]
  cases hload : Config.load s.readers s.place s.environment {} config with
  | error e =>
    rw [hload] at hconfig
    intro f hf
    rw [StartFailure.fault?_ofConfig] at hf
    exact .config (hconfig f hf)
  | ok c =>
    rw [hload] at hconfig
    have hbuild := Registry.accounts_build s.readers s.place c {}
    dsimp only
    cases hresult : (Registry.build s.readers s.place c {}).result with
    | error e =>
      rw [hresult] at hbuild
      intro f hf
      rw [StartFailure.fault?_ofRegistry] at hf
      cases hbuild f hf with
      | rules hf => exact .rules hf
      | selection hf => exact .selection hload hf
    | ok _ =>
      rw [hresult] at hbuild
      intro f hf
      cases hf with
      | config hf => exact hconfig f hf
      | rules hf => exact hbuild f (.rules hf)
      | selection hc hf =>
        rw [hload] at hc
        cases hc
        exact hbuild f (.selection hf)

/-- Whatever reads the files and shows the messages, a start has both the configuration and the
rules, and then nothing that it read holds a fault; or it is refused, with a message and the exit
code 2; or it ends in a fault that something it read holds, with the exit code 1. -/
theorem load_ends (s : Session) (config : String) :
    (∃ c g, (load s config).2 = .ok (c, g) ∧ ∀ f, ¬ StartFault s config f) ∨
    (∃ e message, (load s config).2 = .error e ∧
      ∀ o : Outcome, o.stop s.console e.stop =
        { o with exit := 2, messages := o.messages ++ [message] }) ∨
    ∃ f, (load s config).2 = .error (.fault f) ∧ StartFault s config f ∧
      ∀ o : Outcome, o.stop s.console (StartFailure.fault f).stop =
        { o with exit := 1, fault := some f } := by
  have hstart := accounts_start s config
  cases hload : (load s config).2 with
  | ok loaded =>
    rw [hload] at hstart
    exact .inl ⟨loaded.1, loaded.2, rfl, hstart⟩
  | error e =>
    rw [hload] at hstart
    cases e with
    | config e => exact .inr (.inl ⟨_, _, rfl, fun o => o.stop_notice s.console _⟩)
    | rule e => exact .inr (.inl ⟨_, _, rfl, fun o => o.stop_notice s.console _⟩)
    | fault f => exact .inr (.inr ⟨f, rfl, hstart f rfl, fun _ => rfl⟩)

/-- A configuration file of one byte that starts no character is not refused. -/
theorem load_lone_byte :
    (load
      { place := { disk := { entries := [([".rerender.toml"], .file ⟨#[0xff]⟩)] } }
        now := ⟨⟨2025, 1, 31⟩, ⟨12, 0, 0, 0⟩, some 0⟩ } "").2 = .error (.fault .notUtf8) := by
  with_unfolding_all rfl

end CommandLine

end ReactLint
