import ReactLint.Proofs.Analysis.Faultless
import ReactLint.Proofs.CommandLine.Startup
import ReactLint.Proofs.Disk

/-!
# Runs that are refused

A run checks everything that it reads before it prints or writes anything: the configuration and the
rules, the options, the source and its size. The first check that fails refuses the run, with a
message and the exit code 2. No other run ends with this code, since an analysis of a text is never
an error; so a run with this code has left nothing behind.
-/

namespace ReactLint

theorem Format.ofWord?_eq_some_iff {s : String} {f : Format} : ofWord? s = some f ↔ s = f.word := by
  constructor
  · intro h
    have hword := List.find?_some h
    exact (beq_iff_eq.mp hword).symm
  · rintro rfl
    exact ofWord?_word f

theorem Severity.ofAnyCase?_eq_some_iff {s : String} {l : Severity} :
    ofAnyCase? s = some l ↔ Text.lowerAscii s = l.word := by
  constructor
  · intro h
    have hword := List.find?_some h
    exact (beq_iff_eq.mp hword).symm
  · intro h
    rw [ofAnyCase?, h]
    exact ofWord?_word l

namespace CommandLine

/-! ## The options of a run -/

namespace AnalyzeOptions

def HasFormat (o : AnalyzeOptions) : Prop := o.format = "" ∨ ∃ f : Format, o.format = f.word

def HasThreshold (o : AnalyzeOptions) : Prop :=
  o.failOn = "" ∨ ∃ l : Severity, Text.lowerAscii o.failOn = l.word

def formatOver (o : AnalyzeOptions) (c : Config) : Format :=
  (Format.ofWord? o.format).getD c.format

def thresholdOver (o : AnalyzeOptions) (c : Config) : Severity :=
  (Severity.ofAnyCase? o.failOn).getD c.failOn

def configOver (o : AnalyzeOptions) (c : Config) : Config :=
  { c with format := o.formatOver c, failOn := o.thresholdOver c
           explain := if o.explain then .bool true else c.explain }

end AnalyzeOptions

def optionOver {α : Type} (s : String) (base : α) (read : String → Option α) (refused : Stop) :
    Except Stop α :=
  if s = "" then pure base
  else match read s with
    | some a => pure a
    | none => throw refused

def formatMessage (o : AnalyzeOptions) : Printed :=
  .line s!"[bold red]Invalid format:[/bold red] {o.format}"

def thresholdMessage (o : AnalyzeOptions) : Printed :=
  .line s!"[bold red]Invalid fail-on level:[/bold red] {o.failOn}"

theorem withOptions_eq (c : Config) (o : AnalyzeOptions) :
    withOptions c o = (do
      let format ← optionOver o.format c.format Format.ofWord? (.refuse (formatMessage o))
      let failOn ← optionOver o.failOn c.failOn Severity.ofAnyCase? (.refuse (thresholdMessage o))
      pure { c with format, failOn, explain := if o.explain then .bool true else c.explain }) := by
  by_cases hformat : o.format = "" <;> by_cases hlevel : o.failOn = "" <;>
    simp only [withOptions, optionOver, hformat, hlevel, if_true, if_false, bind, Except.bind, pure,
      Except.pure]
  · cases Severity.ofAnyCase? o.failOn <;> rfl
  · cases Format.ofWord? o.format <;> rfl
  · cases Format.ofWord? o.format with
    | none => rfl
    | some f => cases Severity.ofAnyCase? o.failOn <;> rfl

theorem optionOver_cases {α : Type} {read : String → Option α} (hempty : read "" = none)
    (s : String) (base : α) (refused : Stop) :
    ((s = "" ∨ ∃ a, read s = some a) ∧ optionOver s base read refused = .ok ((read s).getD base)) ∨
      (s ≠ "" ∧ read s = none) ∧ optionOver s base read refused = .error refused := by
  by_cases hs : s = ""
  · left
    rw [optionOver, if_pos hs, hs, hempty]
    exact ⟨.inl rfl, rfl⟩
  · cases hread : read s with
    | some a =>
      left
      rw [optionOver, if_neg hs, hread]
      exact ⟨.inr ⟨a, rfl⟩, rfl⟩
    | none =>
      right
      rw [optionOver, if_neg hs, hread]
      exact ⟨⟨hs, rfl⟩, rfl⟩

theorem withOptions_cases (c : Config) (o : AnalyzeOptions) :
    (o.HasFormat ∧ o.HasThreshold ∧ withOptions c o = .ok (o.configOver c)) ∨
      (¬ o.HasFormat ∧ withOptions c o = .error (.refuse (formatMessage o))) ∨
      o.HasFormat ∧ ¬ o.HasThreshold ∧ withOptions c o = .error (.refuse (thresholdMessage o)) := by
  have hnoFormat : Format.ofWord? "" = none := by decide
  have hnoLevel : Severity.ofAnyCase? "" = none := by decide
  rw [withOptions_eq]
  rcases optionOver_cases hnoFormat o.format c.format (.refuse (formatMessage o)) with
    ⟨hknown, hformat⟩ | ⟨hno, hformat⟩
  · have hhas : o.HasFormat := hknown.imp_right fun ⟨f, hf⟩ => ⟨f, Format.ofWord?_eq_some_iff.mp hf⟩
    rcases optionOver_cases hnoLevel o.failOn c.failOn (.refuse (thresholdMessage o)) with
      ⟨hknown, hlevel⟩ | ⟨hno, hlevel⟩
    · refine .inl ⟨hhas, ?_, ?_⟩
      · exact hknown.imp_right fun ⟨l, hl⟩ => ⟨l, Severity.ofAnyCase?_eq_some_iff.mp hl⟩
      · rw [hformat, hlevel]
        rfl
    · refine .inr (.inr ⟨hhas, ?_, by rw [hformat, hlevel]; rfl⟩)
      rintro (hempty | ⟨l, hl⟩)
      · exact hno.1 hempty
      · rw [← Severity.ofAnyCase?_eq_some_iff, hno.2] at hl
        cases hl
  · refine .inr (.inl ⟨?_, by rw [hformat]; rfl⟩)
    rintro (hempty | ⟨f, hf⟩)
    · exact hno.1 hempty
    · rw [← Format.ofWord?_eq_some_iff, hno.2] at hf
      cases hf

/-! ## What a run is prepared from -/

def started (s : Session) (o : AnalyzeOptions) : Outcome :=
  { place := s.place, level := some (logLevel o), logs := (load s o.config).1 }

def ready (s : Session) (o : AnalyzeOptions) (c : Config) (g : Registry) (source code : String) :
    Ready :=
  { options := o, config := o.configOver c, registry := g, source, code
    outcome := { started s o with messages := countMessages o g } }

structure Accepts (s : Session) (o : AnalyzeOptions) (c : Config) (g : Registry)
    (source code : String) : Prop where
  loaded : (load s o.config).2 = .ok (c, g)
  format : o.HasFormat
  threshold : o.HasThreshold
  read : readSource s o.target = .ok (source, code)
  fits : code.utf8ByteSize ≤ c.maxInput.bytes

/-- The reasons for which a run is refused, each with its message. A check is made only where those
in front of it have been passed. -/
inductive Refusal (s : Session) (o : AnalyzeOptions) : Printed → Prop where
  | start {e : StartFailure} {m : Printed} : (load s o.config).2 = .error e →
      e.stop = .refuse m → Refusal s o m
  | format {c : Config} {g : Registry} : (load s o.config).2 = .ok (c, g) → ¬ o.HasFormat →
      Refusal s o (formatMessage o)
  | threshold {c : Config} {g : Registry} : (load s o.config).2 = .ok (c, g) → o.HasFormat →
      ¬ o.HasThreshold → Refusal s o (thresholdMessage o)
  | source {c : Config} {g : Registry} {m : Printed} : (load s o.config).2 = .ok (c, g) →
      o.HasFormat → o.HasThreshold → readSource s o.target = .error (.refuse m) → Refusal s o m
  | size {c : Config} {g : Registry} {source code : String} : (load s o.config).2 = .ok (c, g) →
      o.HasFormat → o.HasThreshold → readSource s o.target = .ok (source, code) →
      c.maxInput.bytes < code.utf8ByteSize → Refusal s o (tooLarge c code)

theorem readInput_of_eq {s : Session} {text : String} (h : s.input = text.toUTF8) :
    readInput s = .ok ("<stdin>", Text.unifyLineEnds text) := by
  rw [readInput, h, Place.textOf_toUTF8]

/-- Where there is neither a configuration file nor a folder of rules, a start has the catalog. -/
theorem load_bare {s : Session} (hconfig : s.place.isFile (Config.sought {} "") = .ok false)
    (hrules : s.place.namesIn (({} : Path).child Registry.ruleFolder) = .ok [])
    (henv : s.environment = {}) : (load s "").2 = .ok ({}, Registry.default) := by
  have hload : Config.load s.readers s.place s.environment {} "" = .ok {} := by
    rw [Config.load, Config.findFile, hconfig, henv]
    rfl
  have hfiles : Registry.ruleFiles s.place (({} : Path).child Registry.ruleFolder) = .ok [] := by
    rw [Registry.ruleFiles, hrules]
    rfl
  have hbuild : Registry.build s.readers s.place {} {} =
      (Registry.registerAll Catalog.rules (Registry.extendLists [] {})).andThen fun _ g =>
        (Registry.loadFiles s.readers s.place [] g).andThen fun _ g =>
          g.select (.list []) (.list []) := by
    simp only [Registry.build, Registry.loadFolder, hfiles]
  rw [load, hload]
  dsimp only
  rw [hbuild]
  rfl

theorem takes_countMessages (K : Console) (o : AnalyzeOptions) (g : Registry) :
    K.Takes (countMessages o g) := by
  rw [countMessages]
  split
  · exact Console.takes_singleton.mpr (Console.refusal?_notice _)
  · exact Console.takes_nil

section Checks

variable {s : Session} {o : AnalyzeOptions} {c : Config} {g : Registry} {source code : String}

theorem withOptions_of_valid (hformat : o.HasFormat) (hthreshold : o.HasThreshold) (c : Config) :
    withOptions c o = .ok (o.configOver c) := by
  rcases withOptions_cases c o with ⟨-, -, hoptions⟩ | ⟨hno, -⟩ | ⟨-, hno, -⟩
  · exact hoptions
  · exact absurd hformat hno
  · exact absurd hthreshold hno

def counted (s : Session) (o : AnalyzeOptions) (g : Registry) : Outcome :=
  { started s o with messages := countMessages o g }

theorem prepare_of_error {e : StartFailure} (h : (load s o.config).2 = .error e) :
    prepare s o = .error ((started s o).stop s.console e.stop) := by
  rcases hload : load s o.config with ⟨logs, loaded⟩
  rw [hload] at h
  cases h
  simp only [prepare, hload, started]
  rfl

theorem prepare_of_loaded (h : (load s o.config).2 = .ok (c, g)) :
    prepare s o =
      match withOptions c o with
      | .error m => .error ((started s o).stop s.console m)
      | .ok c' =>
        match readSource s o.target with
        | .error m => .error ((counted s o g).stop s.console m)
        | .ok (source, code) =>
          match checkSize c' code with
          | .error m => .error ((counted s o g).stop s.console m)
          | .ok _ => .ok { options := o, config := c', registry := g, source, code
                           outcome := counted s o g } := by
  rcases hload : load s o.config with ⟨logs, loaded⟩
  rw [hload] at h
  cases h
  have hsay : (started s o).say s.console (countMessages o g) = .ok (counted s o g) := by
    rw [Outcome.say_of_takes (takes_countMessages s.console o g)]
    rfl
  rw [started, hload] at hsay
  simp only [prepare, hload, started, Outcome.attempt, mapError_ok, bind, Except.bind]
  cases withOptions c o with
  | error m => rfl
  | ok c' =>
    simp only [mapError_ok, hsay]
    cases readSource s o.target with
    | error m => rfl
    | ok r =>
      obtain ⟨source, code⟩ := r
      simp only [mapError_ok]
      cases checkSize c' code <;> rfl

theorem prepare_of_accepts (h : Accepts s o c g source code) :
    prepare s o = .ok (ready s o c g source code) := by
  have hsize : checkSize (o.configOver c) code = .ok () := if_neg (Nat.not_lt.mpr h.fits)
  rw [prepare_of_loaded h.loaded, withOptions_of_valid h.format h.threshold, h.read]
  dsimp only
  rw [hsize]
  rfl

theorem checkSize_of_large (o : AnalyzeOptions) (h : c.maxInput.bytes < code.utf8ByteSize) :
    checkSize (o.configOver c) code = .error (.refuse (tooLarge c code)) := if_pos h

theorem Refusal.prepare_eq {m : Printed} (h : Refusal s o m) : ∃ messages,
    prepare s o = .error ({ started s o with messages }.stop s.console (.refuse m)) := by
  cases h with
  | start he hm => exact ⟨[], hm ▸ prepare_of_error he⟩
  | @format c g hload hno =>
    rcases withOptions_cases c o with ⟨hformat, -⟩ | ⟨-, hoptions⟩ | ⟨hformat, -⟩
    · exact absurd hformat hno
    · exact ⟨[], by rw [prepare_of_loaded hload, hoptions]; rfl⟩
    · exact absurd hformat hno
  | @threshold c g hload hformat hno =>
    rcases withOptions_cases c o with ⟨-, hthreshold, -⟩ | ⟨hno', -⟩ | ⟨-, -, hoptions⟩
    · exact absurd hthreshold hno
    · exact absurd hformat hno'
    · exact ⟨[], by rw [prepare_of_loaded hload, hoptions]; rfl⟩
  | @source c g _ hload hformat hthreshold hread =>
    refine ⟨countMessages o g, ?_⟩
    rw [prepare_of_loaded hload, withOptions_of_valid hformat hthreshold, hread]
    rfl
  | @size c g source code hload hformat hthreshold hread hlarge =>
    refine ⟨countMessages o g, ?_⟩
    rw [prepare_of_loaded hload, withOptions_of_valid hformat hthreshold, hread]
    dsimp only
    rw [checkSize_of_large o hlarge]
    rfl

/-- A run is ready to analyse a text, or the first check that it does not pass stops it. -/
theorem prepare_cases (s : Session) (o : AnalyzeOptions) :
    (∃ c g source code, Accepts s o c g source code) ∨
    ∃ why messages, (∀ m, why = .refuse m → Refusal s o m) ∧
      prepare s o = .error ({ started s o with messages }.stop s.console why) := by
  cases hload : (load s o.config).2 with
  | error e => exact .inr ⟨e.stop, [], fun m => .start hload, prepare_of_error hload⟩
  | ok loaded =>
    obtain ⟨c, g⟩ := loaded
    have hprepare := prepare_of_loaded hload
    rcases withOptions_cases c o with ⟨hformat, hthreshold, hoptions⟩ | ⟨hno, hoptions⟩ |
      ⟨hformat, hno, hoptions⟩
    · rw [hoptions] at hprepare
      cases hread : readSource s o.target with
      | error why =>
        rw [hread] at hprepare
        refine .inr ⟨why, countMessages o g, fun m hm => ?_, hprepare⟩
        exact .source hload hformat hthreshold (hm ▸ hread)
      | ok r =>
        obtain ⟨source, code⟩ := r
        rw [hread] at hprepare
        by_cases hlarge : c.maxInput.bytes < code.utf8ByteSize
        · dsimp only at hprepare
          rw [checkSize_of_large o hlarge] at hprepare
          refine .inr ⟨_, countMessages o g, fun m hm => ?_, hprepare⟩
          cases hm
          exact .size hload hformat hthreshold hread hlarge
        · exact .inl ⟨c, g, source, code, hload, hformat, hthreshold, hread,
            Nat.not_lt.mp hlarge⟩
    · rw [hoptions] at hprepare
      refine .inr ⟨_, [], fun m hm => ?_, hprepare⟩
      cases hm
      exact .format hload hno
    · rw [hoptions] at hprepare
      refine .inr ⟨_, [], fun m hm => ?_, hprepare⟩
      cases hm
      exact .threshold hload hformat hno

end Checks

/-! ## How a run ends -/

def Outcome.LeavesNothing (out : Outcome) (s : Session) : Prop :=
  out.stdout = "" ∧ out.tables = [] ∧ out.place = s.place

theorem isError_analyzeText (g : Registry) (now : Moment) (code : String) :
    (g.analyzeText now code).1.isError = false := by
  rw [← Bool.not_eq_true, Report.isError_iff]
  exact Option.some_ne_none _

theorem Ready.exitCode_le_one (r : Ready) {report : Report} (h : report.isError = false) :
    r.exitCode report = 0 ∨ r.exitCode report = 1 := by
  rw [exitCode, h]
  split
  · contradiction
  · split
    · exact .inr rfl
    · exact .inl rfl

namespace Ready

def reported (r : Ready) (report : Report) (logs : List LogEntry) (tenths : Nat) : Outcome :=
  { r.outcome with
    logs := r.outcome.logs ++ logs
    messages := r.outcome.messages ++ (r.timing tenths ++ r.printed report)
    stdout := ((r.reportText? report).map (· ++ "\n")).getD "" }

variable {K : Console} {r : Ready} {report : Report} (logs : List LogEntry) (tenths : Nat)

theorem takes_timing (K : Console) (r : Ready) (tenths : Nat) : K.Takes (r.timing tenths) := by
  rw [timing]
  split
  · exact Console.takes_singleton.mpr (Console.refusal?_notice _)
  · exact Console.takes_nil

theorem finish_of_takes (h : K.Takes (r.printed report)) :
    r.finish K report logs tenths =
      .final ((r.save K report (r.reported report logs tenths)).map
        fun o => { o with exit := r.exitCode report }) := by
  simp only [finish, Outcome.say_of_takes (Console.takes_append.mpr ⟨takes_timing K r tenths, h⟩)]
  rfl

/-- What is printed for a report is the first thing that may fail, and nothing is left behind then
but messages. -/
theorem finish_of_not_takes (h : ¬ K.Takes (r.printed report)) : ∃ shown f,
    r.finish K report logs tenths =
      { r.outcome with
        logs := r.outcome.logs ++ logs, messages := r.outcome.messages ++ shown }.fail f := by
  have hno : ¬ K.Takes (r.timing tenths ++ r.printed report) := fun htakes =>
    h (Console.takes_append.mp htakes).2
  obtain ⟨shown, f, hsay⟩ := Outcome.say_of_not_takes
    (o := { r.outcome with logs := r.outcome.logs ++ logs }) hno
  refine ⟨shown, f, ?_⟩
  simp only [finish, hsay]
  rfl

/-- How writing a report can end: there is no file to write, or it cannot be written, or it is
written, and the message that says so is taken or not. -/
theorem save_cases (K : Console) (r : Ready) (report : Report) (o : Outcome) :
    (r.options.output = "" ∧ r.save K report o = .ok o) ∨
    (r.options.output ≠ "" ∧
      ∃ f, o.place.writeText (.ofString r.options.output) (r.fileText report) = .error f ∧
        r.save K report o = .error (o.fail f)) ∨
    (r.options.output ≠ "" ∧
      ∃ place, o.place.writeText (.ofString r.options.output) (r.fileText report) = .ok place ∧
        (K.Takes r.fileNote ∧
            r.save K report o = .ok { o with place, messages := o.messages ++ r.fileNote } ∨
          ¬ K.Takes r.fileNote ∧ ∃ shown f, r.save K report o =
            .error ({ o with place, messages := o.messages ++ shown }.fail f))) := by
  rw [save]
  by_cases hno : r.options.output = ""
  · exact .inl ⟨hno, if_pos hno⟩
  · rw [if_neg hno]
    cases hwrite : o.place.writeText (.ofString r.options.output) (r.fileText report) with
    | error f => exact .inr (.inl ⟨hno, f, rfl, rfl⟩)
    | ok place =>
      refine .inr (.inr ⟨hno, place, rfl, ?_⟩)
      by_cases hnote : K.Takes r.fileNote
      · exact .inl ⟨hnote, Outcome.say_of_takes hnote⟩
      · exact .inr ⟨hnote, Outcome.say_of_not_takes hnote⟩

/-- A run that has a report ends with the exit code of its issues, or with 1 where the console or
the disk does not take what it is given. -/
theorem exit_finish (K : Console) {r : Ready} {report : Report} (h : report.isError = false)
    (logs : List LogEntry) (tenths : Nat) :
    (r.finish K report logs tenths).exit = 0 ∨ (r.finish K report logs tenths).exit = 1 := by
  by_cases htakes : K.Takes (r.printed report)
  · rw [finish_of_takes logs tenths htakes]
    rcases save_cases K r report (r.reported report logs tenths) with
      ⟨-, hsave⟩ | ⟨-, f, -, hsave⟩ | ⟨-, place, -, ⟨-, hsave⟩ | ⟨-, shown, f, hsave⟩⟩
    · rw [hsave]
      exact r.exitCode_le_one h
    · rw [hsave]
      exact .inr rfl
    · rw [hsave]
      exact r.exitCode_le_one h
    · rw [hsave]
      exact .inr rfl
  · obtain ⟨shown, f, hfinish⟩ := finish_of_not_takes logs tenths htakes
    rw [hfinish]
    exact .inr rfl

end Ready

theorem analyze_of_accepts {s : Session} {o : AnalyzeOptions} {c : Config} {g : Registry}
    {source code : String} (h : Accepts s o c g source code) (tenths : Nat) :
    analyze s o tenths = (ready s o c g source code).finish s.console (g.analyzeText s.now code).1
      (g.analyzeText s.now code).2 tenths := by
  rw [analyze, prepare_of_accepts h]
  rfl

theorem exit_of_accepts {s : Session} {o : AnalyzeOptions} {c : Config} {g : Registry}
    {source code : String} (h : Accepts s o c g source code) (tenths : Nat) :
    (analyze s o tenths).exit = 0 ∨ (analyze s o tenths).exit = 1 := by
  rw [analyze_of_accepts h]
  exact Ready.exit_finish s.console (isError_analyzeText g s.now code) _ _

/-- An analysis is refused with the exit code 2 and nothing is left behind; or it is stopped by a
fault, with the exit code 1 and nothing left behind; or it has a report, and ends with 0 or 1. -/
theorem analyze_cases (s : Session) (o : AnalyzeOptions) (tenths : Nat) :
    ((∃ m, Refusal s o m ∧ s.console.refusal? m = none) ∧ (¬ ∃ r, prepare s o = .ok r) ∧
      (analyze s o tenths).exit = 2 ∧ (analyze s o tenths).fault = none ∧
      (analyze s o tenths).LeavesNothing s) ∨
    ((¬ ∃ r, prepare s o = .ok r) ∧ (analyze s o tenths).exit = 1 ∧
      (∃ f, (analyze s o tenths).fault = some f) ∧ (analyze s o tenths).LeavesNothing s) ∨
    (∃ c g source code, Accepts s o c g source code) ∧
      ((analyze s o tenths).exit = 0 ∨ (analyze s o tenths).exit = 1) := by
  rcases prepare_cases s o with ⟨c, g, source, code, haccepts⟩ | ⟨why, messages, hwhy, hprepare⟩
  · exact .inr (.inr ⟨⟨c, g, source, code, haccepts⟩, exit_of_accepts haccepts tenths⟩)
  · rw [analyze, hprepare]
    rcases Outcome.stop_cases s.console { started s o with messages } why with
      ⟨m, hm, htaken, hstop⟩ | ⟨-, shown, f, hstop⟩
    · rw [hstop]
      exact .inl ⟨⟨m, hwhy m hm, htaken⟩, by simp, rfl, rfl, rfl, rfl, rfl⟩
    · rw [hstop]
      exact .inr (.inl ⟨by simp, rfl, ⟨f, rfl⟩, rfl, rfl, rfl⟩)

theorem Refusal.exit {s : Session} {o : AnalyzeOptions} {m : Printed} (h : Refusal s o m)
    (hm : s.console.refusal? m = none) (tenths : Nat) : (analyze s o tenths).exit = 2 := by
  obtain ⟨messages, hprepare⟩ := h.prepare_eq
  rw [analyze, hprepare]
  rcases Outcome.stop_cases s.console { started s o with messages } (.refuse m) with
    ⟨_, -, -, hstop⟩ | ⟨hno, -⟩
  · rw [hstop]
  · exact absurd hm (hno m rfl)

theorem listRules_refused (s : Session) (config : String) (h : (listRules s config).exit = 2) :
    (listRules s config).fault = none ∧ (listRules s config).LeavesNothing s := by
  rcases hload : load s config with ⟨logs, loaded⟩
  simp only [listRules, hload] at h ⊢
  cases loaded with
  | error e =>
    dsimp only at h ⊢
    rcases Outcome.stop_cases s.console { place := s.place, logs } e.stop with
      ⟨m, -, -, hstop⟩ | ⟨-, shown, f, hstop⟩
    · rw [hstop]
      exact ⟨rfl, rfl, rfl, rfl⟩
    · rw [hstop] at h
      cases h
  | ok r =>
    dsimp only at h
    split at h
    · cases h
    · split at h <;> cases h

theorem exit_startProject (s : Session) :
    (startProject s).exit = 0 ∨ (startProject s).exit = 1 := by
  rw [startProject]
  dsimp only
  split
  · exact .inr rfl
  · exact (Outcome.exit_final_say s.console _ _).elim .inr .inr
  · split
    · exact .inr rfl
    · exact Outcome.exit_final_say s.console _ _

/-- No command line that ends with the exit code 2 has printed a result or has changed the disk. An
analysis ends with this code exactly if one of the checks of what it reads refuses it, with a
message that the console takes, and every analysis that comes to print or write its report ends with
0 or 1. -/
theorem run_refused (s : Session) (tenths : Nat) (args : List String) :
    let out := run s tenths args
    (out.exit = 2 → out.fault = none ∧ out.LeavesNothing s) ∧
    ∀ o, Command.ofArgs? args = some (.analyze o) →
      (out.exit = 2 ↔ ∃ m, Refusal s o m ∧ s.console.refusal? m = none) ∧
      (out.stdout ≠ "" ∨ out.place ≠ s.place ∨ (∃ r, prepare s o = .ok r) →
        out.exit = 0 ∨ out.exit = 1) := by
  intro out
  constructor
  · intro hexit
    cases hargs : Command.ofArgs? args with
    | none =>
      have hout : out = { place := s.place, exit := 2 } := by simp only [out, run, hargs]
      rw [hout]
      exact ⟨rfl, rfl, rfl, rfl⟩
    | some command =>
      have hout : out = runCommand s tenths command := by simp only [out, run, hargs]
      rw [hout] at hexit ⊢
      cases command with
      | version => cases hexit
      | analyze o =>
        simp only [runCommand] at hexit ⊢
        rcases analyze_cases s o tenths with ⟨-, -, -, hnothing⟩ | ⟨-, hone, -⟩ | ⟨-, hzero | hone⟩
        · exact hnothing
        · simp [hone] at hexit
        · simp [hzero] at hexit
        · simp [hone] at hexit
      | rules config => exact listRules_refused s config hexit
      | start =>
        simp only [runCommand] at hexit
        rcases exit_startProject s with hzero | hone
        · simp [hzero] at hexit
        · simp [hone] at hexit
  · intro o hargs
    have hout : out = analyze s o tenths := by simp only [out, run, hargs, runCommand]
    rw [hout]
    have hrefused : (∃ m, Refusal s o m ∧ s.console.refusal? m = none) →
        (analyze s o tenths).exit = 2 := fun ⟨m, hm, htaken⟩ => hm.exit htaken tenths
    rcases analyze_cases s o tenths with ⟨hrefusal, hno, hexit, -, hstdout, -, hplace⟩ |
      ⟨hno, hexit, -, hstdout, -, hplace⟩ | ⟨-, hexit⟩
    · refine ⟨iff_of_true hexit hrefusal, ?_⟩
      rintro (hprints | hwrites | hready)
      · exact absurd hstdout hprints
      · exact absurd hplace hwrites
      · exact absurd hready hno
    · exact ⟨⟨fun h => by simp [hexit] at h, hrefused⟩, fun _ => .inr hexit⟩
    · refine ⟨⟨fun h => ?_, hrefused⟩, fun _ => hexit⟩
      rcases hexit with hexit | hexit <;> simp [hexit] at h

theorem run_refused_threshold :
    let s : Session := { now := ⟨⟨2025, 1, 31⟩, ⟨12, 0, 0, 0⟩, some 0⟩ }
    let out := run s 125 ["analyze", "--fail-on", "severe", "--output", "out.json"]
    out.exit = 2 ∧ out.fault = none ∧ out.LeavesNothing s := by
  intro s out
  obtain ⟨hnothing, hanalysis⟩ := run_refused s 125
    ["analyze", "--fail-on", "severe", "--output", "out.json"]
  have hno : ¬ AnalyzeOptions.HasThreshold { failOn := "severe", output := "out.json" } := by
    rintro (hempty | ⟨l, hl⟩)
    · exact absurd hempty (by decide)
    · cases l <;> exact absurd hl (by decide)
  have hexit : out.exit = 2 :=
    (hanalysis { failOn := "severe", output := "out.json" } rfl).1.mpr
      ⟨_, .threshold (load_bare (by decide +kernel) (by decide +kernel) rfl) (.inl rfl) hno,
        by decide +kernel⟩
  exact ⟨hexit, hnothing hexit⟩

end CommandLine

end ReactLint
