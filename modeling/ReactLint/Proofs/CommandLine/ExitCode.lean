import ReactLint.Proofs.CommandLine.Refusal
import ReactLint.Proofs.Report.Tables

/-!
# The exit code of a report

A run that delivers its report ends with 1 if an issue reaches the threshold and with 0 if none
does. Since the issues are ranked, the first one decides. The code depends on the rules, the text
and the threshold only: two runs that agree in these end alike, whatever they print and wherever
they write it, and a run that fails at a threshold fails at every lower one. The file that a run
writes holds what it prints, or the JSON report where it prints tables.

All this is so where the console takes what the run hands to it as markup: the ids of the issues,
and the name of the file. Otherwise the run ends with 1 and a fault, whatever the issues are.
-/

namespace ReactLint

theorem Severity.reaches_word (level : String) (threshold : Severity) :
    reaches level threshold.word = decide (threshold.rank ≤ rankOf level) := by
  simp [reaches, ofWord?_word, rankOf_name]

def Severity.Reached (l : Severity) (issues : List Issue) : Prop :=
  ∃ i ∈ issues, l.rank ≤ rankOf i.severity

namespace Severity.Reached

variable {k l : Severity} {issues : List Issue}

theorem mono (h : l.Reached issues) (hkl : k.rank ≤ l.rank) : k.Reached issues := by
  obtain ⟨i, hi, hrank⟩ := h
  exact ⟨i, hi, Nat.le_trans hkl hrank⟩

/-- The first of ranked issues is as severe as any. -/
theorem iff_head? (hsorted : issues.Pairwise fun a b => Issue.precedes a b = true) :
    l.Reached issues ↔ ∃ i, issues.head? = some i ∧ l.rank ≤ rankOf i.severity := by
  cases issues with
  | nil => simp [Reached]
  | cons i is =>
    constructor
    · rintro ⟨k, hk, hrank⟩
      refine ⟨i, rfl, ?_⟩
      rcases List.mem_cons.mp hk with rfl | hk
      · exact hrank
      · have hfirst := (List.pairwise_cons.mp hsorted).1 k hk
        rw [Issue.precedes_iff] at hfirst
        omega
    · rintro ⟨k, hk, hrank⟩
      cases hk
      exact ⟨i, List.mem_cons_self, hrank⟩

end Severity.Reached

namespace Registry

theorem changes_build (R : Readers) (w : Place) (c : Config) (root : Path) :
    Changes (extendLists c.allowLists {}) (build R w c root).registry :=
  builtUp_changes.andThen (builtUp_changes.registerAll (fun _ => Catalog.isBuilt_of_mem) _)
    fun _ g => builtUp_changes.andThen (builtUp_changes.loadFolder R w _ g)
      fun _ g' => changes_select g' c.enable c.disable

theorem sound_build (R : Readers) (w : Place) (c : Config) (root : Path) :
    (build R w c root).registry.Sound :=
  (changes_build R w c root).sound (sound_new _)

end Registry

namespace CommandLine

theorem sound_of_load {s : Session} {config : String} {c : Config} {g : Registry}
    (h : (load s config).2 = .ok (c, g)) : g.Sound := by
  rw [load] at h
  split at h
  · cases h
  · dsimp only at h
    split at h
    · cases h
    · cases h
      exact Registry.sound_build s.readers s.place _ {}

namespace Ready

theorem exitCode_eq (r : Ready) {report : Report} (h : report.isError = false) :
    r.exitCode report = 1 ∧ r.config.failOn.Reached report.issues ∨
      r.exitCode report = 0 ∧ ¬ r.config.failOn.Reached report.issues := by
  have hreached : (report.issues.any fun i => Severity.reaches i.severity r.config.failOn.word) =
      true ↔ r.config.failOn.Reached report.issues := by
    simp [Severity.Reached, Severity.reaches_word]
  rw [exitCode, h]
  by_cases hany : r.config.failOn.Reached report.issues
  · exact .inl ⟨by simp [hreached.mpr hany], hany⟩
  · exact .inr ⟨by simp [mt hreached.mp hany], hany⟩

/-- A report that is taken, and can be written where it is asked for, is delivered. Only then the
message that it was written may be refused. -/
theorem finish_of_canWrite {K : Console} {r : Ready} {report : Report}
    (htakes : K.Takes (r.printed report))
    (hwrite : r.options.output = "" ∨ r.outcome.place.CanWrite (.ofString r.options.output))
    (logs : List LogEntry) (tenths : Nat) :
    let out := r.finish K report logs tenths
    let noted := r.options.output ≠ "" → K.Takes r.fileNote
    (noted ∧ out.exit = r.exitCode report ∧ out.fault = r.outcome.fault ∨
      ¬ noted ∧ out.exit = 1 ∧ ∃ f, out.fault = some f) ∧
    out.stdout = ((r.reportText? report).map (· ++ "\n")).getD "" ∧
    if r.options.output = "" then out.place = r.outcome.place
    else r.outcome.place.writeText (.ofString r.options.output) (r.fileText report) =
      .ok out.place := by
  intro out noted
  have hout : out = .final ((r.save K report (r.reported report logs tenths)).map
      fun o => { o with exit := r.exitCode report }) := finish_of_takes logs tenths htakes
  rcases save_cases K r report (r.reported report logs tenths) with
    ⟨hno, hsave⟩ | ⟨hfile, f, hfail, -⟩ |
    ⟨hfile, place, hplace, ⟨hnote, hsave⟩ | ⟨hnote, shown, f, hsave⟩⟩
  · rw [hout, hsave, if_pos hno]
    exact ⟨.inl ⟨absurd hno, rfl, rfl⟩, rfl, rfl⟩
  · obtain ⟨place, hplace⟩ := (hwrite.resolve_left hfile).writeText (r.fileText report)
    cases hplace.symm.trans hfail
  · rw [hout, hsave, if_neg hfile]
    exact ⟨.inl ⟨fun _ => hnote, rfl, rfl⟩, rfl, hplace⟩
  · rw [hout, hsave, if_neg hfile]
    exact ⟨.inr ⟨fun h => hnote (h hfile), rfl, f, rfl⟩, rfl, hplace⟩

end Ready

structure Delivers (s : Session) (o : AnalyzeOptions) (c : Config) (g : Registry)
    (source code : String) : Prop extends Accepts s o c g source code where
  writable : o.output = "" ∨ s.place.CanWrite (.ofString o.output)

def AnalyzeOptions.asJson (o : AnalyzeOptions) : AnalyzeOptions := { o with format := "json" }

theorem AnalyzeOptions.formatOver_asJson (o : AnalyzeOptions) (c : Config) :
    o.asJson.formatOver c = .json :=
  rfl

/-- The text of a report in the format of a run, the JSON text for the terminal. -/
def formatText (format : Format) (source : String) (report : Report) : String :=
  match format with
  | .sarif => report.sarifText source
  | _ => report.jsonText

/-- Whether the console takes the report of a run: for the terminal it holds the ids of the issues.
-/
def TakesIds (s : Session) (o : AnalyzeOptions) (c : Config) (issues : List Issue) : Prop :=
  o.formatOver c = .terminal → ∀ i ∈ issues, ∃ id, s.console.shown i.id = .ok id

def TakesFile (s : Session) (o : AnalyzeOptions) : Prop :=
  o.output ≠ "" → o.verbose = true →
    ∃ t, s.console.shown s!"[dim]Report written to {o.output}[/dim]" = .ok t

def TakesAll (s : Session) (o : AnalyzeOptions) (c : Config) (issues : List Issue) : Prop :=
  TakesIds s o c issues ∧ TakesFile s o

theorem takesIds_iff (s : Session) (o : AnalyzeOptions) (c : Config) (g : Registry)
    (source code : String) :
    s.console.Takes ((ready s o c g source code).printed (g.analyze s.now (.text code)).1) ↔
      TakesIds s o c (g.issues code.toList.toArray) := by
  rw [TakesIds, Ready.printed]
  cases hformat : o.formatOver c with
  | terminal =>
    simp only [ready, AnalyzeOptions.configOver, hformat, true_implies]
    exact s.console.takes_printed_analyze_iff g s.now code _
  | json =>
    simp only [ready, AnalyzeOptions.configOver, hformat]
    exact iff_of_true Console.takes_nil nofun
  | sarif =>
    simp only [ready, AnalyzeOptions.configOver, hformat]
    exact iff_of_true Console.takes_nil nofun

theorem takesFile_iff (s : Session) (o : AnalyzeOptions) (c : Config) (g : Registry)
    (source code : String) :
    (o.output ≠ "" → s.console.Takes (ready s o c g source code).fileNote) ↔ TakesFile s o := by
  have hnote : (ready s o c g source code).fileNote =
      if o.verbose then [.line s!"[dim]Report written to {o.output}[/dim]"] else [] := rfl
  rw [TakesFile, hnote]
  refine imp_congr_right fun _ => ?_
  by_cases hverbose : o.verbose = true
  · rw [if_pos hverbose, Console.takes_singleton, Console.refusal?, Fault.ofResult?_eq_none_iff]
    exact (imp_iff_right hverbose).symm
  · rw [if_neg hverbose]
    exact iff_of_true Console.takes_nil fun h => absurd h hverbose

section Delivering

variable {s s' : Session} {o o' : AnalyzeOptions} {c c' : Config} {g : Registry}
  {source source' code : String}

theorem Accepts.asJson (h : Accepts s o c g source code) : Accepts s o.asJson c g source code :=
  ⟨h.loaded, .inr ⟨.json, rfl⟩, h.threshold, h.read, h.fits⟩

/-- A run whose report is taken prints and writes it, and ends with its exit code unless the message
about the file is refused. -/
theorem Delivers.finish (h : Delivers s o c g source code)
    (hids : TakesIds s o c (g.issues code.toList.toArray)) (tenths : Nat) :
    let out := analyze s o tenths
    let report := (g.analyze s.now (.text code)).1
    let text := formatText (o.formatOver c) source report
    (TakesFile s o ∧ out.exit = (ready s o c g source code).exitCode report ∧ out.fault = none ∨
      ¬ TakesFile s o ∧ out.exit = 1 ∧ ∃ f, out.fault = some f) ∧
      out.stdout = (if o.formatOver c = .terminal then "" else text ++ "\n") ∧
      if o.output = "" then out.place = s.place
      else s.place.writeText (.ofString o.output) text = .ok out.place := by
  intro out report text
  have hout : out = (ready s o c g source code).finish s.console report
      (g.analyzeText s.now code).2 tenths := analyze_of_accepts h.toAccepts tenths
  have htakes := (takesIds_iff s o c g source code).mpr hids
  obtain ⟨hends, hstdout, hplace⟩ :=
    Ready.finish_of_canWrite htakes h.writable (g.analyzeText s.now code).2 tenths
  rw [← takesFile_iff s o c g source code]
  rw [← hout] at hends hstdout hplace
  have hfile : (ready s o c g source code).fileText report = text := by
    simp only [Ready.fileText, Ready.reportText?, ready, AnalyzeOptions.configOver, text,
      formatText]
    cases o.formatOver c <;> rfl
  refine ⟨hends, hstdout.trans ?_, hfile ▸ hplace⟩
  simp only [Ready.reportText?, ready, AnalyzeOptions.configOver, text, formatText]
  cases o.formatOver c <;> rfl

/-- A run whose report is not taken leaves nothing behind but messages and a fault. -/
theorem Delivers.finish_of_refused (h : Delivers s o c g source code)
    (hids : ¬ TakesIds s o c (g.issues code.toList.toArray)) (tenths : Nat) :
    let out := analyze s o tenths
    out.exit = 1 ∧ (∃ f, out.fault = some f) ∧ out.place = s.place := by
  intro out
  have hout : out = (ready s o c g source code).finish s.console (g.analyze s.now (.text code)).1
      (g.analyzeText s.now code).2 tenths := analyze_of_accepts h.toAccepts tenths
  obtain ⟨shown, f, hfinish⟩ := Ready.finish_of_not_takes (g.analyzeText s.now code).2 tenths
    (mt (takesIds_iff s o c g source code).mp hids)
  rw [hout, hfinish]
  exact ⟨rfl, ⟨f, rfl⟩, rfl⟩

theorem Delivers.exit (h : Delivers s o c g source code) (tenths : Nat) :
    let out := analyze s o tenths
    let issues := g.issues code.toList.toArray
    (¬ TakesAll s o c issues ∧ out.exit = 1 ∧ ∃ f, out.fault = some f) ∨
    (TakesAll s o c issues ∧ (o.thresholdOver c).Reached issues ∧ out.exit = 1 ∧ out.fault = none) ∨
    (TakesAll s o c issues ∧ ¬ (o.thresholdOver c).Reached issues ∧ out.exit = 0 ∧
      out.fault = none) := by
  intro out issues
  by_cases hids : TakesIds s o c issues
  · rcases (h.finish hids tenths).1 with ⟨hfile, hexit, hfault⟩ | ⟨hfile, hexit, hfault⟩
    · have hcode := (ready s o c g source code).exitCode_eq (isError_analyzeText g s.now code)
      rcases hcode with ⟨hone, hreached⟩ | ⟨hzero, hno⟩
      · exact .inr (.inl ⟨⟨hids, hfile⟩, hreached, hexit.trans hone, hfault⟩)
      · exact .inr (.inr ⟨⟨hids, hfile⟩, hno, hexit.trans hzero, hfault⟩)
    · exact .inl ⟨fun hall => hfile hall.2, hexit, hfault⟩
  · obtain ⟨hexit, hfault, -⟩ := h.finish_of_refused hids tenths
    exact .inl ⟨fun hall => hids hall.1, hexit, hfault⟩

theorem Delivers.fault_iff (h : Delivers s o c g source code) (tenths : Nat) :
    (analyze s o tenths).fault = none ↔ TakesAll s o c (g.issues code.toList.toArray) := by
  rcases h.exit tenths with ⟨hno, -, f, hfault⟩ | ⟨hall, -, -, hfault⟩ | ⟨hall, -, -, hfault⟩
  · exact iff_of_false (by simp [hfault]) hno
  · exact iff_of_true hfault hall
  · exact iff_of_true hfault hall

theorem Delivers.exit_eq_one_iff (h : Delivers s o c g source code)
    (hall : TakesAll s o c (g.issues code.toList.toArray)) (tenths : Nat) :
    (analyze s o tenths).exit = 1 ↔
      (o.thresholdOver c).Reached (g.issues code.toList.toArray) := by
  rcases h.exit tenths with ⟨hno, -⟩ | ⟨-, hreached, hone, -⟩ | ⟨-, hno, hzero, -⟩
  · exact absurd hall hno
  · exact iff_of_true hone hreached
  · exact iff_of_false (by simp [hzero]) hno

theorem Delivers.exit_eq_one_of_reached (h : Delivers s o c g source code)
    (hreached : (o.thresholdOver c).Reached (g.issues code.toList.toArray)) (tenths : Nat) :
    (analyze s o tenths).exit = 1 := by
  rcases h.exit tenths with ⟨-, hone, -⟩ | ⟨-, -, hone, -⟩ | ⟨-, hno, -⟩
  · exact hone
  · exact hone
  · exact absurd hreached hno

theorem Delivers.exit_congr (h : Delivers s o c g source code)
    (hall : TakesAll s o c (g.issues code.toList.toArray))
    (h' : Delivers s' o' c' g source' code)
    (hall' : TakesAll s' o' c' (g.issues code.toList.toArray))
    (hsame : o'.thresholdOver c' = o.thresholdOver c) (tenths tenths' : Nat) :
    (analyze s' o' tenths').exit = (analyze s o tenths).exit := by
  have hone := h.exit_eq_one_iff hall tenths
  have hone' := h'.exit_eq_one_iff hall' tenths'
  rw [hsame, ← hone] at hone'
  rcases exit_of_accepts h.toAccepts tenths with hexit | hexit <;>
    rcases exit_of_accepts h'.toAccepts tenths' with hexit' | hexit' <;>
    simp_all

theorem lowerAscii_eq_empty {s : String} (h : Text.lowerAscii s = "") : s = "" := by
  have hlist := congrArg String.toList h
  simpa [Text.lowerAscii] using hlist

/-- A run may be repeated with other options for what it prints and writes, and with its threshold
in another letter case. -/
theorem Delivers.withOptions (h : Delivers s o c g source code) (htarget : o'.target = o.target)
    (hconfig : o'.config = o.config)
    (hfailOn : Text.lowerAscii o'.failOn = Text.lowerAscii o.failOn) (hformat : o'.HasFormat)
    (hwritable : o'.output = "" ∨ s.place.CanWrite (.ofString o'.output)) :
    Delivers s o' c g source code ∧ o'.thresholdOver c = o.thresholdOver c := by
  refine ⟨⟨⟨hconfig ▸ h.loaded, hformat, ?_, htarget ▸ h.read, h.fits⟩, hwritable⟩, ?_⟩
  · rcases h.threshold with hempty | ⟨l, hl⟩
    · rw [hempty] at hfailOn
      exact .inl (lowerAscii_eq_empty (hfailOn.trans (by decide)))
    · exact .inr ⟨l, hfailOn.trans hl⟩
  · simp only [AnalyzeOptions.thresholdOver, Severity.ofAnyCase?, hfailOn]

theorem Delivers.finish_file (h : Delivers s o c g source code)
    (hids : TakesIds s o c (g.issues code.toList.toArray)) (hfile : o.output ≠ "")
    (tenths : Nat) :
    let out := analyze s o tenths
    let text := formatText (o.formatOver c) source (g.analyze s.now (.text code)).1
    let json := analyze s o.asJson tenths
    out.place.readBytes (.ofString o.output) = .ok text.toUTF8 ∧
      s.place.SameBut (.ofString o.output) out.place ∧
      (o.formatOver c ≠ .terminal → out.stdout = text ++ "\n") ∧
      (o.formatOver c = .terminal → out.stdout = "" ∧ json.stdout = text ++ "\n" ∧
        json.place = out.place) := by
  intro out text json
  obtain ⟨-, hstdout, hplace⟩ := h.finish hids tenths
  rw [if_neg hfile] at hplace
  refine ⟨Place.readBytes_of_writeText hplace, Place.sameBut_of_writeText hplace,
    fun hformat => hstdout.trans (if_neg hformat), fun hformat => ?_⟩
  -- for the terminal the file is that of the JSON format, so the two runs write the same text
  have h' : Delivers s o.asJson c g source code := ⟨h.asJson, h.writable⟩
  have hids' : TakesIds s o.asJson c (g.issues code.toList.toArray) := fun hterminal => by
    rw [AnalyzeOptions.formatOver_asJson] at hterminal
    cases hterminal
  obtain ⟨-, hstdout', hplace'⟩ := h'.finish hids' tenths
  have htext : formatText (o.asJson.formatOver c) source (g.analyze s.now (.text code)).1 =
      text := by
    simp only [AnalyzeOptions.formatOver_asJson, text, hformat, formatText]
  rw [htext, AnalyzeOptions.formatOver_asJson] at hstdout'
  rw [if_neg (show o.asJson.output ≠ "" from hfile), htext] at hplace'
  exact ⟨hstdout.trans (if_pos hformat), hstdout', Except.ok.inj (hplace'.symm.trans hplace)⟩

/-- A run that can deliver its report ends without a fault exactly if the console takes what it is
handed as markup, and then it ends with 1 exactly if an issue of the report, and then the first one,
is at or above the threshold, and else with 0. Every other run over the same rules and the same text
fails with this one if its threshold is lower, and ends alike if its threshold is the same and the
console takes what it is handed; else what a run prints, where it writes and the letter case of its
threshold make no difference. A run that hands over what is not taken ends with 1. A file that is
written holds what is printed without the last newline, and for the terminal format what the JSON
format would have written; none is written where the ids of a terminal report are not taken. -/
theorem analyze_delivers (h : Delivers s o c g source code) (tenths : Nat) :
    let out := analyze s o tenths
    let report := (g.analyze s.now (.text code)).1
    (g.checkAnalyze s.now (.text code) = .ok report ∧
      (out.fault = none ↔ TakesAll s o c report.issues)) ∧
    (out.exit = 1 ∧ (¬ TakesAll s o c report.issues ∨ (o.thresholdOver c).Reached report.issues) ∨
      out.exit = 0 ∧ TakesAll s o c report.issues ∧ ¬ (o.thresholdOver c).Reached report.issues) ∧
    (TakesAll s o c report.issues →
      (out.exit = 1 ↔ ∃ i, report.issues.head? = some i ∧
        (o.thresholdOver c).rank ≤ Severity.rankOf i.severity) ∧
      (∀ s' o' c' source' tenths', Delivers s' o' c' g source' code →
        ((o'.thresholdOver c').rank ≤ (o.thresholdOver c).rank → out.exit = 1 →
          (analyze s' o' tenths').exit = 1) ∧
        (o'.thresholdOver c' = o.thresholdOver c → TakesAll s' o' c' report.issues →
          (analyze s' o' tenths').exit = out.exit)) ∧
      ∀ o' tenths', o'.target = o.target → o'.config = o.config →
        Text.lowerAscii o'.failOn = Text.lowerAscii o.failOn → o'.HasFormat →
        (o'.output = "" ∨ s.place.CanWrite (.ofString o'.output)) →
        TakesAll s o' c report.issues → (analyze s o' tenths').exit = out.exit) ∧
    (o.output = "" ∨ ¬ TakesIds s o c report.issues → out.place = s.place) ∧
    (o.output ≠ "" → TakesIds s o c report.issues →
      let text := formatText (o.formatOver c) source report
      let json := analyze s o.asJson tenths
      out.place.readBytes (.ofString o.output) = .ok text.toUTF8 ∧
      s.place.SameBut (.ofString o.output) out.place ∧
      (o.formatOver c ≠ .terminal → out.stdout = text ++ "\n") ∧
      (o.formatOver c = .terminal → out.stdout = "" ∧ json.stdout = text ++ "\n" ∧
        json.place = out.place)) := by
  intro out report
  have hsound := sound_of_load h.loaded
  have hsorted : report.issues.Pairwise fun a b => Issue.precedes a b = true :=
    Issue.pairwise_rank _
  refine ⟨⟨hsound.checkAnalyze_eq_ok _ _, h.fault_iff tenths⟩, ?_, fun hall => ⟨?_,
    fun s' o' c' source' tenths' h' => ⟨fun hrank hexit => ?_, fun hsame hall' => ?_⟩, ?_⟩,
    fun hno => ?_, fun hfile hids => h.finish_file hids hfile tenths⟩
  · rcases h.exit tenths with ⟨hno, hone, -⟩ | ⟨-, hreached, hone, -⟩ | ⟨hall, hno, hzero, -⟩
    · exact .inl ⟨hone, .inl hno⟩
    · exact .inl ⟨hone, .inr hreached⟩
    · exact .inr ⟨hzero, hall, hno⟩
  · rw [← Severity.Reached.iff_head? hsorted]
    exact h.exit_eq_one_iff hall tenths
  · have hreached := (h.exit_eq_one_iff hall tenths).mp hexit
    exact h'.exit_eq_one_of_reached (hreached.mono hrank) tenths'
  · exact h.exit_congr hall h' hall' hsame tenths tenths'
  · intro o' tenths' htarget hconfig hfailOn hformat hwritable hall'
    obtain ⟨h', hsame⟩ := h.withOptions htarget hconfig hfailOn hformat hwritable
    exact h.exit_congr hall h' hall' hsame tenths tenths'
  · by_cases hids : TakesIds s o c report.issues
    · obtain ⟨-, -, hplace⟩ := h.finish hids tenths
      rw [if_pos (hno.resolve_right (absurd hids))] at hplace
      exact hplace
    · exact (h.finish_of_refused hids tenths).2.2

theorem analyze_delivers_console :
    let s : Session :=
      { input := "console.log(1)\r\n".toUTF8, now := ⟨⟨2025, 1, 31⟩, ⟨12, 0, 0, 0⟩, some 0⟩ }
    let o : AnalyzeOptions := { failOn := "INFO", output := "out.json" }
    Delivers s o {} Registry.default "<stdin>" "console.log(1)\n" ∧
      (analyze s o 125).exit = 1 ∧ (analyze s o 125).fault = none ∧
      (analyze s { o with failOn := "info", format := "sarif" } 0).exit = 1 ∧
      ∃ text : String,
        (analyze s o 125).place.readBytes (.ofString "out.json") = .ok text.toUTF8 ∧
        (analyze s o.asJson 125).stdout = text ++ "\n" := by
  intro s o
  have hread : readSource s o.target = .ok ("<stdin>", "console.log(1)\n") := by
    have hlines : Text.unifyLineEnds "console.log(1)\r\n" = "console.log(1)\n" := by decide +kernel
    exact (readInput_of_eq rfl).trans (by rw [hlines])
  have hfree : s.place.disk.find? ["out.json"] = none := rfl
  have hdelivers : Delivers s o {} Registry.default "<stdin>" "console.log(1)\n" :=
    { loaded := load_bare (by decide +kernel) (by decide +kernel) rfl, format := .inl rfl
      threshold := .inr ⟨.info, by decide⟩, read := hread, fits := by decide
      writable := .inr
        ⟨["out.json"], by decide +kernel, hfree ▸ (Option.some_ne_none _).symm⟩ }
  have hraw : Registry.default.rawIssues "console.log(1)\n".toList.toArray =
      [Issue.ofRule Catalog.consoleCall ⟨1, "console.log(", 0, 12, some "log"⟩] := by
    decide +kernel
  have hissues : Registry.default.issues "console.log(1)\n".toList.toArray =
      [Issue.ofRule Catalog.consoleCall ⟨1, "console.log(", 0, 12, some "log"⟩] := by
    rw [Registry.issues, hraw, Issue.rank, List.mergeSort_singleton]
  have hids (o' : AnalyzeOptions) :
      TakesIds s o' {} (Registry.default.issues "console.log(1)\n".toList.toArray) := by
    rw [hissues]
    exact fun _ i hi => ⟨"E001", by rw [List.mem_singleton.mp hi]; decide +kernel⟩
  have htakes : TakesAll s o {} (Registry.default.issues "console.log(1)\n".toList.toArray) :=
    ⟨hids o, fun _ h => absurd h Bool.false_ne_true⟩
  obtain ⟨⟨-, hfault⟩, -, hends, -, hfile⟩ := analyze_delivers hdelivers 125
  obtain ⟨hfirst, -, hoptions⟩ := hends htakes
  have hone : (analyze s o 125).exit = 1 := by
    have hlevel : o.thresholdOver {} = .info := by decide
    rw [hlevel, Registry.analyze_text, hissues] at hfirst
    exact hfirst.mpr ⟨_, rfl, Nat.zero_le _⟩
  obtain ⟨hbytes, -, -, hterminal⟩ := hfile (by decide) (hids o)
  refine ⟨hdelivers, hone, hfault.mpr htakes, ?_, _, hbytes, (hterminal rfl).2.1⟩
  have hsame := hoptions { o with failOn := "info", format := "sarif" } 0 rfl rfl (by decide)
    (.inr ⟨.sarif, rfl⟩) hdelivers.writable
    ⟨hids _, fun _ h => absurd h Bool.false_ne_true⟩
  exact hsame.trans hone

/-- The name of a file may end a tag that was never begun: the message about this file makes a run
fail that has no issues. -/
theorem analyze_closingTag :
    let s : Session :=
      { place := { disk := { entries := [(["out["], .folder)] } }
        now := ⟨⟨2025, 1, 31⟩, ⟨12, 0, 0, 0⟩, some 0⟩ }
    let o : AnalyzeOptions := { format := "json", output := "out[/x].json" }
    (Delivers s o {} Registry.default "<stdin>" "" ∧
      Delivers s { o with verbose := true } {} Registry.default "<stdin>" "") ∧
    (Registry.default.analyze s.now (.text "")).1.issues = [] ∧
    (analyze s o 0).exit = 0 ∧ (analyze s { o with verbose := true } 0).exit = 1 := by
  intro s o
  have hread : readSource s none = .ok ("<stdin>", "") := by
    have hinput : s.input = "".toUTF8 := rfl
    have hlines : Text.unifyLineEnds "" = "" := by decide
    exact (readInput_of_eq hinput).trans (by rw [hlines])
  have hway : s.place.locate (.ofString o.output) = .ok ["out[", "x].json"] := by decide +kernel
  have hfree : s.place.disk.find? ["out[", "x].json"] = none := rfl
  have hdelivers (verbose : Bool) :
      Delivers s { o with verbose } {} Registry.default "<stdin>" "" :=
    { loaded := load_bare (by decide +kernel) (by decide +kernel) rfl
      format := .inr ⟨.json, rfl⟩, threshold := .inl rfl, read := hread, fits := by decide
      writable := .inr ⟨_, hway, hfree ▸ (Option.some_ne_none _).symm⟩ }
  have hissues : Registry.default.issues "".toList.toArray = [] := by
    have hraw : Registry.default.rawIssues "".toList.toArray = [] := by decide +kernel
    rw [Registry.issues, hraw, Issue.rank, List.mergeSort_nil]
  have hno (l : Severity) : ¬ l.Reached (Registry.default.issues "".toList.toArray) := by
    rw [hissues]
    rintro ⟨i, hi, -⟩
    cases hi
  have hrefused : ¬ TakesFile s { o with verbose := true } := by
    intro h
    obtain ⟨t, ht⟩ := h (by decide) rfl
    have hfault : s.console.shown "[dim]Report written to out[/x].json[/dim]" =
        .error .unmatchedTag := by decide +kernel
    cases hfault.symm.trans ht
  refine ⟨⟨hdelivers false, hdelivers true⟩, hissues, ?_, ?_⟩
  · rcases (hdelivers false).exit 0 with ⟨hno', -⟩ | ⟨-, hreached, -⟩ | ⟨-, -, hzero, -⟩
    · have hall : TakesAll s o {} (Registry.default.issues "".toList.toArray) :=
        ⟨fun h => absurd h (by decide), fun _ h => absurd h Bool.false_ne_true⟩
      exact absurd hall hno'
    · exact absurd hreached (hno _)
    · exact hzero
  · rcases (hdelivers true).exit 0 with ⟨-, hone, -⟩ | ⟨hall, -⟩ | ⟨hall, -⟩
    · exact hone
    · exact absurd hall.2 hrefused
    · exact absurd hall.2 hrefused

end Delivering

end CommandLine

end ReactLint
