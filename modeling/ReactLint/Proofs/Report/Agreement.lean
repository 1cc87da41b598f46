import ReactLint.Proofs.Analysis.Faultless
import ReactLint.Proofs.Report.Tables
import ReactLint.Report.Sarif

/-!
# The three forms of a report agree

The JSON and the SARIF report list the issues as they are ranked, and the tables of the terminal
report show them in this order. What a table shows in place of an id is up to the console, since the
id is handed to it as markup; all else of a finding is shown as it stands. So the tables tell the
findings of the other two forms exactly if the console shows every id as it stands.
-/

namespace ReactLint

structure Finding where
  id : String
  line : Int
  snippet : String
  deriving DecidableEq, Repr

namespace Finding

def ofIssue (i : Issue) : Finding := ⟨i.id, i.occurrence.line, i.occurrence.snippet⟩

/-- A finding as a terminal shows it, without the control characters that would move the cursor. -/
def shown (f : Finding) : Finding := { f with snippet := StyledText.clean f.snippet }

def ofJson? (j : Json) : Option Finding := do
  let id ← (← j.field? "id").text?
  let place ← j.field? "occurrence"
  let line ← (← place.field? "lineNumber").int?
  let snippet ← (← place.field? "snippet").text?
  pure ⟨id, line, snippet⟩

def ofResult? (j : Json) : Option Finding := do
  let id ← (← j.field? "ruleId").text?
  let location ← (← (← j.field? "locations").list?).head?
  let region ← (← location.field? "physicalLocation").field? "region"
  let line ← (← region.field? "startLine").int?
  let snippet ← (← (← region.field? "snippet").field? "text").text?
  pure ⟨id, line, snippet⟩

def ofRow? : List String → Option Finding
  | [id, line, _, snippet] => line.toInt?.map fun n => ⟨id, n, snippet⟩
  | _ => none

def allOfJson? (j : Json) : Option (List Finding) := do
  (← (← j.field? "issues").list?).mapM ofJson?

def allOfSarif? (j : Json) : Option (List Finding) := do
  let run ← (← (← j.field? "runs").list?).head?
  (← (← run.field? "results").list?).mapM ofResult?

def allOfTables? (ts : List ShownTable) : Option (List Finding) :=
  (ts.flatMap ShownTable.rows).mapM ofRow?

theorem mapM_map_eq_some {α β γ : Type} {read : β → Option γ} {write : α → β} {content : α → γ}
    (h : ∀ a, read (write a) = some (content a)) (as : List α) :
    (as.map write).mapM read = some (as.map content) := by
  induction as with
  | nil => rfl
  | cons a as ih => rw [List.map_cons, List.mapM_cons, h, ih]; rfl

theorem ofJson?_toJson (i : Issue) : ofJson? i.toJson = some (ofIssue i) := rfl

theorem ofResult?_resultJson (uri : String) (i : Issue) :
    ofResult? (Sarif.resultJson uri i) = some (ofIssue i) := rfl

end Finding

namespace Report

theorem field?_toJson_issues (stamp : String) (issues : List Issue) :
    (toJson ⟨stamp, .found issues⟩).field? "issues" = some (.list (issues.map Issue.toJson)) := by
  rw [toJson_found]
  rfl

theorem allOfJson?_toJson (stamp : String) (issues : List Issue) :
    Finding.allOfJson? (toJson ⟨stamp, .found issues⟩) = some (issues.map Finding.ofIssue) := by
  simp only [Finding.allOfJson?, field?_toJson_issues, Json.list?, Option.bind_eq_bind,
    Option.bind_some]
  exact Finding.mapM_map_eq_some Finding.ofJson?_toJson issues

theorem allOfSarif?_toSarif (r : Report) (uri : String) :
    Finding.allOfSarif? (r.toSarif uri) = some (r.issues.map Finding.ofIssue) := by
  have hread := Finding.mapM_map_eq_some (Finding.ofResult?_resultJson uri) r.issues
  simp only [toSarif, Fields.toSarif, issues_fields]
  split <;> exact hread

end Report

namespace Console

variable {K : Console} {explain : Bool}

/-- Whether a console shows a finding as another: with the id that it shows for its id, and without
the control characters that would move the cursor. -/
def ShowsAs (K : Console) (f f' : Finding) : Prop :=
  K.shown f.id = .ok f'.id ∧ f'.line = f.line ∧ f'.snippet = StyledText.clean f.snippet

theorem ofRow?_of_showsRow {i : Issue} {row : List String} (h : K.ShowsRow explain i row) :
    ∃ f, Finding.ofRow? row = some f ∧ K.ShowsAs (.ofIssue i) f := by
  obtain ⟨id, hid, rfl⟩ := h
  have hline : (toString i.occurrence.line).toInt? = some i.occurrence.line :=
    Int.toInt?_repr i.occurrence.line
  exact ⟨⟨id, i.occurrence.line, StyledText.clean i.occurrence.snippet⟩,
    by rw [Finding.ofRow?, hline]; rfl, hid, rfl, rfl⟩

theorem allOfRows_of_showsRow {issues : List Issue} {rows : List (List String)}
    (h : List.Forall₂ (K.ShowsRow explain) issues rows) :
    ∃ fs, rows.mapM Finding.ofRow? = some fs ∧
      List.Forall₂ K.ShowsAs (issues.map Finding.ofIssue) fs := by
  induction h with
  | nil => exact ⟨[], rfl, .nil⟩
  | cons hfirst _ ih =>
    obtain ⟨f, hf, hshows⟩ := ofRow?_of_showsRow hfirst
    obtain ⟨fs, hfs, hall⟩ := ih
    exact ⟨f :: fs, by rw [List.mapM_cons, hf, hfs]; rfl, .cons hshows hall⟩

theorem showsAs_shown_iff {f : Finding} : K.ShowsAs f f.shown ↔ K.shown f.id = .ok f.id :=
  ⟨fun h => h.1, fun h => ⟨h, rfl, rfl⟩⟩

theorem ShowsAs.unique {f a b : Finding} (ha : K.ShowsAs f a) (hb : K.ShowsAs f b) : a = b := by
  obtain ⟨hid, hline, hsnippet⟩ := ha
  obtain ⟨hid', hline', hsnippet'⟩ := hb
  cases a
  cases b
  simp_all

theorem forall₂_showsAs_shown_iff {fs : List Finding} :
    List.Forall₂ K.ShowsAs fs (fs.map Finding.shown) ↔ ∀ f ∈ fs, K.shown f.id = .ok f.id := by
  rw [List.forall₂_map_right_iff, List.forall₂_same]
  simp only [showsAs_shown_iff]

theorem exists_allOfTables_iff (stamp : String) {issues : List Issue}
    (hnamed : Terminal.Named issues)
    (hsorted : issues.Pairwise fun a b => Issue.precedes a b = true) (o : TerminalOptions) :
    let findings := issues.map Finding.ofIssue
    (∃ tables, (Terminal.tablesOf (Report.printed ⟨stamp, .found issues⟩ o)).mapM K.table =
        .ok tables ∧ Finding.allOfTables? tables = some (findings.map Finding.shown)) ↔
      ∀ f ∈ findings, K.shown f.id = .ok f.id := by
  intro findings
  rw [← forall₂_showsAs_shown_iff]
  constructor
  · rintro ⟨tables, htables, hall⟩
    obtain ⟨fs, hfs, hshows⟩ := allOfRows_of_showsRow (forall₂_rows_printed hnamed hsorted htables)
    rw [Finding.allOfTables?, hfs] at hall
    exact Option.some.inj hall ▸ hshows
  · intro hshown
    have hids : ∀ i ∈ issues, ∃ id, K.shown i.id = .ok id := fun i hi =>
      ⟨i.id, forall₂_showsAs_shown_iff.mp hshown _ (List.mem_map_of_mem hi)⟩
    obtain ⟨tables, htables⟩ := exists_tables_printed stamp hnamed hsorted o hids
    obtain ⟨fs, hfs, hshows⟩ := allOfRows_of_showsRow (forall₂_rows_printed hnamed hsorted htables)
    have hunique : Relator.RightUnique K.ShowsAs := fun _ _ _ ha hb => ha.unique hb
    exact ⟨tables, htables, List.right_unique_forall₂' hunique hshows hshown ▸ hfs⟩

end Console

open Terminal in
/-- For any text and any registry, the JSON report and the SARIF report tell the same findings in
the same order. Printing the terminal report gets to its end exactly if the console takes the ids,
and its tables, read row by row, tell what the console shows of these findings. They are the
findings themselves, without the control characters of the snippets, exactly if the console shows
the ids as they stand. There is at most one table a severity, from high to info, with the issues of
that severity. The summary counts the rows of the tables, which add up to the total, and the notice
that there are no issues is printed exactly when the JSON report lists none. -/
theorem Registry.analyze_reports_agree (g : Registry) (K : Console) (now : Moment)
    (code uri : String) (o : TerminalOptions) :
    let report := (g.analyze now (.text code)).1
    let printed := report.printed o
    let findings := report.issues.map Finding.ofIssue
    (Finding.allOfJson? report.toJson = some findings ∧
      Finding.allOfSarif? (report.toSarif uri) = some findings) ∧
    ((K.print printed).2 = none ↔ ∀ f ∈ findings, ∃ id, K.shown f.id = .ok id) ∧
    (∀ tables, (tablesOf printed).mapM K.table = .ok tables →
      ∃ shown, Finding.allOfTables? tables = some shown ∧
        List.Forall₂ K.ShowsAs findings shown) ∧
    ((∃ tables, (tablesOf printed).mapM K.table = .ok tables ∧
        Finding.allOfTables? tables = some (findings.map Finding.shown)) ↔
      ∀ f ∈ findings, K.shown f.id = .ok f.id) ∧
    (((tablesOf printed).map Table.title).Sublist (Severity.all.map levelTitle) ∧
      (Severity.all.map levelTitle).Nodup ∧
      ∀ t ∈ tablesOf printed, ∃ l, t.title = levelTitle l ∧
        t.rows = (report.issues.filter fun i => i.severity == l.name).map (row o.explain)) ∧
    (o.showSummary = true → report.issues ≠ [] →
      let counts := Severity.all.map fun l => s!"{l.name} {rowCount printed l}"
      [.line "", .notice { style := .dim, label := "Source:", gap := "   ", text := o.source },
        .notice { style := .dim, label := "Issues:", gap := "   ", text := toString report.total },
        .notice
          { style := .dim, label := "By level:", gap := " ", text := "  ".intercalate counts }] <:+
        printed) ∧
    (Severity.all.map (rowCount printed)).sum = report.total ∧
    (cleanNotice o.source ∈ printed ↔ report.toJson.field? "issues" = some (.list [])) := by
  intro report printed findings
  have hnamed : Named report.issues := g.named_issues _
  have hsorted : report.issues.Pairwise fun a b => Issue.precedes a b = true :=
    Issue.pairwise_rank _
  obtain ⟨stamp, issues, hreport⟩ : ∃ stamp issues, report = ⟨stamp, .found issues⟩ := ⟨_, _, rfl⟩
  have hissues : report.issues = issues := by rw [hreport]; rfl
  have hfindings : findings = issues.map Finding.ofIssue := by rw [← hissues]
  have hprinted : printed = Report.printed ⟨stamp, .found issues⟩ o := by rw [← hreport]
  clear_value report printed findings
  subst hreport hprinted hfindings
  rw [hissues] at hnamed hsorted ⊢
  have htables := tablesOf_printed stamp issues o
  have hcount (l : Severity) : rowCount (Report.printed ⟨stamp, .found issues⟩ o) l =
      (ofLevel issues l).length := rowCount_printed stamp hnamed o l
  refine ⟨⟨Report.allOfJson?_toJson stamp issues, ?_⟩, ?_, fun tables h => ?_, ?_,
    ⟨?_, nodup_levelTitles, fun t ht => ?_⟩, fun hshow hsome => ?_, ?_, ?_⟩
  · rw [Report.allOfSarif?_toSarif, hissues]
  · rw [Console.print_eq_none_iff, Console.takes_printed_iff stamp hnamed hsorted,
      List.forall_mem_map]
    rfl
  · exact Console.allOfRows_of_showsRow (Console.forall₂_rows_printed hnamed hsorted h)
  · exact Console.exists_allOfTables_iff stamp hnamed hsorted o
  · rw [htables]
    exact titles_groups o.explain hnamed
  · rw [htables] at ht
    exact rows_of_mem_groups o.explain hnamed ht
  · exact summary_suffix stamp hnamed hsome hshow
  · rw [List.map_congr_left fun l _ => hcount l, sum_ofLevel hnamed, Report.total, hissues]
  · rw [Report.field?_toJson_issues]
    cases issues with
    | nil => simp [Report.printed]
    | cons i is => simp [cleanNotice_not_mem]

open Terminal in
theorem Registry.analyze_reports_agree_console :
    let report := (Registry.default.analyze ⟨⟨2025, 1, 31⟩, ⟨12, 0, 0, 0⟩, some 0⟩
      (.text "console.log(1)")).1
    report.issues ≠ [] ∧ (Console.plain.print (report.printed {})).2 = none ∧
    (∃ tables, (tablesOf (report.printed {})).mapM Console.plain.table = .ok tables ∧
      Finding.allOfTables? tables = some [⟨"E001", 1, "console.log("⟩]) ∧
    ∃ levels, .notice { style := .dim, label := "By level:", gap := " ", text := levels } ∈
      report.printed {} := by
  intro report
  have hraw : Registry.default.rawIssues "console.log(1)".toList.toArray =
      [Issue.ofRule Catalog.consoleCall ⟨1, "console.log(", 0, 12, some "log"⟩] := by
    decide +kernel
  have hissues : report.issues =
      [Issue.ofRule Catalog.consoleCall ⟨1, "console.log(", 0, 12, some "log"⟩] := by
    rw [Registry.analyze_text, Registry.issues, hraw, Issue.rank, List.mergeSort_singleton]
  have hsome : report.issues ≠ [] := by
    rw [hissues]
    exact List.cons_ne_nil _ _
  have hids : ∀ f ∈ report.issues.map Finding.ofIssue, Console.plain.shown f.id = .ok f.id := by
    rw [hissues]
    decide +kernel
  obtain ⟨-, hprint, -, htables, -, hsummary, -⟩ := analyze_reports_agree Registry.default
    Console.plain ⟨⟨2025, 1, 31⟩, ⟨12, 0, 0, 0⟩, some 0⟩ "console.log(1)" "<stdin>" {}
  obtain ⟨tables, hshown, hall⟩ := htables.mpr hids
  refine ⟨hsome, hprint.mpr fun f hf => ⟨f.id, hids f hf⟩, ⟨tables, hshown, hall.trans ?_⟩, _,
    (hsummary rfl hsome).mem (List.getLast_mem (by simp))⟩
  rw [hissues]
  decide +kernel

open Terminal in
/-- An id in brackets is read as a tag: the JSON report shows it, the table does not. -/
theorem Registry.analyze_bracketedId :
    let g := (Registry.register {} { Catalog.consoleCall with id := "[b]X1" }).registry
    let report := (g.analyze ⟨⟨2025, 1, 31⟩, ⟨12, 0, 0, 0⟩, some 0⟩ (.text "console.log(1)")).1
    Finding.allOfJson? report.toJson = some [⟨"[b]X1", 1, "console.log("⟩] ∧
      ∃ tables, (tablesOf (report.printed {})).mapM Console.plain.table = .ok tables ∧
        Finding.allOfTables? tables = some [⟨"X1", 1, "console.log("⟩] := by
  intro g report
  let issue : Issue :=
    .ofRule { Catalog.consoleCall with id := "[b]X1" } ⟨1, "console.log(", 0, 12, some "log"⟩
  have hraw : g.rawIssues "console.log(1)".toList.toArray = [issue] := by
    decide +kernel
  have hissues : g.issues "console.log(1)".toList.toArray = [issue] := by
    rw [Registry.issues, hraw, Issue.rank, List.mergeSort_singleton]
  have hreport : report = ⟨report.timestamp, .found [issue]⟩ := by
    rw [← hissues]
    rfl
  rw [hreport]
  refine ⟨Report.allOfJson?_toJson report.timestamp [issue], ?_⟩
  rw [tablesOf_printed]
  refine ⟨[{ title := (pill "Info").text, headers := ["Rule", "Line", "Issue", "Snippet"]
             rows := [["X1", "1", Catalog.consoleCall.title, "console.log("]] }], ?_, ?_⟩
  · decide +kernel
  · have hline : "1".toInt? = some 1 := Int.toInt?_repr 1
    simp [Finding.allOfTables?, Finding.ofRow?, hline]

end ReactLint
