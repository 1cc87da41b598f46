import ReactLint.Proofs.Analysis.Contents
import ReactLint.Proofs.Report.Agreement

/-!
# Rules and results of a SARIF report

A SARIF report describes rules and lists results, and a result names its rule by id. The description
of a rule is taken from the first issue that has its id. It fits all later ones, since the ids of a
registry are distinct, so that all issues of an id come from one rule. The places of the results lie
in the text, since the occurrences of every scan do.
-/

namespace ReactLint

namespace Occurrence

theorem one_le_line_ofMatch (t : Array Char) (m : Pattern.Match) : 1 ≤ (ofMatch t m).line := by
  simp only [ofMatch, onLine, lineAt]
  omega

theorem stop_ofMatch (t : Array Char) (m : Pattern.Match) :
    (ofMatch t m).stop = (ofMatch t m).start + (ofMatch t m).snippet.length := by
  simp only [ofMatch, onLine, String.length_ofList]

end Occurrence

theorem Rule.measures_of_mem_occurrences {r : Rule} {t : Array Char} {o : Occurrence}
    (h : o ∈ r.occurrences t) : 1 ≤ o.line ∧ o.stop = o.start + o.snippet.length := by
  obtain ⟨m, -, rfl⟩ := mem_occurrences.mp h
  exact ⟨Occurrence.one_le_line_ofMatch t m, Occurrence.stop_ofMatch t m⟩

namespace Sarif

structure RuleEntry where
  id : String
  type : String
  title : String
  why : String
  fix : String
  level : String
  severity : String
  deriving DecidableEq, Repr

structure ResultEntry where
  ruleId : String
  level : String
  message : String
  uri : String
  line : Int
  start : Int
  length : Int
  snippet : String
  deriving DecidableEq, Repr

structure Contents where
  rules : List RuleEntry
  results : List ResultEntry

def textOf? (j : Json) : Option String := do (← j.field? "text").text?

def RuleEntry.ofJson? (j : Json) : Option RuleEntry := do
  let id ← (← j.field? "id").text?
  let type ← (← j.field? "name").text?
  let title ← textOf? (← j.field? "shortDescription")
  let why ← textOf? (← j.field? "fullDescription")
  let fix ← textOf? (← j.field? "help")
  let level ← (← (← j.field? "defaultConfiguration").field? "level").text?
  let severity ← (← (← j.field? "properties").field? "severity").text?
  pure { id, type, title, why, fix, level, severity }

def ResultEntry.ofJson? (j : Json) : Option ResultEntry := do
  let ruleId ← (← j.field? "ruleId").text?
  let level ← (← j.field? "level").text?
  let message ← textOf? (← j.field? "message")
  let location ← (← (← (← j.field? "locations").list?).head?).field? "physicalLocation"
  let uri ← (← (← location.field? "artifactLocation").field? "uri").text?
  let region ← location.field? "region"
  let line ← (← region.field? "startLine").int?
  let start ← (← region.field? "charOffset").int?
  let length ← (← region.field? "charLength").int?
  let snippet ← textOf? (← region.field? "snippet")
  pure { ruleId, level, message, uri, line, start, length, snippet }

def Contents.ofJson? (j : Json) : Option Contents := do
  let run ← (← (← j.field? "runs").list?).head?
  let driver ← (← run.field? "tool").field? "driver"
  let rules ← (← (← driver.field? "rules").list?).mapM RuleEntry.ofJson?
  let results ← (← (← run.field? "results").list?).mapM ResultEntry.ofJson?
  pure { rules, results }

def RuleEntry.ofIssue (i : Issue) : RuleEntry :=
  { id := i.id, type := i.type, title := i.title, why := i.why, fix := i.fix
    level := Sarif.level i.severity, severity := i.severity }

def ResultEntry.ofIssue (uri : String) (i : Issue) : ResultEntry :=
  { ruleId := i.id, level := Sarif.level i.severity, message := i.title, uri := uri
    line := i.occurrence.line, start := i.occurrence.start
    length := i.occurrence.stop - i.occurrence.start, snippet := i.occurrence.snippet }

theorem RuleEntry.ofJson?_ruleJson (i : Issue) : ofJson? (ruleJson i) = some (ofIssue i) := rfl

theorem ResultEntry.ofJson?_resultJson (uri : String) (i : Issue) :
    ofJson? (resultJson uri i) = some (ofIssue uri i) := rfl

def Contents.ofIssues (uri : String) (is : List Issue) : Contents :=
  { rules := (firstOfEach [] is).map RuleEntry.ofIssue
    results := is.map (ResultEntry.ofIssue uri) }

theorem Contents.ofJson?_toSarif (r : Report) (uri : String) :
    ofJson? (r.toSarif uri) = some (ofIssues uri r.issues) := by
  have hrules := Finding.mapM_map_eq_some RuleEntry.ofJson?_ruleJson (firstOfEach [] r.issues)
  have hresults := Finding.mapM_map_eq_some (ResultEntry.ofJson?_resultJson uri) r.issues
  have hread : (((firstOfEach [] r.issues).map ruleJson).mapM RuleEntry.ofJson?).bind (fun rules =>
      ((r.issues.map (resultJson uri)).mapM ResultEntry.ofJson?).bind fun results =>
        some ⟨rules, results⟩) = some (ofIssues uri r.issues) := by
    rw [hrules, hresults]
    rfl
  simp only [Report.toSarif, Report.Fields.toSarif, Report.issues_fields]
  split <;> exact hread

/-! ## The rules that are described -/

theorem sublist_firstOfEach (seen : List String) (is : List Issue) :
    (firstOfEach seen is).Sublist is := by
  induction is generalizing seen with
  | nil => exact .refl []
  | cons i is ih =>
    rw [firstOfEach]
    split
    · exact (ih seen).cons i
    · exact (ih (i.id :: seen)).cons_cons i

theorem mem_ids_firstOfEach {seen : List String} {is : List Issue} {id : String} :
    id ∈ (firstOfEach seen is).map Issue.id ↔ id ∉ seen ∧ id ∈ is.map Issue.id := by
  induction is generalizing seen with
  | nil => simp [firstOfEach]
  | cons i is ih =>
    rw [firstOfEach]
    split
    · rename_i hseen
      have hi : i.id ∈ seen := List.contains_iff_mem.mp hseen
      rw [ih, List.map_cons, List.mem_cons]
      constructor
      · exact fun ⟨hnew, hmem⟩ => ⟨hnew, .inr hmem⟩
      · rintro ⟨hnew, rfl | hmem⟩
        · exact absurd hi hnew
        · exact ⟨hnew, hmem⟩
    · rename_i hseen
      have hi : i.id ∉ seen := fun h => hseen (List.contains_iff_mem.mpr h)
      rw [List.map_cons, List.mem_cons, ih, List.map_cons, List.mem_cons, List.mem_cons]
      by_cases hid : id = i.id
      · simp [hid, hi]
      · simp [hid]

/-- The ids of the described rules stand in the order in which the issues first use them. -/
theorem pairwise_ids_firstOfEach (seen : List String) (is : List Issue) :
    ((firstOfEach seen is).map Issue.id).Pairwise
      fun a b => (is.map Issue.id).idxOf a < (is.map Issue.id).idxOf b := by
  induction is generalizing seen with
  | nil => exact .nil
  | cons i is ih =>
    -- every id but the first one is found one place later than in the rest of the list
    have hlater {seen' : List String} (hi : i.id ∈ seen') :
        ((firstOfEach seen' is).map Issue.id).Pairwise fun a b =>
          ((i :: is).map Issue.id).idxOf a < ((i :: is).map Issue.id).idxOf b := by
      refine (ih seen').imp_of_mem fun {a b} ha hb hlt => ?_
      have hne {id : String} (h : id ∈ (firstOfEach seen' is).map Issue.id) : i.id ≠ id := by
        rintro rfl
        exact (mem_ids_firstOfEach.mp h).1 hi
      rw [List.map_cons, List.idxOf_cons_ne _ (hne ha), List.idxOf_cons_ne _ (hne hb)]
      omega
    rw [firstOfEach]
    split
    · rename_i hseen
      exact hlater (List.contains_iff_mem.mp hseen)
    · refine List.pairwise_cons.mpr ⟨fun id hid => ?_, hlater List.mem_cons_self⟩
      have hne : i.id ≠ id := by
        rintro rfl
        exact (mem_ids_firstOfEach.mp hid).1 List.mem_cons_self
      rw [List.map_cons, List.idxOf_cons_self, List.idxOf_cons_ne _ hne]
      omega

theorem nodup_ids_firstOfEach (seen : List String) (is : List Issue) :
    ((firstOfEach seen is).map Issue.id).Nodup := by
  refine (pairwise_ids_firstOfEach seen is).imp fun {a b} hlt heq => ?_
  rw [heq] at hlt
  exact lt_irrefl _ hlt

/-! ## The order of the levels -/

def levels : List String := ["error", "warning", "note"]

theorem level_name_mem (l : Severity) : level l.name ∈ levels := by
  cases l <;> decide

theorem idxOf_level_le {k l : Severity} (h : l.rank ≤ k.rank) :
    levels.idxOf (level k.name) ≤ levels.idxOf (level l.name) := by
  revert h
  cases k <;> cases l <;> decide

theorem pairwise_level {is : List Issue} (hnamed : Terminal.Named is)
    (hsorted : is.Pairwise fun a b => Issue.precedes a b = true) :
    is.Pairwise fun a b => levels.idxOf (level a.severity) ≤ levels.idxOf (level b.severity) := by
  refine hsorted.imp_of_mem fun {a b} ha hb hab => ?_
  obtain ⟨k, hk⟩ := hnamed a ha
  obtain ⟨l, hl⟩ := hnamed b hb
  rw [Issue.precedes_iff, hk, hl, Severity.rankOf_name, Severity.rankOf_name] at hab
  rw [hk, hl]
  exact idxOf_level_le (by omega)

end Sarif

namespace Registry

variable {g : Registry} {t : Array Char}

theorem Sound.get?_of_mem_issues (hg : g.Sound) {i : Issue} (h : i ∈ g.issues t) :
    ∃ r, g.get? i.id = some r ∧ i = Issue.ofRule r i.occurrence := by
  obtain ⟨r, o, hfinds, rfl⟩ := mem_issues.mp h
  exact ⟨r, hg.get?_id hfinds.stored, rfl⟩

theorem Sound.ruleEntry_eq (hg : g.Sound) {i k : Issue} (hi : i ∈ g.issues t)
    (hk : k ∈ g.issues t) (hid : i.id = k.id) :
    Sarif.RuleEntry.ofIssue i = Sarif.RuleEntry.ofIssue k := by
  obtain ⟨r, hr, hofRule⟩ := hg.get?_of_mem_issues hi
  obtain ⟨q, hq, hofRule'⟩ := hg.get?_of_mem_issues hk
  rw [hid, hq] at hr
  cases hr
  rw [hofRule, hofRule']
  rfl

/-- The description that stands for an issue is the one that every issue of its rule would have. -/
theorem Sound.exists_ruleEntry (hg : g.Sound) {i : Issue} (hi : i ∈ g.issues t) :
    ∃ k ∈ Sarif.firstOfEach [] (g.issues t), k.id = i.id ∧
      ∀ k' ∈ Sarif.firstOfEach [] (g.issues t), k'.id = i.id →
        Sarif.RuleEntry.ofIssue k' = Sarif.RuleEntry.ofIssue i := by
  have hfirst : i.id ∈ (Sarif.firstOfEach [] (g.issues t)).map Issue.id :=
    Sarif.mem_ids_firstOfEach.mpr ⟨List.not_mem_nil, List.mem_map_of_mem hi⟩
  obtain ⟨k, hk, hid⟩ := List.mem_map.mp hfirst
  exact ⟨k, hk, hid, fun k' hk' hid' =>
    hg.ruleEntry_eq ((Sarif.sublist_firstOfEach [] (g.issues t)).subset hk') hi hid'⟩

theorem region_of_mem_issues {i : Issue} (h : i ∈ g.issues t) :
    1 ≤ i.occurrence.line ∧ 0 ≤ i.occurrence.start ∧
      i.occurrence.stop = i.occurrence.start + i.occurrence.snippet.length ∧
      i.occurrence.stop ≤ t.size := by
  obtain ⟨r, o, hfinds, rfl⟩ := mem_issues.mp h
  obtain ⟨hstart, -, hstop⟩ := Rule.bounds_of_mem_occurrences hfinds.scanned
  obtain ⟨hline, hlength⟩ := Rule.measures_of_mem_occurrences hfinds.scanned
  exact ⟨hline, hstart, hlength, hstop⟩

open Sarif in
/-- The SARIF report of an analysis describes each rule that a result names, once and in the order
of first use, as the registry has it, and describes no other. There is a result for each issue, in
the order of the report, with the level of its rule; the levels never rise, and the place of each
result lies in the text. -/
theorem analyze_sarif_refers (hg : g.Reachable) (now : Moment) (code uri : String) :
    let report := (g.analyze now (.text code)).1
    ∃ rules results, Contents.ofJson? (report.toSarif uri) = some ⟨rules, results⟩ ∧
      ((rules.map RuleEntry.id).Nodup ∧
        (∀ id, id ∈ rules.map RuleEntry.id ↔ id ∈ results.map ResultEntry.ruleId) ∧
        (rules.map RuleEntry.id).Pairwise fun a b =>
          (results.map ResultEntry.ruleId).idxOf a < (results.map ResultEntry.ruleId).idxOf b) ∧
      (∀ d ∈ rules, ∃ r, g.get? d.id = some r ∧ d.type = r.type ∧ d.title = r.title ∧
        d.why = r.why ∧ d.fix = r.fix ∧ d.severity = r.severity.name) ∧
      (∀ x ∈ results, ∃ d ∈ rules, d.id = x.ruleId ∧ d.level = x.level ∧
        ∀ d' ∈ rules, d'.id = x.ruleId → d' = d) ∧
      results = report.issues.map (ResultEntry.ofIssue uri) ∧
      ((∀ x ∈ results, x.level ∈ levels) ∧
        results.Pairwise fun a b => levels.idxOf a.level ≤ levels.idxOf b.level) ∧
      ∀ x ∈ results, 1 ≤ x.line ∧ 0 ≤ x.start ∧ x.length = x.snippet.length ∧
        x.start + x.length ≤ code.length := by
  intro report
  have hsound := hg.sound
  have hissues : report.issues = g.issues code.toList.toArray := rfl
  have hnamed : Terminal.Named report.issues := g.named_issues _
  have hids : (report.issues.map (ResultEntry.ofIssue uri)).map ResultEntry.ruleId =
      report.issues.map Issue.id := by
    rw [List.map_map]
    rfl
  have hrules : ((firstOfEach [] report.issues).map RuleEntry.ofIssue).map RuleEntry.id =
      (firstOfEach [] report.issues).map Issue.id := by
    rw [List.map_map]
    rfl
  refine ⟨_, _, Contents.ofJson?_toSarif report uri, ⟨?_, fun id => ?_, ?_⟩, fun d hd => ?_,
    fun x hx => ?_, rfl, ⟨fun x hx => ?_, ?_⟩, fun x hx => ?_⟩
  · rw [hrules]
    exact nodup_ids_firstOfEach [] report.issues
  · rw [hrules, hids, mem_ids_firstOfEach]
    simp
  · rw [hrules, hids]
    exact pairwise_ids_firstOfEach [] report.issues
  · obtain ⟨i, hi, rfl⟩ := List.mem_map.mp hd
    have hmem := (sublist_firstOfEach [] report.issues).subset hi
    obtain ⟨r, hr, hofRule⟩ := hsound.get?_of_mem_issues (hissues ▸ hmem)
    refine ⟨r, hr, ?_⟩
    rw [hofRule]
    exact ⟨rfl, rfl, rfl, rfl, rfl⟩
  · obtain ⟨i, hi, rfl⟩ := List.mem_map.mp hx
    obtain ⟨k, hk, hid, hsame⟩ := hsound.exists_ruleEntry (hissues ▸ hi)
    refine ⟨RuleEntry.ofIssue k, List.mem_map_of_mem hk, hid, ?_, fun d' hd' hid' => ?_⟩
    · rw [hsame k hk hid]
      rfl
    · obtain ⟨k', hk', rfl⟩ := List.mem_map.mp hd'
      rw [hsame k' hk' hid', hsame k hk hid]
  · obtain ⟨i, hi, rfl⟩ := List.mem_map.mp hx
    obtain ⟨l, hl⟩ := hnamed i hi
    rw [ResultEntry.ofIssue, hl]
    exact level_name_mem l
  · exact List.pairwise_map.mpr (pairwise_level hnamed (Issue.pairwise_rank _))
  · obtain ⟨i, hi, rfl⟩ := List.mem_map.mp hx
    obtain ⟨hline, hstart, hlength, hstop⟩ := region_of_mem_issues (hissues ▸ hi)
    have hsize : code.toList.toArray.size = code.length := String.length_toList
    rw [hsize] at hstop
    refine ⟨hline, hstart, ?_, ?_⟩
    · simp only [ResultEntry.ofIssue]
      omega
    · simp only [ResultEntry.ofIssue]
      omega

theorem analyze_sarif_refers_console :
    let report := (Registry.default.analyze ⟨⟨2025, 1, 31⟩, ⟨12, 0, 0, 0⟩, some 0⟩
      (.text "console.log(1)\nconsole.log(2)")).1
    Registry.default.Reachable ∧
    ∃ rules results, Sarif.Contents.ofJson? (report.toSarif "a.jsx") = some ⟨rules, results⟩ ∧
      rules.map Sarif.RuleEntry.id = ["E001"] ∧
      results.map Sarif.ResultEntry.ruleId = ["E001", "E001"] := by
  intro report
  obtain ⟨rules, results, hread, ⟨hnodup, hused, -⟩, -, -, hresults, -⟩ :=
    analyze_sarif_refers reachable_default ⟨⟨2025, 1, 31⟩, ⟨12, 0, 0, 0⟩, some 0⟩
      "console.log(1)\nconsole.log(2)" "a.jsx"
  have hraw : (Registry.default.rawIssues "console.log(1)\nconsole.log(2)".toList.toArray).map
      Issue.id = ["E001", "E001"] := by
    decide +kernel
  have hids : results.map Sarif.ResultEntry.ruleId = ["E001", "E001"] := by
    have hperm : (results.map Sarif.ResultEntry.ruleId).Perm (List.replicate 2 "E001") := by
      rw [hresults, List.map_map]
      exact ((List.mergeSort_perm _ _).map Issue.id).trans (.of_eq hraw)
    exact List.perm_replicate.mp hperm
  refine ⟨reachable_default, rules, results, hread, ?_, hids⟩
  refine List.perm_singleton.mp ((List.perm_ext_iff_of_nodup hnodup (by simp)).mpr fun id => ?_)
  rw [hused, hids]
  simp

end Registry

end ReactLint
