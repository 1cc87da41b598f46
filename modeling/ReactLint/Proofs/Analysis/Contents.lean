import Mathlib.Data.List.Chain
import Mathlib.Data.Prod.Lex
import ReactLint.Proofs.AllowList
import ReactLint.Proofs.Analysis.Faultless
import ReactLint.Proofs.Ranking
import ReactLint.Proofs.Scanning

/-!
# What a report contains

An issue stands in a report exactly when its rule is enabled, the gate of the rule is open, the
occurrence is one of the scan of the rule, and its first group is not on the allow-list of the rule.
No two issues share their place in the order by level, line, rule and offset, in which the report
lists them; so this condition and this order leave only one list.
-/

namespace ReactLint

theorem Context.detect_eq (t : Array Char) :
    Context.detect t = [(Context.memoWrapper, Context.hasMemoWrapper t)] := rfl

theorem Context.isSet_text_iff {t : Array Char} {fact : String} :
    Context.isSet (Context.detect t) (.text fact) = true ↔ (fact, true) ∈ Context.detect t := by
  rw [Context.detect_eq, List.mem_singleton, Prod.mk.injEq]
  by_cases hfact : fact = Context.memoWrapper
  · simp only [Context.isSet, hfact, List.lookup_cons_self, Option.getD_some, true_and]
    exact ⟨Eq.symm, Eq.symm⟩
  · simp [Context.isSet, List.lookup_cons, beq_false_of_ne hfact, hfact]

theorem Rule.isOpen_iff {r : Rule} {t : Array Char} :
    r.isOpen (Context.detect t) = true ↔
      r.gate = none ∨ ∃ fact, r.gate = some (.text fact) ∧ (fact, true) ∈ Context.detect t := by
  cases hgate : r.gate with
  | none => simp [isOpen, hgate]
  | some name =>
    cases name with
    | text fact => simp [isOpen, hgate, Context.isSet_text_iff]
    | _ => simp [isOpen, hgate, Context.isSet]

namespace AllowLists

theorem allows_iff {lists : AllowLists} {name : Value} {s : String} :
    lists.allows name s = true ↔
      ∃ members, lists.find? name = some members ∧ Value.text s ∈ members := by
  cases hfind : lists.find? name with
  | none => simp [allows, hfind]
  | some members =>
    simp only [allows, hfind, Option.getD_some, List.any_eq_true, Value.isText_iff,
      Option.some.injEq, exists_eq_left']
    exact ⟨fun ⟨v, hv, heq⟩ => heq ▸ hv, fun h => ⟨_, h, rfl⟩⟩

theorem suppresses_iff {lists : AllowLists} {r : Rule} {capture : Option String} :
    lists.suppresses r capture = true ↔
      ∃ name s members, r.allowList = some name ∧ capture = some s ∧
        lists.find? name = some members ∧ Value.text s ∈ members := by
  cases hlist : r.allowList with
  | none => simp [suppresses, hlist]
  | some name =>
    cases capture with
    | none => simp [suppresses, hlist]
    | some s =>
      simp only [suppresses, hlist, allows_iff, Option.some.injEq]
      constructor
      · rintro ⟨members, hfind, hmem⟩
        exact ⟨name, s, members, rfl, rfl, hfind, hmem⟩
      · rintro ⟨_, _, members, rfl, rfl, hfind, hmem⟩
        exact ⟨members, hfind, hmem⟩

end AllowLists

namespace Registry

variable {g : Registry} {t : Array Char}

/-- When a registry reports an occurrence of a rule in a text. -/
structure Finds (g : Registry) (t : Array Char) (r : Rule) (o : Occurrence) : Prop where
  stored : r ∈ g.rules
  enabled : g.isEnabled r.id = true
  gate : r.gate = none ∨ ∃ fact, r.gate = some (.text fact) ∧ (fact, true) ∈ Context.detect t
  scanned : o ∈ r.occurrences t
  kept : ¬ ∃ name s members, r.allowList = some name ∧ o.capture = some s ∧
    g.lists.find? name = some members ∧ Value.text s ∈ members

theorem mem_gatedOccurrences {r : Rule} {facts : Facts} {o : Occurrence} :
    o ∈ r.gatedOccurrences facts t ↔ r.isOpen facts = true ∧ o ∈ r.occurrences t := by
  rw [Rule.gatedOccurrences]
  split
  · rename_i hopen
    simp [hopen]
  · rename_i hopen
    simp [hopen]

theorem mem_issuesOf {facts : Facts} {r : Rule} {i : Issue} :
    i ∈ g.issuesOf facts t r ↔
      ∃ o, (r.isOpen facts = true ∧ o ∈ r.occurrences t) ∧
        g.lists.suppresses r o.capture = false ∧ Issue.ofRule r o = i := by
  simp only [issuesOf, AllowLists.keep, List.mem_map, List.mem_filter, mem_gatedOccurrences,
    Bool.not_eq_true', and_assoc]

theorem finds_iff {r : Rule} {o : Occurrence} :
    g.Finds t r o ↔ r ∈ g.enabled ∧
      (r.isOpen (Context.detect t) = true ∧ o ∈ r.occurrences t) ∧
        g.lists.suppresses r o.capture = false := by
  rw [mem_enabled_iff, Rule.isOpen_iff, ← Bool.not_eq_true, AllowLists.suppresses_iff]
  constructor
  · rintro ⟨hstored, hon, hgate, hscan, hkept⟩
    exact ⟨⟨hstored, hon⟩, ⟨hgate, hscan⟩, hkept⟩
  · rintro ⟨⟨hstored, hon⟩, ⟨hgate, hscan⟩, hkept⟩
    exact ⟨hstored, hon, hgate, hscan, hkept⟩

theorem mem_rawIssues {i : Issue} :
    i ∈ g.rawIssues t ↔ ∃ r o, g.Finds t r o ∧ i = Issue.ofRule r o := by
  simp only [rawIssues, List.mem_flatMap, mem_issuesOf, finds_iff]
  constructor
  · rintro ⟨r, hr, o, hopen, hkept, rfl⟩
    exact ⟨r, o, ⟨hr, hopen, hkept⟩, rfl⟩
  · rintro ⟨r, o, ⟨hr, hopen, hkept⟩, rfl⟩
    exact ⟨r, hr, o, hopen, hkept, rfl⟩

/-- The order in which issues are found: rule by rule, and along the text for each rule. -/
def FoundBefore (g : Registry) (a b : Issue) : Prop :=
  g.ids.idxOf a.id < g.ids.idxOf b.id ∨
    g.ids.idxOf a.id = g.ids.idxOf b.id ∧ a.occurrence.start < b.occurrence.start

/-- The place of an issue in a report: level downwards, line, rule in the order of registration,
offset. -/
def reportKey (g : Registry) (i : Issue) : ℕ ×ₗ ℤ ×ₗ ℕ ×ₗ ℤ :=
  toLex (3 - Severity.rankOf i.severity, toLex (i.occurrence.line,
    toLex (g.ids.idxOf i.id, i.occurrence.start)))

theorem rankOf_le_three (s : String) : Severity.rankOf s ≤ 3 := by
  rw [Severity.rankOf]
  cases Severity.ofName? s with
  | none => exact Nat.zero_le 3
  | some l => cases l <;> decide

theorem reportKey_lt_iff {a b : Issue} :
    g.reportKey a < g.reportKey b ↔
      Severity.rankOf b.severity < Severity.rankOf a.severity ∨
      Severity.rankOf a.severity = Severity.rankOf b.severity ∧
        (a.occurrence.line < b.occurrence.line ∨
          a.occurrence.line = b.occurrence.line ∧ g.FoundBefore a b) := by
  have ha := rankOf_le_three a.severity
  have hb := rankOf_le_three b.severity
  have hlt : 3 - Severity.rankOf a.severity < 3 - Severity.rankOf b.severity ↔
      Severity.rankOf b.severity < Severity.rankOf a.severity := by omega
  have heq : 3 - Severity.rankOf a.severity = 3 - Severity.rankOf b.severity ↔
      Severity.rankOf a.severity = Severity.rankOf b.severity := by omega
  simp only [reportKey, Prod.Lex.toLex_lt_toLex, hlt, heq, FoundBefore]

theorem Sound.pairwise_enabled (hg : g.Sound) :
    g.enabled.Pairwise fun a b => g.ids.idxOf a.id < g.ids.idxOf b.id := by
  have hids : g.ids.Pairwise fun a b => g.ids.idxOf a < g.ids.idxOf b := by
    rw [List.pairwise_iff_getElem]
    intro i j hi hj hij
    rw [hg.nodup.idxOf_getElem i hi, hg.nodup.idxOf_getElem j hj]
    exact hij
  exact (List.pairwise_map.mp hids).sublist List.filter_sublist

theorem pairwise_issuesOf (facts : Facts) (r : Rule) : (g.issuesOf facts t r).Pairwise
    fun a b => a.occurrence.start < b.occurrence.start := by
  have hgated : (r.gatedOccurrences facts t).Pairwise fun a b => a.start < b.start := by
    rw [Rule.gatedOccurrences]
    split
    · exact r.pairwise_start_occurrences t
    · exact .nil
  exact List.pairwise_map.mpr (hgated.sublist List.filter_sublist)

theorem id_of_mem_issuesOf {facts : Facts} {r : Rule} {i : Issue} (h : i ∈ g.issuesOf facts t r) :
    i.id = r.id := by
  obtain ⟨o, -, -, rfl⟩ := mem_issuesOf.mp h
  rfl

theorem Sound.pairwise_rawIssues (hg : g.Sound) : (g.rawIssues t).Pairwise g.FoundBefore := by
  rw [rawIssues, List.pairwise_flatMap]
  constructor
  · intro r _
    refine (pairwise_issuesOf (Context.detect t) r).imp_of_mem fun {a b} ha hb hlt => ?_
    exact .inr ⟨by rw [id_of_mem_issuesOf ha, id_of_mem_issuesOf hb], hlt⟩
  · refine hg.pairwise_enabled.imp fun {q r} hlt a ha b hb => .inl ?_
    rw [id_of_mem_issuesOf ha, id_of_mem_issuesOf hb]
    exact hlt

/-- The ranking sorts by level and line only; among ties it leaves the order in which the issues
were found, which no two issues share. -/
theorem Sound.pairwise_issues (hg : g.Sound) :
    (g.issues t).Pairwise fun a b => g.reportKey a < g.reportKey b := by
  refine (Issue.rank_stable hg.pairwise_rawIssues).imp fun {a b} h => ?_
  obtain ⟨hle, htie⟩ := h
  rw [Issue.precedes_iff] at hle htie
  rw [reportKey_lt_iff]
  rcases hle with hlt | ⟨heq, hline⟩
  · exact .inl hlt
  · rcases lt_or_eq_of_le hline with hlt | hsame
    · exact .inr ⟨heq, .inl hlt⟩
    · exact .inr ⟨heq, .inr ⟨hsame, htie (.inr ⟨heq.symm, hsame.ge⟩)⟩⟩

theorem nodup_of_increasing {l : List Issue}
    (h : l.Pairwise fun a b => g.reportKey a < g.reportKey b) : l.Nodup := by
  refine h.imp fun {a b} hlt heq => ?_
  rw [heq] at hlt
  exact lt_irrefl _ hlt

theorem isChain_iff_increasing {l : List Issue} :
    (l.IsChain fun a b => g.reportKey a < g.reportKey b) ↔
      l.Pairwise fun a b => g.reportKey a < g.reportKey b := by
  have : Trans (fun a b => g.reportKey a < g.reportKey b)
      (fun a b => g.reportKey a < g.reportKey b) fun a b => g.reportKey a < g.reportKey b :=
    ⟨fun hab hbc => lt_trans hab hbc⟩
  exact List.isChain_iff_pairwise

theorem eq_of_increasing {l m : List Issue}
    (hl : l.Pairwise fun a b => g.reportKey a < g.reportKey b)
    (hm : m.Pairwise fun a b => g.reportKey a < g.reportKey b)
    (hmem : ∀ i, i ∈ l ↔ i ∈ m) : l = m := by
  have hperm : l.Perm m :=
    (List.perm_ext_iff_of_nodup (nodup_of_increasing hl) (nodup_of_increasing hm)).mpr hmem
  exact hperm.eq_of_pairwise (fun a b _ _ hab hba => absurd hab (lt_asymm hba)) hl hm

theorem mem_issues {i : Issue} : i ∈ g.issues t ↔ ∃ r o, g.Finds t r o ∧ i = Issue.ofRule r o := by
  rw [issues, Issue.mem_rank, mem_rawIssues]

theorem Sound.ofRule_mem_issues (hg : g.Sound) {r : Rule} (hr : r ∈ g.rules) {o : Occurrence} :
    Issue.ofRule r o ∈ g.issues t ↔ g.Finds t r o := by
  rw [mem_issues]
  constructor
  · rintro ⟨q, p, hfinds, heq⟩
    have hrule : r = q := hg.eq_of_id_eq hr hfinds.stored (congrArg Issue.id heq)
    have hplace : o = p := congrArg Issue.occurrence heq
    rw [hrule, hplace]
    exact hfinds
  · exact fun hfinds => ⟨r, o, hfinds, rfl⟩

/-- The analysis of a text is never an error. Its report lists exactly the issues that the registry
finds, each once, strictly increasing in the order by level, line, rule and offset; it is the only
list that does. -/
theorem analyze_text_exact (hg : g.Reachable) (now : Moment) (code : String) :
    let t := code.toList.toArray
    let report := (g.analyze now (.text code)).1
    report.isError = false ∧
    (∀ found, report.issues? = some found ↔
      (∀ i, i ∈ found ↔ ∃ r o, g.Finds t r o ∧ i = Issue.ofRule r o) ∧
        found.IsChain fun a b => g.reportKey a < g.reportKey b) ∧
    (∀ r ∈ g.rules, ∀ o, Issue.ofRule r o ∈ report.issues ↔ g.Finds t r o) ∧
    report.issues.Nodup ∧ report.total = report.issues.length ∧
    (report.status = .clean ↔ report.issues = []) := by
  intro t report
  have hsound := hg.sound
  have hissues : report.issues? = some (g.issues t) := rfl
  have hordered : (g.issues t).Pairwise fun a b => g.reportKey a < g.reportKey b :=
    hsound.pairwise_issues
  refine ⟨?_, fun found => ?_, fun r hr o => hsound.ofRule_mem_issues hr,
    nodup_of_increasing hordered, rfl, ?_⟩
  · rw [← Bool.not_eq_true, Report.isError_iff, hissues]
    exact Option.some_ne_none _
  · rw [hissues, Option.some.injEq, isChain_iff_increasing]
    constructor
    · rintro rfl
      exact ⟨fun i => mem_issues, hordered⟩
    · rintro ⟨hmem, hfound⟩
      exact eq_of_increasing hordered hfound fun i => by rw [mem_issues, hmem i]
  · have hclean := Report.isClean_iff report
    rw [hissues, Option.some.injEq, Report.isClean, decide_eq_true_eq] at hclean
    exact hclean

theorem analyze_text_exact_useState :
    let report := (Registry.default.analyze ⟨⟨2025, 1, 31⟩, ⟨12, 0, 0, 0⟩, some 0⟩
      (.text "useState(Number); useState(load)")).1
    Registry.default.Reachable ∧
    Issue.ofRule Catalog.useStateInitializer
      ⟨1, "useState(load)", 18, 32, some "load"⟩ ∈ report.issues ∧
    Issue.ofRule Catalog.useStateInitializer
      ⟨1, "useState(Number)", 0, 16, some "Number"⟩ ∉ report.issues := by
  intro report
  obtain ⟨-, -, hmem, -⟩ := analyze_text_exact reachable_default
    ⟨⟨2025, 1, 31⟩, ⟨12, 0, 0, 0⟩, some 0⟩ "useState(Number); useState(load)"
  have hstored : Catalog.useStateInitializer ∈ Registry.default.rules := by
    simp [Registry.default, Catalog.rules]
  refine ⟨reachable_default, ?_, fun hissue => ?_⟩
  · refine (hmem _ hstored _).mpr
      ⟨hstored, by decide +kernel, .inl rfl, by decide +kernel, ?_⟩
    rintro ⟨_, _, members, ⟨⟩, ⟨⟩, ⟨⟩, hload⟩
    simp [AllowLists.safeStateInitializers] at hload
  · refine ((hmem _ hstored _).mp hissue).kept
      ⟨.text "safe_state_initializers", "Number", AllowLists.safeStateInitializers,
        rfl, rfl, rfl, ?_⟩
    simp [AllowLists.safeStateInitializers]

end Registry

end ReactLint
