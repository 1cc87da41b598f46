import Mathlib
import ReactLint.Proofs.Analysis.Faultless
import ReactLint.Proofs.Console
import ReactLint.Proofs.Ranking
import ReactLint.Proofs.Rule

/-!
# The tables of a terminal report

A terminal report has one table a severity. Since the ranking of the issues starts with the
severity, and in the order of the tables, going through the tables row by row is going through the
ranked list.

A console shows a row as it stands but for the id of the issue, which it is given as markup. So
printing a report gets to its end exactly if every id is taken.
-/

namespace ReactLint

namespace Terminal

def Named (issues : List Issue) : Prop := ∀ i ∈ issues, ∃ l : Severity, i.severity = l.name

def ofLevel (issues : List Issue) (l : Severity) : List Issue :=
  issues.filter fun i => i.severity == l.name

theorem filter_append_filter_not {p : Issue → Bool} {issues : List Issue}
    (h : issues.Pairwise fun a b => p b = true → p a = true) :
    issues.filter p ++ issues.filter (fun i => !p i) = issues := by
  induction issues with
  | nil => rfl
  | cons i is ih =>
    obtain ⟨hfirst, hrest⟩ := List.pairwise_cons.mp h
    by_cases hi : p i = true
    · rw [List.filter_cons_of_pos hi, List.filter_cons_of_neg (by simp [hi]), List.cons_append,
        ih hrest]
    · have hnone : ∀ b ∈ is, ¬ p b = true := fun b hb hpb => hi (hfirst b hb hpb)
      rw [List.filter_cons_of_neg hi, List.filter_cons_of_pos (by simpa using hi),
        List.filter_eq_nil_iff.mpr hnone, List.nil_append,
        List.filter_eq_self.mpr (by simpa using hnone)]

theorem name_injective {k l : Severity} (h : k.name = l.name) : k = l := by
  have hk := Severity.ofName?_name k
  rw [h, Severity.ofName?_name l] at hk
  exact (Option.some.inj hk).symm

/-- Issues in which no severity rises are the issues of the single severities, one after another. -/
theorem flatMap_ofLevel {levels : List Severity}
    (hlevels : levels.Pairwise fun k l => l.rank < k.rank) {issues : List Issue}
    (hsorted : issues.Pairwise fun a b => Severity.rankOf b.severity ≤ Severity.rankOf a.severity)
    (hnamed : ∀ i ∈ issues, ∃ l ∈ levels, i.severity = l.name) :
    levels.flatMap (ofLevel issues) = issues := by
  induction levels generalizing issues with
  | nil =>
    cases issues with
    | nil => rfl
    | cons i is =>
      obtain ⟨l, hl, -⟩ := hnamed i List.mem_cons_self
      cases hl
  | cons k levels ih =>
    obtain ⟨hbelow, hlevels⟩ := List.pairwise_cons.mp hlevels
    have hne : ∀ l ∈ levels, l.name ≠ k.name := fun l hl heq => by
      have hlt := hbelow l hl
      rw [name_injective heq] at hlt
      exact lt_irrefl _ hlt
    -- what is not of the first level belongs to the others
    have hrest :
        levels.flatMap (ofLevel issues) = issues.filter fun i => !(i.severity == k.name) := by
      rw [← ih hlevels (hsorted.sublist List.filter_sublist) ?_]
      · refine List.flatMap_congr fun l hl => ?_
        rw [ofLevel, ofLevel, List.filter_filter]
        refine List.filter_congr fun i _ => ?_
        by_cases hi : i.severity = l.name
        · simp [hi, hne l hl]
        · simp [hi]
      · intro i hi
        obtain ⟨hmem, hnot⟩ := List.mem_filter.mp hi
        obtain ⟨l, hl, hname⟩ := hnamed i hmem
        rcases List.mem_cons.mp hl with rfl | hl
        · simp [hname] at hnot
        · exact ⟨l, hl, hname⟩
    rw [List.flatMap_cons, hrest, ofLevel]
    refine filter_append_filter_not (hsorted.imp_of_mem fun {a b} ha hb hle hbk => ?_)
    -- an issue in front of one of the highest level is of that level
    obtain ⟨l, hl, hname⟩ := hnamed a ha
    rcases List.mem_cons.mp hl with rfl | hl
    · simp [hname]
    · have hlt := hbelow l hl
      rw [beq_iff_eq] at hbk
      rw [hname, hbk, Severity.rankOf_name, Severity.rankOf_name] at hle
      omega

theorem groupBySeverity_of_named {issues : List Issue} (h : Named issues) :
    groupBySeverity issues =
      (Severity.all.map fun l => (l.name, ofLevel issues l)).filter fun g => !g.2.isEmpty := by
  have hkeys : groupKeys issues = Severity.all.map Severity.name := by
    have hnone : ((issues.map Issue.severity).filter fun s =>
        !(Severity.all.map Severity.name).contains s) = [] := by
      refine List.filter_eq_nil_iff.mpr fun s hs => ?_
      obtain ⟨i, hi, rfl⟩ := List.mem_map.mp hs
      obtain ⟨l, hl⟩ := h i hi
      rw [hl]
      cases l <;> decide
    simp only [groupKeys, hnone, List.eraseDups_nil, List.append_nil]
  simp only [groupBySeverity, hkeys, List.map_map]
  rfl

def tablesOf (ps : List Printed) : List Table :=
  ps.filterMap fun
    | .table t => some t
    | .line _ => none

theorem tablesOf_groups (explain : Bool) (groups : List (String × List Issue)) :
    tablesOf (groups.flatMap fun g => [.line "", .table (groupTable explain g)]) =
      groups.map (groupTable explain) := by
  induction groups with
  | nil => rfl
  | cons g groups ih =>
    rw [List.flatMap_cons, tablesOf, List.filterMap_append]
    exact congrArg (groupTable explain g :: ·) ih

theorem tablesOf_printed (stamp : String) (issues : List Issue) (o : TerminalOptions) :
    tablesOf (Report.printed ⟨stamp, .found issues⟩ o) =
      (groupBySeverity issues).map (groupTable o.explain) := by
  cases issues with
  | nil => rfl
  | cons i is =>
    have hsummary : tablesOf (if o.showSummary then
        summary ⟨stamp, .found (i :: is)⟩ o.source else []) = [] := by
      split <;> rfl
    rw [Report.printed, tablesOf, List.filterMap_append, ← tablesOf, ← tablesOf, hsummary,
      List.append_nil]
    exact tablesOf_groups o.explain _

theorem flatMap_filter_nonempty {α β : Type} (f : α → List β) (as : List α) :
    (as.filter fun a => !(f a).isEmpty).flatMap f = as.flatMap f := by
  induction as with
  | nil => rfl
  | cons a as ih =>
    by_cases ha : f a = []
    · simp [ha, ih]
    · simp [ha, ih]

theorem pairwise_rank_all : Severity.all.Pairwise fun k l => l.rank < k.rank := by decide

theorem flatMap_groups {issues : List Issue} (hnamed : Named issues)
    (hsorted : issues.Pairwise fun a b => Issue.precedes a b = true) :
    (groupBySeverity issues).flatMap Prod.snd = issues := by
  have hlevels : issues.Pairwise fun a b =>
      Severity.rankOf b.severity ≤ Severity.rankOf a.severity := by
    refine hsorted.imp fun {a b} hab => ?_
    rcases Issue.precedes_iff.mp hab with hlt | ⟨heq, -⟩
    · exact hlt.le
    · exact heq.ge
  have hall : Severity.all.flatMap (ofLevel issues) = issues := by
    refine flatMap_ofLevel pairwise_rank_all hlevels fun i hi => ?_
    obtain ⟨l, hl⟩ := hnamed i hi
    exact ⟨l, by cases l <;> decide, hl⟩
  rw [groupBySeverity_of_named hnamed, flatMap_filter_nonempty Prod.snd, List.flatMap_map]
  exact hall

theorem pill_injective {k l : Severity} (h : pill k.name = pill l.name) : k = l := by
  have hstyle : pillStyle k.name = pillStyle l.name := congrArg StyledText.style h
  revert hstyle
  simp only [pillStyle, Severity.ofName?_name]
  cases k <;> cases l <;> decide

def levelTitle (l : Severity) : Cell := .styled (pill l.name)

def rowCount (ps : List Printed) (l : Severity) : Nat :=
  (((tablesOf ps).filter fun t => t.title == levelTitle l).map fun t => t.rows.length).sum

theorem levelTitle_injective {k l : Severity} (h : levelTitle k = levelTitle l) : k = l :=
  pill_injective (Cell.styled.inj h)

/-- The table of a severity has a row for each of its issues; without a table there are none. -/
theorem sum_rows_levels (explain : Bool) (issues : List Issue) (l : Severity)
    {levels : List Severity} (hlevels : levels.Nodup) :
    ((((((levels.map fun k => (k.name, ofLevel issues k)).filter fun g => !g.2.isEmpty).map
      (groupTable explain)).filter fun t => t.title == levelTitle l).map
        fun t => t.rows.length).sum) = if l ∈ levels then (ofLevel issues l).length else 0 := by
  induction levels with
  | nil => rfl
  | cons k levels ih =>
    obtain ⟨hfresh, hrest⟩ := List.nodup_cons.mp hlevels
    have htitle : (groupTable explain (k.name, ofLevel issues k)).title = levelTitle k := rfl
    have hrows : (groupTable explain (k.name, ofLevel issues k)).rows.length =
        (ofLevel issues k).length := List.length_map _
    by_cases hkl : k = l
    · subst hkl
      by_cases hempty : ofLevel issues k = []
      · simp [hempty, ih hrest, hfresh]
      · simp [hempty, ih hrest, hfresh, htitle, hrows]
    · have hne : levelTitle k ≠ levelTitle l := fun h => hkl (levelTitle_injective h)
      by_cases hempty : ofLevel issues k = []
      · simp [hempty, ih hrest, Ne.symm hkl]
      · simp [hempty, ih hrest, Ne.symm hkl, htitle, hne]

theorem rowCount_printed (stamp : String) {issues : List Issue} (h : Named issues)
    (o : TerminalOptions) (l : Severity) :
    rowCount (Report.printed ⟨stamp, .found issues⟩ o) l = (ofLevel issues l).length := by
  have hmem : l ∈ Severity.all := by cases l <;> decide
  rw [rowCount, tablesOf_printed, groupBySeverity_of_named h,
    sum_rows_levels o.explain issues l (by decide), if_pos hmem]

theorem titles_groups (explain : Bool) {issues : List Issue} (h : Named issues) :
    (((groupBySeverity issues).map (groupTable explain)).map Table.title).Sublist
      (Severity.all.map levelTitle) := by
  rw [groupBySeverity_of_named h, List.map_map]
  exact List.filter_sublist.map _

theorem nodup_levelTitles : (Severity.all.map levelTitle).Nodup := by
  exact List.Nodup.map (fun k l h => levelTitle_injective h) (by decide)

theorem sum_ofLevel {issues : List Issue} (h : Named issues) :
    (Severity.all.map fun l => (ofLevel issues l).length).sum = issues.length := by
  induction issues with
  | nil => rfl
  | cons i is ih =>
    obtain ⟨l, hl⟩ := h i List.mem_cons_self
    have hrest := ih fun j hj => h j (List.mem_cons_of_mem i hj)
    simp only [Severity.all, List.map_cons, List.map_nil, List.sum_cons, List.sum_nil, ofLevel,
      List.filter_cons, hl] at hrest ⊢
    cases l <;> simp [Severity.name] at hrest ⊢ <;> omega

theorem rows_of_mem_groups (explain : Bool) {issues : List Issue} (h : Named issues) {t : Table}
    (ht : t ∈ (groupBySeverity issues).map (groupTable explain)) :
    ∃ l, t.title = levelTitle l ∧ t.rows = (ofLevel issues l).map (row explain) := by
  obtain ⟨group, hgroup, rfl⟩ := List.mem_map.mp ht
  rw [groupBySeverity_of_named h] at hgroup
  obtain ⟨l, -, rfl⟩ := List.mem_map.mp (List.mem_filter.mp hgroup).1
  exact ⟨l, rfl, rfl⟩

theorem summary_suffix (stamp : String) {issues : List Issue} (hnamed : Named issues)
    (hsome : issues ≠ []) {o : TerminalOptions} (hshow : o.showSummary = true) :
    let report : Report := ⟨stamp, .found issues⟩
    let counts := Severity.all.map fun l => s!"{l.name} {rowCount (report.printed o) l}"
    [.line "", .notice { style := .dim, label := "Source:", gap := "   ", text := o.source },
      .notice { style := .dim, label := "Issues:", gap := "   ", text := toString report.total },
      .notice
        { style := .dim, label := "By level:", gap := " ", text := "  ".intercalate counts }] <:+
      report.printed o := by
  intro report counts
  have hcounts : counts = Severity.all.map fun l => s!"{l.name} {count report.issues l}" := by
    refine List.map_congr_left fun l _ => ?_
    rw [rowCount_printed stamp hnamed]
    rfl
  obtain ⟨i, is, rfl⟩ := List.exists_cons_of_ne_nil hsome
  rw [hcounts, Report.printed, if_pos hshow]
  exact List.suffix_append _ (summary report o.source)

theorem head?_tail_markup (n : Markup.Notice) :
    n.markup.toList.tail.head? = n.style.name.toList.head? := by
  have hname (s : Markup.Style) : s.name.toList ≠ [] := by cases s <;> decide
  cases hs : n.style.name.toList with
  | nil => exact absurd hs (hname _)
  | cons c cs => simp [Markup.Notice.markup, hs]

/-- A notice starts with its style, so a thing is a notice of one style only. -/
theorem notice_ne {m n : Markup.Notice}
    (h : m.style.name.toList.head? ≠ n.style.name.toList.head?) :
    Printed.notice m ≠ .notice n := by
  intro heq
  have hmarkup : m.markup = n.markup := Printed.line.inj heq
  exact h (by rw [← head?_tail_markup, hmarkup, head?_tail_markup])

theorem notice_ne_empty (n : Markup.Notice) : Printed.notice n ≠ .line "" := by
  intro heq
  have hmarkup : n.markup = "" := Printed.line.inj heq
  have hlength := congrArg String.length hmarkup
  simp [Markup.Notice.markup] at hlength

theorem cleanNotice_not_mem (stamp : String) (i : Issue) (is : List Issue) (o : TerminalOptions) :
    cleanNotice o.source ∉ Report.printed ⟨stamp, .found (i :: is)⟩ o := by
  intro hmem
  have hstyle : Markup.Style.boldGreen.name.toList.head? ≠ Markup.Style.dim.name.toList.head? := by
    decide
  rw [Report.printed, List.mem_append] at hmem
  rcases hmem with hmem | hmem
  · obtain ⟨group, -, hline⟩ := List.mem_flatMap.mp hmem
    rcases List.mem_cons.mp hline with hline | hline
    · exact notice_ne_empty _ hline
    · cases List.mem_singleton.mp hline
  · split at hmem
    · simp only [summary, List.mem_cons, List.not_mem_nil, or_false] at hmem
      rcases hmem with hline | hline | hline | hline
      · exact notice_ne_empty _ hline
      all_goals exact notice_ne hstyle hline
    · cases hmem

/-! ## What a console shows -/

theorem isSimple_toString (n : Int) : Markup.isSimple (toString n) = true := by
  have hnat (n : Nat) : Markup.isSimple (Nat.repr n) = true := by
    refine List.all_eq_true.mpr fun c hc => ?_
    have hdigit := Nat.isDigit_of_mem_toDigits (by decide) (by decide)
      (Nat.toList_repr ▸ hc)
    simp [Char.isAlphanum, hdigit]
  cases n with
  | ofNat n => exact hnat n
  | negSucc n =>
    show Markup.isSimple ("-" ++ Nat.repr (n + 1)) = true
    rw [Markup.isSimple, String.toList_append, List.all_append, ← Markup.isSimple,
      ← Markup.isSimple,
      hnat]
    decide

end Terminal

theorem mapM_eq_ok_iff {ε α β : Type} {f : α → Except ε β} {as : List α} {bs : List β} :
    as.mapM f = .ok bs ↔ List.Forall₂ (fun a b => f a = .ok b) as bs := by
  induction as generalizing bs with
  | nil =>
    rw [List.mapM_nil, List.forall₂_nil_left_iff]
    exact ⟨fun h => (Except.ok.inj h).symm, fun h => h ▸ rfl⟩
  | cons a as ih =>
    rw [List.mapM_cons, bind_eq_ok]
    constructor
    · rintro ⟨b, hb, hrest⟩
      obtain ⟨bs', hbs, hend⟩ := bind_eq_ok.mp hrest
      cases hend
      exact .cons hb (ih.mp hbs)
    · intro h
      obtain ⟨b, bs', hb, hbs, rfl⟩ := List.forall₂_cons_left_iff.mp h
      exact ⟨b, hb, bind_eq_ok.mpr ⟨bs', ih.mpr hbs, rfl⟩⟩

theorem exists_forall₂_iff {α β : Type} {R : α → β → Prop} {as : List α} :
    (∃ bs, List.Forall₂ R as bs) ↔ ∀ a ∈ as, ∃ b, R a b := by
  induction as with
  | nil => simp
  | cons a as ih =>
    rw [List.forall_mem_cons, ← ih]
    simp only [List.forall₂_cons_left_iff]
    constructor
    · rintro ⟨_, b, bs, hb, hbs, rfl⟩
      exact ⟨⟨b, hb⟩, bs, hbs⟩
    · rintro ⟨⟨b, hb⟩, bs, hbs⟩
      exact ⟨_, b, bs, hb, hbs, rfl⟩

namespace Console

variable {K : Console} {explain : Bool} {issues : List Issue}

def ShowsRow (K : Console) (explain : Bool) (i : Issue) (row : List String) : Prop :=
  ∃ id, K.shown i.id = .ok id ∧
    row = [id, toString i.occurrence.line, (Terminal.description explain i).text,
      StyledText.clean i.occurrence.snippet]

theorem mapM_row_eq_ok_iff {i : Issue} {row : List String} :
    (Terminal.row explain i).mapM K.cell = .ok row ↔ K.ShowsRow explain i row := by
  have hline : K.shown (toString i.occurrence.line) = .ok (toString i.occurrence.line) :=
    K.shown_simple _ (Terminal.isSimple_toString _)
  rw [mapM_eq_ok_iff, ShowsRow]
  simp only [Terminal.row, List.forall₂_cons_left_iff, List.forall₂_nil_left_iff, cell, hline,
    Except.ok.injEq]
  constructor
  · rintro ⟨id, _, hid, ⟨_, _, rfl, ⟨_, _, rfl, ⟨_, _, rfl, rfl, rfl⟩, rfl⟩, rfl⟩, rfl⟩
    exact ⟨id, hid, rfl⟩
  · rintro ⟨id, hid, rfl⟩
    exact ⟨id, _, hid, ⟨_, _, rfl, ⟨_, _, rfl, ⟨_, _, rfl, rfl, rfl⟩, rfl⟩, rfl⟩, rfl⟩

theorem table_groupTable_eq_ok_iff {g : String × List Issue} {t : ShownTable} :
    K.table (Terminal.groupTable explain g) = .ok t ↔
      ∃ rows, List.Forall₂ (K.ShowsRow explain) g.2 rows ∧
        t = { title := (Terminal.pill g.1).text
              headers := ["Rule", "Line", "Issue", "Snippet"], rows } := by
  have hheaders : (Terminal.groupTable explain g).columns.mapM (fun c => K.shown c.header) =
      .ok ["Rule", "Line", "Issue", "Snippet"] := by
    rw [mapM_eq_ok_iff]
    refine .cons (K.shown_simple _ (by decide)) (.cons (K.shown_simple _ (by decide))
      (.cons (K.shown_simple _ (by decide)) (.cons (K.shown_simple _ (by decide)) .nil)))
  have hrows (rows : List (List String)) :
      ((Terminal.groupTable explain g).rows.mapM fun row => row.mapM K.cell) = .ok rows ↔
        List.Forall₂ (K.ShowsRow explain) g.2 rows := by
    rw [mapM_eq_ok_iff, Terminal.groupTable, List.forall₂_map_left_iff]
    simp only [mapM_row_eq_ok_iff]
  rw [table,
    show K.cell (Terminal.groupTable explain g).title = .ok (Terminal.pill g.1).text from rfl,
    hheaders]
  simp only [bind_eq_ok, hrows, Except.ok.injEq, pure, Except.pure, exists_eq_left']
  exact exists_congr fun rows => and_congr_right fun _ => eq_comm

theorem exists_showsRow_iff {i : Issue} :
    (∃ row, K.ShowsRow explain i row) ↔ ∃ id, K.shown i.id = .ok id :=
  ⟨fun ⟨_, id, hid, _⟩ => ⟨id, hid⟩, fun ⟨id, hid⟩ => ⟨_, id, hid, rfl⟩⟩

theorem exists_table_iff {g : String × List Issue} :
    (∃ t, K.table (Terminal.groupTable explain g) = .ok t) ↔
      ∀ i ∈ g.2, ∃ id, K.shown i.id = .ok id := by
  calc (∃ t, K.table (Terminal.groupTable explain g) = .ok t)
      ↔ ∃ rows, List.Forall₂ (K.ShowsRow explain) g.2 rows := by
        simp only [table_groupTable_eq_ok_iff]
        exact ⟨fun ⟨_, rows, hrows, _⟩ => ⟨rows, hrows⟩, fun ⟨rows, hrows⟩ => ⟨_, rows, hrows, rfl⟩⟩
    _ ↔ ∀ i ∈ g.2, ∃ id, K.shown i.id = .ok id := by
        simp only [exists_forall₂_iff, exists_showsRow_iff]

theorem forall₂_rows {groups : List (String × List Issue)} {ts : List ShownTable}
    (h : (groups.map (Terminal.groupTable explain)).mapM K.table = .ok ts) :
    List.Forall₂ (K.ShowsRow explain) (groups.flatMap Prod.snd) (ts.flatMap ShownTable.rows) := by
  rw [mapM_eq_ok_iff, List.forall₂_map_left_iff] at h
  induction h with
  | nil => exact .nil
  | cons hfirst _ ih =>
    obtain ⟨rows, hrows, rfl⟩ := table_groupTable_eq_ok_iff.mp hfirst
    exact List.rel_append hrows ih

theorem takes_summary (K : Console) (r : Report) (source : String) :
    K.Takes (Terminal.summary r source) := by
  simp only [Terminal.summary, Takes, List.forall_mem_cons]
  exact ⟨refusal?_empty, refusal?_notice _, refusal?_notice _, refusal?_notice _, takes_nil⟩

theorem takes_groups_iff {groups : List (String × List Issue)} :
    K.Takes (groups.flatMap fun g => [.line "", .table (Terminal.groupTable explain g)]) ↔
      ∀ i ∈ groups.flatMap Prod.snd, ∃ id, K.shown i.id = .ok id := by
  induction groups with
  | nil => simp [Takes]
  | cons g groups ih =>
    have htable : K.Takes [.line "", .table (Terminal.groupTable explain g)] ↔
        ∀ i ∈ g.2, ∃ id, K.shown i.id = .ok id := by
      simp only [Takes, List.forall_mem_cons, refusal?_empty, true_and]
      rw [refusal?, Fault.ofResult?_eq_none_iff, exists_table_iff,
        and_iff_left (List.forall_mem_nil _)]
    rw [List.flatMap_cons, List.flatMap_cons, takes_append, ih, htable, List.forall_mem_append]

/-- Printing the report of ranked issues gets to its end if all ids are taken. -/
theorem takes_printed_iff (stamp : String) (hnamed : Terminal.Named issues)
    (hsorted : issues.Pairwise fun a b => Issue.precedes a b = true) (o : TerminalOptions) :
    K.Takes (Report.printed ⟨stamp, .found issues⟩ o) ↔
      ∀ i ∈ issues, ∃ id, K.shown i.id = .ok id := by
  cases issues with
  | nil =>
    refine iff_of_true ?_ (List.forall_mem_nil _)
    simp only [Report.printed, Takes, List.forall_mem_cons]
    exact ⟨refusal?_empty, refusal?_notice _, takes_nil⟩
  | cons i is =>
    have hsummary : K.Takes (if o.showSummary then
        Terminal.summary ⟨stamp, .found (i :: is)⟩ o.source else []) := by
      split
      · exact takes_summary K _ _
      · exact takes_nil
    rw [Report.printed, takes_append, and_iff_left hsummary, takes_groups_iff,
      Terminal.flatMap_groups hnamed hsorted]

theorem exists_tables_printed (stamp : String) (hnamed : Terminal.Named issues)
    (hsorted : issues.Pairwise fun a b => Issue.precedes a b = true) (o : TerminalOptions)
    (h : ∀ i ∈ issues, ∃ id, K.shown i.id = .ok id) :
    ∃ ts, (Terminal.tablesOf (Report.printed ⟨stamp, .found issues⟩ o)).mapM K.table = .ok ts := by
  simp only [mapM_eq_ok_iff, exists_forall₂_iff, Terminal.tablesOf_printed, List.forall_mem_map,
    exists_table_iff]
  rw [← Terminal.flatMap_groups hnamed hsorted] at h
  exact fun g hg i hi => h i (List.mem_flatMap.mpr ⟨g, hg, hi⟩)

theorem forall₂_rows_printed {stamp : String} (hnamed : Terminal.Named issues)
    (hsorted : issues.Pairwise fun a b => Issue.precedes a b = true) {o : TerminalOptions}
    {ts : List ShownTable}
    (h : (Terminal.tablesOf (Report.printed ⟨stamp, .found issues⟩ o)).mapM K.table = .ok ts) :
    List.Forall₂ (K.ShowsRow o.explain) issues (ts.flatMap ShownTable.rows) := by
  rw [Terminal.tablesOf_printed] at h
  exact Terminal.flatMap_groups hnamed hsorted ▸ forall₂_rows h

end Console

theorem Registry.named_issues (g : Registry) (t : Array Char) : Terminal.Named (g.issues t) := by
  intro i hi
  obtain ⟨l, hl⟩ := ofName?_severity_of_mem_rawIssues (Issue.mem_rank.mp hi)
  have hname := List.find?_some hl
  exact ⟨l, (beq_iff_eq.mp hname).symm⟩

theorem Console.takes_printed_analyze_iff (K : Console) (g : Registry) (now : Moment)
    (code : String) (o : TerminalOptions) :
    K.Takes ((g.analyze now (.text code)).1.printed o) ↔
      ∀ i ∈ g.issues code.toList.toArray, ∃ id, K.shown i.id = .ok id :=
  takes_printed_iff now.stamp (g.named_issues _) (Issue.pairwise_rank _) o

end ReactLint
