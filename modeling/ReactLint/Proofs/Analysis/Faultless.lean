import ReactLint.Proofs.Registry.Invariant

/-!
# Analyses that raise no fault

An analysis looks up the gate of a rule among the facts and its allow-list among the lists of the
registry. Both look-ups refuse a list or a mapping as a name. After any history of operations on a
new registry neither is refused, and none of them falls back on a default.
-/

namespace ReactLint

namespace Rule

theorem extract_eq_ok {r : Rule} (h : ∀ name, r.gate = some name → name.isKey = true)
    (facts : Facts) (t : Array Char) : r.extract facts t = .ok (r.gatedOccurrences facts t) := by
  cases hgate : r.gate with
  | none => simp only [extract, hgate]
  | some name => simp only [extract, hgate, h name hgate, if_true]

end Rule

namespace AllowLists

theorem checkSuppresses_eq_ok {r : Rule} (h : ∀ name, r.allowList = some name → name.isKey = true)
    (lists : AllowLists) (capture : Option String) :
    lists.checkSuppresses r capture = .ok (lists.suppresses r capture) := by
  cases hlist : r.allowList with
  | none => simp only [checkSuppresses, suppresses, hlist]
  | some name =>
    cases capture with
    | none => simp only [checkSuppresses, suppresses, hlist]
    | some s => simp only [checkSuppresses, hlist, h name hlist, if_true]

theorem checkKeep_eq_ok {r : Rule} (h : ∀ name, r.allowList = some name → name.isKey = true)
    (lists : AllowLists) (os : List Occurrence) :
    lists.checkKeep r os = .ok (lists.keep r os) := by
  induction os with
  | nil => rfl
  | cons o os ih =>
    simp only [checkKeep, checkSuppresses_eq_ok h, ih, bind, Except.bind, pure, Except.pure, keep,
      List.filter_cons]
    cases lists.suppresses r o.capture with
    | true => simp
    | false => simp

end AllowLists

theorem mapM_eq_ok {ε α β : Type} {f : α → Except ε β} {h : α → β} {as : List α}
    (hf : ∀ a ∈ as, f a = .ok (h a)) : as.mapM f = .ok (as.map h) := by
  induction as with
  | nil => rfl
  | cons a as ih =>
    obtain ⟨hfirst, hrest⟩ := List.forall_mem_cons.mp hf
    rw [List.mapM_cons, hfirst, ih hrest]
    rfl

namespace Registry

variable {g : Registry}

theorem mem_rules_of_mem_enabled {r : Rule} (h : r ∈ g.enabled) : r ∈ g.rules :=
  (List.mem_filter.mp h).1

theorem Sound.checkIssuesOf_eq_ok (hg : g.Sound) {r : Rule} (hr : r ∈ g.rules) (facts : Facts)
    (t : Array Char) : g.checkIssuesOf facts t r = .ok (g.issuesOf facts t r) := by
  have hgate := Rule.extract_eq_ok (hg.gated r hr) facts t
  have hkeep := AllowLists.checkKeep_eq_ok (fun name hname => (hg.listed r hr name hname).1)
    g.lists (r.gatedOccurrences facts t)
  simp only [checkIssuesOf, hgate, hkeep, bind, Except.bind, pure, Except.pure, issuesOf]

theorem Sound.checkRawIssues_eq_ok (hg : g.Sound) (t : Array Char) :
    g.checkRawIssues t = .ok (g.rawIssues t) := by
  have hall := mapM_eq_ok fun r hr =>
    hg.checkIssuesOf_eq_ok (mem_rules_of_mem_enabled hr) (Context.detect t) t
  simp only [checkRawIssues, hall, bind, Except.bind, pure, Except.pure, rawIssues, List.flatMap]

theorem Sound.checkAnalyze_eq_ok (hg : g.Sound) (now : Moment) (code : Value) :
    g.checkAnalyze now code = .ok (g.analyze now code).1 := by
  cases code with
  | text s =>
    simp only [checkAnalyze, hg.checkRawIssues_eq_ok, bind, Except.bind, pure, Except.pure,
      analyze, analyzeText, issues]
  | _ => rfl

theorem ofName?_severity_of_mem_rawIssues {t : Array Char} {i : Issue} (h : i ∈ g.rawIssues t) :
    ∃ l, Severity.ofName? i.severity = some l := by
  simp only [rawIssues, issuesOf, List.mem_flatMap, List.mem_map] at h
  obtain ⟨r, -, o, -, rfl⟩ := h
  exact ⟨r.severity, Severity.ofName?_name r.severity⟩

/-- After any history of operations, failed ones among them, every rule stands under its own id, the
next operation only adds to the rules and to the allow-lists, the names that rules hold can be
looked up, and an analysis of any value ends with a report. -/
theorem performAll_invariant (lists : AllowLists) (ops : List Operation) :
    let g := performAll { lists := lists } ops
    (∀ r ∈ g.rules, g.get? r.id = some r) ∧ g.ids.Nodup ∧
    (∀ op, g.rules <+: (g.perform op).rules ∧ g.lists.Within (g.perform op).lists) ∧
    (∀ r ∈ g.rules, r.severity.name ∈ Severity.all.map Severity.name) ∧
    (∀ r ∈ g.rules, ∀ name, r.allowList = some name →
      (∃ members, g.lists.find? name = some members) ∧ 0 < r.pattern.groupCount) ∧
    (∀ id ∈ g.disabled, id ∈ g.ids) ∧
    (∀ t, ∀ r ∈ g.enabled, ∀ o ∈ r.gatedOccurrences (Context.detect t) t, ∀ name s,
      r.allowList = some name → o.capture = some s →
        ∃ members, g.lists.find? name = some members) ∧
    (∀ t, ∀ i ∈ g.rawIssues t, ∃ l, Severity.ofName? i.severity = some l) ∧
    ∀ now code, g.checkAnalyze now code = .ok (g.analyze now code).1 := by
  intro g
  have hg : g.Sound := sound_performAll lists ops
  refine ⟨fun r hr => hg.get?_id hr, hg.nodup, fun op => ?_, fun r _ => ?_,
    fun r hr name hname => ?_, hg.disabled, fun t r hr o _ name s hname _ => ?_,
    fun t i hi => ofName?_severity_of_mem_rawIssues hi, hg.checkAnalyze_eq_ok⟩
  · have hchanges := changes_perform g op
    exact ⟨hchanges.rules_prefix, hchanges.lists_within⟩
  · cases r.severity <;> decide
  · have hcapture := hg.captured r hr (by rw [hname]; rfl)
    exact ⟨(hg.listed r hr name hname).2, of_decide_eq_true hcapture⟩
  · exact (hg.listed r (mem_rules_of_mem_enabled hr) name hname).2

end Registry

end ReactLint
