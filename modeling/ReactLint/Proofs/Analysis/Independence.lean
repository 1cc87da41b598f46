import ReactLint.Proofs.Analysis.Contents

/-!
# Rules do not influence one another

What a rule reports depends on the text, on the facts about the text and on the allow-lists, and on
no other rule. So two registries with the same members in their allow-lists report the same issues,
in the same order, of the rules that are enabled in both.
-/

namespace ReactLint

def AllowLists.Agree (a b : AllowLists) : Prop := ∀ name s, a.allows name s = b.allows name s

theorem AllowLists.Agree.suppresses_eq {a b : AllowLists} (h : a.Agree b) (r : Rule)
    (capture : Option String) : a.suppresses r capture = b.suppresses r capture := by
  cases hlist : r.allowList with
  | none => simp only [suppresses, hlist]
  | some name =>
    cases capture with
    | none => simp only [suppresses, hlist]
    | some s => simp only [suppresses, hlist, h name s]

namespace Registry

variable {g g₁ g₂ : Registry} {t : Array Char}

theorem issuesOf_congr (h : g₁.lists.Agree g₂.lists) (facts : Facts) :
    g₁.issuesOf facts t = g₂.issuesOf facts t := by
  funext r
  simp only [issuesOf, AllowLists.keep, h.suppresses_eq]

theorem isEnabled_of_mem_issues {i : Issue} (h : i ∈ g.issues t) : g.isEnabled i.id = true := by
  obtain ⟨r, o, hfinds, rfl⟩ := mem_issues.mp h
  exact hfinds.enabled

theorem filter_issuesOf (p : String → Bool) (facts : Facts) (r : Rule) :
    ((g.issuesOf facts t r).filter fun i => p i.id) =
      if p r.id then g.issuesOf facts t r else [] := by
  split
  · rename_i hp
    refine List.filter_eq_self.mpr fun i hi => ?_
    rw [id_of_mem_issuesOf hi, hp]
  · rename_i hp
    refine List.filter_eq_nil_iff.mpr fun i hi => ?_
    rwa [id_of_mem_issuesOf hi]

/-- Issues are left out by their ids just as if the rules had not been run. -/
theorem filter_rawIssues (p : String → Bool) :
    ((g.rawIssues t).filter fun i => p i.id) =
      (g.enabled.filter fun r => p r.id).flatMap (g.issuesOf (Context.detect t) t) := by
  rw [rawIssues, List.filter_flatMap]
  induction g.enabled with
  | nil => rfl
  | cons r rs ih =>
    rw [List.flatMap_cons, ih, filter_issuesOf, List.filter_cons]
    by_cases hp : p r.id = true
    · rw [if_pos hp, if_pos hp, List.flatMap_cons]
    · rw [if_neg hp, if_neg hp, List.nil_append]

theorem eq_filter_of_sublist {rs qs : List Rule} (h : rs.Sublist qs)
    (hqs : (qs.map Rule.id).Nodup) :
    rs = qs.filter fun q => decide (q.id ∈ rs.map Rule.id) := by
  induction h with
  | slnil => rfl
  | @cons rs qs q h ih =>
    rw [List.map_cons, List.nodup_cons] at hqs
    have hq : q.id ∉ rs.map Rule.id := fun hmem => hqs.1 ((h.map Rule.id).subset hmem)
    rw [List.filter_cons_of_neg (by simpa using hq)]
    exact ih hqs.2
  | @cons_cons rs qs q h ih =>
    rw [List.map_cons, List.nodup_cons] at hqs
    rw [List.filter_cons_of_pos (by simp)]
    -- no other rule has the id of the first one, so it does not matter behind it
    have hrest : (qs.filter fun p => decide (p.id ∈ (q :: rs).map Rule.id)) =
        qs.filter fun p => decide (p.id ∈ rs.map Rule.id) := by
      refine List.filter_congr fun p hp => ?_
      have hne : p.id ≠ q.id := fun heq => hqs.1 (heq ▸ List.mem_map_of_mem hp)
      simp [hne]
    rw [hrest, ← ih hqs.2]

theorem enabled_eq_filter (hids : g₂.ids.Nodup) (h : g₁.enabled.Sublist g₂.enabled) :
    g₁.enabled = g₂.enabled.filter fun r => g₁.isEnabled r.id := by
  have hnodup : (g₂.enabled.map Rule.id).Nodup :=
    List.Nodup.sublist (List.filter_sublist.map Rule.id) hids
  refine (eq_filter_of_sublist h hnodup).trans (List.filter_congr fun r hr => ?_)
  rw [Bool.eq_iff_iff, decide_eq_true_iff, List.mem_map, isEnabled_iff_exists]

theorem issues_eq_filter (hids : g₂.ids.Nodup) (hlists : g₁.lists.Agree g₂.lists)
    (h : g₁.enabled.Sublist g₂.enabled) :
    g₁.issues t = (g₂.issues t).filter fun i => g₁.isEnabled i.id := by
  have hraw : g₁.rawIssues t = (g₂.rawIssues t).filter fun i => g₁.isEnabled i.id := by
    rw [filter_rawIssues, ← enabled_eq_filter hids h, rawIssues, issuesOf_congr hlists]
  rw [issues, issues, hraw, Issue.filter_rank]

theorem filter_issues_comm (hrules : g₁.rules = g₂.rules) (hlists : g₁.lists.Agree g₂.lists) :
    ((g₁.issues t).filter fun i => g₂.isEnabled i.id) =
      (g₂.issues t).filter fun i => g₁.isEnabled i.id := by
  have hboth : (g₁.enabled.filter fun r => g₂.isEnabled r.id) =
      g₂.enabled.filter fun r => g₁.isEnabled r.id := by
    rw [enabled, enabled, hrules, List.filter_filter, List.filter_filter]
    refine List.filter_congr fun r hr => ?_
    have hid : r.id ∈ g₂.ids := List.mem_map_of_mem hr
    have hid' : r.id ∈ g₁.ids := by rwa [ids, hrules]
    rw [Bool.eq_iff_iff, Bool.and_eq_true, Bool.and_eq_true, isEnabled_iff, isEnabled_iff]
    simp [hid, hid', and_comm]
  rw [issues, issues, Issue.filter_rank, Issue.filter_rank, filter_rawIssues, filter_rawIssues,
    issuesOf_congr hlists, hboth]

theorem enabled_sublist_register {r : Rule} (h : (g.register r).result = .ok ()) :
    g.enabled.Sublist (g.register r).registry.enabled := by
  rw [(register_eq_ok h).2, enabled, enabled, List.filter_append]
  exact List.sublist_append_left _ _

theorem nodup_ids_register (hids : g.ids.Nodup) {r : Rule} (h : (g.register r).result = .ok ()) :
    (g.register r).registry.ids.Nodup := by
  obtain ⟨hfresh, heq⟩ := register_eq_ok h
  rw [heq]
  exact nodup_ids_add hids hfresh

theorem isEnabled_iff_ne {r : Rule} (h : (g.register r).result = .ok ()) {id : String}
    (hid : (g.register r).registry.isEnabled id = true) :
    g.isEnabled id = true ↔ id ≠ r.id := by
  obtain ⟨hfresh, heq⟩ := register_eq_ok h
  rw [heq, isEnabled_iff, ids_add, List.mem_append, List.mem_singleton] at hid
  obtain ⟨hmem, hon⟩ := hid
  rw [isEnabled_iff]
  constructor
  · rintro ⟨hold, -⟩ rfl
    exact has_eq_false_iff.mp hfresh hold
  · exact fun hne => ⟨hmem.resolve_right hne, hon⟩

/-- A registry that enables a part of the rules of another reports what the other one reports less
the issues of the rules that it does not enable, in the same order. So a selection only removes or
brings back the issues of whole rules, and a new rule only adds its own. -/
theorem analyze_restrict (hg : g.Reachable) (now : Moment) (code : String) :
    let found (g : Registry) : List Issue := (g.analyze now (.text code)).1.issues
    (∀ (g₁ : Registry) (now₁ : Moment), g₁.lists.Agree g.lists → g₁.enabled.Sublist g.enabled →
      (g₁.analyze now₁ (.text code)).1.issues =
        (found g).filter fun i => g₁.isEnabled i.id) ∧
    (∀ enable disable,
      let g' := (g.select enable disable).registry
      ((found g').filter fun i => g.isEnabled i.id) =
          ((found g).filter fun i => g'.isEnabled i.id) ∧
        ((∀ id, g'.isEnabled id = true → g.isEnabled id = true) →
          found g' = (found g).filter fun i => g'.isEnabled i.id)) ∧
    ∀ r, (g.register r).result = .ok () →
      found g = (found (g.register r).registry).filter fun i => decide (i.id ≠ r.id) := by
  intro found
  have hsound := hg.sound
  refine ⟨fun g₁ now₁ hlists hsub => issues_eq_filter hsound.nodup hlists hsub,
    fun enable disable => ?_, fun r hr => ?_⟩
  · intro g'
    obtain ⟨off, hselect⟩ : ∃ off, g' = { g with disabled := off } := select_eq enable disable
    have hrules : g'.rules = g.rules := by rw [hselect]
    have hagree : g'.lists.Agree g.lists := fun name s => by rw [hselect]
    have hcomm : ((found g').filter fun i => g.isEnabled i.id) =
        (found g).filter fun i => g'.isEnabled i.id := filter_issues_comm hrules hagree
    refine ⟨hcomm, fun hfewer => ?_⟩
    rw [← hcomm]
    exact (List.filter_eq_self.mpr fun i hi => hfewer i.id (isEnabled_of_mem_issues hi)).symm
  · have hkept : found g =
        (found (g.register r).registry).filter fun i => g.isEnabled i.id := by
      refine issues_eq_filter (nodup_ids_register hsound.nodup hr) (fun name s => ?_)
        (enabled_sublist_register hr)
      rw [(register_eq_ok hr).2]
    rw [hkept]
    refine List.filter_congr fun i hi => ?_
    rw [Bool.eq_iff_iff, decide_eq_true_iff]
    exact isEnabled_iff_ne hr (isEnabled_of_mem_issues hi)

theorem analyze_restrict_console :
    let now : Moment := ⟨⟨2025, 1, 31⟩, ⟨12, 0, 0, 0⟩, some 0⟩
    let found (g : Registry) : List Issue := (g.analyze now (.text "console.log(1)")).1.issues
    let g₁ := (Registry.default.select (.list []) (.list [.text "E001"])).registry
    let r := { Catalog.consoleCall with id := "X001" }
    Registry.default.Reachable ∧
    (g₁.lists.Agree Registry.default.lists ∧ g₁.enabled.Sublist Registry.default.enabled ∧
      found g₁ = (found Registry.default).filter fun i => g₁.isEnabled i.id) ∧
    (Registry.default.register r).result = .ok () ∧
      found Registry.default =
        (found (Registry.default.register r).registry).filter fun i => decide (i.id ≠ "X001") := by
  intro now found g₁ r
  have hagree : g₁.lists.Agree Registry.default.lists := fun _ _ => rfl
  have hall : Registry.default.enabled = Registry.default.rules := by
    simp [enabled, Registry.default]
  have hsub : g₁.enabled.Sublist Registry.default.enabled := by
    rw [hall]
    exact List.filter_sublist
  have hnew : (Registry.default.register r).result = .ok () := rfl
  obtain ⟨hpart, -, hmore⟩ := analyze_restrict reachable_default now "console.log(1)"
  exact ⟨reachable_default, ⟨hagree, hsub, hpart g₁ now hagree hsub⟩, hnew, hmore r hnew⟩

end Registry

end ReactLint
