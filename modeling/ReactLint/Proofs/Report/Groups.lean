import Mathlib.Data.List.Induction
import ReactLint.Proofs.Report.Agreement

/-!
# Issues by severity

Each group of issues is picked out of the list by its severity. The same groups come about by going
through the list once: an issue is put behind the others of its severity, and where there is no
group for it yet, a new one is opened behind the others. Along this way no issue is lost and none is
doubled, so the groups are a partition of the list, whatever its severities are.
-/

namespace ReactLint.Terminal

def addIssue : List (String × List Issue) → Issue → List (String × List Issue)
  | [], i => [(i.severity, [i])]
  | (s, is) :: groups, i =>
    if s = i.severity then (s, is ++ [i]) :: groups else (s, is) :: addIssue groups i

def emptyGroups : List (String × List Issue) := Severity.all.map fun l => (l.name, [])

/-- The groups of all known severities and of those that come up, the empty ones included. -/
def allGroups (issues : List Issue) : List (String × List Issue) :=
  (groupKeys issues).map fun s => (s, issues.filter fun i => i.severity == s)

variable {issues : List Issue} {keys : List String} {i : Issue}

/-! ## The order of the groups -/

theorem pairwise_idxOf_cons {s : String} {l as : List String}
    (has : as.Pairwise fun a b => l.idxOf a < l.idxOf b) (hne : ∀ a ∈ as, a ≠ s) :
    as.Pairwise fun a b => (s :: l).idxOf a < (s :: l).idxOf b := by
  refine has.imp_of_mem fun {a b} ha hb hlt => ?_
  rw [List.idxOf_cons_ne l (hne a ha).symm, List.idxOf_cons_ne l (hne b hb).symm]
  exact Nat.succ_lt_succ hlt

theorem pairwise_firstIndex (p : String → Bool) (l : List String) :
    (l.filter p).eraseDups.Pairwise fun a b => l.idxOf a < l.idxOf b := by
  -- the test is general: leaving out the repetitions of the first text makes it narrower
  induction l generalizing p with
  | nil => simp
  | cons s l ih =>
    by_cases hs : p s = true
    · rw [List.filter_cons_of_pos hs, List.eraseDups_cons, List.filter_filter]
      have hne : ∀ a ∈ (l.filter fun a => !a == s && p a).eraseDups, a ≠ s := by
        intro a ha
        have htest := (List.mem_filter.mp (List.mem_eraseDups.mp ha)).2
        simp only [Bool.and_eq_true, Bool.not_eq_true', beq_eq_false_iff_ne] at htest
        exact htest.1
      refine List.pairwise_cons.mpr ⟨fun a ha => ?_, pairwise_idxOf_cons (ih _) hne⟩
      rw [List.idxOf_cons_self, List.idxOf_cons_ne l (hne a ha).symm]
      exact Nat.succ_pos _
    · rw [List.filter_cons_of_neg hs]
      refine pairwise_idxOf_cons (ih p) fun a ha => ?_
      rintro rfl
      exact hs (List.mem_filter.mp (List.mem_eraseDups.mp ha)).2

def isOther (s : String) : Bool := !(Severity.all.map Severity.name).contains s

theorem isOther_iff {s : String} : isOther s = true ↔ ∀ l : Severity, s ≠ l.name := by
  simp only [isOther, List.contains_eq_mem, Bool.not_eq_true', decide_eq_false_iff_not,
    Severity.mem_names, not_exists]

def otherKeys (issues : List Issue) : List String :=
  ((issues.map Issue.severity).filter isOther).eraseDups

theorem groupKeys_eq (issues : List Issue) :
    groupKeys issues = Severity.all.map Severity.name ++ otherKeys issues := rfl

theorem mem_otherKeys {s : String} :
    s ∈ otherKeys issues ↔ s ∈ issues.map Issue.severity ∧ ∀ l : Severity, s ≠ l.name := by
  rw [otherKeys, List.mem_eraseDups, List.mem_filter, isOther_iff]

theorem pairwise_otherKeys (issues : List Issue) : (otherKeys issues).Pairwise fun s t =>
    (issues.map Issue.severity).idxOf s < (issues.map Issue.severity).idxOf t :=
  pairwise_firstIndex _ _

theorem nodup_groupKeys (issues : List Issue) : (groupKeys issues).Nodup := by
  rw [groupKeys_eq, List.nodup_append]
  refine ⟨by decide, ?_, fun s hs t ht heq => ?_⟩
  · refine (pairwise_otherKeys issues).imp fun {s t} hlt heq => ?_
    rw [heq] at hlt
    exact lt_irrefl _ hlt
  · obtain ⟨l, -, hl⟩ := List.mem_map.mp hs
    exact (mem_otherKeys.mp ht).2 l (heq ▸ hl.symm)

theorem mem_groupKeys {s : String} :
    s ∈ groupKeys issues ↔ (∃ l : Severity, s = l.name) ∨ s ∈ issues.map Issue.severity := by
  rw [groupKeys_eq, List.mem_append, mem_otherKeys]
  rw [Severity.mem_names, ← not_exists]
  exact ⟨fun h => h.imp_right And.left, fun h => or_and_left.mpr ⟨h, em _⟩⟩

theorem eraseDups_snoc (l : List String) (s : String) :
    (l ++ [s]).eraseDups = if s ∈ l then l.eraseDups else l.eraseDups ++ [s] := by
  rw [List.eraseDups_append]
  by_cases hs : s ∈ l
  · simp [List.removeAll, hs]
  · simp [List.removeAll, hs, List.eraseDups_cons]

theorem groupKeys_snoc (issues : List Issue) (i : Issue) :
    groupKeys (issues ++ [i]) =
      if i.severity ∈ groupKeys issues then groupKeys issues
      else groupKeys issues ++ [i.severity] := by
  rw [groupKeys_eq, otherKeys, List.map_append, List.filter_append, List.map_singleton]
  by_cases hother : isOther i.severity = true
  · have hmem : i.severity ∈ groupKeys issues ↔
        i.severity ∈ (issues.map Issue.severity).filter isOther := by
      rw [mem_groupKeys, List.mem_filter]
      have hnone := isOther_iff.mp hother
      simp only [hother, and_true, or_iff_right_iff_imp, forall_exists_index]
      exact fun l hl => absurd hl (hnone l)
    rw [List.filter_cons_of_pos hother, List.filter_nil, eraseDups_snoc]
    simp only [hmem]
    split
    · rfl
    · rw [groupKeys_eq, List.append_assoc]
      rfl
  · have hmem : i.severity ∈ groupKeys issues := by
      rw [groupKeys_eq, List.mem_append]
      exact .inl (by simpa [isOther] using hother)
    rw [if_pos hmem, List.filter_cons_of_neg hother, List.filter_nil, List.append_nil]
    rfl

/-! ## Filling the groups -/

theorem addIssue_of_mem (hkeys : keys.Nodup) (hi : i.severity ∈ keys)
    (group : String → List Issue) :
    addIssue (keys.map fun s => (s, group s)) i =
      keys.map fun s => (s, if s = i.severity then group s ++ [i] else group s) := by
  induction keys with
  | nil => cases hi
  | cons s keys ih =>
    obtain ⟨hfresh, hrest⟩ := List.nodup_cons.mp hkeys
    by_cases hs : s = i.severity
    · have hothers : ∀ t ∈ keys, t ≠ i.severity := fun t ht heq => hfresh (hs ▸ heq ▸ ht)
      simp only [List.map_cons, addIssue, if_pos hs]
      refine congrArg (_ :: ·) (List.map_congr_left fun t ht => ?_)
      rw [if_neg (hothers t ht)]
    · have hmem : i.severity ∈ keys := (List.mem_cons.mp hi).resolve_left (Ne.symm hs)
      simp only [List.map_cons, addIssue, if_neg hs, ih hrest hmem]

theorem addIssue_of_not_mem (hi : i.severity ∉ keys) (group : String → List Issue) :
    addIssue (keys.map fun s => (s, group s)) i =
      (keys.map fun s => (s, group s)) ++ [(i.severity, [i])] := by
  induction keys with
  | nil => rfl
  | cons s keys ih =>
    obtain ⟨hne, hrest⟩ := List.ne_and_not_mem_of_not_mem_cons hi
    simp only [List.map_cons, addIssue, if_neg (Ne.symm hne), ih hrest, List.cons_append]

theorem addIssue_allGroups (issues : List Issue) (i : Issue) :
    addIssue (allGroups issues) i = allGroups (issues ++ [i]) := by
  rw [allGroups, allGroups, groupKeys_snoc]
  split
  · rename_i hmem
    rw [addIssue_of_mem (nodup_groupKeys issues) hmem]
    refine List.map_congr_left fun s _ => ?_
    by_cases hs : s = i.severity
    · simp [hs]
    · simp [hs, Ne.symm hs]
  · rename_i hnew
    have hnone : issues.filter (fun j => j.severity == i.severity) = [] := by
      refine List.filter_eq_nil_iff.mpr fun j hj heq => hnew ?_
      rw [← beq_iff_eq.mp heq]
      exact mem_groupKeys.mpr (.inr (List.mem_map_of_mem hj))
    rw [addIssue_of_not_mem hnew, List.map_append]
    congr 1
    · refine List.map_congr_left fun s hs => ?_
      have hne : i.severity ≠ s := fun heq => hnew (heq ▸ hs)
      simp [hne]
    · simp [hnone]

theorem foldl_addIssue (issues : List Issue) :
    issues.foldl addIssue emptyGroups = allGroups issues := by
  induction issues using List.reverseRecOn with
  | nil => rfl
  | append_singleton issues i ih =>
    rw [List.foldl_append, ih]
    exact addIssue_allGroups issues i

theorem perm_addIssue (groups : List (String × List Issue)) (i : Issue) :
    ((addIssue groups i).flatMap Prod.snd).Perm (groups.flatMap Prod.snd ++ [i]) := by
  induction groups with
  | nil => exact .refl _
  | cons g groups ih =>
    obtain ⟨s, is⟩ := g
    by_cases hs : s = i.severity
    · rw [addIssue, if_pos hs, List.flatMap_cons, List.flatMap_cons, List.append_assoc,
        List.append_assoc]
      exact List.perm_append_comm.append_left is
    · rw [addIssue, if_neg hs, List.flatMap_cons, List.flatMap_cons, List.append_assoc]
      exact ih.append_left is

theorem perm_foldl_addIssue (groups : List (String × List Issue)) (issues : List Issue) :
    ((issues.foldl addIssue groups).flatMap Prod.snd).Perm
      (groups.flatMap Prod.snd ++ issues) := by
  induction issues generalizing groups with
  | nil => rw [List.append_nil]; exact .refl _
  | cons i issues ih =>
    have hstep := (perm_addIssue groups i).append_right issues
    rw [List.append_assoc] at hstep
    exact (ih (addIssue groups i)).trans hstep

/-! ## The groups without the empty ones -/

theorem groupBySeverity_eq (issues : List Issue) :
    groupBySeverity issues = (issues.foldl addIssue emptyGroups).filter fun g => !g.2.isEmpty := by
  rw [foldl_addIssue]
  rfl

theorem not_isEmpty_filter_iff {s : String} :
    (!(issues.filter fun i => i.severity == s).isEmpty) = true ↔
      s ∈ issues.map Issue.severity := by
  simp [List.filter_eq_nil_iff]

theorem keys_groups (issues : List Issue) : (groupBySeverity issues).map Prod.fst =
    (Severity.all.map Severity.name).filter (fun s => s ∈ issues.map Issue.severity) ++
      otherKeys issues := by
  have hkeys : (groupBySeverity issues).map Prod.fst =
      (groupKeys issues).filter fun s => s ∈ issues.map Issue.severity := by
    rw [groupBySeverity, List.filter_map, List.map_map]
    refine (List.map_id _).trans (List.filter_congr fun s _ => ?_)
    rw [Bool.eq_iff_iff, decide_eq_true_iff]
    exact not_isEmpty_filter_iff
  rw [hkeys, groupKeys_eq, List.filter_append]
  refine congrArg (_ ++ ·) (List.filter_eq_self.mpr fun s hs => ?_)
  exact decide_eq_true (mem_otherKeys.mp hs).1

theorem perm_groups (issues : List Issue) :
    ((groupBySeverity issues).flatMap Prod.snd).Perm issues := by
  rw [groupBySeverity_eq, flatMap_filter_nonempty Prod.snd]
  exact perm_foldl_addIssue emptyGroups issues

/-- The groups are a partition of the issues: none is empty; the severities are those that occur,
the known ones first and from high to info, the others in the order of their first issues; and each
group holds the issues of its severity, in their order. They come about by putting one issue after
another into its group. One behind the other they hold each issue once, and issues that are ranked
and have known severities stand in them as they stood before. -/
theorem groupBySeverity_partition (issues : List Issue) :
    let groups := groupBySeverity issues
    let severities := issues.map Issue.severity
    groups = (issues.foldl addIssue emptyGroups).filter (fun g => !g.2.isEmpty) ∧
      (∀ g ∈ groups, g.2 ≠ []) ∧
      (∃ others,
        groups.map Prod.fst =
          ["High", "Medium", "Low", "Info"].filter (fun s => s ∈ severities) ++ others ∧
        (∀ s, s ∈ others ↔ s ∈ severities ∧ s ∉ ["High", "Medium", "Low", "Info"]) ∧
        others.Pairwise fun s t => severities.idxOf s < severities.idxOf t) ∧
      (∀ g ∈ groups, g.2 = issues.filter fun i => i.severity = g.1) ∧
      (groups.flatMap Prod.snd).Perm issues ∧
      (issues.Pairwise (fun a b => a.rankKey ≤ b.rankKey) →
        (∀ i ∈ issues, i.severity ∈ ["High", "Medium", "Low", "Info"]) →
        groups.flatMap Prod.snd = issues) := by
  intro groups severities
  have hknown {s : String} : s ∈ ["High", "Medium", "Low", "Info"] ↔ ∃ l : Severity, s = l.name :=
    Severity.mem_names
  refine ⟨groupBySeverity_eq issues, fun g hg => ?_, ⟨otherKeys issues, keys_groups issues,
    fun s => ?_, pairwise_otherKeys issues⟩, fun g hg => ?_, perm_groups issues,
    fun hsorted hnamed => ?_⟩
  · simpa using (List.mem_filter.mp hg).2
  · rw [mem_otherKeys, hknown, not_exists]
  · obtain ⟨s, -, rfl⟩ := List.mem_map.mp (List.mem_filter.mp hg).1
    exact List.filter_congr fun i _ => rfl
  · exact flatMap_groups (fun i hi => hknown.mp (hnamed i hi))
      (hsorted.imp Issue.precedes_iff_rankKey.mpr)

theorem groupBySeverity_partition_unknown :
    let high : Issue := ⟨"A001", "", "", "", "", "High", ⟨7, "", 9, 9, none⟩⟩
    let low : Issue := { high with severity := "Low" }
    let odd : Issue := { high with severity := "Odd" }
    (groupBySeverity [odd, low, high, odd] =
        [("High", [high]), ("Low", [low]), ("Odd", [odd, odd])] ∧
      ((groupBySeverity [odd, low, high, odd]).flatMap Prod.snd).Perm [odd, low, high, odd]) ∧
    ([high, low].Pairwise (fun a b => a.rankKey ≤ b.rankKey) ∧
      (∀ i ∈ [high, low], i.severity ∈ ["High", "Medium", "Low", "Info"]) ∧
      (groupBySeverity [high, low]).flatMap Prod.snd = [high, low]) := by
  intro high low odd
  obtain ⟨hfilled, -, -, -, hperm, -⟩ := groupBySeverity_partition [odd, low, high, odd]
  obtain ⟨-, -, -, -, -, hranked⟩ := groupBySeverity_partition [high, low]
  have hsorted : [high, low].Pairwise fun a b => a.rankKey ≤ b.rankKey := by decide
  have hknown : ∀ i ∈ [high, low], i.severity ∈ ["High", "Medium", "Low", "Info"] := by decide
  refine ⟨⟨?_, hperm⟩, hsorted, hknown, hranked hsorted hknown⟩
  rw [hfilled]
  decide

end ReactLint.Terminal
