import Mathlib.Data.Prod.Lex
import ReactLint.Report.Basic

/-!
# Ranking issues

Ranking puts one issue after another into its place: behind the issues that must stand in front of
it and in front of all others, those of the same level and line included. So issues that agree in
both keep the order in which they were found, and leaving issues out before the ranking or after it
comes to the same. A list has only one ranking: a sorted list is determined by the issues of each
level and line, in their order.
-/

namespace ReactLint.Issue

theorem precedes_iff {a b : Issue} :
    precedes a b = true ↔ Severity.rankOf b.severity < Severity.rankOf a.severity ∨
      Severity.rankOf a.severity = Severity.rankOf b.severity ∧
        a.occurrence.line ≤ b.occurrence.line := by
  simp only [precedes, Bool.or_eq_true, Bool.and_eq_true, decide_eq_true_eq, beq_iff_eq]

theorem precedes_trans (a b c : Issue) (hab : precedes a b = true) (hbc : precedes b c = true) :
    precedes a c = true := by
  rw [precedes_iff] at hab hbc ⊢
  omega

theorem precedes_total (a b : Issue) : (precedes a b || precedes b a) = true := by
  rw [Bool.or_eq_true, precedes_iff, precedes_iff]
  omega

theorem precedes_of_not {a b : Issue} (h : precedes a b = false) : precedes b a = true := by
  have htotal := precedes_total a b
  simpa only [h, Bool.false_or] using htotal

theorem mem_rank {i : Issue} {is : List Issue} : i ∈ rank is ↔ i ∈ is :=
  List.mem_mergeSort

theorem pairwise_rank (is : List Issue) : (rank is).Pairwise fun a b => precedes a b = true :=
  List.pairwise_mergeSort precedes_trans precedes_total is

/-- One more issue in front takes its place among the others and moves none of them. -/
theorem rank_cons (i : Issue) (is : List Issue) :
    ∃ before after, rank (i :: is) = before ++ i :: after ∧ rank is = before ++ after ∧
      (∀ b ∈ before, precedes i b = false) ∧ ∀ a ∈ after, precedes i a = true := by
  obtain ⟨before, after, hcons, hrest, hbefore⟩ :=
    List.mergeSort_cons precedes_trans precedes_total i is
  have hsorted := pairwise_rank (i :: is)
  rw [rank, hcons, List.pairwise_append, List.pairwise_cons] at hsorted
  refine ⟨before, after, hcons, hrest, fun b hb => ?_, hsorted.2.1.1⟩
  simpa using hbefore b hb

theorem rank_stable {R : Issue → Issue → Prop} {is : List Issue} (h : is.Pairwise R) :
    (rank is).Pairwise fun a b => precedes a b = true ∧ (precedes b a = true → R a b) := by
  -- the first issue found is ranked last: it comes to stand in front of those it ties with
  induction is with
  | nil => simp [rank]
  | cons i is ih =>
    obtain ⟨hfirst, hrest⟩ := List.pairwise_cons.mp h
    obtain ⟨before, after, hcons, hsplit, hbefore, hafter⟩ := rank_cons i is
    have hranked := ih hrest
    rw [hsplit, List.pairwise_append] at hranked
    obtain ⟨hfront, hback, hcross⟩ := hranked
    have hmem : ∀ a ∈ after, a ∈ is := fun a ha =>
      mem_rank.mp (hsplit ▸ List.mem_append_right before ha)
    rw [hcons, List.pairwise_append, List.pairwise_cons]
    refine ⟨hfront, ⟨fun a ha => ⟨hafter a ha, fun _ => hfirst a (hmem a ha)⟩, hback⟩, ?_⟩
    intro b hb a ha
    rcases List.mem_cons.mp ha with rfl | ha
    · have hnot := hbefore b hb
      exact ⟨precedes_of_not hnot, fun hle => absurd hle (by simp [hnot])⟩
    · exact hcross b hb a ha

theorem append_split {p : Issue → Bool} {l₁ l₂ m₁ m₂ : List Issue} (h : l₁ ++ l₂ = m₁ ++ m₂)
    (hl₁ : ∀ i ∈ l₁, p i = false) (hl₂ : ∀ i ∈ l₂, p i = true)
    (hm₁ : ∀ i ∈ m₁, p i = false) (hm₂ : ∀ i ∈ m₂, p i = true) : l₁ = m₁ ∧ l₂ = m₂ := by
  have keep : ∀ {l₁ l₂ : List Issue}, (∀ i ∈ l₁, p i = false) → (∀ i ∈ l₂, p i = true) →
      (l₁ ++ l₂).filter p = l₂ := by
    intro l₁ l₂ h₁ h₂
    rw [List.filter_append, List.filter_eq_nil_iff.mpr (by simpa using h₁),
      List.filter_eq_self.mpr h₂, List.nil_append]
  have hback : l₂ = m₂ := by
    rw [← keep hl₁ hl₂, h, keep hm₁ hm₂]
  subst hback
  exact ⟨List.append_cancel_right h, rfl⟩

theorem filter_rank (p : Issue → Bool) (is : List Issue) :
    (rank is).filter p = rank (is.filter p) := by
  induction is with
  | nil => simp [rank]
  | cons i is ih =>
    obtain ⟨before, after, hcons, hsplit, hbefore, hafter⟩ := rank_cons i is
    rw [hsplit, List.filter_append] at ih
    by_cases hi : p i = true
    · obtain ⟨before', after', hcons', hsplit', hbefore', hafter'⟩ := rank_cons i (is.filter p)
      rw [hsplit'] at ih
      -- both rankings put the issue at the one place where its followers begin
      obtain ⟨hfront, hback⟩ := append_split (p := precedes i) ih
        (fun b hb => hbefore b (List.mem_filter.mp hb).1)
        (fun a ha => hafter a (List.mem_filter.mp ha).1) hbefore' hafter'
      rw [List.filter_cons_of_pos hi, hcons, hcons', List.filter_append,
        List.filter_cons_of_pos hi, hfront, hback]
    · rw [List.filter_cons_of_neg hi, hcons, List.filter_append, List.filter_cons_of_neg hi, ih]

/-! ## The one ranking of a list -/

/-- What issues are ranked by: the level downwards, then the line. -/
def rankKey (i : Issue) : ℤ ×ₗ ℤ := toLex (-Severity.rankOf i.severity, i.occurrence.line)

theorem precedes_iff_rankKey {a b : Issue} : precedes a b = true ↔ a.rankKey ≤ b.rankKey := by
  rw [precedes_iff, rankKey, rankKey, Prod.Lex.toLex_le_toLex]
  omega

/-- A ranking of a list holds the same issues, sorted by their keys, and those of one key in the
order in which the list has them. -/
structure IsRanking (is js : List Issue) : Prop where
  perm : js.Perm is
  sorted : js.Pairwise fun a b => a.rankKey ≤ b.rankKey
  stable : ∀ k, js.filter (fun i => i.rankKey = k) = is.filter fun i => i.rankKey = k

theorem rank_eq_self {is : List Issue} (h : is.Pairwise fun a b => a.rankKey ≤ b.rankKey) :
    rank is = is :=
  List.mergeSort_of_pairwise (h.imp precedes_iff_rankKey.mpr)

theorem sorted_rank (is : List Issue) : (rank is).Pairwise fun a b => a.rankKey ≤ b.rankKey :=
  (pairwise_rank is).imp precedes_iff_rankKey.mp

theorem filter_rankKey_rank (is : List Issue) (k : ℤ ×ₗ ℤ) :
    (rank is).filter (fun i => i.rankKey = k) = is.filter fun i => i.rankKey = k := by
  rw [filter_rank]
  refine rank_eq_self (List.pairwise_of_forall_mem_list fun a ha b hb => ?_)
  have hka : a.rankKey = k := by simpa using (List.mem_filter.mp ha).2
  have hkb : b.rankKey = k := by simpa using (List.mem_filter.mp hb).2
  rw [hka, hkb]

theorem isRanking_rank (is : List Issue) : IsRanking is (rank is) where
  perm := List.mergeSort_perm is precedes
  sorted := sorted_rank is
  stable := filter_rankKey_rank is

theorem mem_of_filter_rankKey {js ks : List Issue} {i : Issue} (h : ∀ k : ℤ ×ₗ ℤ,
    js.filter (fun i => i.rankKey = k) = ks.filter fun i => i.rankKey = k) (hi : i ∈ js) :
    i ∈ ks := by
  have hmem : i ∈ js.filter fun j => j.rankKey = i.rankKey := List.mem_filter.mpr ⟨hi, by simp⟩
  rw [h i.rankKey] at hmem
  exact (List.mem_filter.mp hmem).1

theorem eq_of_filter_rankKey {js ks : List Issue}
    (hjs : js.Pairwise fun a b => a.rankKey ≤ b.rankKey)
    (hks : ks.Pairwise fun a b => a.rankKey ≤ b.rankKey)
    (h : ∀ k : ℤ ×ₗ ℤ,
      js.filter (fun i => i.rankKey = k) = ks.filter fun i => i.rankKey = k) : js = ks := by
  induction js generalizing ks with
  | nil =>
    refine (List.eq_nil_iff_forall_not_mem.mpr fun i hi => ?_).symm
    exact List.not_mem_nil (mem_of_filter_rankKey (fun k => (h k).symm) hi)
  | cons a js ih =>
    have ha : a ∈ ks := mem_of_filter_rankKey h List.mem_cons_self
    cases ks with
    | nil => cases ha
    | cons b ks =>
      have hb : b ∈ a :: js := mem_of_filter_rankKey (fun k => (h k).symm) List.mem_cons_self
      -- each list has the head of the other somewhere, so that the two heads have one key
      have hab : a.rankKey ≤ b.rankKey := by
        rcases List.mem_cons.mp hb with rfl | hmem
        · exact le_rfl
        · exact (List.pairwise_cons.mp hjs).1 b hmem
      have hba : b.rankKey ≤ a.rankKey := by
        rcases List.mem_cons.mp ha with rfl | hmem
        · exact le_rfl
        · exact (List.pairwise_cons.mp hks).1 a hmem
      have hkey : a.rankKey = b.rankKey := le_antisymm hab hba
      have hhead := h b.rankKey
      rw [List.filter_cons_of_pos (by simpa using hkey), List.filter_cons_of_pos (by simp)] at hhead
      obtain ⟨rfl, -⟩ := List.cons.inj hhead
      refine congrArg (a :: ·) (ih hjs.of_cons hks.of_cons fun k => ?_)
      have htail := h k
      rw [List.filter_cons, List.filter_cons] at htail
      split at htail
      · exact (List.cons.inj htail).2
      · exact htail

theorem rankKey_of_unknown {i : Issue} (h : ∀ l : Severity, i.severity ≠ l.name) :
    i.rankKey = rankKey { i with severity := Severity.info.name } := by
  have hnone : Severity.ofName? i.severity = none :=
    Option.eq_none_iff_forall_ne_some.mpr fun l hl => h l (Severity.ofName?_eq_some_iff.mp hl)
  rw [rankKey, rankKey, Severity.rankOf, hnone, Severity.rankOf_name]
  rfl

/-- A list has one ranking, and `rank` gives it, where a severity that is none of the four counts as
the lowest of them. So ranking again changes nothing, and ranking what a test keeps is keeping what
passes the test of the ranked list. -/
theorem isRanking_iff (is : List Issue) :
    (∀ js, IsRanking is js ↔ js = rank is) ∧
      (∀ i ∈ is, (∀ l : Severity, i.severity ≠ l.name) →
        i.rankKey = rankKey { i with severity := Severity.info.name }) ∧
      rank (rank is) = rank is ∧ ∀ p : Issue → Bool, rank (is.filter p) = (rank is).filter p := by
  refine ⟨fun js => ⟨fun h => ?_, ?_⟩, fun i _ hunknown => rankKey_of_unknown hunknown,
    rank_eq_self (sorted_rank is), fun p => (filter_rank p is).symm⟩
  · refine eq_of_filter_rankKey h.sorted (sorted_rank is) fun k => ?_
    rw [h.stable k, filter_rankKey_rank]
  · rintro rfl
    exact isRanking_rank is

theorem isRanking_iff_unknown :
    let info : Issue := ⟨"A001", "", "", "", "", "Info", ⟨2, "", 0, 0, none⟩⟩
    let odd : Issue := { info with id := "B001", severity := "Odd" }
    let high : Issue := { info with severity := "High", occurrence := ⟨7, "", 9, 9, none⟩ }
    (odd ∈ [odd, info, high] ∧ ∀ l : Severity, odd.severity ≠ l.name) ∧
      odd.rankKey = info.rankKey ∧ rank [odd, info, high] = [high, odd, info] := by
  intro info odd high
  have hunknown : ∀ l : Severity, odd.severity ≠ l.name := by
    intro l
    cases l <;> decide
  obtain ⟨hranking, hlowest, -⟩ := isRanking_iff [odd, info, high]
  refine ⟨⟨List.mem_cons_self, hunknown⟩, hlowest odd List.mem_cons_self hunknown, ?_⟩
  refine ((hranking _).mp ⟨by decide, by decide, fun k => ?_⟩).symm
  by_cases hk : high.rankKey = k
  · subst hk
    decide
  · simp [List.filter_cons, hk]

end ReactLint.Issue
