import ReactLint.Proofs.Analysis.Contents
import ReactLint.Proofs.Lines
import ReactLint.Proofs.Stands

/-!
# The issues of one rule

A rule has one level, and the lines of a text grow along it. So the issues of one rule stand in a
report as its scan found them, in front of each other as in the text. If no match of the rule
begins inside another one, the scan finds a match at every offset that has one.
-/

namespace ReactLint

variable {t : Array Char}

/-! ## Matches that do not overlap -/

/-- No match begins strictly inside another one. -/
def Regex.KeepsApart (t : Array Char) (r : Regex) : Prop :=
  ∀ p c q, p ≤ t.size → matchAt t r p = some c → p < q → q < c.pos → matchAt t r q = none

theorem Scan.Yields.isSome_matchAt_iff {s : Scan} {ms : List Pattern.Match} (h : Yields s ms)
    (hapart : s.pattern.regex.KeepsApart s.text) {p : Nat} (hpos : s.pos ≤ p)
    (hsize : p ≤ s.text.size) :
    (s.pattern.regex.matchAt s.text p).isSome = true ↔ ∃ m ∈ ms, m.start = p := by
  constructor
  · intro hat
    obtain ⟨m, hm, hstart | ⟨hlt, hstop⟩⟩ := h.complete p hpos hsize hat
    · exact ⟨m, hm, hstart⟩
    · obtain ⟨-, hspan, hend⟩ := h.bounds m hm
      rw [hapart m.start _ p (by omega) (h.matchAt m hm) hlt hstop] at hat
      cases hat
  · rintro ⟨m, hm, rfl⟩
    rw [h.matchAt m hm]
    rfl

theorem Rule.exists_matchAt_of_mem {r : Rule} {o : Occurrence} (h : o ∈ r.occurrences t) :
    ∃ p c, p ≤ t.size ∧ r.pattern.regex.matchAt t p = some c ∧
      o = .ofMatch t ⟨p, c.pos, c.groups⟩ := by
  have hyields := (r.scan t).yields_matchList
  obtain ⟨m, hm, rfl⟩ := mem_occurrences.mp h
  obtain ⟨-, hspan, hsize⟩ := hyields.bounds m hm
  exact ⟨m.start, _, Nat.le_trans hspan hsize, hyields.matchAt m hm, rfl⟩

theorem Rule.mem_occurrences_iff {r : Rule} (hapart : r.pattern.regex.KeepsApart t)
    {o : Occurrence} : o ∈ r.occurrences t ↔ ∃ p c, p ≤ t.size ∧
      r.pattern.regex.matchAt t p = some c ∧ o = .ofMatch t ⟨p, c.pos, c.groups⟩ := by
  constructor
  · exact exists_matchAt_of_mem
  · rintro ⟨p, c, hsize, hat, rfl⟩
    have hyields := (r.scan t).yields_matchList
    obtain ⟨m, hm, rfl⟩ := (hyields.isSome_matchAt_iff hapart (Nat.zero_le p) hsize).mp
      (Option.isSome_iff_exists.mpr ⟨c, hat⟩)
    obtain rfl := Option.some.inj ((hyields.matchAt m hm).symm.trans hat)
    exact mem_occurrences.mpr ⟨m, hm, rfl⟩

theorem Occurrence.ofMatch_of_stands {p : Nat} {cs : List Char} (h : Stands t p cs)
    (groups : List (Nat × Nat × Nat)) :
    ofMatch t ⟨p, p + cs.length, groups⟩ =
      { line := lineAt t p
        snippet := String.ofList (Text.trim cs)
        start := p
        stop := p + (Text.trim cs).length
        capture := (groups.lookup 1).map fun (i, j) => String.ofList (slice t i j) } := by
  simp only [ofMatch, onLine, h.slice_eq]
  rfl

/-! ## Issues -/

namespace Registry

variable {g : Registry} {r : Rule}

def reportedFor (g : Registry) (t : Array Char) (id : String) : List Issue :=
  (g.issues t).filter (·.id == id)

theorem line_le_of_start_lt {facts : Facts} {a b : Issue} (ha : a ∈ g.issuesOf facts t r)
    (hb : b ∈ g.issuesOf facts t r) (h : a.occurrence.start < b.occurrence.start) :
    a.occurrence.line ≤ b.occurrence.line := by
  obtain ⟨o, ⟨-, ho⟩, -, rfl⟩ := mem_issuesOf.mp ha
  obtain ⟨o', ⟨-, ho'⟩, -, rfl⟩ := mem_issuesOf.mp hb
  exact Rule.line_le_of_start_le ho ho' (Int.le_of_lt h)

theorem pairwise_reportKey_issuesOf (facts : Facts) : (g.issuesOf facts t r).Pairwise
    fun a b => g.reportKey a < g.reportKey b := by
  refine (pairwise_issuesOf facts r).imp_of_mem fun {a b} ha hb hlt => ?_
  have hid : a.id = b.id := (id_of_mem_issuesOf ha).trans (id_of_mem_issuesOf hb).symm
  have hlevel : a.severity = b.severity := by
    obtain ⟨o, -, -, rfl⟩ := mem_issuesOf.mp ha
    obtain ⟨o', -, -, rfl⟩ := mem_issuesOf.mp hb
    rfl
  rw [reportKey_lt_iff, hlevel]
  rcases lt_or_eq_of_le (line_le_of_start_lt ha hb hlt) with hline | hline
  · exact .inr ⟨rfl, .inl hline⟩
  · exact .inr ⟨rfl, .inr ⟨hline, .inr ⟨by rw [hid], hlt⟩⟩⟩

/-- A report lists the issues of an enabled rule as the scan of the rule found them. -/
theorem Sound.reportedFor_id (hg : g.Sound) (hr : r ∈ g.enabled) :
    g.reportedFor t r.id = g.issuesOf (Context.detect t) t r := by
  refine eq_of_increasing (g := g) (hg.pairwise_issues.sublist List.filter_sublist)
    (pairwise_reportKey_issuesOf _) fun i => ?_
  rw [reportedFor, List.mem_filter, mem_issues, beq_iff_eq, mem_issuesOf]
  constructor
  · rintro ⟨⟨q, o, hfinds, rfl⟩, hid⟩
    obtain rfl := hg.eq_of_id_eq hfinds.stored (mem_enabled_iff.mp hr).1 hid
    exact ⟨o, (finds_iff.mp hfinds).2.1, (finds_iff.mp hfinds).2.2, rfl⟩
  · rintro ⟨o, hopen, hkept, rfl⟩
    exact ⟨⟨r, o, finds_iff.mpr ⟨hr, hopen, hkept⟩, rfl⟩, rfl⟩

theorem Sound.pairwise_reportedFor (hg : g.Sound) (hr : r ∈ g.enabled) :
    (g.reportedFor t r.id).Pairwise fun a b => a.occurrence.start < b.occurrence.start := by
  rw [hg.reportedFor_id hr]
  exact pairwise_issuesOf _ r

/-- The issues of an enabled rule without a gate whose matches keep apart: one for every match that
is not suppressed. -/
theorem Sound.mem_reportedFor (hg : g.Sound) (hr : r ∈ g.enabled) (hgate : r.gate = none)
    (hapart : r.pattern.regex.KeepsApart t) {i : Issue} :
    i ∈ g.reportedFor t r.id ↔ ∃ p c, p ≤ t.size ∧ r.pattern.regex.matchAt t p = some c ∧
      g.lists.suppresses r (Occurrence.ofMatch t ⟨p, c.pos, c.groups⟩).capture = false ∧
      i = Issue.ofRule r (.ofMatch t ⟨p, c.pos, c.groups⟩) := by
  have hopen : r.isOpen (Context.detect t) = true := by rw [Rule.isOpen, hgate]
  rw [hg.reportedFor_id hr, mem_issuesOf]
  simp only [hopen, true_and, Rule.mem_occurrences_iff hapart]
  constructor
  · rintro ⟨_, ⟨p, c, hsize, hat, rfl⟩, hkept, rfl⟩
    exact ⟨p, c, hsize, hat, hkept, rfl⟩
  · rintro ⟨p, c, hsize, hat, hkept, rfl⟩
    exact ⟨_, ⟨p, c, hsize, hat, rfl⟩, hkept, rfl⟩

end Registry

end ReactLint
