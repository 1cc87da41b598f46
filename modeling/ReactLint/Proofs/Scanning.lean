import ReactLint.Occurrence
import ReactLint.Proofs.Matching

/-!
# A scan loses nothing and repeats nothing

A scan is followed step by step until there is no further match. It ends by itself after at most one
match more than the text has characters, the spans of its matches follow one another inside the
text, and an offset at which the pattern matches is either the start of a match or lies strictly
inside one.
-/

namespace ReactLint

namespace Scan

/-- The whole course of a scan: its matches one after another, up to the step that finds none. -/
inductive Yields : Scan → List Pattern.Match → Prop where
  | done {s : Scan} : s.next.1 = none → Yields s []
  | more {s s' : Scan} {m : Pattern.Match} {ms : List Pattern.Match} :
      s.next = (some m, s') → Yields s' ms → Yields s (m :: ms)

theorem next_eq_some {s s' : Scan} {m : Pattern.Match} (h : s.next = (some m, s')) :
    s.pattern.search s.text s.pos = some m ∧ s' = { s with pos := resume m } := by
  simp only [next] at h
  split at h
  · rename_i n hn
    cases h
    exact ⟨hn, rfl⟩
  · cases h

theorem search_eq_none_of_next {s : Scan} (h : s.next.1 = none) :
    s.pattern.search s.text s.pos = none := by
  simp only [next] at h
  split at h
  · cases h
  · assumption

theorem next_eq_none_of_size_lt {s : Scan} (h : s.text.size < s.pos) : s.next.1 = none := by
  have hnone : s.pattern.search s.text s.pos = none :=
    Pattern.search_eq_none_iff.mpr fun l hl hsize => by omega
  simp only [next, hnone]

theorem yields_matchesUpTo {n : Nat} {s : Scan} (h : s.text.size < s.pos + n) :
    Yields s (matchesUpTo n s) := by
  -- a bound that exceeds the offsets left does not cut the scan short
  induction n generalizing s with
  | zero => exact .done (next_eq_none_of_size_lt (by omega))
  | succ n ih =>
    simp only [matchesUpTo]
    split
    · rename_i m s' hnext
      obtain ⟨hsearch, rfl⟩ := next_eq_some hnext
      obtain ⟨hstart, -⟩ := Pattern.search_bounds hsearch
      have hresume := lt_resume m
      refine .more hnext (ih ?_)
      dsimp only
      omega
    · rename_i s' hnext
      exact .done (congrArg Prod.fst hnext)

theorem yields_matchList (s : Scan) : Yields s s.matchList :=
  yields_matchesUpTo (by omega)

theorem stop_le_resume {m : Pattern.Match} (h : m.start ≤ m.stop) : m.stop ≤ resume m := by
  unfold resume
  split <;> omega

theorem Yields.bounds {s : Scan} {ms : List Pattern.Match} (h : Yields s ms) :
    ∀ m ∈ ms, s.pos ≤ m.start ∧ m.start ≤ m.stop ∧ m.stop ≤ s.text.size := by
  induction h with
  | done => simp
  | @more s s' m ms hnext hrest ih =>
    obtain ⟨hsearch, rfl⟩ := next_eq_some hnext
    have hm := Pattern.search_bounds hsearch
    have hresume := lt_resume m
    intro n hn
    rcases List.mem_cons.mp hn with rfl | hn
    · exact hm
    · obtain ⟨hpos, hspan⟩ := ih n hn
      dsimp only at hpos
      exact ⟨by omega, hspan⟩

theorem Yields.matchAt {s : Scan} {ms : List Pattern.Match} (h : Yields s ms) :
    ∀ m ∈ ms, s.pattern.regex.matchAt s.text m.start = some ⟨m.stop, m.groups⟩ := by
  induction h with
  | done => simp
  | @more s s' m ms hnext hrest ih =>
    obtain ⟨hsearch, rfl⟩ := next_eq_some hnext
    intro n hn
    rcases List.mem_cons.mp hn with rfl | hn
    · exact (Pattern.search_eq_some_iff.mp hsearch).2.2.1
    · exact ih n hn

theorem Yields.pairwise {s : Scan} {ms : List Pattern.Match} (h : Yields s ms) :
    ms.Pairwise fun a b => a.start < b.start ∧ a.stop ≤ b.start := by
  induction h with
  | done => exact .nil
  | @more s s' m ms hnext hrest ih =>
    obtain ⟨hsearch, rfl⟩ := next_eq_some hnext
    obtain ⟨-, hspan, -⟩ := Pattern.search_bounds hsearch
    have hlt := lt_resume m
    have hstop := stop_le_resume hspan
    refine List.pairwise_cons.mpr ⟨fun n hn => ?_, ih⟩
    obtain ⟨hpos, -⟩ := hrest.bounds n hn
    dsimp only at hpos
    exact ⟨by omega, by omega⟩

theorem Yields.length_le {s : Scan} {ms : List Pattern.Match} (h : Yields s ms) :
    ms.length ≤ s.text.size + 1 - s.pos := by
  induction h with
  | done => simp
  | @more s s' m ms hnext hrest ih =>
    obtain ⟨hsearch, rfl⟩ := next_eq_some hnext
    obtain ⟨hpos, hspan, hsize⟩ := Pattern.search_bounds hsearch
    have hlt := lt_resume m
    simp only [List.length_cons] at ih ⊢
    omega

/-- No match is lost: an offset in front of the first match has none, an offset between a match and
the next cursor lies inside the match, and the rest is left to the rest of the scan. -/
theorem Yields.complete {s : Scan} {ms : List Pattern.Match} (h : Yields s ms) :
    ∀ p, s.pos ≤ p → p ≤ s.text.size → (s.pattern.regex.matchAt s.text p).isSome →
      ∃ m ∈ ms, m.start = p ∨ m.start < p ∧ p < m.stop := by
  induction h with
  | @done s hnone =>
    intro p hpos hsize hat
    have hsearch := Pattern.search_eq_none_iff.mp (search_eq_none_of_next hnone)
    rw [hsearch p hpos hsize] at hat
    cases hat
  | @more s s' m ms hnext hrest ih =>
    obtain ⟨hsearch, rfl⟩ := next_eq_some hnext
    obtain ⟨-, -, -, hfirst⟩ := Pattern.search_eq_some_iff.mp hsearch
    intro p hpos hsize hat
    rcases Nat.lt_trichotomy p m.start with hlt | rfl | hgt
    · rw [hfirst p hpos hlt] at hat
      cases hat
    · exact ⟨m, List.mem_cons_self, .inl rfl⟩
    · by_cases hcursor : resume m ≤ p
      · obtain ⟨n, hn, hcover⟩ := ih p hcursor hsize hat
        exact ⟨n, List.mem_cons_of_mem m hn, hcover⟩
      · have hinside : p < m.stop := by
          simp only [resume] at hcursor
          split at hcursor <;> omega
        exact ⟨m, List.mem_cons_self, .inr ⟨hgt, hinside⟩⟩

end Scan

namespace Occurrence

theorem start_ofMatch (t : Array Char) (m : Pattern.Match) : (ofMatch t m).start = m.start := rfl

theorem stop_ofMatch_le (t : Array Char) {m : Pattern.Match} (h : m.start ≤ m.stop) :
    (ofMatch t m).stop ≤ m.stop := by
  have htrim := Text.trim_length_le (slice t m.start m.stop)
  have hslice : (slice t m.start m.stop).length ≤ m.stop - m.start := by
    simp only [slice, Array.length_toList, Array.size_extract]
    omega
  simp only [ofMatch, onLine]
  omega

theorem start_le_stop_ofMatch (t : Array Char) (m : Pattern.Match) :
    (ofMatch t m).start ≤ (ofMatch t m).stop := by
  simp only [ofMatch, onLine]
  omega

end Occurrence

namespace Rule

def scan (r : Rule) (t : Array Char) : Scan := { pattern := r.pattern, text := t }

theorem occurrences_eq (r : Rule) (t : Array Char) :
    r.occurrences t = (r.scan t).matchList.map (.ofMatch t) :=
  r.occurrences_eq_map t

theorem mem_occurrences {r : Rule} {t : Array Char} {o : Occurrence} :
    o ∈ r.occurrences t ↔ ∃ m ∈ (r.scan t).matchList, .ofMatch t m = o := by
  rw [occurrences_eq, List.mem_map]

theorem length_occurrences_le (r : Rule) (t : Array Char) :
    (r.occurrences t).length ≤ t.size + 1 := by
  rw [occurrences_eq, List.length_map]
  exact (r.scan t).yields_matchList.length_le

theorem pairwise_start_occurrences (r : Rule) (t : Array Char) :
    (r.occurrences t).Pairwise fun a b => a.start < b.start := by
  rw [occurrences_eq, List.pairwise_map]
  exact (r.scan t).yields_matchList.pairwise.imp fun h => Int.ofNat_lt.mpr h.1

theorem pairwise_stop_occurrences (r : Rule) (t : Array Char) :
    (r.occurrences t).Pairwise fun a b => a.stop ≤ b.start := by
  have hyields := (r.scan t).yields_matchList
  rw [occurrences_eq, List.pairwise_map]
  refine hyields.pairwise.imp_of_mem fun {a b} ha hb h => ?_
  have hstop := Occurrence.stop_ofMatch_le t (hyields.bounds a ha).2.1
  rw [Occurrence.start_ofMatch]
  omega

theorem bounds_of_mem_occurrences {r : Rule} {t : Array Char} {o : Occurrence}
    (h : o ∈ r.occurrences t) : 0 ≤ o.start ∧ o.start ≤ o.stop ∧ o.stop ≤ t.size := by
  obtain ⟨m, hm, rfl⟩ := mem_occurrences.mp h
  obtain ⟨-, hspan, hsize⟩ := (r.scan t).yields_matchList.bounds m hm
  have hstop := Occurrence.stop_ofMatch_le t hspan
  have hend : m.stop ≤ t.size := hsize
  refine ⟨?_, Occurrence.start_le_stop_ofMatch t m, by omega⟩
  rw [Occurrence.start_ofMatch]
  omega

/-- The scan of a rule comes to an end by itself, with at most one match more than the text has
characters. The starts increase, the matched spans and the reported ranges follow one another inside
the text, and every offset at which the pattern matches is the start of an occurrence or lies
strictly inside the span of a match. -/
theorem occurrences_complete (r : Rule) (t : Array Char) :
    ∃ ms : List Pattern.Match,
      (r.scan t).Yields ms ∧ r.occurrences t = ms.map (.ofMatch t) ∧
      (r.occurrences t).length ≤ t.size + 1 ∧
      (r.occurrences t).Pairwise (fun a b => a.start < b.start) ∧
      (∀ m ∈ ms, r.pattern.regex.matchAt t m.start = some ⟨m.stop, m.groups⟩ ∧
        m.start ≤ m.stop ∧ m.stop ≤ t.size) ∧
      ms.Pairwise (fun a b => a.stop ≤ b.start) ∧
      (∀ o ∈ r.occurrences t, 0 ≤ o.start ∧ o.start ≤ o.stop ∧ o.stop ≤ t.size) ∧
      (r.occurrences t).Pairwise (fun a b => a.stop ≤ b.start) ∧
      ∀ p ≤ t.size, (r.pattern.regex.matchAt t p).isSome →
        (∃ o ∈ r.occurrences t, o.start = p) ∨ ∃ m ∈ ms, m.start < p ∧ p < m.stop := by
  have hyields := (r.scan t).yields_matchList
  refine ⟨(r.scan t).matchList, hyields, r.occurrences_eq t, r.length_occurrences_le t,
    r.pairwise_start_occurrences t, fun m hm => ⟨hyields.matchAt m hm, (hyields.bounds m hm).2⟩,
    hyields.pairwise.imp fun h => h.2, fun o ho => bounds_of_mem_occurrences ho,
    r.pairwise_stop_occurrences t, ?_⟩
  intro p hp hat
  obtain ⟨m, hm, hstart | hinside⟩ := hyields.complete p (Nat.zero_le p) hp hat
  · refine .inl ⟨.ofMatch t m, ?_, ?_⟩
    · rw [occurrences_eq]
      exact List.mem_map_of_mem hm
    · rw [Occurrence.start_ofMatch, hstart]
  · exact .inr ⟨m, hm, hinside⟩

end Rule

end ReactLint
