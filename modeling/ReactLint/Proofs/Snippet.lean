import Mathlib.Data.List.TakeWhile
import ReactLint.Proofs.Analysis.Translation
import ReactLint.Proofs.Analysis.Contents
import ReactLint.Proofs.Lines
import ReactLint.Proofs.Matching.Lead
import ReactLint.Proofs.Matching.Reach

/-!
# Where a snippet stands

The start of an occurrence is that of the match, and its end is counted from there by the characters
of the snippet, which is the matched text without the blanks at its ends. So the range of an
occurrence holds the snippet exactly if the match begins with no blank or is blank altogether. The
matches of the catalog all begin with no blank: their ranges hold what they report, on the line that
they report.
-/

namespace ReactLint

namespace Text

variable {cs bs : List Char}

theorem stops_isBlank_dropWhile (cs : List Char) :
    cs.dropWhile isBlank = [] ∨ Stops isBlank (cs.dropWhile isBlank) := by
  cases h : cs.dropWhile isBlank with
  | nil => exact .inl rfl
  | cons c rest =>
    have hhead := List.head?_dropWhile_not isBlank cs
    simp only [h, List.head?_cons] at hhead
    exact .inr ⟨c, rest, rfl, by simpa using hhead⟩

theorem dropWhile_of_stops {q : Char → Bool} (h : Stops q cs) : cs.dropWhile q = cs := by
  obtain ⟨c, rest, rfl, hc⟩ := h
  simp [hc]

theorem trim_prefix (cs : List Char) : trim cs <+: cs.dropWhile isBlank := by
  have hsuffix := List.dropWhile_suffix isBlank (l := (cs.dropWhile isBlank).reverse)
  simpa [trim] using List.reverse_prefix.mpr hsuffix

theorem trim_append (hfirst : Stops isBlank cs) (hlast : Stops isBlank cs.reverse)
    (hbs : ∀ b ∈ bs, isBlank b = true) : trim (cs ++ bs) = cs := by
  have hback : (bs.reverse ++ cs.reverse).dropWhile isBlank = cs.reverse := by
    rw [List.dropWhile_append_of_pos (by simpa using hbs), dropWhile_of_stops hlast]
  rw [trim, dropWhile_of_stops hfirst.append, List.reverse_append, hback, List.reverse_reverse]

theorem trim_of_stops (hfirst : Stops isBlank cs) (hlast : Stops isBlank cs.reverse) :
    trim cs = cs :=
  trim_eq_self hfirst.head? (by simpa using hlast.head?)

theorem trim_eq_nil_or_stops (cs : List Char) : trim cs = [] ∨ Stops isBlank (trim cs) := by
  rcases stops_isBlank_dropWhile cs with hnil | ⟨c, rest, hdrop, hc⟩
  · exact .inl (List.prefix_nil.mp (hnil ▸ trim_prefix cs))
  · have hprefix := trim_prefix cs
    rw [hdrop] at hprefix
    cases htrim : trim cs with
    | nil => exact .inl rfl
    | cons a as =>
      rw [htrim, List.cons_prefix_cons] at hprefix
      exact .inr ⟨a, as, rfl, hprefix.1 ▸ hc⟩

theorem trim_ne_nil (h : Stops isBlank cs) : trim cs ≠ [] := by
  obtain ⟨c, rest, rfl, hc⟩ := h
  rw [trim, dropWhile_of_stops ⟨c, rest, rfl, hc⟩, ne_eq, List.reverse_eq_nil_iff,
    List.dropWhile_eq_nil_iff]
  intro hall
  rw [hall c (by simp)] at hc
  cases hc

/-- As many characters as the trimmed text has, taken from the front, are the trimmed text only if
there is no blank in front of it. -/
theorem take_length_trim_iff :
    cs.take (trim cs).length = trim cs ↔ trim cs = [] ∨ Stops isBlank cs := by
  constructor
  · intro htake
    refine (trim_eq_nil_or_stops cs).imp_right ?_
    rintro ⟨c, rest, htrim, hc⟩
    rw [htrim] at htake
    obtain ⟨more, hcs⟩ := List.take_prefix (c :: rest).length cs
    rw [htake] at hcs
    exact ⟨c, rest ++ more, hcs.symm, hc⟩
  · rintro (hnil | hstops)
    · simp [hnil]
    · have hprefix := trim_prefix cs
      rw [dropWhile_of_stops hstops] at hprefix
      exact (List.prefix_iff_eq_take.mp hprefix).symm

end Text

theorem length_slice {t : Array Char} {start stop : Nat} (h : stop ≤ t.size) :
    (slice t start stop).length = stop - start := by
  rw [slice, Array.length_toList, Array.size_extract, Nat.min_eq_left h]

namespace Occurrence

variable {t : Array Char} {m : Pattern.Match}

theorem slice_ofMatch (h : m.start ≤ m.stop) (hsize : m.stop ≤ t.size) :
    slice t (ofMatch t m).start.toNat (ofMatch t m).stop.toNat =
      (slice t m.start m.stop).take (Text.trim (slice t m.start m.stop)).length := by
  have hle := Text.trim_length_le (slice t m.start m.stop)
  have hlen : (slice t m.start m.stop).length = m.stop - m.start := by
    simp only [slice, Array.length_toList, Array.size_extract]
    omega
  have hstop : (ofMatch t m).stop.toNat =
      m.start + (Text.trim (slice t m.start m.stop)).length := rfl
  have hstart : (ofMatch t m).start.toNat = m.start := rfl
  rw [hstop, hstart]
  simp only [slice_eq_take_drop] at hle hlen ⊢
  rw [List.take_take, Nat.add_sub_cancel_left, Nat.min_eq_left (by omega)]

/-- The range of an occurrence holds its snippet exactly if the snippet is empty or the match begins
with no blank. -/
theorem slice_ofMatch_eq_iff (h : m.start ≤ m.stop) (hsize : m.stop ≤ t.size) :
    slice t (ofMatch t m).start.toNat (ofMatch t m).stop.toNat = (ofMatch t m).snippet.toList ↔
      (ofMatch t m).snippet = "" ∨ Stops Text.isBlank (slice t m.start m.stop) := by
  have hsnippet : (ofMatch t m).snippet = String.ofList (Text.trim (slice t m.start m.stop)) := rfl
  rw [slice_ofMatch h hsize, hsnippet, String.toList_ofList, Text.take_length_trim_iff,
    String.ofList_eq_empty_iff]

/-- The range of an occurrence lies in the text and holds its snippet, which is not empty; and its
line is the line of the text in which the first character of the snippet stands. -/
structure Locates (o : Occurrence) (code : List Char) : Prop where
  start_nonneg : 0 ≤ o.start
  start_lt : o.start < o.stop
  stop_le : o.stop ≤ code.length
  slice_eq : slice code.toArray o.start.toNat o.stop.toNat = o.snippet.toList
  nonempty : o.snippet ≠ ""
  line_eq : ∃ (k : Nat) (row : List Char) (column : Nat), o.line = k + 1 ∧
    (Text.lines code)[k]? = some row ∧ o.start = Text.lineStart (Text.lines code) k + column ∧
    column < row.length ∧ row[column]? = o.snippet.toList.head?

theorem locates_ofMatch {code : List Char} (h : m.start ≤ m.stop) (hsize : m.stop ≤ code.length)
    (hvisible : Stops Text.isBlank (slice code.toArray m.start m.stop)) :
    (ofMatch code.toArray m).Locates code := by
  have hslice := (slice_ofMatch_eq_iff h hsize).mpr (.inr hvisible)
  have htrim := Text.trim_ne_nil hvisible
  have htake := Text.take_length_trim_iff.mpr (.inr hvisible)
  have hstop := stop_ofMatch_le code.toArray h
  obtain ⟨c, rest, hfirst, hc⟩ := hvisible
  have hsnippet : (ofMatch code.toArray m).snippet.toList =
      Text.trim (slice code.toArray m.start m.stop) := String.toList_ofList
  have hlength := List.length_pos_iff.mpr htrim
  -- the matched text and the snippet begin with the character at the start of the match
  have hhead : (ofMatch code.toArray m).snippet.toList.head? = some c := by
    rw [hsnippet, ← htake, List.head?_take, if_neg (Nat.ne_of_gt hlength), hfirst, List.head?_cons]
  have hdrop : ∃ more, code.drop m.start = c :: more := by
    have hprefix : slice code.toArray m.start m.stop <+: code.drop m.start := by
      rw [slice_eq_take_drop]
      exact List.take_prefix _ _
    rw [hfirst] at hprefix
    obtain ⟨more, hmore⟩ := hprefix
    exact ⟨rest ++ more, hmore.symm⟩
  refine ⟨Int.natCast_nonneg _, ?_, by omega, hslice, ?_, ?_⟩
  · simp only [ofMatch, onLine]
    omega
  · rw [ne_eq, ← String.toList_eq_nil_iff, hsnippet]
    exact htrim
  · obtain ⟨row, column, hrow, hstart, -, hrest⟩ :=
      Text.exists_column (Nat.le_trans h hsize)
    obtain ⟨more, hmore⟩ := hdrop
    have hnewline : (c != '\n') = true := by
      rw [bne_iff_ne]
      rintro rfl
      simp [Text.isBlank_newline] at hc
    rw [hmore, List.takeWhile_cons, if_pos hnewline] at hrest
    have hat : row[column]? = some c := by
      rw [← List.head?_drop, hrest, List.head?_cons]
    refine ⟨_, row, column, ?_, hrow, ?_, (List.getElem?_eq_some_iff.mp hat).1,
      by rw [hat, hhead]⟩
    · simp only [ofMatch, onLine, lineAt_eq, Int.natCast_add, Int.cast_ofNat_Int]
    · rw [start_ofMatch]
      omega

end Occurrence

/-! ## Matches that begin with no blank -/

namespace Lead

variable {l m : Lead}

theorem andThen_eq_visible :
    l.andThen m = .visible ↔ l = .visible ∨ l = .spared ∧ m = .visible := by
  cases l <;> cases m <;> decide

theorem join_eq_visible : l.join m = .visible ↔ l = .visible ∧ m = .visible := by
  cases l <;> cases m <;> decide

end Lead

namespace Regex

variable {t : Array Char} {s s' : Cursor} {p : CharTest} {b : Bounds} {g : Greed} {body : Regex}

theorem lead_run_eq_visible (h : (Regex.run p b g).lead = .visible) : b.min ≠ 0 := by
  intro hmin
  simp only [lead, hmin, if_true] at h
  split at h <;> cases h

theorem lead_loop_eq_visible (h : (Regex.loop body b g).lead = .visible) :
    b.min ≠ 0 ∧ body.lead = .visible := by
  simp only [lead] at h
  split at h
  · cases (Lead.join_eq_visible.mp h).2
  · rename_i hmin
    exact ⟨hmin, h⟩

theorem lt_of_reaches_run (hmin : b.min ≠ 0) (h : Reaches t (.run p b g) s s') :
    s.pos < s'.pos := by
  have hruns (h : Runs t p b s s') : s.pos < s'.pos := by
    obtain ⟨cs, -, -, hlen, -, rfl⟩ := h
    exact Nat.lt_add_of_pos_right (by omega)
  cases g with
  | greedy => exact hruns h
  | lazy => exact hruns h
  | possessive =>
    simp only [Reaches, execRun] at h
    split at h
    · cases h
    · cases h
      exact Nat.lt_of_lt_of_le (Nat.lt_add_of_pos_right (by omega)) (le_runEnd p _ _)

theorem lt_of_reaches_loop (hmin : b.min ≠ 0) (hs : s.pos ≤ t.size)
    (hbody : ∀ s', Reaches t body s s' → s.pos < s'.pos) (h : Reaches t (.loop body b g) s s') :
    s.pos < s'.pos := by
  obtain ⟨n, hn⟩ := Nat.exists_eq_succ_of_ne_zero hmin
  have hexplores := explores_exec (t := t) body
  have hrounds (h : ∃ m, Repeated (Reaches t body) b.min s m ∧
      Further (Reaches t body) (b.max.map (· - b.min)) none m s') : s.pos < s'.pos := by
    obtain ⟨m, hm, hfurther⟩ := h
    rw [hn] at hm
    obtain ⟨m₁, hfirst, hm⟩ := hm
    have hsize := (hexplores.bounds hs hfirst).2
    obtain ⟨hle, hsize⟩ := (explores_require hexplores n).bounds hsize hm
    have hlast := (hexplores.further_bounds hsize hfurther).1
    exact Nat.lt_of_lt_of_le (hbody m₁ hfirst) (Nat.le_trans hle hlast)
  cases g with
  | greedy => exact hrounds h
  | lazy => exact hrounds h
  | possessive =>
    simp only [Reaches, execLoop, hn, firstRounds] at h
    split at h
    · rename_i m hm
      obtain ⟨m₁, hfirst, hm⟩ := Option.bind_eq_some_iff.mp hm
      obtain ⟨-, hsize⟩ := hexplores.advances.first hs hfirst
      obtain ⟨hle, hsize⟩ := firstRounds_bounds hexplores.advances hsize hm
      cases h
      have hlast := (allRounds_bounds hexplores.advances (t.size - m.pos + 2)
        (b.max.map (· - (n + 1))) none hsize).1
      exact Nat.lt_of_lt_of_le (hbody m₁ (reaches_of_exec hs hfirst)) (Nat.le_trans hle hlast)
    · cases h

theorem lt_of_reaches {r : Regex} (hlead : r.lead = .visible) (hs : s.pos ≤ t.size)
    (h : Reaches t r s s') : s.pos < s'.pos := by
  induction r generalizing s s' with
  | empty => cases hlead
  | one p =>
    obtain ⟨c, -, -, rfl⟩ := h
    exact Nat.lt_succ_self _
  | seq a b iha ihb =>
    obtain ⟨m, hm, hs'⟩ := h
    obtain ⟨hle, hsize⟩ := (explores_exec a).bounds hs hm
    rcases Lead.andThen_eq_visible.mp hlead with ha | ⟨-, hb⟩
    · exact Nat.lt_of_lt_of_le (iha ha hs hm) ((explores_exec b).bounds hsize hs').1
    · exact Nat.lt_of_le_of_lt hle (ihb hb hsize hs')
  | alt a b iha ihb =>
    obtain ⟨ha, hb⟩ := Lead.join_eq_visible.mp hlead
    exact h.elim (iha ha hs) (ihb hb hs)
  | run p b g => exact lt_of_reaches_run (lead_run_eq_visible hlead) h
  | loop body b g ih =>
    obtain ⟨hmin, hbody⟩ := lead_loop_eq_visible hlead
    exact lt_of_reaches_loop hmin hs (fun m hm => ih hbody hs hm) h
  | group n body ih =>
    obtain ⟨m, hm, rfl⟩ := h
    have hlt : s.pos < m.pos := ih hlead hs hm
    exact hlt
  | atomic body ih => exact ih hlead hs (reaches_of_exec hs h)
  | ifGroup n yes no ihyes ihno =>
    obtain ⟨hyes, hno⟩ := Lead.join_eq_visible.mp hlead
    simp only [Reaches] at h
    split at h
    · exact ihyes hyes hs h
    · exact ihno hno hs h
  | backref n f => cases hlead
  | ahead negated body ih => cases hlead
  | behind negated width body ih => cases hlead
  | anchor a => cases hlead

end Regex

theorem Scan.Yields.stops_of_visible {s : Scan} {ms : List Pattern.Match} (h : s.Yields ms)
    (hlead : s.pattern.regex.lead = .visible) :
    ∀ m ∈ ms, Stops Text.isBlank (slice s.text m.start m.stop) := by
  intro m hm
  obtain ⟨-, hspan, hsize⟩ := h.bounds m hm
  have hat := h.matchAt m hm
  obtain ⟨c, hc, hvisible⟩ := Regex.visibleAt_of_matchAt hlead hat
  have hlt : m.start < m.stop :=
    Regex.lt_of_reaches hlead (Nat.le_trans hspan hsize) (Regex.reaches_of_matchAt (by omega) hat)
  have hhead : (slice s.text m.start m.stop).head? = some c := by
    rw [slice_eq_take_drop, List.head?_take, if_neg (by omega), List.head?_drop,
      Array.getElem?_toList, hc]
  exact ⟨c, _, List.eq_cons_of_mem_head? hhead, hvisible⟩

/-- Matches that end with no blank either are reported with their whole spans; so an offset that has
a match is covered by an occurrence. -/
theorem Rule.exists_covering {r : Rule} {t : Array Char} {p : Nat}
    (hlead : r.pattern.regex.lead = .visible)
    (hend : ∀ q c, q ≤ t.size → r.pattern.regex.matchAt t q = some c →
      Stops Text.isBlank (slice t q c.pos).reverse)
    (hp : p ≤ t.size) (hat : (r.pattern.regex.matchAt t p).isSome = true) :
    ∃ o ∈ r.occurrences t, o.start ≤ p ∧ p < o.stop := by
  have hyields := (r.scan t).yields_matchList
  obtain ⟨m, hm, hplace⟩ := hyields.complete p (Nat.zero_le p) hp hat
  obtain ⟨-, hspan, hend'⟩ := hyields.bounds m hm
  have hsize : m.stop ≤ t.size := hend'
  have hfirst : Stops Text.isBlank (slice t m.start m.stop) := hyields.stops_of_visible hlead m hm
  have hlast := hend m.start _ (Nat.le_trans hspan hsize) (hyields.matchAt m hm)
  have htrim := congrArg List.length (Text.trim_of_stops hfirst hlast)
  have hlen : (slice t m.start m.stop).length = m.stop - m.start := length_slice hsize
  have hpos : 0 < (slice t m.start m.stop).length := by
    obtain ⟨c, rest, hslice, -⟩ := hfirst
    exact hslice ▸ Nat.succ_pos rest.length
  refine ⟨.ofMatch t m, mem_occurrences.mpr ⟨m, hm, rfl⟩, ?_⟩
  simp only [Occurrence.ofMatch, Occurrence.onLine]
  omega

namespace Registry

/-- The range of an occurrence holds its snippet exactly if the snippet is empty or the matched text
begins with no blank. The rules of the catalog match no other texts, and never an empty one; so an
issue of such a rule locates its snippet in the text. -/
theorem analyze_locates :
    (∀ (r : Rule) (t : Array Char), ∃ ms : List Pattern.Match,
      (r.scan t).Yields ms ∧ r.occurrences t = ms.map (.ofMatch t) ∧
      ∀ m ∈ ms, let o := Occurrence.ofMatch t m
        0 ≤ o.start ∧ o.start ≤ o.stop ∧ o.stop ≤ t.size ∧
        (slice t o.start.toNat o.stop.toNat = o.snippet.toList ↔
          o.snippet = "" ∨ ∃ c rest, slice t m.start m.stop = c :: rest ∧
            Text.isBlank c = false)) ∧
    (∀ r ∈ Catalog.rules, ∀ t ms, (r.scan t).Yields ms →
      ∀ m ∈ ms, ∃ c rest, slice t m.start m.stop = c :: rest ∧ Text.isBlank c = false) ∧
    ∀ g : Registry, (∀ r ∈ g.enabled, r ∈ Catalog.rules) →
      ∀ now code, ∀ i ∈ (g.analyze now (.text code)).1.issues,
        i.occurrence.Locates code.toList := by
  refine ⟨fun r t => ?_,
    fun r hr t ms hms => hms.stops_of_visible (Catalog.isMovable_of_mem hr).visible,
    fun g hg now code i hi => ?_⟩
  · have hyields := (r.scan t).yields_matchList
    refine ⟨_, hyields, r.occurrences_eq t, fun m hm => ?_⟩
    have ho : Occurrence.ofMatch t m ∈ r.occurrences t := by
      rw [r.occurrences_eq t]
      exact List.mem_map_of_mem hm
    obtain ⟨hstart, hle, hstop⟩ := Rule.bounds_of_mem_occurrences ho
    obtain ⟨-, hspan, hsize⟩ := hyields.bounds m hm
    exact ⟨hstart, hle, hstop, Occurrence.slice_ofMatch_eq_iff hspan hsize⟩
  · obtain ⟨r, o, hfinds, rfl⟩ := mem_issues.mp hi
    have hr := hg r (finds_iff.mp hfinds).1
    have ho := hfinds.scanned
    have hyields := (r.scan code.toList.toArray).yields_matchList
    rw [Rule.occurrences_eq, List.mem_map] at ho
    obtain ⟨m, hm, rfl⟩ := ho
    obtain ⟨-, hspan, hsize⟩ := hyields.bounds m hm
    exact Occurrence.locates_ofMatch hspan hsize
      (hyields.stops_of_visible (Catalog.isMovable_of_mem hr).visible m hm)

theorem analyze_locates_console :
    let code := "\n console.log(1)"
    let o : Occurrence := ⟨2, "console.log(", 2, 14, some "log"⟩
    (∀ r ∈ Registry.default.enabled, r ∈ Catalog.rules) ∧
    Issue.ofRule Catalog.consoleCall o ∈ (Registry.default.analyze
      ⟨⟨2025, 1, 31⟩, ⟨12, 0, 0, 0⟩, some 0⟩ (.text code)).1.issues ∧
    o.Locates code.toList := by
  intro code o
  have hg : ∀ r ∈ Registry.default.enabled, r ∈ Catalog.rules := fun r hr =>
    (List.mem_filter.mp hr).1
  have hfound : Issue.ofRule Catalog.consoleCall o ∈ (Registry.default.analyze
      ⟨⟨2025, 1, 31⟩, ⟨12, 0, 0, 0⟩, some 0⟩ (.text code)).1.issues :=
    Issue.mem_rank.mpr (by decide +kernel)
  exact ⟨hg, hfound, analyze_locates.2.2 _ hg _ code _ hfound⟩

end Registry

end ReactLint
