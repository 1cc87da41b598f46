import Mathlib.Data.List.Basic
import ReactLint.Catalog.Basic
import ReactLint.Proofs.Matching.Shift
import ReactLint.Proofs.Ranking
import ReactLint.Proofs.Scanning

/-!
# Blanks in front of a text

The expressions of the catalog look forward and begin with no blank. So blanks in front of a text
move the matches of every rule and change nothing else: not the facts about the text, not what is
suppressed, and not the order of the issues.
-/

namespace ReactLint

variable {w t : Array Char}

def Pattern.Match.shift (d : Nat) (m : Pattern.Match) : Pattern.Match :=
  ⟨d + m.start, d + m.stop, m.groups.map fun (n, i, j) => (n, d + i, d + j)⟩

/-- An expression whose matches are only moved by blanks in front of the text. -/
structure Regex.IsMovable (r : Regex) : Prop where
  forward : r.looksForward = true
  visible : r.lead = .visible

/-! ## Scans -/

namespace Scan

variable {s : Scan} {ms : List Pattern.Match}

def shift (w : Array Char) (s : Scan) : Scan :=
  { s with text := w ++ s.text, pos := w.size + s.pos }

theorem resume_shift (d : Nat) (m : Pattern.Match) : resume (m.shift d) = d + resume m := by
  simp only [resume, Pattern.Match.shift, Nat.add_lt_add_iff_left]
  split <;> rfl

theorem next_shift (hw : ∀ c ∈ w, Text.isBlank c = true)
    (hs : s.pattern.regex.looksForward = true) :
    (s.shift w).next = (s.next.1.map (.shift w.size), s.next.2.shift w) := by
  have hsearch : (s.shift w).pattern.search (s.shift w).text (s.shift w).pos =
      (s.pattern.search s.text s.pos).map (.shift w.size) := by
    simp only [Pattern.search, shift, Regex.search_shift hw hs, Option.map_map]
    rfl
  simp only [next, hsearch]
  cases s.pattern.search s.text s.pos with
  | some m =>
    simp only [Option.map_some, resume_shift]
    rfl
  | none =>
    simp only [Option.map_none, shift, Array.size_append, Nat.add_assoc]

theorem next_behind_blanks (hw : ∀ c ∈ w, Text.isBlank c = true) {p : Pattern}
    (hp : p.regex.lead = .visible) (t : Array Char) :
    ({ pattern := p, text := w ++ t } : Scan).next =
      ({ pattern := p, text := w ++ t, pos := w.size } : Scan).next := by
  simp only [next, Pattern.search, Regex.search_zero_shift hw hp]

theorem Yields.shift (hw : ∀ c ∈ w, Text.isBlank c = true) (h : Yields s ms)
    (hs : s.pattern.regex.looksForward = true) :
    Yields (s.shift w) (ms.map (.shift w.size)) := by
  induction h with
  | @done s hnone =>
    refine .done ?_
    rw [next_shift hw hs, hnone]
    rfl
  | @more s s' m ms hnext hrest ih =>
    have hstep : (s.shift w).next = (some (m.shift w.size), s'.shift w) := by
      rw [next_shift hw hs, hnext]
      rfl
    refine .more hstep (ih ?_)
    obtain ⟨-, rfl⟩ := next_eq_some hnext
    exact hs

theorem Yields.of_next_eq {q : Scan} (h : Yields s ms) (hnext : q.next = s.next) :
    Yields q ms := by
  cases h with
  | done hnone => exact .done (hnext ▸ hnone)
  | more hmore hrest => exact .more (hnext.trans hmore) hrest

theorem Yields.unique {ns : List Pattern.Match} (h : Yields s ms) (h' : Yields s ns) : ms = ns := by
  induction h generalizing ns with
  | done hnone =>
    cases h' with
    | done => rfl
    | more hnext => simp [hnext] at hnone
  | more hnext hrest ih =>
    cases h' with
    | done hnone => simp [hnext] at hnone
    | more hnext' hrest' =>
      rw [hnext] at hnext'
      cases hnext'
      rw [ih hrest']

end Scan

/-! ## Occurrences -/

def Occurrence.shift (lines chars : Nat) (o : Occurrence) : Occurrence :=
  { o with line := o.line + lines, start := o.start + chars, stop := o.stop + chars }

theorem slice_shift (w t : Array Char) (i j : Nat) :
    slice (w ++ t) (w.size + i) (w.size + j) = slice t i j := by
  simp [slice, Array.extract_append]

theorem lineAt_shift (w t : Array Char) (n : Nat) :
    lineAt (w ++ t) (w.size + n) = lineAt t n + w.count '\n' := by
  have hsplit : (w ++ t).extract 0 (w.size + n) = w ++ t.extract 0 n := by
    rw [Array.extract_append, Array.extract_eq_self_of_le (Nat.le_add_right _ _), Nat.zero_sub,
      Nat.add_sub_cancel_left]
  rw [lineAt, lineAt, hsplit, Array.count_append]
  omega

theorem Pattern.Match.group?_shift (d n : Nat) (m : Pattern.Match) :
    (m.shift d).group? n = (m.group? n).map fun (i, j) => (d + i, d + j) :=
  Regex.span?_shift d n ⟨m.stop, m.groups⟩

theorem Occurrence.ofMatch_shift (w t : Array Char) (m : Pattern.Match) :
    ofMatch (w ++ t) (m.shift w.size) = (ofMatch t m).shift (w.count '\n') w.size := by
  have hline : lineAt (w ++ t) (m.shift w.size).start = lineAt t m.start + w.count '\n' :=
    lineAt_shift w t m.start
  have hsnippet : slice (w ++ t) (m.shift w.size).start (m.shift w.size).stop =
      slice t m.start m.stop := slice_shift w t m.start m.stop
  have hcapture : ((m.shift w.size).group? 1).map
        (fun span => String.ofList (slice (w ++ t) span.1 span.2)) =
      (m.group? 1).map fun span => String.ofList (slice t span.1 span.2) := by
    rw [Pattern.Match.group?_shift, Option.map_map]
    simp only [Function.comp_def, slice_shift]
  simp only [ofMatch, onLine, shift, hline, hsnippet, hcapture, Occurrence.mk.injEq]
  refine ⟨by omega, trivial, ?_, ?_, trivial⟩
  · simp only [Pattern.Match.shift]
    omega
  · simp only [Pattern.Match.shift]
    omega

namespace Rule

variable {r : Rule}

theorem occurrences_shift (hw : ∀ c ∈ w, Text.isBlank c = true) (hr : r.pattern.regex.IsMovable)
    (t : Array Char) :
    r.occurrences (w ++ t) = (r.occurrences t).map (.shift (w.count '\n') w.size) := by
  have hmoved := (r.scan t).yields_matchList.shift hw hr.forward
  have hyields : (r.scan (w ++ t)).Yields ((r.scan t).matchList.map (.shift w.size)) :=
    hmoved.of_next_eq (Scan.next_behind_blanks hw hr.visible t)
  have hmatches := (r.scan (w ++ t)).yields_matchList.unique hyields
  rw [occurrences_eq, occurrences_eq, hmatches, List.map_map, List.map_map]
  exact List.map_congr_left fun m _ => Occurrence.ofMatch_shift w t m

theorem occurrences_empty (hr : r.pattern.regex.lead = .visible) : r.occurrences #[] = [] := by
  have hyields := (r.scan #[]).yields_matchList
  rw [occurrences_eq, List.map_eq_nil_iff, List.eq_nil_iff_forall_not_mem]
  intro m hm
  obtain ⟨c, hc, -⟩ := Regex.visibleAt_of_matchAt hr (hyields.matchAt m hm)
  simp [scan] at hc

end Rule

/-! ## Facts and issues -/

theorem Context.isMovable_memoCall : Context.memoCall.IsMovable := ⟨by decide, by decide⟩

theorem Context.detect_shift (hw : ∀ c ∈ w, Text.isBlank c = true) (t : Array Char) :
    Context.detect (w ++ t) = Context.detect t := by
  have hsearch := Regex.search_shift (t := t) hw isMovable_memoCall.forward 0
  rw [Nat.add_zero, ← Regex.search_zero_shift hw isMovable_memoCall.visible] at hsearch
  simp only [detect, questions, List.map_cons, List.map_nil, hasMemoWrapper, hsearch,
    Option.isSome_map]

theorem Catalog.isMovable_of_mem {r : Rule} (h : r ∈ rules) : r.pattern.regex.IsMovable := by
  have hall : ∀ r ∈ rules,
      r.pattern.regex.looksForward = true ∧ r.pattern.regex.lead = .visible := by decide +kernel
  obtain ⟨hforward, hlead⟩ := hall r h
  exact ⟨hforward, hlead⟩

namespace Issue

def shift (lines chars : Nat) (i : Issue) : Issue :=
  { i with occurrence := i.occurrence.shift lines chars }

theorem rank_shift (lines chars : Nat) (is : List Issue) :
    rank (is.map (shift lines chars)) = (rank is).map (shift lines chars) := by
  symm
  apply List.map_mergeSort
  intro a _ b _
  rw [Bool.eq_iff_iff, precedes_iff, precedes_iff]
  simp only [shift, Occurrence.shift]
  omega

end Issue

namespace Registry

variable {g : Registry}

theorem issuesOf_shift (hw : ∀ c ∈ w, Text.isBlank c = true) {r : Rule}
    (hr : r.pattern.regex.IsMovable) (facts : Facts) (t : Array Char) :
    g.issuesOf facts (w ++ t) r =
      (g.issuesOf facts t r).map (.shift (w.count '\n') w.size) := by
  have hgated : r.gatedOccurrences facts (w ++ t) =
      (r.gatedOccurrences facts t).map (.shift (w.count '\n') w.size) := by
    simp only [Rule.gatedOccurrences]
    split
    · exact Rule.occurrences_shift hw hr t
    · rfl
  simp only [issuesOf, AllowLists.keep, hgated, List.filter_map, List.map_map]
  rfl

theorem issues_shift (hw : ∀ c ∈ w, Text.isBlank c = true)
    (hg : ∀ r ∈ g.enabled, r ∈ Catalog.rules) (t : Array Char) :
    g.issues (w ++ t) = (g.issues t).map (.shift (w.count '\n') w.size) := by
  have hraw : g.rawIssues (w ++ t) = (g.rawIssues t).map (.shift (w.count '\n') w.size) := by
    rw [rawIssues, rawIssues, Context.detect_shift hw, List.map_flatMap]
    exact List.flatMap_congr fun r hr =>
      issuesOf_shift hw (Catalog.isMovable_of_mem (hg r hr)) (Context.detect t) t
  rw [issues, issues, hraw, Issue.rank_shift]

theorem issues_empty (hg : ∀ r ∈ g.enabled, r ∈ Catalog.rules) : g.issues #[] = [] := by
  have hraw : g.rawIssues #[] = [] := by
    rw [rawIssues, List.flatMap_eq_nil_iff]
    intro r hr
    have hnone := Rule.occurrences_empty (Catalog.isMovable_of_mem (hg r hr)).visible
    simp [issuesOf, Rule.gatedOccurrences, AllowLists.keep, hnone]
  rw [issues, hraw]
  simp [Issue.rank]

/-- With rules of the catalog only, blanks in front of a text move every issue by their lines and
characters and change nothing else; and a text of nothing but blanks is clean. -/
theorem analyze_behind_blanks (hg : ∀ r ∈ g.enabled, r ∈ Catalog.rules) {blanks : String}
    (hblanks : ∀ c ∈ blanks.toList, Text.isBlank c = true) (code : String) (now now' : Moment) :
    (g.analyze now (.text (blanks ++ code))).1.issues =
      (g.analyze now' (.text code)).1.issues.map
        (.shift (blanks.toList.count '\n') blanks.length) ∧
    (g.analyze now (.text blanks)).1.status = .clean := by
  have hw : ∀ c ∈ blanks.toList.toArray, Text.isBlank c = true := by
    simpa using hblanks
  have hmoved (code : String) : g.issues (blanks ++ code).toList.toArray =
      (g.issues code.toList.toArray).map (.shift (blanks.toList.count '\n') blanks.length) := by
    have happend : (blanks ++ code).toList.toArray =
        blanks.toList.toArray ++ code.toList.toArray := by simp
    rw [happend, issues_shift hw hg, List.count_toArray, List.size_toArray, String.length_toList]
  refine ⟨hmoved code, ?_⟩
  have hclean : (g.analyze now (.text blanks)).1.issues? = some [] := by
    have hnone := hmoved ""
    rw [String.append_empty] at hnone
    have hempty : "".toList.toArray = #[] := rfl
    simp only [analyze, analyzeText, Report.issues?, hnone, hempty, issues_empty hg, List.map_nil]
  simpa [Report.isClean] using (Report.isClean_iff _).mpr hclean

theorem analyze_behind_blanks_console :
    let now : Moment := ⟨⟨2025, 1, 31⟩, ⟨12, 0, 0, 0⟩, some 0⟩
    let found (code : String) : List Issue := (Registry.default.analyze now (.text code)).1.issues
    (∀ r ∈ Registry.default.enabled, r ∈ Catalog.rules) ∧
    (∀ c ∈ " \n\t".toList, Text.isBlank c = true) ∧
    Issue.ofRule Catalog.consoleCall ⟨1, "console.log(", 0, 12, some "log"⟩ ∈
      found "console.log(1)" ∧
    Issue.ofRule Catalog.consoleCall ⟨2, "console.log(", 3, 15, some "log"⟩ ∈
      found (" \n\t" ++ "console.log(1)") ∧
    (Registry.default.analyze now (.text " \n\t")).1.status = .clean := by
  intro now found
  have hg : ∀ r ∈ Registry.default.enabled, r ∈ Catalog.rules := fun r hr =>
    (List.mem_filter.mp hr).1
  have hblanks : ∀ c ∈ " \n\t".toList, Text.isBlank c = true :=
    List.all_eq_true.mp (by decide +kernel)
  obtain ⟨hmoved, hclean⟩ := analyze_behind_blanks hg hblanks "console.log(1)" now now
  have hfound : Issue.ofRule Catalog.consoleCall ⟨1, "console.log(", 0, 12, some "log"⟩ ∈
      found "console.log(1)" := Issue.mem_rank.mpr (by decide +kernel)
  refine ⟨hg, hblanks, hfound, ?_, hclean⟩
  simp only [found, hmoved]
  exact List.mem_map.mpr ⟨_, hfound, rfl⟩

end Registry

end ReactLint
