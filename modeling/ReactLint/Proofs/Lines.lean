import Mathlib.Algebra.GroupWithZero.Nat
import ReactLint.Proofs.Scanning
import ReactLint.Proofs.Stands
import ReactLint.Text.Split

/-!
# Lines of a text

The lines of a text are its parts between newlines. A line reaches from its start to its newline, or
to the end of the text if it is the last one, and the next line starts behind that newline; so lines
do not overlap, and every offset of the text stands in exactly one of them. The number of newlines
in front of an offset is the index of its line, and line numbers grow along the text.
-/

namespace ReactLint

namespace Text

variable {cs line : List Char} {ls : List (List Char)} {k l m n : Nat}

def lines (cs : List Char) : List (List Char) := parts '\n' cs

/-- The offset at which a line begins: each line in front of it ends with one newline. -/
def lineStart (ls : List (List Char)) (k : Nat) : Nat := ((ls.take k).map (·.length + 1)).sum

theorem lineStart_cons (line : List Char) (ls : List (List Char)) (k : Nat) :
    lineStart (line :: ls) (k + 1) = line.length + 1 + lineStart ls k := by
  simp [lineStart]

def lineEnd (ls : List (List Char)) (k : Nat) : Nat := lineStart ls k + (ls.getD k []).length

theorem lineEnd_eq (h : ls[k]? = some line) : lineEnd ls k = lineStart ls k + line.length := by
  rw [lineEnd, List.getD_eq_getElem?_getD, h, Option.getD_some]

theorem lineStart_succ (h : k < ls.length) : lineStart ls (k + 1) = lineEnd ls k + 1 := by
  rw [lineEnd_eq (List.getElem?_eq_getElem h), lineStart, List.take_succ_eq_append_getElem h,
    List.map_append, List.sum_append, List.map_singleton, List.sum_singleton, ← Nat.add_assoc,
    lineStart]

theorem lineStart_mono (ls : List (List Char)) (h : k ≤ l) : lineStart ls k ≤ lineStart ls l := by
  obtain ⟨d, rfl⟩ := Nat.exists_eq_add_of_le h
  rw [lineStart, lineStart, List.take_add, List.map_append, List.sum_append]
  exact Nat.le_add_right _ _

theorem lineEnd_lt_lineStart (hk : k < ls.length) (h : k < l) : lineEnd ls k < lineStart ls l := by
  calc lineEnd ls k < lineEnd ls k + 1 := Nat.lt_succ_self _
    _ = lineStart ls (k + 1) := (lineStart_succ hk).symm
    _ ≤ lineStart ls l := lineStart_mono ls h

/-! ## The text of a line -/

theorem length_join_add_one (h : ls ≠ []) : (join '\n' ls).length + 1 = lineStart ls ls.length := by
  induction ls with
  | nil => exact absurd rfl h
  | cons line ls ih =>
    rw [List.length_cons, lineStart_cons]
    cases ls with
    | nil => rfl
    | cons second more =>
      have hmore := ih (List.cons_ne_nil second more)
      rw [join_cons_cons, List.length_append, List.length_cons]
      omega

theorem drop_lineStart_join (ls : List (List Char)) (k : Nat) :
    (join '\n' ls).drop (lineStart ls k) = join '\n' (ls.drop k) := by
  induction k generalizing ls with
  | zero => rfl
  | succ k ih =>
    cases ls with
    | nil => exact List.drop_nil
    | cons line ls =>
      rw [lineStart_cons, List.drop_succ_cons, ← ih ls]
      cases ls with
      | nil =>
        have hle : line.length ≤ line.length + 1 + lineStart [] k := by omega
        exact (List.drop_eq_nil_of_le hle).trans List.drop_nil.symm
      | cons second more =>
        rw [join_cons_cons, ← List.drop_drop, ← List.drop_drop, List.drop_left]
        rfl

theorem drop_lineStart (cs : List Char) (k : Nat) :
    cs.drop (lineStart (lines cs) k) = join '\n' ((lines cs).drop k) := by
  have hjoin := drop_lineStart_join (lines cs) k
  rwa [lines, join_parts] at hjoin

theorem length_add_one_eq_lineStart (cs : List Char) :
    cs.length + 1 = lineStart (lines cs) (lines cs).length := by
  have hjoin := length_join_add_one (parts_ne_nil '\n' cs)
  rwa [join_parts] at hjoin

/-- A line ends at a newline if there is a line behind it, and with the text if there is none. -/
theorem line_ends (h : (lines cs)[k]? = some line) :
    k + 1 < (lines cs).length ∧ cs[lineEnd (lines cs) k]? = some '\n' ∨
      k + 1 = (lines cs).length ∧ lineEnd (lines cs) k = cs.length := by
  obtain ⟨hk, rfl⟩ := List.getElem?_eq_some_iff.mp h
  rcases Nat.lt_or_eq_of_le (Nat.succ_le_of_lt hk) with hmore | hlast
  · refine .inl ⟨hmore, ?_⟩
    have hdrop := drop_lineStart cs k
    rw [List.drop_eq_getElem_cons hk, List.drop_eq_getElem_cons hmore, join_cons_cons] at hdrop
    rw [lineEnd_eq h, ← List.getElem?_drop, hdrop, List.getElem?_append_right (Nat.le_refl _),
      Nat.sub_self, List.getElem?_cons_zero]
  · refine .inr ⟨hlast, ?_⟩
    have hlength := length_add_one_eq_lineStart cs
    rw [← hlast, lineStart_succ hk] at hlength
    exact (Nat.succ.inj hlength).symm

theorem prefix_drop_lineStart (h : (lines cs)[k]? = some line) :
    line <+: cs.drop (lineStart (lines cs) k) := by
  obtain ⟨hk, rfl⟩ := List.getElem?_eq_some_iff.mp h
  rw [drop_lineStart, List.drop_eq_getElem_cons hk]
  cases (lines cs).drop (k + 1) with
  | nil => exact List.prefix_refl _
  | cons second more => exact List.prefix_append _ _

theorem lines_newline_cons (cs : List Char) : lines ('\n' :: cs) = [] :: lines cs := by
  obtain ⟨first, more, h⟩ := List.exists_cons_of_ne_nil (parts_ne_nil '\n' cs)
  simp [lines, parts, h]

theorem lines_cons {c : Char} (hc : c ≠ '\n') {first : List Char} {more : List (List Char)}
    (h : lines cs = first :: more) : lines (c :: cs) = (c :: first) :: more := by
  rw [lines] at h ⊢
  simp [parts, h, hc]

theorem lines_eq_cons (cs : List Char) :
    ∃ more, lines cs = cs.takeWhile (· != '\n') :: more := by
  induction cs with
  | nil => exact ⟨[], rfl⟩
  | cons c cs ih =>
    obtain ⟨more, hmore⟩ := ih
    by_cases hc : c = '\n'
    · subst hc
      exact ⟨lines cs, by simp [lines_newline_cons]⟩
    · exact ⟨more, by simp [lines_cons hc hmore, hc]⟩

/-! ## The line of an offset -/

/-- An offset stands in a column of the line that the newlines in front of it count, and what
follows it there is the text up to the next newline. -/
theorem exists_column (h : n ≤ cs.length) :
    ∃ line column, (lines cs)[(cs.take n).count '\n']? = some line ∧
      n = lineStart (lines cs) ((cs.take n).count '\n') + column ∧ column ≤ line.length ∧
      line.drop column = (cs.drop n).takeWhile (· != '\n') := by
  induction cs generalizing n with
  | nil =>
    obtain rfl : n = 0 := Nat.le_zero.mp h
    exact ⟨[], 0, rfl, rfl, Nat.le_refl 0, rfl⟩
  | cons c cs ih =>
    cases n with
    | zero =>
      obtain ⟨more, hmore⟩ := lines_eq_cons (c :: cs)
      exact ⟨_, 0, by rw [hmore]; rfl, rfl, Nat.zero_le _, rfl⟩
    | succ n =>
      obtain ⟨line, column, hline, hn, hcolumn, hdrop⟩ := ih (Nat.le_of_succ_le_succ h)
      by_cases hc : c = '\n'
      · -- the offset is a line further down, in the same column
        subst hc
        refine ⟨line, column, ?_, ?_, hcolumn, hdrop⟩
        · rw [List.take_succ_cons, List.count_cons_self, lines_newline_cons,
            List.getElem?_cons_succ, hline]
        · rw [List.take_succ_cons, List.count_cons_self, lines_newline_cons, lineStart_cons,
            List.length_nil]
          omega
      · obtain ⟨more, hfirst⟩ := lines_eq_cons cs
        rw [List.take_succ_cons, List.count_cons_of_ne hc, lines_cons hc hfirst]
        rw [hfirst] at hline hn
        cases hk : (cs.take n).count '\n' with
        | zero =>
          -- in the first line, which is one character longer
          rw [hk] at hline hn
          obtain rfl := Option.some.inj hline
          refine ⟨c :: _, column + 1, rfl, ?_, Nat.succ_le_succ hcolumn, hdrop⟩
          simp only [lineStart, List.take_zero, List.map_nil, List.sum_nil] at hn ⊢
          omega
        | succ k =>
          rw [hk] at hline hn
          refine ⟨line, column, hline, ?_, hcolumn, hdrop⟩
          rw [lineStart_cons] at hn ⊢
          rw [List.length_cons]
          omega

/-- The offset `n` stands in the line number `k`, counted from one: not in front of the start of the
line and not behind its end. -/
structure InLine (cs : List Char) (n k : Nat) : Prop where
  one_le : 1 ≤ k
  le_count : k ≤ (lines cs).length
  start_le : lineStart (lines cs) (k - 1) ≤ n
  le_end : n ≤ lineEnd (lines cs) (k - 1)

theorem InLine.mono (hk : InLine cs m k) (hl : InLine cs n l) (h : m ≤ n) : k ≤ l := by
  refine Nat.le_of_not_lt fun hlt => ?_
  -- the line of the greater offset would end in front of the line of the other one
  have hone := hl.one_le
  have hcount := hl.le_count
  have hbefore : l - 1 < k - 1 := by omega
  have hexists : l - 1 < (lines cs).length := by omega
  have hapart := lineEnd_lt_lineStart hexists hbefore
  exact absurd (Nat.lt_of_le_of_lt hl.le_end hapart) (Nat.not_lt.mpr (Nat.le_trans hk.start_le h))

theorem inLine_iff (h : n ≤ cs.length) : InLine cs n k ↔ k = (cs.take n).count '\n' + 1 := by
  obtain ⟨line, column, hline, hn, hcolumn, -⟩ := exists_column h
  have hlt := (List.getElem?_eq_some_iff.mp hline).1
  have hend := lineEnd_eq hline
  have hin : InLine cs n ((cs.take n).count '\n' + 1) :=
    { one_le := Nat.succ_pos _
      le_count := hlt
      start_le := by rw [Nat.add_sub_cancel]; omega
      le_end := by rw [Nat.add_sub_cancel]; omega }
  constructor
  · exact fun hk => Nat.le_antisymm (hk.mono hin (Nat.le_refl n)) (hin.mono hk (Nat.le_refl n))
  · rintro rfl
    exact hin

end Text

theorem lineAt_eq (t : Array Char) (n : Nat) : lineAt t n = (t.toList.take n).count '\n' + 1 := by
  rw [lineAt, ← Array.count_toList, Array.toList_extract, List.extract_eq_take_drop,
    List.drop_zero, Nat.sub_zero]

theorem inLine_iff_lineAt {t : Array Char} {n k : Nat} (h : n ≤ t.size) :
    Text.InLine t.toList n k ↔ k = lineAt t n := by
  rw [lineAt_eq]
  exact Text.inLine_iff h

theorem lineAt_mono (t : Array Char) {m n : Nat} (h : m ≤ n) : lineAt t m ≤ lineAt t n := by
  rw [lineAt_eq, lineAt_eq]
  exact Nat.succ_le_succ ((List.take_prefix_take_left h).sublist.count_le '\n')

/-! ## Offsets of any kind -/

theorem clampOffset_mono (size : Nat) {m n : Int} (h : m ≤ n) (hside : n < 0 ∨ 0 ≤ m) :
    clampOffset size m ≤ clampOffset size n := by
  simp only [clampOffset]
  split <;> split <;> omega

/-- An offset counts as one of the text: from the end if it is negative, and no further than to the
ends. -/
theorem clampOffset_clamped (size : Nat) (n : Int) :
    clampOffset size (if n < 0 then max (size + n) 0 else min n size) = clampOffset size n := by
  simp only [clampOffset]
  split
  · rw [if_neg (by omega)]
    omega
  · rw [if_neg (by omega)]
    omega

namespace Rule

variable {r : Rule} {t : Array Char} {o o' : Occurrence}

theorem line_of_mem_occurrences (h : o ∈ r.occurrences t) : o.line = lineNumberAt t o.start := by
  obtain ⟨m, -, rfl⟩ := mem_occurrences.mp h
  rw [Occurrence.start_ofMatch, lineNumberAt_ofNat]
  rfl

theorem line_le_of_start_le (ho : o ∈ r.occurrences t) (ho' : o' ∈ r.occurrences t)
    (h : o.start ≤ o'.start) : o.line ≤ o'.line := by
  have hstart := (bounds_of_mem_occurrences ho).1
  rw [line_of_mem_occurrences ho, line_of_mem_occurrences ho']
  exact Int.ofNat_le.mpr (lineAt_mono t (clampOffset_mono t.size h (.inr hstart)))

theorem pairwise_line_occurrences (r : Rule) (t : Array Char) :
    (r.occurrences t).Pairwise fun a b => a.line ≤ b.line :=
  (r.pairwise_start_occurrences t).imp_of_mem fun ha hb h =>
    line_le_of_start_le ha hb (Int.le_of_lt h)

end Rule

/-- An offset of a text stands in one line only, the line with its line number. A line is what
stands between its start and its end, and it ends at a newline or, if it is the last one, with the
text. Line numbers do not decrease from an offset to a greater one, if both count from the same
side, nor from an occurrence of a rule to the next one; and an offset outside the text has the line
number of the offset it counts as. -/
theorem lineNumberAt_locates (t : Array Char) :
    (∀ n ≤ t.size, ∀ k, Text.InLine t.toList n k ↔ k = lineNumberAt t n) ∧
    (let rows := Text.lines t.toList
      ∀ k row, rows[k]? = some row →
        slice t (Text.lineStart rows k) (Text.lineEnd rows k) = row ∧ '\n' ∉ row ∧
        (k + 1 < rows.length ∧ t[Text.lineEnd rows k]? = some '\n' ∨
          k + 1 = rows.length ∧ Text.lineEnd rows k = t.size)) ∧
    (∀ m n : Int, m ≤ n → n < 0 ∨ 0 ≤ m → lineNumberAt t m ≤ lineNumberAt t n) ∧
    (∀ r : Rule, (∀ o ∈ r.occurrences t, o.line = lineNumberAt t o.start) ∧
      (r.occurrences t).Pairwise fun a b => a.line ≤ b.line) ∧
    ∀ n : Int, lineNumberAt t n =
      lineNumberAt t (if n < 0 then max (t.size + n) 0 else min n t.size) := by
  refine ⟨fun n hn k => ?_, fun k row hrow => ⟨?_, ?_, ?_⟩, fun m n h hside => ?_, fun r => ?_,
    fun n => ?_⟩
  · rw [lineNumberAt_ofNat]
    exact inLine_iff_lineAt hn
  · have hstands : Stands t (Text.lineStart (Text.lines t.toList) k) row :=
      Text.prefix_drop_lineStart hrow
    rw [Text.lineEnd_eq hrow, hstands.slice_eq]
  · exact Text.not_mem_parts '\n' t.toList row (List.mem_of_getElem? hrow)
  · rw [← Array.getElem?_toList, ← Array.length_toList]
    exact Text.line_ends hrow
  · exact lineAt_mono t (clampOffset_mono t.size h hside)
  · exact ⟨fun o ho => Rule.line_of_mem_occurrences ho, r.pairwise_line_occurrences t⟩
  · rw [lineNumberAt, lineNumberAt, clampOffset_clamped]

theorem lineNumberAt_locates_emptyLine :
    let t := #['a', 'b', '\n', '\n', 'c']
    (Text.lines t.toList)[1]? = some [] ∧ t[Text.lineEnd (Text.lines t.toList) 1]? = some '\n' ∧
    2 ≤ t.size ∧ Text.InLine t.toList 2 1 ∧ 3 ≤ t.size ∧ Text.InLine t.toList 3 2 ∧
    lineNumberAt t (-6) ≤ lineNumberAt t (-1) ∧ lineNumberAt t (-2) = lineNumberAt t 3 := by
  intro t
  obtain ⟨hin, hrows, hmono, -, hclamp⟩ := lineNumberAt_locates t
  have hrow : (Text.lines t.toList)[1]? = some [] := by decide
  have hend : t[Text.lineEnd (Text.lines t.toList) 1]? = some '\n' := by
    obtain ⟨-, -, ⟨-, hnewline⟩ | ⟨hlast, -⟩⟩ := hrows 1 [] hrow
    · exact hnewline
    · exact absurd hlast (by decide)
  have htwo : 2 ≤ t.size := by decide
  have hthree : 3 ≤ t.size := by decide
  exact ⟨hrow, hend, htwo, (hin 2 htwo 1).mpr (by decide), hthree, (hin 3 hthree 2).mpr (by decide),
    hmono (-6) (-1) (by decide) (.inl (by decide)), hclamp (-2)⟩

end ReactLint
