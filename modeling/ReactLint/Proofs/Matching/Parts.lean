import Mathlib.Data.List.Forall2
import ReactLint.Proofs.Matching.Reach
import ReactLint.Regex.Basic

/-!
# What the parts of an expression match

An expression that is a list of parts matches the texts of its parts, one behind the other: the
characters of a word, a run of blanks or of other accepted characters, what one of several texts
takes, and what a group encloses.
-/

namespace ReactLint

namespace Regex

variable {t : Array Char} {s s' : Cursor} {r : Regex} {rs qs : List Regex} {ps : List CharTest}

theorem accepts_blankTest (c : Char) : blankTest.accepts c = Text.isBlank c := by
  simp [blankTest, CharTest.accepts, SetItem.accepts, CharKind.holds]

theorem accepts_range {lo hi : Nat} {c : Char} :
    (SetItem.range lo hi).accepts .exact c = (decide (lo ≤ c.toNat) && decide (c.toNat ≤ hi)) := by
  simp [SetItem.accepts, Folding.forms]

theorem accepts_lowerItem (c : Char) : lowerItem.accepts .exact c = c.isLower := accepts_range

theorem accepts_upperItem (c : Char) : upperItem.accepts .exact c = c.isUpper := by
  rw [upperItem, accepts_range, ← Bool.decide_and]
  rfl

theorem accepts_digitItem (c : Char) : digitItem.accepts .exact c = c.isDigit := accepts_range

theorem accepts_charItem (c d : Char) : (SetItem.char d).accepts .exact c = (c == d) := by
  rw [SetItem.accepts, Folding.same_exact, Bool.eq_iff_iff, beq_iff_eq, beq_iff_eq, Char.toNat_inj]

theorem reaches_ofList_nil : Reaches t (.ofList []) s s' ↔ s' = s := Iff.rfl

theorem reaches_ofList_cons :
    Reaches t (.ofList (r :: rs)) s s' ↔ ∃ m, Reaches t r s m ∧ Reaches t (.ofList rs) m s' := by
  cases rs with
  | nil => simp [ofList, Reaches]
  | cons q rs => exact Iff.rfl

theorem reaches_ofList_append : Reaches t (.ofList (rs ++ qs)) s s' ↔
    ∃ m, Reaches t (.ofList rs) s m ∧ Reaches t (.ofList qs) m s' := by
  induction rs generalizing s with
  | nil => simp [ofList, Reaches]
  | cons r rs ih =>
    simp only [List.cons_append, reaches_ofList_cons, ih]
    constructor
    · rintro ⟨m, hm, n, hn, hs'⟩
      exact ⟨n, ⟨m, hm, hn⟩, hs'⟩
    · rintro ⟨n, ⟨m, hm, hn⟩, hs'⟩
      exact ⟨m, hm, n, hn, hs'⟩

theorem reaches_tests : Reaches t (.ofList (ps.map .one)) s s' ↔
    ∃ cs, List.Forall₂ (fun p c => p.accepts c = true) ps cs ∧ Stands t s.pos cs ∧
      s' = s.moveTo (s.pos + cs.length) := by
  induction ps generalizing s with
  | nil =>
    constructor
    · rintro rfl
      exact ⟨[], .nil, stands_nil, rfl⟩
    · rintro ⟨_, ⟨⟩, -, rfl⟩
      rfl
  | cons p ps ih =>
    rw [List.map_cons, reaches_ofList_cons]
    constructor
    · rintro ⟨m, ⟨c, hc, haccepts, rfl⟩, hrest⟩
      obtain ⟨cs, hcs, hstands, rfl⟩ := ih.mp hrest
      refine ⟨c :: cs, .cons haccepts hcs, stands_cons.mpr ⟨(stands_cons.mp hc).1, hstands⟩, ?_⟩
      simp only [Cursor.moveTo, List.length_cons, Nat.add_assoc, Nat.add_comm 1]
    · rintro ⟨_, _ | ⟨haccepts, hcs⟩, hstands, rfl⟩
      rename_i c cs
      obtain ⟨hc, hstands⟩ := stands_cons.mp hstands
      refine ⟨s.moveTo (s.pos + 1), ⟨c, stands_cons.mpr ⟨hc, stands_nil⟩, haccepts, rfl⟩,
        ih.mpr ⟨cs, hcs, hstands, ?_⟩⟩
      simp only [Cursor.moveTo, List.length_cons, Nat.add_assoc, Nat.add_comm 1]

theorem reaches_word {w : String} : Reaches t (.ofList (word w)) s s' ↔
    Stands t s.pos w.toList ∧ s' = s.moveTo (s.pos + w.toList.length) := by
  have hword : word w = (w.toList.map CharTest.char).map .one := (List.map_map ..).symm
  have hsame (cs : List Char) :
      List.Forall₂ (fun p c => p.accepts c = true) (w.toList.map CharTest.char) cs ↔
        cs = w.toList := by
    have heq : (fun c d => (CharTest.char c).accepts d = true) = fun c d => c = d := by
      funext c d
      exact propext (beq_iff_eq.trans eq_comm)
    rw [List.forall₂_map_left_iff, heq, List.forall₂_eq_eq_eq, eq_comm]
  rw [hword, reaches_tests]
  simp only [hsame, exists_eq_left]

theorem reaches_word_append {w : String} : Reaches t (.ofList (word w ++ rs)) s s' ↔
    Stands t s.pos w.toList ∧
      Reaches t (.ofList rs) (s.moveTo (s.pos + w.toList.length)) s' := by
  simp only [reaches_ofList_append, reaches_word, and_assoc, exists_and_left, exists_eq_left]

theorem reaches_run {p : CharTest} {n : Nat} {g : Greed} (hg : g ≠ .possessive) :
    Reaches t (.run p ⟨n, none⟩ g) s s' ↔ ∃ cs, Stands t s.pos cs ∧
      (∀ c ∈ cs, p.accepts c = true) ∧ n ≤ cs.length ∧ s' = s.moveTo (s.pos + cs.length) := by
  cases g with
  | possessive => exact absurd rfl hg
  | _ => simp [Reaches, Runs]

theorem reaches_run_cons {p : CharTest} {n : Nat} {g : Greed} (hg : g ≠ .possessive) :
    Reaches t (.ofList (.run p ⟨n, none⟩ g :: rs)) s s' ↔ ∃ cs, Stands t s.pos cs ∧
      (∀ c ∈ cs, p.accepts c = true) ∧ n ≤ cs.length ∧
        Reaches t (.ofList rs) (s.moveTo (s.pos + cs.length)) s' := by
  simp only [reaches_ofList_cons, reaches_run hg]
  exact ⟨fun ⟨_, ⟨cs, hcs, hall, hlen, hm⟩, hrest⟩ => ⟨cs, hcs, hall, hlen, hm ▸ hrest⟩,
    fun ⟨cs, hcs, hall, hlen, hrest⟩ => ⟨_, ⟨cs, hcs, hall, hlen, rfl⟩, hrest⟩⟩

theorem reaches_blanks_cons : Reaches t (.ofList (blanks :: rs)) s s' ↔ ∃ cs, Stands t s.pos cs ∧
    (∀ c ∈ cs, Text.isBlank c = true) ∧
      Reaches t (.ofList rs) (s.moveTo (s.pos + cs.length)) s' := by
  simp only [blanks, reaches_run_cons (g := .greedy) nofun, accepts_blankTest, Nat.zero_le,
    true_and]

theorem reaches_someBlanks_cons : Reaches t (.ofList (someBlanks :: rs)) s s' ↔
    ∃ cs, Stands t s.pos cs ∧ (∀ c ∈ cs, Text.isBlank c = true) ∧ cs ≠ [] ∧
      Reaches t (.ofList rs) (s.moveTo (s.pos + cs.length)) s' := by
  simp only [someBlanks, reaches_run_cons (g := .greedy) nofun, accepts_blankTest,
    Nat.one_le_iff_ne_zero, ne_eq, List.length_eq_zero_iff]

theorem reaches_group_cons {n : Nat} : Reaches t (.ofList (.group n r :: rs)) s s' ↔
    ∃ m, Reaches t r s m ∧ Reaches t (.ofList rs) (m.close n s.pos) s' := by
  rw [reaches_ofList_cons]
  exact ⟨fun ⟨_, ⟨m, hm, hclose⟩, hrest⟩ => ⟨m, hm, hclose ▸ hrest⟩,
    fun ⟨m, hm, hrest⟩ => ⟨_, ⟨m, hm, rfl⟩, hrest⟩⟩

theorem repeats_exact_iff {i j : Nat} {cs : List Char} (h : Stands t j cs) :
    repeats t .exact i j cs.length = true ↔ Stands t i cs := by
  induction cs generalizing i j with
  | nil => simp [repeats, stands_nil]
  | cons c cs ih =>
    obtain ⟨hc, hcs⟩ := stands_cons.mp h
    rw [stands_cons, List.length_cons, repeats, hc]
    cases t[i]? with
    | none => simp
    | some d =>
      rw [Bool.and_eq_true, ih hcs, beq_iff_eq, Folding.lower, Folding.lower, Char.toNat_inj,
        Option.some.injEq]

theorem reaches_backref_cons {n i : Nat} {cs : List Char}
    (hspan : s.span? n = some (i, i + cs.length)) (h : Stands t i cs) :
    Reaches t (.ofList (.backref n .exact :: rs)) s s' ↔
      Stands t s.pos cs ∧ Reaches t (.ofList rs) (s.moveTo (s.pos + cs.length)) s' := by
  rw [reaches_ofList_cons]
  simp only [Reaches, hspan, Option.some.injEq, Prod.mk.injEq]
  constructor
  · rintro ⟨_, ⟨_, _, ⟨rfl, rfl⟩, hrepeats, rfl⟩, hrest⟩
    rw [Nat.add_sub_cancel_left] at hrepeats hrest
    exact ⟨(repeats_exact_iff h).mp hrepeats, hrest⟩
  · rintro ⟨hstands, hrest⟩
    refine ⟨_, ⟨i, _, ⟨rfl, rfl⟩, ?_, rfl⟩, ?_⟩
    · rw [Nat.add_sub_cancel_left]
      exact (repeats_exact_iff h).mpr hstands
    · rwa [Nat.add_sub_cancel_left]

theorem reaches_oneOf {choices : List (List Regex)} (h : choices ≠ []) :
    Reaches t (oneOf choices) s s' ↔ ∃ rs ∈ choices, Reaches t (.ofList rs) s s' := by
  induction choices with
  | nil => exact absurd rfl h
  | cons rs choices ih =>
    cases choices with
    | nil => simp [oneOf]
    | cons qs choices =>
      have hrest := ih (List.cons_ne_nil qs choices)
      simp only [List.mem_cons, exists_eq_or_imp] at hrest ⊢
      rw [← hrest]
      exact Iff.rfl

/-! ## The first of two choices -/

theorem exec_ofList_cons {k : Next} : exec t (.ofList (r :: rs)) s k =
    exec t r s fun m => exec t (.ofList rs) m k := by
  cases rs with
  | nil => rfl
  | cons q rs => rfl

theorem exec_ofList_append {k : Next} : exec t (.ofList (rs ++ qs)) s k =
    exec t (.ofList rs) s fun m => exec t (.ofList qs) m k := by
  induction rs generalizing s with
  | nil => rfl
  | cons r rs ih => simp only [List.cons_append, exec_ofList_cons, ih]

/-- Where a choice comes to be made, its second expression is tried only if the first one, with all
that has to follow, matches in no way. -/
theorem reaches_first_choice {a b : Regex} {n i : Nat} {c : Cursor} (hi : i ≤ t.size)
    (h : matchAt t (.ofList (rs ++ .group n (.alt a b) :: qs)) i = some c) :
    ∃ m, Reaches t (.ofList rs) (.start i) m ∧
      (Reaches t (.ofList (.group n a :: qs)) m c ∨
        (∀ d, ¬ Reaches t (.ofList (.group n a :: qs)) m d) ∧
          Reaches t (.ofList (.group n b :: qs)) m c) := by
  rw [matchAt, exec_ofList_append] at h
  obtain ⟨m, hm, hchoice⟩ := (explores_exec (.ofList rs)).sound (.start i) _ c hi h
  have hsize : m.pos ≤ t.size := ((explores_exec (.ofList rs)).bounds hi hm).2
  have hgroup (r : Regex) : exec t (.ofList (.group n r :: qs)) m some =
      exec t r m fun s' => exec t (.ofList qs) (s'.close n m.pos) some := exec_ofList_cons
  refine ⟨m, hm, ?_⟩
  rw [hgroup, exec] at hchoice
  split at hchoice
  · rename_i d hd
    refine .inl (reaches_of_exec hsize ?_)
    rw [hgroup, hd, hchoice]
  · rename_i hnone
    refine .inr ⟨((explores_exec _).eq_none_iff hsize).mp ?_, reaches_of_exec hsize ?_⟩
    · rw [hgroup, hnone]
    · rw [hgroup, hchoice]

end Regex

end ReactLint
