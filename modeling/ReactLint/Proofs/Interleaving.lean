import ReactLint.Proofs.Scanning

/-!
# Interleaved scans do not interfere

Several scans are taken step by step, in the order of a schedule. A step moves the cursor of its own
scan only, so what a scan answers depends on how many of its own steps went before and on nothing
else; and a scan that is taken step by step answers with the occurrences of the scan taken at once,
and with none from then on.
-/

namespace ReactLint

namespace Scan

variable {s : Scan} {ms : List Pattern.Match}

def after (s : Scan) : Nat → Scan
  | 0 => s
  | n + 1 => s.step.2.after n

/-- The answers that the steps of a schedule get from the scan with the number `k`. -/
def answersOf (k : Nat) (steps : List Nat) (answers : List (Option Occurrence)) :
    List (Option Occurrence) :=
  ((steps.zip answers).filter fun a => a.1 == k).map Prod.snd

theorem answersOf_cons_self (k : Nat) (steps : List Nat) (o : Option Occurrence)
    (answers : List (Option Occurrence)) :
    answersOf k (k :: steps) (o :: answers) = o :: answersOf k steps answers := by
  simp [answersOf]

theorem answersOf_cons_of_ne {k l : Nat} (h : l ≠ k) (steps : List Nat) (o : Option Occurrence)
    (answers : List (Option Occurrence)) :
    answersOf k (l :: steps) (o :: answers) = answersOf k steps answers := by
  simp [answersOf, h]

theorem interleave_cons_of_some {scans : List Scan} {k : Nat} (h : scans[k]? = some s)
    (steps : List Nat) :
    interleave scans (k :: steps) = s.step.1 :: interleave (scans.set k s.step.2) steps := by
  simp only [interleave, h]

theorem interleave_cons_of_none {scans : List Scan} {k : Nat} (h : scans[k]? = none)
    (steps : List Nat) : interleave scans (k :: steps) = none :: interleave scans steps := by
  simp only [interleave, h]

theorem length_interleave (scans : List Scan) (steps : List Nat) :
    (interleave scans steps).length = steps.length := by
  induction steps generalizing scans with
  | nil => rfl
  | cons k steps ih =>
    cases hk : scans[k]? with
    | none => rw [interleave_cons_of_none hk, List.length_cons, List.length_cons, ih]
    | some s => rw [interleave_cons_of_some hk, List.length_cons, List.length_cons, ih]

/-- What a scan answers does not depend on the steps of the others. -/
theorem answersOf_interleave {scans : List Scan} {k : Nat} (h : scans[k]? = some s)
    (steps : List Nat) :
    answersOf k steps (interleave scans steps) =
      (List.range (steps.count k)).map fun n => (s.after n).step.1 := by
  induction steps generalizing scans s with
  | nil => rfl
  | cons l steps ih =>
    by_cases hl : l = k
    · subst hl
      have hlt : l < scans.length := (List.getElem?_eq_some_iff.mp h).1
      have hset : (scans.set l s.step.2)[l]? = some s.step.2 := List.getElem?_set_self hlt
      rw [interleave_cons_of_some h, answersOf_cons_self, ih hset, List.count_cons_self,
        List.range_succ_eq_map, List.map_cons, List.map_map]
      rfl
    · rw [List.count_cons_of_ne hl]
      cases hstep : scans[l]? with
      | none => rw [interleave_cons_of_none hstep, answersOf_cons_of_ne hl, ih h]
      | some q =>
        have hset : (scans.set l q.step.2)[k]? = some s := by
          rw [List.getElem?_set_ne hl, h]
        rw [interleave_cons_of_some hstep, answersOf_cons_of_ne hl, ih hset]

theorem Yields.step (h : Yields s ms) :
    s.step.1 = ms.head?.map (.ofMatch s.text) ∧ Yields s.step.2 ms.tail ∧
      s.step.2.text = s.text := by
  cases h with
  | done hnone =>
    have hsearch := search_eq_none_of_next hnone
    -- the cursor now stands behind the text, where a search finds nothing
    have hended : s.step.2 = { s with pos := s.text.size + 1 } := by
      simp only [Scan.step, next, hsearch]
    refine ⟨by simp only [Scan.step, hnone]; rfl, ?_, by rw [hended]⟩
    rw [hended]
    exact .done (next_eq_none_of_size_lt (Nat.lt_succ_self _))
  | @more _ s' m ms hnext hrest =>
    obtain ⟨-, rfl⟩ := next_eq_some hnext
    simp only [Scan.step, hnext]
    exact ⟨rfl, hrest, trivial⟩

theorem Yields.answer (h : Yields s ms) (n : Nat) :
    (s.after n).step.1 = (ms.map (.ofMatch s.text))[n]? := by
  induction n generalizing s ms with
  | zero =>
    rw [after, h.step.1, List.getElem?_map, List.head?_eq_getElem?]
  | succ n ih =>
    obtain ⟨-, hrest, htext⟩ := h.step
    rw [after, ih hrest, htext, List.getElem?_map, List.getElem?_map, List.getElem?_tail]

end Scan

/-- The scans of one rule over several texts, taken in any order and left off anywhere: the steps of
each scan are answered one after another with the occurrences of the rule in its text, and with none
when these are used up. -/
theorem Rule.interleave_answers (r : Rule) (texts : List (Array Char)) (steps : List Nat) :
    let answers := Scan.interleave (texts.map r.scan) steps
    answers.length = steps.length ∧
    ∀ k : Fin texts.length, Scan.answersOf k steps answers =
      (List.range (steps.count k.val)).map fun n => (r.occurrences texts[k])[n]? := by
  intro answers
  refine ⟨Scan.length_interleave _ steps, fun k => ?_⟩
  have hscan : (texts.map r.scan)[k.val]? = some (r.scan texts[k]) := by
    simp
  have hyields := (r.scan texts[k]).yields_matchList
  rw [Scan.answersOf_interleave hscan]
  refine List.map_congr_left fun n _ => ?_
  rw [hyields.answer n, r.occurrences_eq]
  rfl

end ReactLint
