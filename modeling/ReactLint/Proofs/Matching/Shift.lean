import ReactLint.Proofs.Matching.Lead

/-!
# Matching behind blanks

An expression that only looks forward does not see what stands in front of the place where it is
run, but for the question whether a word begins there; and a blank belongs to no word. So behind
blanks it matches as it does without them, every offset moved by their number. When its matches
begin with no blank either, a search from the start of the text passes over the blanks.
-/

namespace ReactLint

def Cursor.shift (d : Nat) (s : Cursor) : Cursor :=
  ⟨d + s.pos, s.groups.map fun (n, i, j) => (n, d + i, d + j)⟩

namespace Regex

/-- Whether an expression looks at nothing in front of the place where it is run, other than whether
a word begins or ends there. -/
def looksForward : Regex → Bool
  | .empty => true
  | .one _ => true
  | .seq a b => a.looksForward && b.looksForward
  | .alt a b => a.looksForward && b.looksForward
  | .run .. => true
  | .loop body _ _ => body.looksForward
  | .group _ body => body.looksForward
  | .backref .. => true
  | .ahead _ body => body.looksForward
  | .behind .. => false
  | .atomic body => body.looksForward
  | .ifGroup _ yes no => yes.looksForward && no.looksForward
  | .anchor .textEnd => true
  | .anchor .lastLineEnd => true
  | .anchor .lineEnd => true
  | .anchor (.boundary negated _) => !negated
  | .anchor _ => false

variable {w t : Array Char} {k k' : Next} {body body' : Cursor → Next → Option Cursor}

/-- The second continuation answers behind `d` more characters as the first one does. -/
def Follows (d : Nat) (k k' : Next) : Prop := ∀ s, k' (s.shift d) = (k s).map (Cursor.shift d)

/-- The second way of matching, in front of a continuation that is moved by `d` characters, is the
first one moved by them. -/
def Moves (d : Nat) (body body' : Cursor → Next → Option Cursor) : Prop :=
  ∀ s k k', Follows d k k' → body' (s.shift d) k' = (body s k).map (Cursor.shift d)

theorem follows_some (d : Nat) : Follows d some some := fun _ => rfl

theorem Moves.follows {d : Nat} (hbody : Moves d body body') (h : Follows d k k') :
    Follows d (fun s => body s k) fun s => body' s k' :=
  fun s => hbody s k k' h

theorem Moves.seq {d : Nat} {rest rest' : Cursor → Next → Option Cursor}
    (hbody : Moves d body body') (hrest : Moves d rest rest') :
    Moves d (fun s k => body s fun s' => rest s' k) fun s k => body' s fun s' => rest' s' k :=
  fun s _ _ h => hbody s _ _ (hrest.follows h)

theorem Cursor.shift_moveTo (d i : Nat) (s : Cursor) :
    (s.shift d).moveTo (d + i) = (s.moveTo i).shift d := rfl

theorem getElem?_append_shift (w t : Array Char) (i : Nat) : (w ++ t)[w.size + i]? = t[i]? := by
  rw [Array.getElem?_append_right (Nat.le_add_right _ _), Nat.add_sub_cancel_left]

/-! ## Runs -/

theorem runEnd_shift (p : CharTest) (i limit : Nat) :
    runEnd (w ++ t) p (w.size + i) limit = w.size + runEnd t p i limit := by
  induction limit generalizing i with
  | zero => rfl
  | succ limit ih =>
    simp only [runEnd, getElem?_append_shift]
    split
    · split
      · exact ih (i + 1)
      · rfl
    · rfl

theorem runEnd_of_le {p : CharTest} {i limit more : Nat} (h : t.size ≤ i + limit)
    (hmore : limit ≤ more) : runEnd t p i more = runEnd t p i limit := by
  induction limit generalizing i more with
  | zero =>
    cases more with
    | zero => rfl
    | succ more => simp only [runEnd, Array.getElem?_eq_none (by omega : t.size ≤ i)]
  | succ limit ih =>
    obtain ⟨more, rfl⟩ : ∃ n, more = n + 1 := ⟨more - 1, by omega⟩
    simp only [runEnd]
    split
    · split
      · exact ih (by omega) (by omega)
      · rfl
    · rfl

theorem descend_shift {d : Nat} (h : Follows d k k') (s : Cursor) (lo n : Nat) :
    descend (s.shift d) k' (d + lo) n = (descend s k lo n).map (Cursor.shift d) := by
  induction n with
  | zero => exact h (s.moveTo lo)
  | succ n ih =>
    have hfirst : k' ((s.shift d).moveTo (d + lo + n + 1)) =
        (k (s.moveTo (lo + n + 1))).map (Cursor.shift d) := by
      rw [Nat.add_assoc, Nat.add_assoc]
      exact h (s.moveTo (lo + n + 1))
    simp only [descend, hfirst, ih]
    cases k (s.moveTo (lo + n + 1)) with
    | some r => rfl
    | none => rfl

theorem creep_shift (p : CharTest) (h : Follows w.size k k') (s : Cursor) (i n : Nat) :
    creep (w ++ t) p (s.shift w.size) k' (w.size + i) n =
      (creep t p s k i n).map (Cursor.shift w.size) := by
  induction n generalizing i with
  | zero => exact h (s.moveTo i)
  | succ n ih =>
    simp only [creep, Cursor.shift_moveTo, h (s.moveTo i), getElem?_append_shift]
    cases k (s.moveTo i) with
    | some r => rfl
    | none =>
      dsimp only [Option.map_none]
      split
      · split
        · exact ih (i + 1)
        · rfl
      · rfl

theorem creep_of_le {p : CharTest} {s : Cursor} {i limit more : Nat} (h : t.size ≤ i + limit)
    (hmore : limit ≤ more) : creep t p s k i more = creep t p s k i limit := by
  induction limit generalizing i more with
  | zero =>
    cases more with
    | zero => rfl
    | succ more =>
      simp only [creep, Array.getElem?_eq_none (by omega : t.size ≤ i)]
      cases k (s.moveTo i) with
      | some r => rfl
      | none => rfl
  | succ limit ih =>
    obtain ⟨more, rfl⟩ : ∃ n, more = n + 1 := ⟨more - 1, by omega⟩
    simp only [creep]
    split
    · rfl
    · split
      · split
        · exact ih (by omega) (by omega)
        · rfl
      · rfl

theorem moves_execRun (p : CharTest) (b : Bounds) (g : Greed) :
    Moves w.size (execRun t p b g) (execRun (w ++ t) p b g) := by
  intro s k k' h
  have hlo : (s.shift w.size).pos + b.min = w.size + (s.pos + b.min) := Nat.add_assoc _ _ _
  -- more characters make more room, but there is nothing behind the text to fill it
  obtain ⟨hroom, hend⟩ : b.max.getD t.size - b.min ≤ b.max.getD (w ++ t).size - b.min ∧
      (b.max = none → t.size ≤ s.pos + b.min + (b.max.getD t.size - b.min)) := by
    cases b.max with
    | none =>
      simp only [Option.getD_none, Array.size_append]
      omega
    | some m => simp
  have hrun : runEnd (w ++ t) p (w.size + (s.pos + b.min)) (b.max.getD (w ++ t).size - b.min) =
      w.size + runEnd t p (s.pos + b.min) (b.max.getD t.size - b.min) := by
    rw [runEnd_shift]
    cases hmax : b.max with
    | none => rw [← hmax, runEnd_of_le (hend hmax) hroom]
    | some m => rfl
  have hcreep : creep (w ++ t) p (s.shift w.size) k' (w.size + (s.pos + b.min))
      (b.max.getD (w ++ t).size - b.min) =
        (creep t p s k (s.pos + b.min) (b.max.getD t.size - b.min)).map (Cursor.shift w.size) := by
    rw [creep_shift p h]
    cases hmax : b.max with
    | none => rw [← hmax, creep_of_le (hend hmax) hroom]
    | some m => rfl
  have hmin : runEnd (w ++ t) p (s.shift w.size).pos b.min = w.size + runEnd t p s.pos b.min :=
    runEnd_shift p s.pos b.min
  simp only [execRun, hlo, hmin, hrun, Nat.add_lt_add_iff_left]
  split
  · rfl
  · cases g with
    | greedy =>
      rw [Nat.add_sub_add_left]
      exact descend_shift h s _ _
    | lazy => exact hcreep
    | possessive => exact h (s.moveTo _)

/-! ## Loops -/

theorem moves_require {d : Nat} (hbody : Moves d body body') (n : Nat) :
    Moves d (require body n) (require body' n) := by
  induction n with
  | zero => exact fun s _ _ h => h s
  | succ n ih => exact hbody.seq ih

theorem map_add_eq_pos_shift {d : Nat} {last : Option Nat} {s : Cursor} :
    last.map (d + ·) = some (s.shift d).pos ↔ last = some s.pos := by
  cases last with
  | none => simp
  | some i => simp [Cursor.shift]

theorem moves_greedyRounds {d : Nat} (hbody : Moves d body body') (fuel : Nat)
    (budget last : Option Nat) :
    Moves d (greedyRounds body fuel budget last)
      (greedyRounds body' fuel budget (last.map (d + ·))) := by
  induction fuel generalizing budget last with
  | zero => exact fun s _ _ h => h s
  | succ fuel ih =>
    intro s k k' h
    have hround := hbody s _ _ ((ih (budget.map (· - 1)) (some s.pos)).follows h)
    simp only [greedyRounds, map_add_eq_pos_shift]
    split
    · exact h s
    · rw [Option.map_some] at hround
      simp only [Cursor.shift] at hround ⊢
      rw [hround]
      cases body s fun s' => greedyRounds body fuel (budget.map (· - 1)) (some s.pos) s' k with
      | some r => rfl
      | none => exact h s

theorem moves_lazyRounds {d : Nat} (hbody : Moves d body body') (fuel : Nat)
    (budget last : Option Nat) :
    Moves d (lazyRounds body fuel budget last)
      (lazyRounds body' fuel budget (last.map (d + ·))) := by
  induction fuel generalizing budget last with
  | zero => exact fun s _ _ h => h s
  | succ fuel ih =>
    intro s k k' h
    have hround := hbody s _ _ ((ih (budget.map (· - 1)) (some s.pos)).follows h)
    simp only [lazyRounds, map_add_eq_pos_shift, h s]
    cases k s with
    | some r => rfl
    | none =>
      dsimp only [Option.map_none]
      split
      · rfl
      · exact hround

theorem firstRounds_shift {d : Nat} (hbody : Moves d body body') (n : Nat) (s : Cursor) :
    firstRounds (body' · some) n (s.shift d) =
      (firstRounds (body · some) n s).map (Cursor.shift d) := by
  induction n generalizing s with
  | zero => rfl
  | succ n ih =>
    simp only [firstRounds, hbody s some some (follows_some d)]
    cases body s some with
    | none => rfl
    | some s₁ => exact ih s₁

theorem allRounds_shift {d : Nat} (hbody : Moves d body body') (fuel : Nat)
    (budget last : Option Nat) (s : Cursor) :
    allRounds (body' · some) fuel budget (last.map (d + ·)) (s.shift d) =
      (allRounds (body · some) fuel budget last s).shift d := by
  induction fuel generalizing budget last s with
  | zero => rfl
  | succ fuel ih =>
    simp only [allRounds, map_add_eq_pos_shift, hbody s some some (follows_some d)]
    split
    · rfl
    · cases body s some with
      | none => rfl
      | some s₁ => exact ih (budget.map (· - 1)) (some s.pos) s₁

theorem moves_execLoop (hbody : Moves w.size body body') (b : Bounds) (g : Greed) :
    Moves w.size (execLoop t body b g) (execLoop (w ++ t) body' b g) := by
  intro s k k' h
  have hfuel (s : Cursor) : (w ++ t).size - (s.shift w.size).pos + 2 = t.size - s.pos + 2 := by
    simp only [Array.size_append, Cursor.shift, Nat.add_sub_add_left]
  cases g with
  | greedy =>
    refine moves_require hbody b.min s _ _ fun s' => ?_
    rw [hfuel]
    exact moves_greedyRounds hbody _ _ none s' k k' h
  | lazy =>
    refine moves_require hbody b.min s _ _ fun s' => ?_
    rw [hfuel]
    exact moves_lazyRounds hbody _ _ none s' k k' h
  | possessive =>
    simp only [execLoop, firstRounds_shift hbody]
    cases firstRounds (body · some) b.min s with
    | none => rfl
    | some s₁ =>
      have hall := allRounds_shift hbody (t.size - s₁.pos + 2) (b.max.map (· - b.min)) none s₁
      simp only [Option.map_some, hfuel]
      rw [← h, ← hall]
      rfl

/-! ## Places and groups -/

theorem isWordAt_shift (ascii : Bool) (i : Nat) :
    isWordAt (w ++ t) ascii (w.size + i) = isWordAt t ascii i := by
  simp only [isWordAt, getElem?_append_shift]

theorem isWordAt_blanks (hw : ∀ c ∈ w, Text.isBlank c = true) (ascii : Bool) {i : Nat}
    (hi : i < w.size) : isWordAt (w ++ t) ascii i = false := by
  have hblank := hw w[i] (Array.getElem_mem hi)
  simp only [isWordAt, Array.getElem?_append_left hi, Array.getElem?_eq_getElem hi, CharKind.holds]
  split
  · exact Text.isAsciiWord_of_isBlank hblank
  · exact Text.isWord_of_isBlank hblank

theorem isWordAt_of_size_le {ascii : Bool} {i : Nat} (h : t.size ≤ i) :
    isWordAt t ascii i = false := by
  simp only [isWordAt, Array.getElem?_eq_none h]

/-- What stands in front of a place: a blank counts for a word as little as the start of the text.
-/
theorem isWordBefore_shift (hw : ∀ c ∈ w, Text.isBlank c = true) (ascii : Bool) (i : Nat) :
    (w.size + i != 0 && isWordAt (w ++ t) ascii (w.size + i - 1)) =
      (i != 0 && isWordAt t ascii (i - 1)) := by
  cases i with
  | zero =>
    cases hsize : w.size with
    | zero => rfl
    | succ n =>
      have hbefore := isWordAt_blanks (t := t) hw ascii (i := n) (by omega)
      simp [hbefore]
  | succ i =>
    have hbefore := isWordAt_shift (w := w) (t := t) ascii i
    simp [← Nat.add_assoc, hbefore]

theorem anchored_boundary (t : Array Char) (ascii : Bool) (i : Nat) :
    anchored t i (.boundary false ascii) =
      ((i != 0 && isWordAt t ascii (i - 1)) != isWordAt t ascii i) := by
  by_cases hsize : t.size = 0
  · simp [anchored, hsize, isWordAt_of_size_le (t := t) (i := i) (by omega),
      isWordAt_of_size_le (t := t) (i := i - 1) (by omega)]
  · simp [anchored, hsize]

theorem anchored_shift (hw : ∀ c ∈ w, Text.isBlank c = true) {a : Anchor}
    (ha : (Regex.anchor a).looksForward = true) (i : Nat) :
    anchored (w ++ t) (w.size + i) a = anchored t i a := by
  have hend (n : Nat) : (w.size + n == (w ++ t).size) = (n == t.size) := by
    rw [Bool.eq_iff_iff, beq_iff_eq, beq_iff_eq, Array.size_append]
    omega
  cases a with
  | textStart => cases ha
  | lineStart => cases ha
  | textEnd => exact hend i
  | lastLineEnd => simp only [anchored, Nat.add_assoc, hend, getElem?_append_shift]
  | lineEnd => simp only [anchored, hend, getElem?_append_shift]
  | boundary negated ascii =>
    cases negated with
    | true => cases ha
    | false =>
      rw [anchored_boundary, anchored_boundary, isWordBefore_shift hw, isWordAt_shift]

theorem repeats_shift (f : Folding) (i j n : Nat) :
    repeats (w ++ t) f (w.size + i) (w.size + j) n = repeats t f i j n := by
  induction n generalizing i j with
  | zero => rfl
  | succ n ih =>
    simp only [repeats, getElem?_append_shift]
    split
    · exact congrArg _ (ih (i + 1) (j + 1))
    · rfl

theorem span?_shift (d n : Nat) (s : Cursor) :
    (s.shift d).span? n = (s.span? n).map fun (i, j) => (d + i, d + j) := by
  obtain ⟨pos, groups⟩ := s
  simp only [Cursor.span?, Cursor.shift]
  induction groups with
  | nil => rfl
  | cons g groups ih =>
    obtain ⟨m, i, j⟩ := g
    simp only [List.map_cons, List.lookup_cons]
    split
    · rfl
    · exact ih

/-! ## Expressions -/

/-- Behind blanks an expression that looks forward matches as it does without them. -/
theorem moves_exec (hw : ∀ c ∈ w, Text.isBlank c = true) {r : Regex}
    (hr : r.looksForward = true) : Moves w.size (exec t r) (exec (w ++ t) r) := by
  induction r with
  | empty => exact fun s _ _ h => h s
  | one p =>
    intro s k k' h
    have hchar : (w ++ t)[(s.shift w.size).pos]? = t[s.pos]? := getElem?_append_shift w t s.pos
    simp only [exec, hchar]
    split
    · split
      · exact h (s.moveTo (s.pos + 1))
      · rfl
    · rfl
  | seq a b iha ihb =>
    obtain ⟨ha, hb⟩ := Bool.and_eq_true_iff.mp hr
    exact (iha ha).seq (ihb hb)
  | alt a b iha ihb =>
    obtain ⟨ha, hb⟩ := Bool.and_eq_true_iff.mp hr
    intro s k k' h
    simp only [exec, iha ha s k k' h]
    cases exec t a s k with
    | some r => rfl
    | none => exact ihb hb s k k' h
  | run p b g => exact moves_execRun p b g
  | loop body b g ih => exact moves_execLoop (ih hr) b g
  | group n body ih => exact fun s k k' h => ih hr s _ _ fun s' => h (s'.close n s.pos)
  | backref n f =>
    intro s k k' h
    simp only [exec, span?_shift]
    cases s.span? n with
    | none => rfl
    | some span =>
      obtain ⟨i, j⟩ := span
      have hrepeats := repeats_shift (w := w) (t := t) f s.pos i (j - i)
      simp only [Option.map_some, Nat.add_sub_add_left]
      simp only [Cursor.shift, hrepeats]
      split
      · have hmoved := h (s.moveTo (s.pos + (j - i)))
        simpa only [Cursor.shift, Cursor.moveTo, Nat.add_assoc] using hmoved
      · rfl
  | ahead negated body ih =>
    intro s k k' h
    simp only [exec, ih hr s some some (follows_some _)]
    cases exec t body s some with
    | none =>
      dsimp only [Option.map_none]
      split
      · exact h s
      · rfl
    | some s₁ =>
      dsimp only [Option.map_some]
      split
      · rfl
      · exact h (s₁.moveTo s.pos)
  | behind negated width body ih => cases hr
  | atomic body ih =>
    intro s k k' h
    simp only [exec, ih hr s some some (follows_some _)]
    cases exec t body s some with
    | none => rfl
    | some s₁ => exact h s₁
  | ifGroup n yes no ihyes ihno =>
    obtain ⟨hyes, hno⟩ := Bool.and_eq_true_iff.mp hr
    intro s k k' h
    simp only [exec, span?_shift, Option.isSome_map]
    split
    · exact ihyes hyes s k k' h
    · exact ihno hno s k k' h
  | anchor a =>
    intro s k k' h
    have hplace : anchored (w ++ t) (s.shift w.size).pos a = anchored t s.pos a :=
      anchored_shift hw hr s.pos
    simp only [exec, hplace]
    split
    · exact h s
    · rfl

theorem matchAt_shift (hw : ∀ c ∈ w, Text.isBlank c = true) {r : Regex}
    (hr : r.looksForward = true) (i : Nat) :
    matchAt (w ++ t) r (w.size + i) = (matchAt t r i).map (Cursor.shift w.size) :=
  moves_exec hw hr (.start i) some some (follows_some _)

theorem matchAt_blanks (hw : ∀ c ∈ w, Text.isBlank c = true) {r : Regex}
    (hr : r.lead = .visible) {i : Nat} (hi : i < w.size) : matchAt (w ++ t) r i = none := by
  cases h : matchAt (w ++ t) r i with
  | none => rfl
  | some c =>
    obtain ⟨a, ha, hvisible⟩ := visibleAt_of_matchAt hr h
    rw [Array.getElem?_append_left hi, Array.getElem?_eq_getElem hi] at ha
    cases ha
    rw [hw _ (Array.getElem_mem hi)] at hvisible
    cases hvisible

theorem searchFrom_shift (hw : ∀ c ∈ w, Text.isBlank c = true) {r : Regex}
    (hr : r.looksForward = true) (i n : Nat) :
    searchFrom (w ++ t) r (w.size + i) n =
      (searchFrom t r i n).map fun (j, s) => (w.size + j, s.shift w.size) := by
  induction n generalizing i with
  | zero => rfl
  | succ n ih =>
    simp only [searchFrom, matchAt_shift hw hr]
    cases matchAt t r i with
    | some s => rfl
    | none => exact ih (i + 1)

theorem searchFrom_skip {r : Regex} {i n : Nat} (m : Nat)
    (h : ∀ l, i ≤ l → l < i + m → matchAt t r l = none) :
    searchFrom t r i (m + n) = searchFrom t r (i + m) n := by
  induction m generalizing i with
  | zero => rw [Nat.zero_add, Nat.add_zero]
  | succ m ih =>
    rw [Nat.succ_add_eq_add_succ, Nat.add_succ, searchFrom, h i (Nat.le_refl i) (by omega)]
    dsimp only
    rw [ih fun l hl hlt => h l (by omega) (by omega), Nat.add_right_comm]
    rfl

theorem search_shift (hw : ∀ c ∈ w, Text.isBlank c = true) {r : Regex}
    (hr : r.looksForward = true) (i : Nat) :
    search (w ++ t) r (w.size + i) =
      (search t r i).map fun (j, s) => (w.size + j, s.shift w.size) := by
  have hrest : (w ++ t).size + 1 - (w.size + i) = t.size + 1 - i := by
    rw [Array.size_append]
    omega
  rw [search, search, hrest, searchFrom_shift hw hr]

theorem search_zero_shift (hw : ∀ c ∈ w, Text.isBlank c = true) {r : Regex}
    (hlead : r.lead = .visible) :
    search (w ++ t) r 0 = search (w ++ t) r w.size := by
  have hsplit : (w ++ t).size + 1 - 0 = w.size + ((w ++ t).size + 1 - w.size) := by
    rw [Array.size_append]
    omega
  have hskip := searchFrom_skip (t := w ++ t) (r := r) (i := 0)
    (n := (w ++ t).size + 1 - w.size) w.size fun l _ hl =>
      matchAt_blanks hw hlead (by omega)
  rw [search, search, hsplit, hskip, Nat.zero_add]

end Regex

end ReactLint
