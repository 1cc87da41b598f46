import ReactLint.Pattern

/-!
# Where a match begins and ends

An expression that is run at an offset of the text hands its continuation only cursors between that
offset and the end of the text, whatever it repeats, looks behind at or refers back to. So a match
never ends in front of its start nor behind the text. A search answers with the match at the first
offset that has one, and the match at an offset is the same wherever the search began.
-/

namespace ReactLint.Regex

variable {t : Array Char}

/-- What an expression does with the text: it goes on from cursors that lie between its own offset
and the end of the text, and its answer is the answer of what follows there. -/
def Advances (t : Array Char) (body : Cursor → Next → Option Cursor) : Prop :=
  ∀ s k c, s.pos ≤ t.size → body s k = some c →
    ∃ s', s.pos ≤ s'.pos ∧ s'.pos ≤ t.size ∧ k s' = some c

theorem le_runEnd (p : CharTest) (i limit : Nat) : i ≤ runEnd t p i limit := by
  induction limit generalizing i with
  | zero => exact Nat.le_refl i
  | succ limit ih =>
    simp only [runEnd]
    split
    · split
      · exact Nat.le_of_succ_le (ih (i + 1))
      · exact Nat.le_refl i
    · exact Nat.le_refl i

theorem runEnd_le_size (p : CharTest) {i : Nat} (hi : i ≤ t.size) (limit : Nat) :
    runEnd t p i limit ≤ t.size := by
  induction limit generalizing i with
  | zero => exact hi
  | succ limit ih =>
    simp only [runEnd]
    split
    · rename_i c hc
      obtain ⟨hlt, -⟩ := Array.getElem?_eq_some_iff.mp hc
      split
      · exact ih hlt
      · exact hi
    · exact hi

theorem descend_some {s : Cursor} {k : Next} {lo n : Nat} {c : Cursor}
    (h : descend s k lo n = some c) : ∃ j, lo ≤ j ∧ j ≤ lo + n ∧ k (s.moveTo j) = some c := by
  induction n with
  | zero => exact ⟨lo, Nat.le_refl lo, Nat.le_refl lo, h⟩
  | succ n ih =>
    simp only [descend] at h
    split at h
    · rename_i r hr
      exact ⟨lo + n + 1, by omega, by omega, hr.trans h⟩
    · obtain ⟨j, hlo, hhi, hj⟩ := ih h
      exact ⟨j, hlo, by omega, hj⟩

theorem creep_some {p : CharTest} {s : Cursor} {k : Next} {i n : Nat} {c : Cursor}
    (hi : i ≤ t.size) (h : creep t p s k i n = some c) :
    ∃ j, i ≤ j ∧ j ≤ t.size ∧ k (s.moveTo j) = some c := by
  induction n generalizing i with
  | zero => exact ⟨i, Nat.le_refl i, hi, h⟩
  | succ n ih =>
    simp only [creep] at h
    split at h
    · rename_i r hr
      exact ⟨i, Nat.le_refl i, hi, hr.trans h⟩
    · split at h
      · rename_i a ha
        obtain ⟨hlt, -⟩ := Array.getElem?_eq_some_iff.mp ha
        split at h
        · obtain ⟨j, hij, hj, hk⟩ := ih hlt h
          exact ⟨j, by omega, hj, hk⟩
        · cases h
      · cases h

theorem advances_execRun (p : CharTest) (b : Bounds) (g : Greed) :
    Advances t (execRun t p b g) := by
  intro s k c hs h
  simp only [execRun] at h
  split at h
  · cases h
  · rename_i hmin
    -- the required characters are there, so the first offset to try lies inside the text
    have hend := runEnd_le_size p hs b.min
    have hlo : s.pos + b.min ≤ t.size := by omega
    have hroom := runEnd_le_size p hlo (b.max.getD t.size - b.min)
    have hstart := le_runEnd (t := t) p (s.pos + b.min) (b.max.getD t.size - b.min)
    cases g with
    | greedy =>
      obtain ⟨j, hj, hjn, hk⟩ := descend_some h
      exact ⟨s.moveTo j, by simp only [Cursor.moveTo]; omega,
        by simp only [Cursor.moveTo]; omega, hk⟩
    | lazy =>
      obtain ⟨j, hj, hjn, hk⟩ := creep_some hlo h
      exact ⟨s.moveTo j, by simp only [Cursor.moveTo]; omega, hjn, hk⟩
    | possessive =>
      exact ⟨s.moveTo _, by simp only [Cursor.moveTo]; omega, hroom, h⟩

theorem Advances.seq {body rest : Cursor → Next → Option Cursor} (hbody : Advances t body)
    (hrest : Advances t rest) {s : Cursor} {k : Next} {c : Cursor} (hs : s.pos ≤ t.size)
    (h : (body s fun s' => rest s' k) = some c) :
    ∃ s', s.pos ≤ s'.pos ∧ s'.pos ≤ t.size ∧ k s' = some c := by
  obtain ⟨s₁, hle₁, hs₁, h₁⟩ := hbody s _ c hs h
  obtain ⟨s₂, hle₂, hs₂, h₂⟩ := hrest s₁ k c hs₁ h₁
  exact ⟨s₂, Nat.le_trans hle₁ hle₂, hs₂, h₂⟩

theorem advances_require {body : Cursor → Next → Option Cursor} (hbody : Advances t body)
    (n : Nat) : Advances t (require body n) := by
  induction n with
  | zero => exact fun s k c hs h => ⟨s, Nat.le_refl _, hs, h⟩
  | succ n ih => exact fun s k c hs h => hbody.seq ih hs h

theorem advances_greedyRounds {body : Cursor → Next → Option Cursor} (hbody : Advances t body)
    (fuel : Nat) (budget last : Option Nat) :
    Advances t (greedyRounds body fuel budget last) := by
  induction fuel generalizing budget last with
  | zero => exact fun s k c hs h => ⟨s, Nat.le_refl _, hs, h⟩
  | succ fuel ih =>
    intro s k c hs h
    simp only [greedyRounds] at h
    split at h
    · exact ⟨s, Nat.le_refl _, hs, h⟩
    · split at h
      · rename_i r hr
        exact hbody.seq (ih _ _) hs (hr.trans h)
      · exact ⟨s, Nat.le_refl _, hs, h⟩

theorem advances_lazyRounds {body : Cursor → Next → Option Cursor} (hbody : Advances t body)
    (fuel : Nat) (budget last : Option Nat) :
    Advances t (lazyRounds body fuel budget last) := by
  induction fuel generalizing budget last with
  | zero => exact fun s k c hs h => ⟨s, Nat.le_refl _, hs, h⟩
  | succ fuel ih =>
    intro s k c hs h
    simp only [lazyRounds] at h
    split at h
    · rename_i r hr
      exact ⟨s, Nat.le_refl _, hs, hr.trans h⟩
    · split at h
      · cases h
      · exact hbody.seq (ih _ _) hs h

theorem Advances.first {body : Cursor → Next → Option Cursor} (hbody : Advances t body)
    {s c : Cursor} (hs : s.pos ≤ t.size) (h : body s some = some c) :
    s.pos ≤ c.pos ∧ c.pos ≤ t.size := by
  obtain ⟨s', hle, hs', hc⟩ := hbody s some c hs h
  cases hc
  exact ⟨hle, hs'⟩

theorem firstRounds_bounds {body : Cursor → Next → Option Cursor} (hbody : Advances t body)
    {n : Nat} {s c : Cursor} (hs : s.pos ≤ t.size) (h : firstRounds (body · some) n s = some c) :
    s.pos ≤ c.pos ∧ c.pos ≤ t.size := by
  induction n generalizing s with
  | zero =>
    cases h
    exact ⟨Nat.le_refl _, hs⟩
  | succ n ih =>
    obtain ⟨s₁, hfirst, hrest⟩ := Option.bind_eq_some_iff.mp h
    obtain ⟨hle₁, hs₁⟩ := hbody.first hs hfirst
    obtain ⟨hle₂, hc⟩ := ih hs₁ hrest
    exact ⟨Nat.le_trans hle₁ hle₂, hc⟩

theorem allRounds_bounds {body : Cursor → Next → Option Cursor} (hbody : Advances t body)
    (fuel : Nat) (budget last : Option Nat) {s : Cursor} (hs : s.pos ≤ t.size) :
    s.pos ≤ (allRounds (body · some) fuel budget last s).pos ∧
      (allRounds (body · some) fuel budget last s).pos ≤ t.size := by
  induction fuel generalizing budget last s with
  | zero => exact ⟨Nat.le_refl _, hs⟩
  | succ fuel ih =>
    simp only [allRounds]
    split
    · exact ⟨Nat.le_refl _, hs⟩
    · split
      · rename_i s₁ hfirst
        obtain ⟨hle₁, hs₁⟩ := hbody.first hs hfirst
        obtain ⟨hle₂, hc⟩ := ih (budget.map (· - 1)) (some s.pos) hs₁
        exact ⟨Nat.le_trans hle₁ hle₂, hc⟩
      · exact ⟨Nat.le_refl _, hs⟩

theorem advances_execLoop {body : Cursor → Next → Option Cursor} (hbody : Advances t body)
    (b : Bounds) (g : Greed) : Advances t (execLoop t body b g) := by
  intro s k c hs h
  cases g with
  | greedy =>
    obtain ⟨s₁, hle₁, hs₁, h₁⟩ := advances_require hbody b.min s _ c hs h
    obtain ⟨s₂, hle₂, hs₂, h₂⟩ := advances_greedyRounds hbody _ _ _ s₁ k c hs₁ h₁
    exact ⟨s₂, Nat.le_trans hle₁ hle₂, hs₂, h₂⟩
  | lazy =>
    obtain ⟨s₁, hle₁, hs₁, h₁⟩ := advances_require hbody b.min s _ c hs h
    obtain ⟨s₂, hle₂, hs₂, h₂⟩ := advances_lazyRounds hbody _ _ _ s₁ k c hs₁ h₁
    exact ⟨s₂, Nat.le_trans hle₁ hle₂, hs₂, h₂⟩
  | possessive =>
    simp only [execLoop] at h
    split at h
    · rename_i s₁ hfirst
      obtain ⟨hle₁, hs₁⟩ := firstRounds_bounds hbody hs hfirst
      obtain ⟨hle₂, hs₂⟩ := allRounds_bounds hbody (t.size - s₁.pos + 2)
        (b.max.map (· - b.min)) none hs₁
      exact ⟨_, Nat.le_trans hle₁ hle₂, hs₂, h⟩
    · cases h

theorem repeats_le_size {f : Folding} {i j n : Nat} (hi : i ≤ t.size)
    (h : repeats t f i j n = true) : i + n ≤ t.size := by
  induction n generalizing i j with
  | zero => exact hi
  | succ n ih =>
    simp only [repeats] at h
    split at h
    · rename_i a b ha hb
      obtain ⟨hlt, -⟩ := Array.getElem?_eq_some_iff.mp ha
      have hrest := ih hlt (Bool.and_eq_true_iff.mp h).2
      omega
    · cases h

theorem advances_exec (r : Regex) : Advances t (exec t r) := by
  induction r with
  | empty => exact fun s k c hs h => ⟨s, Nat.le_refl _, hs, h⟩
  | one p =>
    intro s k c hs h
    simp only [exec] at h
    split at h
    · rename_i a ha
      obtain ⟨hlt, -⟩ := Array.getElem?_eq_some_iff.mp ha
      split at h
      · exact ⟨s.moveTo (s.pos + 1), Nat.le_succ _, hlt, h⟩
      · cases h
    · cases h
  | seq a b iha ihb => exact fun s k c hs h => iha.seq ihb hs h
  | alt a b iha ihb =>
    intro s k c hs h
    simp only [exec] at h
    split at h
    · rename_i r hr
      exact iha s k c hs (hr.trans h)
    · exact ihb s k c hs h
  | run p b g => exact advances_execRun p b g
  | loop body b g ih => exact advances_execLoop ih b g
  | group n body ih =>
    intro s k c hs h
    obtain ⟨s₁, hle, hs₁, h₁⟩ := ih s _ c hs h
    exact ⟨s₁.close n s.pos, hle, hs₁, h₁⟩
  | backref n f =>
    intro s k c hs h
    simp only [exec] at h
    split at h
    · split at h
      · rename_i hrep
        exact ⟨_, Nat.le_add_right _ _, repeats_le_size hs hrep, h⟩
      · cases h
    · cases h
  | ahead negated body ih =>
    intro s k c hs h
    simp only [exec] at h
    split at h
    · rename_i s₁ hfirst
      split at h
      · cases h
      · exact ⟨s₁.moveTo s.pos, Nat.le_refl _, hs, h⟩
    · split at h
      · exact ⟨s, Nat.le_refl _, hs, h⟩
      · cases h
  | behind negated width body ih =>
    intro s k c hs h
    simp only [exec] at h
    split at h
    · rename_i s₁ hfirst
      split at h
      · cases h
      · exact ⟨s₁.moveTo s.pos, Nat.le_refl _, hs, h⟩
    · split at h
      · exact ⟨s, Nat.le_refl _, hs, h⟩
      · cases h
  | atomic body ih =>
    intro s k c hs h
    simp only [exec] at h
    split at h
    · rename_i s₁ hfirst
      obtain ⟨hle, hs₁⟩ := ih.first hs hfirst
      exact ⟨s₁, hle, hs₁, h⟩
    · cases h
  | ifGroup n yes no ihyes ihno =>
    intro s k c hs h
    simp only [exec] at h
    split at h
    · exact ihyes s k c hs h
    · exact ihno s k c hs h
  | anchor a =>
    intro s k c hs h
    simp only [exec] at h
    split at h
    · exact ⟨s, Nat.le_refl _, hs, h⟩
    · cases h

theorem matchAt_bounds {r : Regex} {i : Nat} {c : Cursor} (hi : i ≤ t.size)
    (h : matchAt t r i = some c) : i ≤ c.pos ∧ c.pos ≤ t.size :=
  (advances_exec r).first (s := .start i) hi h

theorem searchFrom_eq_some_iff {r : Regex} {i n j : Nat} {c : Cursor} :
    searchFrom t r i n = some (j, c) ↔
      i ≤ j ∧ j < i + n ∧ matchAt t r j = some c ∧
        ∀ l, i ≤ l → l < j → matchAt t r l = none := by
  induction n generalizing i with
  | zero => simp only [searchFrom, reduceCtorEq, false_iff]; omega
  | succ n ih =>
    simp only [searchFrom]
    cases hi : matchAt t r i with
    | some s =>
      simp only [Option.some.injEq, Prod.mk.injEq]
      constructor
      · rintro ⟨rfl, rfl⟩
        exact ⟨Nat.le_refl _, by omega, hi, fun l hil hlj => by omega⟩
      · rintro ⟨hij, -, hj, hnone⟩
        rcases Nat.lt_or_eq_of_le hij with hlt | rfl
        · rw [hnone i (Nat.le_refl _) hlt] at hi
          cases hi
        · rw [hi] at hj
          exact ⟨rfl, Option.some.inj hj⟩
    | none =>
      rw [ih]
      constructor
      · rintro ⟨hij, hjn, hj, hnone⟩
        refine ⟨by omega, by omega, hj, fun l hil hlj => ?_⟩
        rcases Nat.lt_or_eq_of_le hil with hlt | rfl
        · exact hnone l hlt hlj
        · exact hi
      · rintro ⟨hij, hjn, hj, hnone⟩
        have hne : i ≠ j := by
          rintro rfl
          rw [hi] at hj
          cases hj
        exact ⟨by omega, by omega, hj, fun l hil hlj => hnone l (by omega) hlj⟩

theorem searchFrom_eq_none_iff {r : Regex} {i n : Nat} :
    searchFrom t r i n = none ↔ ∀ l, i ≤ l → l < i + n → matchAt t r l = none := by
  induction n generalizing i with
  | zero => simp only [searchFrom, true_iff]; omega
  | succ n ih =>
    simp only [searchFrom]
    cases hi : matchAt t r i with
    | some s =>
      simp only [reduceCtorEq, false_iff]
      intro hnone
      rw [hnone i (Nat.le_refl _) (by omega)] at hi
      cases hi
    | none =>
      rw [ih]
      constructor
      · intro hnone l hil hln
        rcases Nat.lt_or_eq_of_le hil with hlt | rfl
        · exact hnone l hlt (by omega)
        · exact hi
      · exact fun hnone l hil hln => hnone l (by omega) (by omega)

end ReactLint.Regex

namespace ReactLint.Pattern

variable {p : Pattern} {t : Array Char} {i : Nat}

theorem search_eq_some_iff {m : Match} :
    p.search t i = some m ↔
      i ≤ m.start ∧ m.start ≤ t.size ∧ p.regex.matchAt t m.start = some ⟨m.stop, m.groups⟩ ∧
        ∀ l, i ≤ l → l < m.start → p.regex.matchAt t l = none := by
  obtain ⟨start, stop, groups⟩ := m
  have hmap : p.search t i = some ⟨start, stop, groups⟩ ↔
      p.regex.search t i = some (start, ⟨stop, groups⟩) := by
    simp only [search, Option.map_eq_some_iff, Prod.exists, Match.mk.injEq]
    constructor
    · rintro ⟨j, ⟨pos, spans⟩, hs, rfl, rfl, rfl⟩
      exact hs
    · exact fun hs => ⟨start, ⟨stop, groups⟩, hs, rfl, rfl, rfl⟩
  rw [hmap, Regex.search, Regex.searchFrom_eq_some_iff]
  dsimp only
  constructor
  · rintro ⟨hle, hlt, hat, hnone⟩
    exact ⟨hle, by omega, hat, hnone⟩
  · rintro ⟨hle, hsize, hat, hnone⟩
    exact ⟨hle, by omega, hat, hnone⟩

theorem search_eq_none_iff :
    p.search t i = none ↔ ∀ l, i ≤ l → l ≤ t.size → p.regex.matchAt t l = none := by
  simp only [search, Option.map_eq_none_iff, Regex.search, Regex.searchFrom_eq_none_iff]
  constructor
  · exact fun hnone l hil hl => hnone l hil (by omega)
  · exact fun hnone l hil hl => hnone l hil (by omega)

theorem search_bounds {m : Match} (h : p.search t i = some m) :
    i ≤ m.start ∧ m.start ≤ m.stop ∧ m.stop ≤ t.size := by
  obtain ⟨hle, hsize, hat, -⟩ := search_eq_some_iff.mp h
  obtain ⟨hstop, hend⟩ := Regex.matchAt_bounds hsize hat
  exact ⟨hle, hstop, hend⟩

end ReactLint.Pattern
