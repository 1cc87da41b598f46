import ReactLint.Proofs.Matching
import ReactLint.Proofs.Stands

/-!
# Everything that an expression can match

The ways of matching of an expression are told by the text that it may take, without an order of
preference and without a continuation. Running the expression in front of a continuation goes
through all of them: it answers exactly if there is a way to a cursor that the continuation accepts,
and its answer is then the answer there. Only what keeps its first way of matching, such as an
atomic group, is told by running it.
-/

namespace ReactLint

variable {t : Array Char} {i : Nat} {cs : List Char}

namespace Regex

variable {p : CharTest} {b : Bounds} {g : Greed} {s s' : Cursor} {k : Next}
  {body rest : Cursor → Next → Option Cursor} {rel rel' : Cursor → Cursor → Prop}

/-! ## Ways of matching -/

def Repeated (rel : Cursor → Cursor → Prop) : Nat → Cursor → Cursor → Prop
  | 0, s, s' => s' = s
  | n + 1, s, s' => ∃ m, rel s m ∧ Repeated rel n m s'

/-- Further rounds of a loop. None is entered where the round before it was. -/
inductive Further (rel : Cursor → Cursor → Prop) :
    Option Nat → Option Nat → Cursor → Cursor → Prop where
  | stop {budget last : Option Nat} {s : Cursor} : Further rel budget last s s
  | round {budget last : Option Nat} {s m s' : Cursor} : budget ≠ some 0 → last ≠ some s.pos →
      rel s m → Further rel (budget.map (· - 1)) (some s.pos) m s' → Further rel budget last s s'

def Runs (t : Array Char) (p : CharTest) (b : Bounds) (s s' : Cursor) : Prop :=
  ∃ cs, Stands t s.pos cs ∧ (∀ c ∈ cs, p.accepts c = true) ∧ b.min ≤ cs.length ∧
    (∀ m, b.max = some m → cs.length ≤ max b.min m) ∧ s' = s.moveTo (s.pos + cs.length)

/-- What an expression can match: it may lead from the first cursor to the second one. -/
def Reaches (t : Array Char) : Regex → Cursor → Cursor → Prop
  | .empty, s, s' => s' = s
  | .one p, s, s' => ∃ c, Stands t s.pos [c] ∧ p.accepts c = true ∧ s' = s.moveTo (s.pos + 1)
  | .seq a b, s, s' => ∃ m, Reaches t a s m ∧ Reaches t b m s'
  | .alt a b, s, s' => Reaches t a s s' ∨ Reaches t b s s'
  | .run p b .possessive, s, s' => execRun t p b .possessive s some = some s'
  | .run p b _, s, s' => Runs t p b s s'
  | .loop body b .possessive, s, s' => execLoop t (exec t body) b .possessive s some = some s'
  | .loop body b _, s, s' => ∃ m, Repeated (Reaches t body) b.min s m ∧
      Further (Reaches t body) (b.max.map (· - b.min)) none m s'
  | .group n body, s, s' => ∃ m, Reaches t body s m ∧ s' = m.close n s.pos
  | .backref n f, s, s' => ∃ i j, s.span? n = some (i, j) ∧
      repeats t f s.pos i (j - i) = true ∧ s' = s.moveTo (s.pos + (j - i))
  | .ahead false body, s, s' => ∃ m, exec t body s some = some m ∧ s' = m.moveTo s.pos
  | .ahead true body, s, s' => (∀ m, ¬ Reaches t body s m) ∧ s' = s
  | .behind false width body, s, s' => width ≤ s.pos ∧
      ∃ m, exec t body (s.moveTo (s.pos - width)) some = some m ∧ s' = m.moveTo s.pos
  | .behind true width body, s, s' =>
      (width ≤ s.pos → ∀ m, ¬ Reaches t body (s.moveTo (s.pos - width)) m) ∧ s' = s
  | .atomic body, s, s' => exec t body s some = some s'
  | .ifGroup n yes no, s, s' =>
      if (s.span? n).isSome then Reaches t yes s s' else Reaches t no s s'
  | .anchor a, s, s' => anchored t s.pos a = true ∧ s' = s

/-- Running an expression goes through all of its ways of matching. -/
structure Explores (t : Array Char) (body : Cursor → Next → Option Cursor)
    (rel : Cursor → Cursor → Prop) : Prop where
  advances : Advances t body
  sound : ∀ s k c, s.pos ≤ t.size → body s k = some c → ∃ s', rel s s' ∧ k s' = some c
  complete : ∀ s s' k, s.pos ≤ t.size → rel s s' → (k s').isSome = true →
    (body s k).isSome = true

namespace Explores

theorem bounds (h : Explores t body rel) (hs : s.pos ≤ t.size) (hrel : rel s s') :
    s.pos ≤ s'.pos ∧ s'.pos ≤ t.size := by
  -- a continuation that accepts the one cursor only
  have hsome : (body s fun x => if x = s' then some x else none).isSome = true :=
    h.complete s s' _ hs hrel (by simp)
  obtain ⟨c, hc⟩ := Option.isSome_iff_exists.mp hsome
  obtain ⟨m, hle, hm, hmc⟩ := h.advances s _ c hs hc
  split at hmc
  · rename_i heq
    rw [← heq]
    exact ⟨hle, hm⟩
  · cases hmc

theorem isSome_iff (h : Explores t body rel) (hs : s.pos ≤ t.size) :
    (body s k).isSome = true ↔ ∃ s', rel s s' ∧ (k s').isSome = true := by
  constructor
  · intro hsome
    obtain ⟨c, hc⟩ := Option.isSome_iff_exists.mp hsome
    obtain ⟨s', hrel, hk⟩ := h.sound s k c hs hc
    exact ⟨s', hrel, Option.isSome_iff_exists.mpr ⟨c, hk⟩⟩
  · rintro ⟨s', hrel, hk⟩
    exact h.complete s s' k hs hrel hk

theorem further_bounds (h : Explores t body rel) {budget last : Option Nat}
    (hs : s.pos ≤ t.size) (hfurther : Further rel budget last s s') :
    s.pos ≤ s'.pos ∧ s'.pos ≤ t.size := by
  induction hfurther with
  | stop => exact ⟨Nat.le_refl _, hs⟩
  | round _ _ hm _ ih =>
    obtain ⟨hle, hsize⟩ := h.bounds hs hm
    exact ⟨Nat.le_trans hle (ih hsize).1, (ih hsize).2⟩

theorem eq_none_iff (h : Explores t body rel) (hs : s.pos ≤ t.size) :
    body s some = none ↔ ∀ s', ¬ rel s s' := by
  rw [← Option.not_isSome_iff_eq_none, h.isSome_iff hs]
  simp

theorem seq (hbody : Explores t body rel) (hrest : Explores t rest rel') :
    Explores t (fun s k => body s fun s' => rest s' k) fun s s' => ∃ m, rel s m ∧ rel' m s' where
  advances := fun s k c hs h => hbody.advances.seq hrest.advances hs h
  sound := by
    intro s k c hs h
    obtain ⟨m, hrel, hm⟩ := hbody.sound s _ c hs h
    obtain ⟨s', hrel', hk⟩ := hrest.sound m k c (hbody.bounds hs hrel).2 hm
    exact ⟨s', ⟨m, hrel, hrel'⟩, hk⟩
  complete := by
    rintro s s' k hs ⟨m, hrel, hrel'⟩ hk
    exact hbody.complete s m _ hs hrel (hrest.complete m s' k (hbody.bounds hs hrel).2 hrel' hk)

theorem congr (h : Explores t body rel)
    (hrel : ∀ s s', s.pos ≤ t.size → (rel s s' ↔ rel' s s')) : Explores t body rel' where
  advances := h.advances
  sound := by
    intro s k c hs hc
    obtain ⟨s', hs', hk⟩ := h.sound s k c hs hc
    exact ⟨s', (hrel s s' hs).mp hs', hk⟩
  complete := fun s s' k hs hs' hk => h.complete s s' k hs ((hrel s s' hs).mpr hs') hk

end Explores

/-! ## Runs -/

theorem stands_runEnd (p : CharTest) (i limit : Nat) :
    ∃ cs, Stands t i cs ∧ (∀ c ∈ cs, p.accepts c = true) ∧ cs.length ≤ limit ∧
      runEnd t p i limit = i + cs.length := by
  induction limit generalizing i with
  | zero => exact ⟨[], stands_nil, by simp, Nat.le_refl 0, rfl⟩
  | succ limit ih =>
    have hnone : ∃ cs, Stands t i cs ∧ (∀ c ∈ cs, p.accepts c = true) ∧ cs.length ≤ limit + 1 ∧
        i = i + cs.length := ⟨[], stands_nil, by simp, Nat.zero_le _, rfl⟩
    simp only [runEnd]
    split
    · rename_i c hc
      split
      · rename_i haccepts
        obtain ⟨cs, hcs, hall, hlen, hend⟩ := ih (i + 1)
        refine ⟨c :: cs, stands_cons.mpr ⟨hc, hcs⟩, List.forall_mem_cons.mpr ⟨haccepts, hall⟩,
          Nat.succ_le_succ hlen, ?_⟩
        rw [hend, List.length_cons]
        omega
      · exact hnone
    · exact hnone

theorem le_runEnd_of_stands {limit : Nat} (h : Stands t i cs) (hall : ∀ c ∈ cs, p.accepts c = true)
    (hlen : cs.length ≤ limit) : i + cs.length ≤ runEnd t p i limit := by
  induction cs generalizing i limit with
  | nil => exact Regex.le_runEnd p i limit
  | cons c cs ih =>
    obtain ⟨limit, rfl⟩ : ∃ n, limit = n + 1 := ⟨limit - 1, by simp at hlen; omega⟩
    obtain ⟨hc, hrest⟩ := stands_cons.mp h
    obtain ⟨haccepts, hall⟩ := List.forall_mem_cons.mp hall
    have hle := ih hrest hall (Nat.le_of_succ_le_succ hlen)
    simp only [runEnd, hc, haccepts, if_true, List.length_cons]
    omega

theorem isSome_descend {lo n j : Nat} (hlo : lo ≤ j) (hhi : j ≤ lo + n)
    (hk : (k (s.moveTo j)).isSome = true) : (descend s k lo n).isSome = true := by
  induction n with
  | zero =>
    obtain rfl : j = lo := by omega
    exact hk
  | succ n ih =>
    simp only [descend]
    split
    · rfl
    · rename_i hnone
      refine ih ?_
      -- the offset was not the one that has just been tried in vain
      rcases Nat.lt_or_eq_of_le hhi with hlt | rfl
      · omega
      · rw [← Nat.add_assoc, hnone] at hk
        cases hk

theorem creep_stands {n : Nat} {c : Cursor} (h : creep t p s k i n = some c) :
    ∃ cs, Stands t i cs ∧ (∀ a ∈ cs, p.accepts a = true) ∧ cs.length ≤ n ∧
      k (s.moveTo (i + cs.length)) = some c := by
  induction n generalizing i with
  | zero => exact ⟨[], stands_nil, by simp, Nat.le_refl 0, h⟩
  | succ n ih =>
    simp only [creep] at h
    split at h
    · rename_i r hr
      exact ⟨[], stands_nil, by simp, Nat.zero_le _, hr.trans h⟩
    · split at h
      · rename_i a ha
        split at h
        · rename_i haccepts
          obtain ⟨cs, hcs, hall, hlen, hk⟩ := ih h
          refine ⟨a :: cs, stands_cons.mpr ⟨ha, hcs⟩, List.forall_mem_cons.mpr ⟨haccepts, hall⟩,
            Nat.succ_le_succ hlen, ?_⟩
          rwa [List.length_cons, Nat.add_comm cs.length, ← Nat.add_assoc]
        · cases h
      · cases h

theorem isSome_creep {n : Nat} (h : Stands t i cs) (hall : ∀ a ∈ cs, p.accepts a = true)
    (hlen : cs.length ≤ n) (hk : (k (s.moveTo (i + cs.length))).isSome = true) :
    (creep t p s k i n).isSome = true := by
  induction cs generalizing i n with
  | nil =>
    rw [List.length_nil, Nat.add_zero] at hk
    cases n with
    | zero => exact hk
    | succ n =>
      obtain ⟨c, hc⟩ := Option.isSome_iff_exists.mp hk
      simp only [creep, hc, Option.isSome_some]
  | cons a cs ih =>
    obtain ⟨n, rfl⟩ : ∃ m, n = m + 1 := ⟨n - 1, by simp at hlen; omega⟩
    obtain ⟨ha, hrest⟩ := stands_cons.mp h
    obtain ⟨haccepts, hall⟩ := List.forall_mem_cons.mp hall
    simp only [creep, ha, haccepts, if_true]
    split
    · rfl
    · refine ih hrest hall (Nat.le_of_succ_le_succ hlen) ?_
      rwa [List.length_cons, Nat.add_comm cs.length, ← Nat.add_assoc] at hk

/-- The characters of a run are those that it requires and those that it takes beyond them. -/
theorem runs_iff : Runs t p b s s' ↔ s.pos + b.min ≤ runEnd t p s.pos b.min ∧
    ∃ cs, Stands t (s.pos + b.min) cs ∧ (∀ c ∈ cs, p.accepts c = true) ∧
      cs.length ≤ b.max.getD t.size - b.min ∧ s' = s.moveTo (s.pos + b.min + cs.length) := by
  constructor
  · rintro ⟨cs, hcs, hall, hmin, hmax, rfl⟩
    have hlen : (cs.take b.min).length = b.min := List.length_take_of_le hmin
    rw [← List.take_append_drop b.min cs, stands_append, hlen] at hcs
    obtain ⟨htake, hdrop⟩ := hcs
    refine ⟨?_, cs.drop b.min, hdrop, fun c hc => hall c (List.mem_of_mem_drop hc), ?_, ?_⟩
    · have hle := le_runEnd_of_stands htake (fun c hc => hall c (List.mem_of_mem_take hc))
        (Nat.le_of_eq hlen)
      rwa [hlen] at hle
    · have hsize := hdrop.length_le
      rw [List.length_drop] at hsize ⊢
      cases hb : b.max with
      | none =>
        rw [Option.getD_none]
        omega
      | some m =>
        have hle := hmax m hb
        rw [Option.getD_some]
        omega
    · rw [List.length_drop, Nat.add_assoc, Nat.add_sub_cancel' hmin]
  · rintro ⟨hmin, cs, hcs, hall, hroom, rfl⟩
    obtain ⟨first, hfirst, hfirstAll, hle, hend⟩ := stands_runEnd (t := t) p s.pos b.min
    obtain hlen : first.length = b.min := by omega
    refine ⟨first ++ cs, stands_append.mpr ⟨hfirst, hlen ▸ hcs⟩,
      fun c hc => (List.mem_append.mp hc).elim (hfirstAll c) (hall c), ?_, fun m hm => ?_, ?_⟩
    · rw [List.length_append]
      omega
    · rw [hm, Option.getD_some] at hroom
      rw [List.length_append]
      omega
    · rw [List.length_append, hlen, Nat.add_assoc]

theorem explores_execRun (hg : g ≠ .possessive) :
    Explores t (execRun t p b g) (Runs t p b) where
  advances := advances_execRun p b g
  sound := by
    intro s k c hs h
    simp only [execRun] at h
    split at h
    · cases h
    · rename_i hmin
      -- the offset in front of which the continuation was tried with success
      have hk : ∃ cs, Stands t (s.pos + b.min) cs ∧ (∀ a ∈ cs, p.accepts a = true) ∧
          cs.length ≤ b.max.getD t.size - b.min ∧
          k (s.moveTo (s.pos + b.min + cs.length)) = some c := by
        cases g with
        | greedy =>
          obtain ⟨j, hlo, hhi, hk⟩ := descend_some h
          obtain ⟨cs, hcs, hall, hlen, hend⟩ :=
            stands_runEnd (t := t) p (s.pos + b.min) (b.max.getD t.size - b.min)
          obtain ⟨n, rfl⟩ := Nat.exists_eq_add_of_le hlo
          have htake : (cs.take n).length = n := List.length_take_of_le (by omega)
          refine ⟨cs.take n, (List.take_prefix n cs).trans hcs,
            fun a ha => hall a (List.mem_of_mem_take ha), by omega, ?_⟩
          rwa [htake]
        | lazy => exact creep_stands h
        | possessive => exact absurd rfl hg
      obtain ⟨cs, hcs, hall, hlen, hk⟩ := hk
      exact ⟨_, runs_iff.mpr ⟨Nat.not_lt.mp hmin, cs, hcs, hall, hlen, rfl⟩, hk⟩
  complete := by
    intro s s' k hs h hk
    obtain ⟨hmin, cs, hcs, hall, hlen, rfl⟩ := runs_iff.mp h
    simp only [execRun]
    rw [if_neg (Nat.not_lt.mpr hmin)]
    cases g with
    | greedy =>
      have hend := le_runEnd_of_stands hcs hall hlen
      exact isSome_descend (Nat.le_add_right _ _) (by omega) hk
    | lazy => exact isSome_creep hcs hall hlen hk
    | possessive => exact absurd rfl hg

/-! ## Loops -/

theorem explores_require (hbody : Explores t body rel) (n : Nat) :
    Explores t (require body n) (Repeated rel n) := by
  induction n with
  | zero =>
    exact ⟨advances_require hbody.advances 0, fun s k c _ h => ⟨s, rfl, h⟩,
      fun s s' k _ h hk => by rw [Repeated.eq_1] at h; exact h ▸ hk⟩
  | succ n ih => exact hbody.seq ih

theorem greedyRounds_further (hbody : Explores t body rel) {fuel : Nat} {budget last : Option Nat}
    {c : Cursor} (hs : s.pos ≤ t.size) (h : greedyRounds body fuel budget last s k = some c) :
    ∃ s', Further rel budget last s s' ∧ k s' = some c := by
  induction fuel generalizing budget last s with
  | zero => exact ⟨s, .stop, h⟩
  | succ fuel ih =>
    simp only [greedyRounds] at h
    split at h
    · exact ⟨s, .stop, h⟩
    · rename_i hopen
      obtain ⟨hbudget, hlast⟩ := not_or.mp hopen
      split at h
      · rename_i r hr
        obtain ⟨m, hm, hrest⟩ := hbody.sound s _ c hs (hr.trans h)
        obtain ⟨s', hfurther, hk⟩ := ih (hbody.bounds hs hm).2 hrest
        exact ⟨s', .round hbudget hlast hm hfurther, hk⟩
      · exact ⟨s, .stop, h⟩

theorem lazyRounds_further (hbody : Explores t body rel) {fuel : Nat} {budget last : Option Nat}
    {c : Cursor} (hs : s.pos ≤ t.size) (h : lazyRounds body fuel budget last s k = some c) :
    ∃ s', Further rel budget last s s' ∧ k s' = some c := by
  induction fuel generalizing budget last s with
  | zero => exact ⟨s, .stop, h⟩
  | succ fuel ih =>
    simp only [lazyRounds] at h
    split at h
    · rename_i r hr
      exact ⟨s, .stop, hr.trans h⟩
    · split at h
      · cases h
      · rename_i hopen
        obtain ⟨hbudget, hlast⟩ := not_or.mp hopen
        obtain ⟨m, hm, hrest⟩ := hbody.sound s _ c hs h
        obtain ⟨s', hfurther, hk⟩ := ih (hbody.bounds hs hm).2 hrest
        exact ⟨s', .round hbudget hlast hm hfurther, hk⟩

/-- Rounds enough are left for all that can be entered: each of them takes a character, but for a
last one. -/
def Suffices (t : Array Char) (fuel : Nat) (last : Option Nat) (s : Cursor) : Prop :=
  last = some s.pos ∨ t.size + 2 ≤ s.pos + fuel

theorem suffices_round {fuel : Nat} {last : Option Nat} {m : Cursor}
    (h : Suffices t (fuel + 1) last s) (hlast : last ≠ some s.pos) (hle : s.pos ≤ m.pos) :
    Suffices t fuel (some s.pos) m := by
  have hfuel : t.size + 2 ≤ s.pos + (fuel + 1) := h.resolve_left hlast
  rcases Nat.lt_or_eq_of_le hle with hlt | heq
  · exact .inr (by omega)
  · exact .inl (congrArg some heq)

theorem Suffices.pos {fuel : Nat} {last : Option Nat} (h : Suffices t fuel last s)
    (hlast : last ≠ some s.pos) (hs : s.pos ≤ t.size) : ∃ n, fuel = n + 1 := by
  have hfuel : t.size + 2 ≤ s.pos + fuel := h.resolve_left hlast
  exact ⟨fuel - 1, by omega⟩

theorem isSome_greedyRounds (hbody : Explores t body rel) {fuel : Nat} {budget last : Option Nat}
    (hfuel : Suffices t fuel last s) (hs : s.pos ≤ t.size) (h : Further rel budget last s s')
    (hk : (k s').isSome = true) : (greedyRounds body fuel budget last s k).isSome = true := by
  induction h generalizing fuel with
  | stop =>
    cases fuel with
    | zero => exact hk
    | succ fuel =>
      simp only [greedyRounds]
      split
      · exact hk
      · split
        · rfl
        · exact hk
  | @round budget last s m s' hbudget hlast hm hfurther ih =>
    obtain ⟨fuel, rfl⟩ := hfuel.pos hlast hs
    obtain ⟨hle, hsize⟩ := hbody.bounds hs hm
    have hrest := ih (suffices_round hfuel hlast hle) hsize hk
    simp only [greedyRounds]
    rw [if_neg (not_or.mpr ⟨hbudget, hlast⟩)]
    have hround : (body s fun m => greedyRounds body fuel (budget.map (· - 1)) (some s.pos) m
        k).isSome = true := hbody.complete s m _ hs hm hrest
    obtain ⟨c, hc⟩ := Option.isSome_iff_exists.mp hround
    rw [hc, Option.isSome_some]

theorem isSome_lazyRounds (hbody : Explores t body rel) {fuel : Nat} {budget last : Option Nat}
    (hfuel : Suffices t fuel last s) (hs : s.pos ≤ t.size) (h : Further rel budget last s s')
    (hk : (k s').isSome = true) : (lazyRounds body fuel budget last s k).isSome = true := by
  induction h generalizing fuel with
  | @stop budget last s =>
    obtain ⟨c, hc⟩ := Option.isSome_iff_exists.mp hk
    cases fuel with
    | zero => exact hk
    | succ fuel => simp only [lazyRounds, hc, Option.isSome_some]
  | @round budget last s m s' hbudget hlast hm hfurther ih =>
    obtain ⟨fuel, rfl⟩ := hfuel.pos hlast hs
    obtain ⟨hle, hsize⟩ := hbody.bounds hs hm
    have hrest := ih (suffices_round hfuel hlast hle) hsize hk
    simp only [lazyRounds]
    split
    · rfl
    · rw [if_neg (not_or.mpr ⟨hbudget, hlast⟩)]
      exact hbody.complete s m _ hs hm hrest

theorem explores_execLoop (hbody : Explores t body rel) (hg : g ≠ .possessive) :
    Explores t (execLoop t body b g) fun s s' => ∃ m, Repeated rel b.min s m ∧
      Further rel (b.max.map (· - b.min)) none m s' := by
  -- the rounds beyond the required ones start with fuel for all of them
  have hfuel (m : Cursor) : Suffices t (t.size - m.pos + 2) none m := .inr (by omega)
  have hrequire := explores_require hbody b.min
  refine ⟨advances_execLoop hbody.advances b g, fun s k c hs h => ?_, ?_⟩
  · cases g with
    | greedy =>
      obtain ⟨m, hm, hrest⟩ := hrequire.sound s _ c hs h
      obtain ⟨s', hfurther, hk⟩ := greedyRounds_further hbody (hrequire.bounds hs hm).2 hrest
      exact ⟨s', ⟨m, hm, hfurther⟩, hk⟩
    | lazy =>
      obtain ⟨m, hm, hrest⟩ := hrequire.sound s _ c hs h
      obtain ⟨s', hfurther, hk⟩ := lazyRounds_further hbody (hrequire.bounds hs hm).2 hrest
      exact ⟨s', ⟨m, hm, hfurther⟩, hk⟩
    | possessive => exact absurd rfl hg
  · rintro s s' k hs ⟨m, hm, hfurther⟩ hk
    have hsize := (hrequire.bounds hs hm).2
    cases g with
    | greedy =>
      exact hrequire.complete s m _ hs hm
        (isSome_greedyRounds hbody (hfuel m) hsize hfurther hk)
    | lazy =>
      exact hrequire.complete s m _ hs hm (isSome_lazyRounds hbody (hfuel m) hsize hfurther hk)
    | possessive => exact absurd rfl hg

/-! ## Expressions -/

theorem explores_first {first : Cursor → Option Cursor} (hadvances : Advances t body)
    (hbody : ∀ s k, body s k = (first s).bind k) :
    Explores t body fun s s' => first s = some s' := by
  refine ⟨hadvances, fun s k c _ h => ?_, fun s s' k _ h hk => ?_⟩
  · rw [hbody] at h
    exact Option.bind_eq_some_iff.mp h
  · rw [hbody, h]
    exact hk

theorem explores_look {found : Cursor → Option Cursor} {negated : Bool}
    (hadvances : Advances t body)
    (hbody : ∀ s k, body s k = match found s with
      | some s' => if negated then none else k (s'.moveTo s.pos)
      | none => if negated then k s else none) :
    Explores t body fun s s' =>
      if negated then found s = none ∧ s' = s else ∃ m, found s = some m ∧ s' = m.moveTo s.pos := by
  refine ⟨hadvances, fun s k c _ h => ?_, fun s s' k _ h hk => ?_⟩
  · rw [hbody] at h
    cases hfound : found s <;> cases negated <;> simp_all
  · rw [hbody]
    cases hfound : found s <;> cases negated <;> simp_all

theorem execLoop_possessive (s : Cursor) (k : Next) :
    execLoop t body b .possessive s k = (execLoop t body b .possessive s some).bind k := by
  simp only [execLoop]
  split <;> rfl

theorem execRun_possessive (s : Cursor) (k : Next) :
    execRun t p b .possessive s k = (execRun t p b .possessive s some).bind k := by
  simp only [execRun]
  split <;> rfl

/-- Running an expression goes through everything that it can match. -/
theorem explores_exec (r : Regex) : Explores t (exec t r) (Reaches t r) := by
  induction r with
  | empty =>
    refine ⟨advances_exec _, fun s k c _ h => ⟨s, rfl, h⟩, ?_⟩
    rintro s _ k - rfl hk
    exact hk
  | one p =>
    refine ⟨advances_exec _, fun s k c _ h => ?_, ?_⟩
    · simp only [exec] at h
      split at h
      · rename_i a ha
        split at h
        · rename_i haccepts
          exact ⟨_, ⟨a, stands_cons.mpr ⟨ha, stands_nil⟩, haccepts, rfl⟩, h⟩
        · cases h
      · cases h
    · rintro s s' k - ⟨a, ha, haccepts, rfl⟩ hk
      simp only [exec, (stands_cons.mp ha).1, haccepts, if_true]
      exact hk
  | seq a b iha ihb => exact iha.seq ihb
  | alt a b iha ihb =>
    refine ⟨advances_exec _, fun s k c hs h => ?_, ?_⟩
    · simp only [exec] at h
      split at h
      · rename_i r hr
        obtain ⟨s', hrel, hk⟩ := iha.sound s k c hs (hr.trans h)
        exact ⟨s', .inl hrel, hk⟩
      · obtain ⟨s', hrel, hk⟩ := ihb.sound s k c hs h
        exact ⟨s', .inr hrel, hk⟩
    · rintro s s' k hs (hrel | hrel) hk
      · obtain ⟨c, hc⟩ := Option.isSome_iff_exists.mp (iha.complete s s' k hs hrel hk)
        simp only [exec, hc, Option.isSome_some]
      · simp only [exec]
        split
        · rfl
        · exact ihb.complete s s' k hs hrel hk
  | run p b g =>
    cases g with
    | greedy => exact explores_execRun (g := .greedy) (by decide)
    | lazy => exact explores_execRun (g := .lazy) (by decide)
    | possessive => exact explores_first (advances_exec _) execRun_possessive
  | loop body b g ih =>
    cases g with
    | greedy => exact explores_execLoop (g := .greedy) ih (by decide)
    | lazy => exact explores_execLoop (g := .lazy) ih (by decide)
    | possessive => exact explores_first (advances_exec _) execLoop_possessive
  | group n body ih =>
    refine ⟨advances_exec _, fun s k c hs h => ?_, ?_⟩
    · obtain ⟨m, hm, hk⟩ := ih.sound s _ c hs h
      exact ⟨m.close n s.pos, ⟨m, hm, rfl⟩, hk⟩
    · rintro s s' k hs ⟨m, hm, rfl⟩ hk
      exact ih.complete s m _ hs hm hk
  | backref n f =>
    refine ⟨advances_exec _, fun s k c _ h => ?_, ?_⟩
    · simp only [exec] at h
      split at h
      · rename_i i j hspan
        split at h
        · rename_i hrep
          exact ⟨_, ⟨i, j, hspan, hrep, rfl⟩, h⟩
        · cases h
      · cases h
    · rintro s s' k - ⟨i, j, hspan, hrep, rfl⟩ hk
      simp only [exec, hspan, hrep, if_true]
      exact hk
  | ahead negated body ih =>
    refine (explores_look (advances_exec _) fun s k => rfl).congr fun s s' hs => ?_
    cases negated with
    | false => rfl
    | true => exact and_congr_left' (ih.eq_none_iff hs)
  | behind negated width body ih =>
    refine (explores_look (advances_exec _) fun s k => rfl).congr fun s s' hs => ?_
    have hback : (s.moveTo (s.pos - width)).pos ≤ t.size := Nat.le_trans (Nat.sub_le _ _) hs
    by_cases hwidth : width ≤ s.pos
    · cases negated with
      | false => simp [Reaches, hwidth]
      | true => simp [Reaches, hwidth, ih.eq_none_iff hback]
    · cases negated <;> simp [Reaches, hwidth]
  | atomic body ih =>
    refine explores_first (advances_exec _) fun s k => ?_
    simp only [exec]
    cases exec t body s some <;> rfl
  | ifGroup n yes no ihyes ihno =>
    refine ⟨advances_exec _, fun s k c hs h => ?_, fun s s' k hs h hk => ?_⟩
    · simp only [exec] at h
      simp only [Reaches]
      by_cases hspan : (s.span? n).isSome
      · rw [if_pos hspan] at h
        simpa only [if_pos hspan] using ihyes.sound s k c hs h
      · rw [if_neg hspan] at h
        simpa only [if_neg hspan] using ihno.sound s k c hs h
    · simp only [Reaches] at h
      simp only [exec]
      by_cases hspan : (s.span? n).isSome
      · rw [if_pos hspan] at h ⊢
        exact ihyes.complete s s' k hs h hk
      · rw [if_neg hspan] at h ⊢
        exact ihno.complete s s' k hs h hk
  | anchor a =>
    refine ⟨advances_exec _, fun s k c _ h => ?_, ?_⟩
    · simp only [exec] at h
      split at h
      · rename_i ha
        exact ⟨s, ⟨ha, rfl⟩, h⟩
      · cases h
    · rintro s s' k - ⟨ha, rfl⟩ hk
      simp only [exec, ha, if_true]
      exact hk

theorem reaches_of_exec {r : Regex} {c : Cursor} (hs : s.pos ≤ t.size)
    (h : exec t r s some = some c) : Reaches t r s c := by
  obtain ⟨s', hrel, hc⟩ := (explores_exec r).sound s some c hs h
  cases hc
  exact hrel

theorem reaches_of_matchAt {r : Regex} {i : Nat} {c : Cursor} (hi : i ≤ t.size)
    (h : matchAt t r i = some c) : Reaches t r (.start i) c :=
  reaches_of_exec (s := .start i) hi h

theorem isSome_matchAt_iff {r : Regex} {i : Nat} (hi : i ≤ t.size) :
    (matchAt t r i).isSome = true ↔ ∃ s', Reaches t r (.start i) s' := by
  rw [matchAt, (explores_exec r).isSome_iff hi]
  simp

theorem isSome_search_iff {r : Regex} :
    (search t r 0).isSome = true ↔ ∃ p ≤ t.size, ∃ s', Reaches t r (.start p) s' := by
  constructor
  · intro hsome
    obtain ⟨⟨p, c⟩, hfound⟩ := Option.isSome_iff_exists.mp hsome
    obtain ⟨-, hlt, hat, -⟩ := searchFrom_eq_some_iff.mp hfound
    exact ⟨p, by omega, c, reaches_of_matchAt (by omega) hat⟩
  · rintro ⟨p, hp, hs⟩
    have hat := (isSome_matchAt_iff hp).mpr hs
    rw [← Option.ne_none_iff_isSome]
    intro hnone
    rw [searchFrom_eq_none_iff.mp hnone p (Nat.zero_le p) (by omega)] at hat
    cases hat

theorem matchAt_eq_none_iff {r : Regex} {i : Nat} (hi : i ≤ t.size) :
    matchAt t r i = none ↔ ∀ s', ¬ Reaches t r (.start i) s' :=
  (explores_exec r).eq_none_iff hi

/-- What can be matched in one way only is matched in that way. -/
theorem matchAt_eq_some {r : Regex} {i : Nat} {c : Cursor} (hi : i ≤ t.size)
    (h : Reaches t r (.start i) c) (hunique : ∀ c', Reaches t r (.start i) c' → c' = c) :
    matchAt t r i = some c := by
  obtain ⟨c', hc'⟩ := Option.isSome_iff_exists.mp ((isSome_matchAt_iff hi).mpr ⟨c, h⟩)
  rw [hc', hunique c' (reaches_of_matchAt hi hc')]

end Regex

end ReactLint
