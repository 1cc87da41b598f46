import ReactLint.Proofs.Matching

/-!
# What a match begins with

Of many expressions it can be read off that a match never begins with a blank: the first character
that they take has to pass a test that refuses all blanks. The reading is a rough one, since it
looks at no character of the text; it is sound for every text and for whatever has to follow.
-/

namespace ReactLint

namespace Text

def blankPoints : List Nat :=
  [9, 10, 11, 12, 13, 28, 29, 30, 31, 32, 0x85, 0xA0, 0x1680, 0x2000, 0x2001, 0x2002, 0x2003,
    0x2004, 0x2005, 0x2006, 0x2007, 0x2008, 0x2009, 0x200A, 0x2028, 0x2029, 0x202F, 0x205F, 0x3000]

theorem toNat_mem_blankPoints {c : Char} (h : isBlank c = true) : c.toNat ∈ blankPoints := by
  simp only [isBlank, Bool.or_eq_true, Bool.and_eq_true, decide_eq_true_eq, beq_iff_eq] at h
  simp only [blankPoints, List.mem_cons, List.not_mem_nil, or_false]
  omega

theorem isWord_of_isBlank {c : Char} (h : isBlank c = true) : isWord c = false := by
  have hall : ∀ n ∈ blankPoints, isWord (Char.ofNat n) = false := by decide +kernel
  rw [← Char.ofNat_toNat c]
  exact hall _ (toNat_mem_blankPoints h)

theorem isAsciiWord_of_isBlank {c : Char} (h : isBlank c = true) : isAsciiWord c = false := by
  have hall : ∀ n ∈ blankPoints, isAsciiWord (Char.ofNat n) = false := by decide +kernel
  rw [← Char.ofNat_toNat c]
  exact hall _ (toNat_mem_blankPoints h)

end Text

def CharTest.refusesBlanks (p : CharTest) : Bool :=
  Text.blankPoints.all fun n => !p.accepts (Char.ofNat n)

theorem CharTest.not_isBlank_of_accepts {p : CharTest} (h : p.refusesBlanks = true) {c : Char}
    (hc : p.accepts c = true) : Text.isBlank c = false := by
  rw [← Bool.not_eq_true]
  intro hblank
  have hrefused := List.all_eq_true.mp h _ (Text.toNat_mem_blankPoints hblank)
  rw [Char.ofNat_toNat, hc] at hrefused
  cases hrefused

/-- What is known of the first character that an expression takes. -/
inductive Lead where
  /-- It takes one, and that is no blank. -/
  | visible
  /-- It takes none, or one that is no blank. -/
  | spared
  | any
  deriving DecidableEq, Repr

namespace Lead

def andThen : Lead → Lead → Lead
  | .visible, _ => .visible
  | .spared, l => l
  | .any, _ => .any

def join : Lead → Lead → Lead
  | .visible, .visible => .visible
  | .any, _ => .any
  | _, .any => .any
  | _, _ => .spared

end Lead

namespace Regex

def lead : Regex → Lead
  | .empty => .spared
  | .one p => if p.refusesBlanks then .visible else .any
  | .seq a b => a.lead.andThen b.lead
  | .alt a b => a.lead.join b.lead
  | .run p b _ =>
    if p.refusesBlanks then (if b.min = 0 then .spared else .visible) else .any
  | .loop body b _ => if b.min = 0 then body.lead.join .spared else body.lead
  | .group _ body => body.lead
  | .backref .. => .any
  | .ahead .. => .spared
  | .behind .. => .spared
  | .atomic body => body.lead
  | .ifGroup _ yes no => yes.lead.join no.lead
  | .anchor _ => .spared

variable {t : Array Char} {body rest : Cursor → Next → Option Cursor}

def VisibleAt (t : Array Char) (i : Nat) : Prop := ∃ c, t[i]? = some c ∧ Text.isBlank c = false

/-- Every way of matching takes a character first that is no blank. -/
def TakesVisible (t : Array Char) (body : Cursor → Next → Option Cursor) : Prop :=
  ∀ s k c, body s k = some c → VisibleAt t s.pos

/-- Every way of matching takes a character first that is no blank, or goes on where it began. -/
def SparesBlanks (t : Array Char) (body : Cursor → Next → Option Cursor) : Prop :=
  ∀ s k c, body s k = some c → VisibleAt t s.pos ∨ ∃ s', s'.pos = s.pos ∧ k s' = some c

theorem TakesVisible.spares (h : TakesVisible t body) : SparesBlanks t body :=
  fun s k c hc => .inl (h s k c hc)

theorem SparesBlanks.seq (hbody : SparesBlanks t body) (hrest : SparesBlanks t rest) :
    SparesBlanks t fun s k => body s fun s' => rest s' k := by
  intro s k c hc
  rcases hbody s _ c hc with hvisible | ⟨s₁, hpos₁, h₁⟩
  · exact .inl hvisible
  · rw [← hpos₁]
    exact hrest s₁ k c h₁

theorem SparesBlanks.first (hbody : SparesBlanks t body) {s c : Cursor}
    (h : body s some = some c) : VisibleAt t s.pos ∨ c.pos = s.pos := by
  rcases hbody s some c h with hvisible | ⟨s', hpos, hsome⟩
  · exact .inl hvisible
  · cases hsome
    exact .inr hpos

end Regex

namespace Lead

open Regex (TakesVisible SparesBlanks)

variable {t : Array Char} {body first second : Cursor → Regex.Next → Option Cursor} {l m : Lead}

def Holds (t : Array Char) (body : Cursor → Regex.Next → Option Cursor) : Lead → Prop
  | .visible => TakesVisible t body
  | .spared => SparesBlanks t body
  | .any => True

theorem Holds.spares (h : l.Holds t body) (hl : l ≠ .any) : SparesBlanks t body := by
  cases l with
  | visible => exact TakesVisible.spares h
  | spared => exact h
  | any => exact absurd rfl hl

theorem Holds.andThen (hfirst : l.Holds t first) (hsecond : m.Holds t second) :
    (l.andThen m).Holds t fun s k => first s fun s' => second s' k := by
  cases l with
  | visible => exact fun s k c hc => hfirst s _ c hc
  | any => trivial
  | spared =>
    cases m with
    | any => trivial
    | spared => exact hfirst.seq hsecond
    | visible =>
      intro s k c hc
      rcases hfirst s _ c hc with hvisible | ⟨s₁, hpos₁, h₁⟩
      · exact hvisible
      · rw [← hpos₁]
        exact hsecond s₁ k c h₁

theorem Holds.through (hfirst : l.Holds t first)
    (h : ∀ s k c, body s k = some c → ∃ k' c', first s k' = some c' ∧
      ∀ s', k' s' = some c' → ∃ s₁, s₁.pos = s'.pos ∧ k s₁ = some c) : l.Holds t body := by
  cases l with
  | any => trivial
  | visible =>
    intro s k c hc
    obtain ⟨k', c', hc', -⟩ := h s k c hc
    exact hfirst s k' c' hc'
  | spared =>
    intro s k c hc
    obtain ⟨k', c', hc', hgoes⟩ := h s k c hc
    rcases hfirst s k' c' hc' with hvisible | ⟨s', hpos', h'⟩
    · exact .inl hvisible
    · obtain ⟨s₁, hpos₁, h₁⟩ := hgoes s' h'
      exact .inr ⟨s₁, hpos₁.trans hpos', h₁⟩

theorem Holds.join (hfirst : l.Holds t first) (hsecond : m.Holds t second)
    (h : ∀ s k c, body s k = some c → first s k = some c ∨ second s k = some c) :
    (l.join m).Holds t body := by
  have hspared (hl : l ≠ .any) (hm : m ≠ .any) : SparesBlanks t body := by
    intro s k c hc
    rcases h s k c hc with hc | hc
    · exact hfirst.spares hl s k c hc
    · exact hsecond.spares hm s k c hc
  cases l with
  | any => trivial
  | spared =>
    cases m with
    | any => trivial
    | spared => exact hspared nofun nofun
    | visible => exact hspared nofun nofun
  | visible =>
    cases m with
    | any => trivial
    | spared => exact hspared nofun nofun
    | visible =>
      intro s k c hc
      rcases h s k c hc with hc | hc
      · exact hfirst s k c hc
      · exact hsecond s k c hc

end Lead

namespace Regex

variable {t : Array Char} {body rest : Cursor → Next → Option Cursor}

/-! ## Runs -/

theorem accepts_of_lt_runEnd {p : CharTest} {i limit : Nat} (h : i < runEnd t p i limit) :
    ∃ c, t[i]? = some c ∧ p.accepts c = true := by
  cases limit with
  | zero => exact absurd h (Nat.lt_irrefl i)
  | succ limit =>
    simp only [runEnd] at h
    split at h
    · rename_i c hc
      split at h
      · rename_i haccepts
        exact ⟨c, hc, haccepts⟩
      · exact absurd h (Nat.lt_irrefl i)
    · exact absurd h (Nat.lt_irrefl i)

theorem creep_first {p : CharTest} {s : Cursor} {k : Next} {i n : Nat} {c : Cursor}
    (h : creep t p s k i n = some c) :
    (∃ a, t[i]? = some a ∧ p.accepts a = true) ∨ k (s.moveTo i) = some c := by
  cases n with
  | zero => exact .inr h
  | succ n =>
    simp only [creep] at h
    split at h
    · rename_i r hr
      exact .inr (hr.trans h)
    · split at h
      · rename_i a ha
        split at h
        · rename_i haccepts
          exact .inl ⟨a, ha, haccepts⟩
        · cases h
      · cases h

theorem visibleAt_of_accepts {p : CharTest} (hp : p.refusesBlanks = true) {i : Nat}
    (h : ∃ c, t[i]? = some c ∧ p.accepts c = true) : VisibleAt t i := by
  obtain ⟨c, hc, haccepts⟩ := h
  exact ⟨c, hc, CharTest.not_isBlank_of_accepts hp haccepts⟩

theorem spares_execRun {p : CharTest} (hp : p.refusesBlanks = true) {b : Bounds}
    (hb : b.min = 0) (g : Greed) : SparesBlanks t (execRun t p b g) := by
  intro s k c h
  simp only [execRun, hb, Nat.add_zero, Nat.sub_zero] at h
  split at h
  · cases h
  · -- an offset behind the start is reached over a character that the test accepts
    cases g with
    | greedy =>
      obtain ⟨j, hle, hj, hk⟩ := descend_some h
      rcases Nat.lt_or_eq_of_le hle with hlt | rfl
      · have hrun : s.pos < runEnd t p s.pos (b.max.getD t.size) := by omega
        exact .inl (visibleAt_of_accepts hp (accepts_of_lt_runEnd hrun))
      · exact .inr ⟨s.moveTo s.pos, rfl, hk⟩
    | lazy =>
      rcases creep_first h with haccepts | hk
      · exact .inl (visibleAt_of_accepts hp haccepts)
      · exact .inr ⟨s.moveTo s.pos, rfl, hk⟩
    | possessive =>
      rcases Nat.lt_or_eq_of_le (le_runEnd (t := t) p s.pos (b.max.getD t.size)) with hlt | heq
      · exact .inl (visibleAt_of_accepts hp (accepts_of_lt_runEnd hlt))
      · exact .inr ⟨_, heq.symm, h⟩

theorem takesVisible_execRun {p : CharTest} (hp : p.refusesBlanks = true) {b : Bounds}
    (hb : b.min ≠ 0) (g : Greed) : TakesVisible t (execRun t p b g) := by
  intro s k c h
  simp only [execRun] at h
  split at h
  · cases h
  · have hrun : s.pos < runEnd t p s.pos b.min := by omega
    exact visibleAt_of_accepts hp (accepts_of_lt_runEnd hrun)

/-! ## Loops -/

theorem spares_require (hbody : SparesBlanks t body) (n : Nat) :
    SparesBlanks t (require body n) := by
  induction n with
  | zero => exact fun s k c h => .inr ⟨s, rfl, h⟩
  | succ n ih => exact hbody.seq ih

theorem spares_greedyRounds (hbody : SparesBlanks t body) (fuel : Nat)
    (budget last : Option Nat) : SparesBlanks t (greedyRounds body fuel budget last) := by
  induction fuel generalizing budget last with
  | zero => exact fun s k c h => .inr ⟨s, rfl, h⟩
  | succ fuel ih =>
    intro s k c h
    simp only [greedyRounds] at h
    split at h
    · exact .inr ⟨s, rfl, h⟩
    · split at h
      · rename_i r hr
        exact hbody.seq (ih _ _) s k c (hr.trans h)
      · exact .inr ⟨s, rfl, h⟩

theorem spares_lazyRounds (hbody : SparesBlanks t body) (fuel : Nat)
    (budget last : Option Nat) : SparesBlanks t (lazyRounds body fuel budget last) := by
  induction fuel generalizing budget last with
  | zero => exact fun s k c h => .inr ⟨s, rfl, h⟩
  | succ fuel ih =>
    intro s k c h
    simp only [lazyRounds] at h
    split at h
    · rename_i r hr
      exact .inr ⟨s, rfl, hr.trans h⟩
    · split at h
      · cases h
      · exact hbody.seq (ih _ _) s k c h

theorem firstRounds_spares (hbody : SparesBlanks t body) {n : Nat} {s c : Cursor}
    (h : firstRounds (body · some) n s = some c) : VisibleAt t s.pos ∨ c.pos = s.pos := by
  induction n generalizing s with
  | zero =>
    cases h
    exact .inr rfl
  | succ n ih =>
    obtain ⟨s₁, hfirst, hrest⟩ := Option.bind_eq_some_iff.mp h
    rcases hbody.first hfirst with hvisible | hpos
    · exact .inl hvisible
    · rw [← hpos]
      exact ih hrest

theorem allRounds_spares (hbody : SparesBlanks t body) (fuel : Nat) (budget last : Option Nat)
    (s : Cursor) :
    VisibleAt t s.pos ∨ (allRounds (body · some) fuel budget last s).pos = s.pos := by
  induction fuel generalizing budget last s with
  | zero => exact .inr rfl
  | succ fuel ih =>
    simp only [allRounds]
    split
    · exact .inr rfl
    · split
      · rename_i s₁ hfirst
        rcases hbody.first hfirst with hvisible | hpos
        · exact .inl hvisible
        · rw [← hpos]
          exact ih _ _ s₁
      · exact .inr rfl

theorem spares_execLoop (hbody : SparesBlanks t body) (b : Bounds) (g : Greed) :
    SparesBlanks t (execLoop t body b g) := by
  intro s k c h
  cases g with
  | greedy =>
    exact (spares_require hbody b.min).seq (fun s' => spares_greedyRounds hbody _ _ _ s') s k c h
  | lazy =>
    exact (spares_require hbody b.min).seq (fun s' => spares_lazyRounds hbody _ _ _ s') s k c h
  | possessive =>
    simp only [execLoop] at h
    split at h
    · rename_i s₁ hfirst
      rcases firstRounds_spares hbody hfirst with hvisible | hpos₁
      · exact .inl hvisible
      · rw [← hpos₁]
        rcases allRounds_spares hbody (t.size - s₁.pos + 2) (b.max.map (· - b.min)) none s₁ with
          hvisible | hpos
        · exact .inl hvisible
        · exact .inr ⟨_, hpos, h⟩
    · cases h

theorem takesVisible_execLoop (hbody : TakesVisible t body) {b : Bounds} (hb : b.min ≠ 0)
    (g : Greed) : TakesVisible t (execLoop t body b g) := by
  obtain ⟨n, hn⟩ := Nat.exists_eq_succ_of_ne_zero hb
  intro s k c h
  cases g with
  | greedy =>
    simp only [execLoop, hn, require] at h
    exact hbody s _ c h
  | lazy =>
    simp only [execLoop, hn, require] at h
    exact hbody s _ c h
  | possessive =>
    simp only [execLoop, hn, firstRounds] at h
    cases hfirst : body s some with
    | none => simp [hfirst] at h
    | some s₁ => exact hbody s some s₁ hfirst

theorem holds_execLoop {l : Lead} (hbody : l.Holds t body) (b : Bounds) (g : Greed) :
    (if b.min = 0 then l.join .spared else l).Holds t (execLoop t body b g) := by
  cases l with
  | any => split <;> trivial
  | spared =>
    have hloop : SparesBlanks t (execLoop t body b g) := spares_execLoop hbody b g
    split <;> exact hloop
  | visible =>
    split
    · exact spares_execLoop (TakesVisible.spares hbody) b g
    · rename_i hb
      exact takesVisible_execLoop hbody hb g

/-! ## Expressions -/

theorem goes_on_of_look {found : Option Cursor} {negated : Bool} {s c : Cursor} {k : Next}
    (h : (match found with
      | some s' => if negated then none else k (s'.moveTo s.pos)
      | none => if negated then k s else none) = some c) :
    ∃ s', s'.pos = s.pos ∧ k s' = some c := by
  cases found with
  | some s' =>
    dsimp only at h
    split at h
    · cases h
    · exact ⟨s'.moveTo s.pos, rfl, h⟩
  | none =>
    dsimp only at h
    split at h
    · exact ⟨s, rfl, h⟩
    · cases h

theorem holds_lead (r : Regex) : r.lead.Holds t (exec t r) := by
  induction r with
  | empty => exact fun s k c h => .inr ⟨s, rfl, h⟩
  | one p =>
    simp only [lead]
    split
    · rename_i hp
      intro s k c h
      simp only [exec] at h
      split at h
      · rename_i a ha
        split at h
        · rename_i haccepts
          exact visibleAt_of_accepts hp ⟨a, ha, haccepts⟩
        · cases h
      · cases h
    · trivial
  | seq a b iha ihb => exact iha.andThen ihb
  | alt a b iha ihb =>
    refine iha.join ihb fun s k c h => ?_
    simp only [exec] at h
    split at h
    · rename_i r hr
      exact .inl (hr.trans h)
    · exact .inr h
  | run p b g =>
    simp only [lead]
    split
    · rename_i hp
      split
      · rename_i hb
        exact spares_execRun hp hb g
      · rename_i hb
        exact takesVisible_execRun hp hb g
    · trivial
  | loop body b g ih => exact holds_execLoop ih b g
  | group n body ih =>
    refine ih.through fun s k c h => ⟨_, c, h, fun s' h' => ?_⟩
    exact ⟨s'.close n s.pos, rfl, h'⟩
  | backref n f => trivial
  | ahead negated body ih => exact fun s k c h => .inr (goes_on_of_look h)
  | behind negated width body ih => exact fun s k c h => .inr (goes_on_of_look h)
  | atomic body ih =>
    refine ih.through fun s k c h => ?_
    simp only [exec] at h
    split at h
    · rename_i s' hs'
      refine ⟨some, s', hs', fun s₁ h₁ => ?_⟩
      cases h₁
      exact ⟨s', rfl, h⟩
    · cases h
  | ifGroup n yes no ihyes ihno =>
    refine ihyes.join ihno fun s k c h => ?_
    simp only [exec] at h
    split at h
    · exact .inl h
    · exact .inr h
  | anchor a =>
    intro s k c h
    simp only [exec] at h
    split at h
    · exact .inr ⟨s, rfl, h⟩
    · cases h

theorem visibleAt_of_matchAt {r : Regex} (hr : r.lead = .visible) {i : Nat} {c : Cursor}
    (h : matchAt t r i = some c) : VisibleAt t i := by
  have hlead := holds_lead (t := t) r
  rw [hr] at hlead
  exact hlead (.start i) some c h

end Regex

end ReactLint
