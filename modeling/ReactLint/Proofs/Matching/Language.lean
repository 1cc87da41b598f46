import ReactLint.Proofs.Matching.Parts
import ReactLint.Proofs.Shape

/-!
# The language of an expression

An expression without groups, anchors and looks at the text, whose repetitions all give back what
they took, matches the texts of a regular language and nothing else, whatever stands around them. So
a concrete expression is read off as a kind of texts, part by part; only its groups and what refers
to them are left to be followed one by one.
-/

namespace ReactLint.Regex

open scoped Computability

variable {t : Array Char} {s s' : Cursor} {r a b : Regex} {rs qs : List Regex}

def isPlain : Regex → Bool
  | .empty => true
  | .one _ => true
  | .seq a b => a.isPlain && b.isPlain
  | .alt a b => a.isPlain && b.isPlain
  | .run _ _ g => g != .possessive
  | .loop body _ g => body.isPlain && g != .possessive
  | _ => false

def Admits (b : Bounds) (n : Nat) : Prop := b.min ≤ n ∧ ∀ m, b.max = some m → n ≤ max b.min m

def runTexts (p : CharTest) (b : Bounds) : Language Char :=
  {cs | cs ∈ Shape.only p.accepts ∧ Admits b cs.length}

def loopTexts (L : Language Char) (b : Bounds) : Language Char :=
  {cs | ∃ n, Admits b n ∧ cs ∈ L ^ n}

/-- The texts that a plain expression takes. -/
def language : Regex → Language Char
  | .empty => 1
  | .one p => {cs | ∃ c, cs = [c] ∧ p.accepts c = true}
  | .seq a b => a.language * b.language
  | .alt a b => a.language + b.language
  | .run p b _ => runTexts p b
  | .loop body b _ => loopTexts body.language b
  | _ => 0

theorem language_empty : Regex.empty.language = 1 := rfl

theorem language_alt : (Regex.alt a b).language = a.language + b.language := rfl

theorem mem_language_one {p : CharTest} {cs : List Char} :
    cs ∈ (Regex.one p).language ↔ ∃ c, cs = [c] ∧ p.accepts c = true := Iff.rfl

def Takes (t : Array Char) (rel : Cursor → Cursor → Prop) (L : Language Char) : Prop :=
  ∀ s s', rel s s' ↔ ∃ cs ∈ L, Stands t s.pos cs ∧ s' = s.moveTo (s.pos + cs.length)

namespace Takes

variable {rel rel' : Cursor → Cursor → Prop} {L M : Language Char}

theorem seq (h : Takes t rel L) (h' : Takes t rel' M) :
    Takes t (fun s s' => ∃ m, rel s m ∧ rel' m s') (L * M) := by
  intro s s'
  constructor
  · rintro ⟨m, hm, hs'⟩
    obtain ⟨cs, hcs, hstands, rfl⟩ := (h s m).mp hm
    obtain ⟨ds, hds, hbehind, rfl⟩ := (h' _ s').mp hs'
    refine ⟨cs ++ ds, Language.append_mem_mul hcs hds, stands_append.mpr ⟨hstands, hbehind⟩, ?_⟩
    simp only [Cursor.moveTo, List.length_append, Nat.add_assoc]
  · rintro ⟨_, hmem, hstands, rfl⟩
    obtain ⟨cs, hcs, ds, hds, rfl⟩ := Language.mem_mul.mp hmem
    obtain ⟨hcs', hds'⟩ := stands_append.mp hstands
    refine ⟨_, (h s _).mpr ⟨cs, hcs, hcs', rfl⟩, (h' _ _).mpr ⟨ds, hds, hds', ?_⟩⟩
    simp only [Cursor.moveTo, List.length_append, Nat.add_assoc]

theorem repeated (h : Takes t rel L) (n : Nat) : Takes t (Repeated rel n) (L ^ n) := by
  induction n with
  | zero =>
    intro s s'
    simp [Repeated, stands_nil, Cursor.moveTo]
  | succ n ih =>
    rw [pow_succ']
    exact h.seq ih

theorem mem_of_further (h : Takes t rel L) {budget last : Option Nat}
    (hfurther : Further rel budget last s s') :
    ∃ n, (∀ m, budget = some m → n ≤ m) ∧ ∃ cs ∈ L ^ n, Stands t s.pos cs ∧
      s' = s.moveTo (s.pos + cs.length) := by
  induction hfurther with
  | stop => exact ⟨0, fun _ _ => Nat.zero_le _, [], by simp, stands_nil, rfl⟩
  | @round budget last s m s' hbudget _ hm _ ih =>
    obtain ⟨cs, hcs, hstands, rfl⟩ := (h s m).mp hm
    obtain ⟨n, hn, ds, hds, hbehind, rfl⟩ := ih
    refine ⟨n + 1, fun k hk => ?_, cs ++ ds, ?_, stands_append.mpr ⟨hstands, hbehind⟩, ?_⟩
    · subst hk
      have hle := hn (k - 1) rfl
      have hpos : k ≠ 0 := fun hzero => hbudget (congrArg some hzero)
      omega
    · rw [pow_succ']
      exact Language.append_mem_mul hcs hds
    · simp only [Cursor.moveTo, List.length_append, Nat.add_assoc]

/-- Rounds that take nothing are left out, so every round begins behind the one before it. -/
theorem further_of_mem (h : Takes t rel L) {n : Nat} {budget last : Option Nat} {cs : List Char}
    (hbudget : ∀ m, budget = some m → n ≤ m) (hlast : ∀ l, last = some l → l < s.pos)
    (hcs : cs ∈ L ^ n) (hstands : Stands t s.pos cs) :
    Further rel budget last s (s.moveTo (s.pos + cs.length)) := by
  induction n generalizing s cs budget last with
  | zero =>
    obtain rfl : cs = [] := by simpa using hcs
    exact .stop
  | succ n ih =>
    rw [pow_succ'] at hcs
    obtain ⟨as, has, bs, hbs, rfl⟩ := Language.mem_mul.mp hcs
    obtain ⟨hfirst, hrest⟩ := stands_append.mp hstands
    cases as with
    | nil => exact ih (fun m hm => Nat.le_of_succ_le (hbudget m hm)) hlast hbs hstands
    | cons c as =>
      have hfurther : Further rel (budget.map (· - 1)) (some s.pos)
          (s.moveTo (s.pos + (c :: as).length))
          (s.moveTo (s.pos + (c :: as).length + bs.length)) := by
        refine ih (s := s.moveTo (s.pos + (c :: as).length)) (fun m hm => ?_) (fun l hl => ?_) hbs
          hrest
        · obtain ⟨k, hk, rfl⟩ := Option.map_eq_some_iff.mp hm
          have hle := hbudget k hk
          omega
        · obtain rfl := Option.some.inj hl
          exact Nat.lt_add_of_pos_right (Nat.succ_pos _)
      refine .round (fun hzero => ?_) (fun heq => Nat.lt_irrefl _ (hlast s.pos heq))
        ((h s _).mpr ⟨c :: as, has, hfirst, rfl⟩) ?_
      · have hle := hbudget 0 hzero
        omega
      · rwa [List.length_append, ← Nat.add_assoc]

theorem loop (h : Takes t rel L) (b : Bounds) :
    Takes t (fun s s' => ∃ m, Repeated rel b.min s m ∧
      Further rel (b.max.map (· - b.min)) none m s') (loopTexts L b) := by
  intro s s'
  constructor
  · rintro ⟨m, hm, hfurther⟩
    obtain ⟨cs, hcs, hstands, rfl⟩ := (h.repeated b.min s m).mp hm
    obtain ⟨n, hn, ds, hds, hbehind, rfl⟩ := h.mem_of_further hfurther
    refine ⟨cs ++ ds, ⟨b.min + n, ⟨Nat.le_add_right _ _, fun k hk => ?_⟩, ?_⟩,
      stands_append.mpr ⟨hstands, hbehind⟩, ?_⟩
    · have hle := hn (k - b.min) (by rw [hk, Option.map_some])
      omega
    · rw [pow_add]
      exact Language.append_mem_mul hcs hds
    · simp only [Cursor.moveTo, List.length_append, Nat.add_assoc]
  · rintro ⟨_, ⟨n, ⟨hmin, hmax⟩, hmem⟩, hstands, rfl⟩
    obtain ⟨k, rfl⟩ := Nat.exists_eq_add_of_le hmin
    rw [pow_add] at hmem
    obtain ⟨cs, hcs, ds, hds, rfl⟩ := Language.mem_mul.mp hmem
    obtain ⟨hfirst, hrest⟩ := stands_append.mp hstands
    refine ⟨_, (h.repeated b.min s _).mpr ⟨cs, hcs, hfirst, rfl⟩, ?_⟩
    rw [List.length_append, ← Nat.add_assoc]
    refine h.further_of_mem (s := s.moveTo (s.pos + cs.length)) (n := k) (fun m hm => ?_)
      (fun l hl => ?_) hds hrest
    · obtain ⟨j, hj, rfl⟩ := Option.map_eq_some_iff.mp hm
      have hle := hmax j hj
      omega
    · cases hl

end Takes

/-- A plain expression matches the texts of its language and nothing else. -/
theorem takes_language (h : r.isPlain = true) : Takes t (Reaches t r) r.language := by
  induction r with
  | empty =>
    intro s s'
    simp [Reaches, language_empty, stands_nil, Cursor.moveTo]
  | one p =>
    intro s s'
    constructor
    · rintro ⟨c, hstands, haccepts, rfl⟩
      exact ⟨[c], ⟨c, rfl, haccepts⟩, hstands, rfl⟩
    · rintro ⟨_, ⟨c, rfl, haccepts⟩, hstands, rfl⟩
      exact ⟨c, hstands, haccepts, rfl⟩
  | seq a b iha ihb =>
    obtain ⟨ha, hb⟩ := Bool.and_eq_true_iff.mp h
    exact (iha ha).seq (ihb hb)
  | alt a b iha ihb =>
    obtain ⟨ha, hb⟩ := Bool.and_eq_true_iff.mp h
    intro s s'
    simp only [Reaches, iha ha s s', ihb hb s s', language_alt, Language.mem_add, or_and_right,
      exists_or]
  | run p b g =>
    have hruns (s s' : Cursor) : Runs t p b s s' ↔ ∃ cs ∈ (Regex.run p b g).language,
        Stands t s.pos cs ∧ s' = s.moveTo (s.pos + cs.length) := by
      constructor
      · rintro ⟨cs, hstands, hall, hmin, hmax, rfl⟩
        exact ⟨cs, ⟨hall, hmin, hmax⟩, hstands, rfl⟩
      · rintro ⟨cs, ⟨hall, hmin, hmax⟩, hstands, rfl⟩
        exact ⟨cs, hstands, hall, hmin, hmax, rfl⟩
    cases g with
    | greedy => exact hruns
    | lazy => exact hruns
    | possessive => cases h
  | loop body b g ih =>
    obtain ⟨hbody, hg⟩ := Bool.and_eq_true_iff.mp h
    cases g with
    | greedy => exact (ih hbody).loop b
    | lazy => exact (ih hbody).loop b
    | possessive => cases hg
  | group n body ih => cases h
  | backref n f => cases h
  | ahead negated body ih => cases h
  | behind negated width body ih => cases h
  | atomic body ih => cases h
  | ifGroup n yes no ihyes ihno => cases h
  | anchor a => cases h

/-! ## Parts of a sequence -/

theorem exists_reaches_plain (h : r.isPlain = true) {goesOn : Cursor → Prop} :
    (∃ m, Reaches t r s m ∧ goesOn m) ↔
      ∃ cs ∈ r.language, Stands t s.pos cs ∧ goesOn (s.moveTo (s.pos + cs.length)) := by
  constructor
  · rintro ⟨m, hm, hgoes⟩
    obtain ⟨cs, hcs, hstands, rfl⟩ := (takes_language h s m).mp hm
    exact ⟨cs, hcs, hstands, hgoes⟩
  · rintro ⟨cs, hcs, hstands, hgoes⟩
    exact ⟨_, (takes_language h s _).mpr ⟨cs, hcs, hstands, rfl⟩, hgoes⟩

theorem reaches_plain_append (h : (Regex.ofList rs).isPlain = true) :
    Reaches t (.ofList (rs ++ qs)) s s' ↔ ∃ cs ∈ (Regex.ofList rs).language, Stands t s.pos cs ∧
      Reaches t (.ofList qs) (s.moveTo (s.pos + cs.length)) s' := by
  rw [reaches_ofList_append]
  exact exists_reaches_plain h

theorem reaches_group_plain {n : Nat} (h : r.isPlain = true) :
    Reaches t (.ofList (.group n r :: rs)) s s' ↔ ∃ cs ∈ r.language, Stands t s.pos cs ∧
      Reaches t (.ofList rs)
        ⟨s.pos + cs.length, (n, s.pos, s.pos + cs.length) :: s.groups⟩ s' := by
  rw [reaches_group_cons]
  exact exists_reaches_plain h

theorem reaches_group_rest {n : Nat} (h : r.isPlain = true)
    (hrest : (Regex.ofList rs).isPlain = true) :
    Reaches t (.ofList (.group n r :: rs)) s s' ↔
      ∃ as ∈ r.language, ∃ cs ∈ (Regex.ofList rs).language, Stands t s.pos (as ++ cs) ∧
        s' = ⟨s.pos + as.length + cs.length, (n, s.pos, s.pos + as.length) :: s.groups⟩ := by
  rw [reaches_group_plain h]
  simp only [takes_language hrest _ _, stands_append]
  constructor
  · rintro ⟨as, has, hstands, cs, hcs, hbehind, rfl⟩
    exact ⟨as, has, cs, hcs, ⟨hstands, hbehind⟩, rfl⟩
  · rintro ⟨as, has, cs, hcs, ⟨hstands, hbehind⟩, rfl⟩
    exact ⟨as, has, hstands, cs, hcs, hbehind, rfl⟩

theorem language_ofList_nil : (Regex.ofList []).language = 1 := rfl

theorem language_ofList_cons :
    (Regex.ofList (r :: rs)).language = r.language * (Regex.ofList rs).language := by
  cases rs with
  | nil => exact (mul_one r.language).symm
  | cons q rs => rfl

theorem language_ofList_append :
    (Regex.ofList (rs ++ qs)).language =
      (Regex.ofList rs).language * (Regex.ofList qs).language := by
  induction rs with
  | nil => exact (one_mul _).symm
  | cons r rs ih => rw [List.cons_append, language_ofList_cons, ih, language_ofList_cons, mul_assoc]

theorem language_word (w : String) : (Regex.ofList (word w)).language = Shape.word w := by
  have hchars (cs : List Char) :
      (Regex.ofList (cs.map fun c => .one (.char c))).language = {cs} := by
    induction cs with
    | nil => rfl
    | cons c cs ih =>
      ext x
      rw [List.map_cons, language_ofList_cons, ih, Language.mem_mul]
      constructor
      · rintro ⟨_, ⟨d, rfl, hd⟩, _, rfl, rfl⟩
        rw [beq_iff_eq.mp hd]
        rfl
      · rintro rfl
        exact ⟨[c], ⟨c, rfl, beq_self_eq_true c⟩, cs, rfl, rfl⟩
  exact hchars w.toList

theorem language_run {p : CharTest} {g : Greed} :
    (Regex.run p ⟨0, none⟩ g).language = Shape.only p.accepts := by
  ext cs
  constructor
  · intro hcs
    exact hcs.1
  · intro hcs
    exact ⟨hcs, Nat.zero_le _, nofun⟩

theorem language_blanks : blanks.language = Shape.blanks := by
  rw [blanks, language_run]
  exact congrArg Shape.only (funext accepts_blankTest)

theorem language_someBlanks : someBlanks.language = Shape.gap := by
  have hblank : Shape.only blankTest.accepts = Shape.blanks :=
    congrArg Shape.only (funext accepts_blankTest)
  ext cs
  constructor
  · rintro ⟨hcs, hmin, -⟩
    exact ⟨hblank ▸ hcs, List.length_pos_iff.mp hmin⟩
  · rintro ⟨hcs, hne⟩
    exact ⟨hblank ▸ hcs, List.length_pos_iff.mpr hne, nofun⟩

theorem accepts_noneOf (s : String) (c : Char) :
    (noneOf s).accepts c = !s.toList.contains c := by
  simp only [noneOf, CharTest.accepts, List.any_map, Function.comp_def, accepts_charItem,
    List.any_beq, Bool.bne_true]

theorem language_free (s : String) : (free s).language = Shape.free s := by
  rw [free, language_run]
  exact congrArg Shape.only (funext (accepts_noneOf s))

theorem language_lazyFree (s : String) : (lazyFree s).language = Shape.free s := by
  rw [lazyFree, language_run]
  exact congrArg Shape.only (funext (accepts_noneOf s))

theorem language_loop {g : Greed} : (Regex.loop r ⟨0, none⟩ g).language = r.language∗ := by
  ext cs
  rw [Language.kstar_eq_iSup_pow, Language.mem_iSup]
  constructor
  · rintro ⟨n, -, hcs⟩
    exact ⟨n, hcs⟩
  · rintro ⟨n, hcs⟩
    exact ⟨n, ⟨Nat.zero_le _, nofun⟩, hcs⟩

theorem language_optional {g : Greed} :
    (Regex.loop r ⟨0, some 1⟩ g).language = 1 + r.language := by
  ext cs
  constructor
  · rintro ⟨n, ⟨-, hmax⟩, hcs⟩
    have hle : n ≤ 1 := hmax 1 rfl
    obtain rfl | rfl : n = 0 ∨ n = 1 := by omega
    · rw [pow_zero] at hcs
      exact .inl hcs
    · rw [pow_one] at hcs
      exact .inr hcs
  · intro hcs
    rcases hcs with hcs | hcs
    · refine ⟨0, ⟨Nat.zero_le _, fun m _ => Nat.zero_le _⟩, ?_⟩
      rw [pow_zero]
      exact hcs
    · refine ⟨1, ⟨Nat.zero_le _, fun m hm => ?_⟩, ?_⟩
      · obtain rfl := Option.some.inj hm
        decide
      · rw [pow_one]
        exact hcs

end ReactLint.Regex
