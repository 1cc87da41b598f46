import ReactLint.Catalog.Hooks
import ReactLint.Proofs.Analysis.SingleRule
import ReactLint.Proofs.Matching.Language
import ReactLint.Proofs.Parentheses

/-!
# Dependency lists

The rules on hooks tell a missing dependency list by what stands behind the first argument of a
call: a parenthesis that closes the call, or a comma. The body of an effect is read in one way only.
The argument of a memo hook may be a block, an expression or a reference, and an expression may give
back blanks; but a flat expression ends in front of the first comma or closing parenthesis outside
of its groups, whatever the expression gives back. A block is also an expression, of which it is
known where it ends only if its parentheses are closed in it.
-/

namespace ReactLint

open scoped Computability

variable {t : Array Char} {s s' m c : Cursor} {p : Nat} {H ws hd tl vs y : List Char}

/-- Where the match of a rule that begins at an offset ends, and what it captures. -/
def Rule.matchAt? (r : Rule) (t : Array Char) (p : Nat) : Option (Nat × Option String) :=
  (r.pattern.regex.matchAt t p).map fun c =>
    (c.pos, (Occurrence.ofMatch t ⟨p, c.pos, c.groups⟩).capture)

namespace Text

/-- A call of `useEffect` up to the end of its first argument, an arrow function with a block. -/
def effectCall : Language Char :=
  Shape.word "useEffect" * (Shape.blanks * (Shape.word "(" * (Shape.blanks * (Shape.word "(" *
    (Shape.blanks * (Shape.word ")" * (Shape.blanks * (Shape.word "=>" * (Shape.blanks *
      (Shape.word "\x7b" * (Shape.free "\x7d" * (Shape.word "\x7d" * Shape.blanks))))))))))))

def callOpening : Language Char := Shape.blanks * (Shape.word "(" * Shape.blanks)

def arrowOpening : Language Char :=
  Shape.word "(" * (Shape.free ")" * (Shape.word ")" * (Shape.blanks * Shape.word "=>")))

/-- A call of a hook up to the arrow of the function that is its first argument. -/
def hookOpening (H : String) : Language Char := Shape.word H * (callOpening * arrowOpening)

def block : Language Char := Shape.word "\x7b" * (Shape.free "\x7d" * Shape.word "\x7d")

def braced (b : List Char) : List Char := "\x7b".toList ++ (b ++ "\x7d".toList)

def memoHooks : Language Char := Shape.word "useMemo" + Shape.word "useCallback"

theorem splits_effectCall {K : Language Char} (hK : ∀ u ∈ K, Stops isBlank u) :
    Shape.Splits effectCall K :=
  .word_mul _ (.only_word (by decide) (.word_mul _ (.only_word (by decide) (.word_mul _
    (.only_word (by decide) (.word_mul _ (.only_word (by decide) (.word_mul _
      (.only_word (by decide) (.word_mul _ (.only_word (by decide)
        (.word_mul _ (Shape.splits_only hK)))))))))))))

theorem splits_memoHooks (K : Language Char) : Shape.Splits memoHooks K := by
  refine .add (Shape.splits_word _ K) (Shape.splits_word _ K) ?_
  rintro _ rfl _ rfl us vs
  simp

theorem splits_callOpening {K : Language Char} (hK : ∀ u ∈ K, Stops isBlank u) :
    Shape.Splits callOpening K :=
  .only_word (by decide) (.word_mul _ (Shape.splits_only hK))

theorem splits_arrowOpening (K : Language Char) : Shape.Splits arrowOpening K :=
  .word_mul _ (.only_word (by decide) (.word_mul _ (.only_word_last (by decide))))

theorem mem_hookOpening (H : String) : H.toList ++ "(() =>".toList ∈ hookOpening H := by
  have hnil : ([] : List Char) ∈ Shape.blanks := Shape.nil_mem_only _
  have hspace : [' '] ∈ Shape.blanks := Shape.mem_only_of_all (by decide)
  exact ⟨_, rfl, _, ⟨_, ⟨[], hnil, _, ⟨_, rfl, [], hnil, rfl⟩, rfl⟩, _, ⟨_, rfl, _,
    ⟨[], Shape.nil_mem_only _, _, ⟨_, rfl, _, ⟨[' '], hspace, _, rfl, rfl⟩, rfl⟩, rfl⟩, rfl⟩, rfl⟩,
    rfl⟩

theorem stops_arrowOpening {K : Language Char} : ∀ u ∈ arrowOpening * K, Stops isBlank u := by
  rintro _ ⟨_, ⟨_, rfl, as, -, rfl⟩, bs, -, rfl⟩
  exact ⟨'(', as ++ bs, rfl, by decide⟩

/-- In front of an arrow function there is no reference that ends at a closing parenthesis. -/
theorem reference_ne_arrow {ws' as rest : List Char} (hws' : ws' ∈ callOpening)
    (has : as ∈ Shape.free ",()") (hvs : vs ∈ Shape.blanks) (hws : ws ∈ callOpening)
    (hhd : hd ∈ arrowOpening) : ws' ++ (as ++ (vs ++ ')' :: rest)) ≠ ws ++ (hd ++ y) := by
  obtain ⟨fs, hfs, _, ⟨_, rfl, gs, hgs, rfl⟩, rfl⟩ := hws'
  obtain ⟨fs', hfs', _, ⟨_, rfl, gs', hgs', rfl⟩, rfl⟩ := hws
  obtain ⟨_, rfl, ds, -, rfl⟩ := hhd
  intro heq
  have hparens : fs ++ '(' :: (gs ++ (as ++ (vs ++ ')' :: rest))) =
      fs' ++ '(' :: (gs' ++ '(' :: (ds ++ y)) := by simpa using heq
  obtain ⟨-, h⟩ := Stops.append_inj (q := isBlank) ⟨'(', _, rfl, by decide⟩
    ⟨'(', _, rfl, by decide⟩ hfs hfs' hparens
  have hbehind : (gs ++ (as ++ vs)) ++ ')' :: rest = gs' ++ '(' :: (ds ++ y) := by
    simpa using (List.cons.inj h).2
  have hblanks {bs : List Char} (hbs : bs ∈ Shape.blanks) : bs ∈ Shape.free ",()" :=
    Shape.mem_free_of_mem_only (by decide) hbs
  have hreference : gs ++ (as ++ vs) ∈ Shape.free ",()" :=
    Shape.append_mem_only.mpr ⟨hblanks hgs, Shape.append_mem_only.mpr ⟨has, hblanks hvs⟩⟩
  obtain ⟨-, hends⟩ := Stops.append_inj ⟨')', rest, rfl, by decide⟩ ⟨'(', ds ++ y, rfl, by decide⟩
    hreference (hblanks hgs') hbehind
  cases hends

/-! ## The first argument and what stands behind it -/

theorem splits_block {K : Language Char} (hK : ∀ u ∈ K, Stops isBlank u) :
    Shape.Splits (Shape.blanks * (block * Shape.blanks)) K := by
  rw [block, mul_assoc, mul_assoc]
  exact .only_word (by decide) (.word_mul _ (.only_word (by decide)
    (.word_mul _ (Shape.splits_only hK))))

/-- A block is followed by what stands behind the blanks behind it. -/
theorem block_of_tail {fs as us rest rest' : List Char} {d : Char} (hfs : fs ∈ Shape.blanks)
    (has : as ∈ block) (hus : us ∈ Shape.blanks) (hd : isBlank d = false)
    (htl : tl ∈ Shape.blanks * block) (hvs : vs ∈ Shape.blanks)
    (h : fs ++ (as ++ (us ++ d :: rest)) = tl ++ (vs ++ ')' :: rest')) :
    d = ')' ∧ fs ++ (as ++ us) = tl ++ vs := by
  have htail : tl ++ vs ∈ Shape.blanks * (block * Shape.blanks) := by
    rw [← mul_assoc]
    exact Language.append_mem_mul htl hvs
  obtain ⟨heq, hrest⟩ := splits_block (K := {u | Stops isBlank u}) (fun _ hu => hu)
    (fs ++ (as ++ us)) (Language.append_mem_mul hfs (Language.append_mem_mul has hus)) (tl ++ vs)
    htail (d :: rest) ⟨d, rest, rfl, hd⟩ (')' :: rest') ⟨')', rest', rfl, by decide⟩
    (by simpa using h)
  exact ⟨(List.cons.inj hrest).1, heq⟩

theorem head_dropWhile_append {fs as rest : List Char} {d : Char} (hfs : fs ∈ Shape.blanks)
    (hd : isBlank d = false) : ((fs ++ (as ++ d :: rest)).dropWhile isBlank).head? =
      ((as.dropWhile isBlank).head?.or (some d)) := by
  rw [List.dropWhile_append_of_pos hfs, List.dropWhile_append]
  cases as.dropWhile isBlank with
  | nil => simp [hd]
  | cons c cs => simp

theorem append_blanks_mem_flatExpressions {as : List Char} (h : as ∈ Shape.blanks * flatExpressions)
    (hvs : vs ∈ Shape.blanks) : as ++ vs ∈ flatExpressions := by
  have hblanks {bs : List Char} (hbs : bs ∈ Shape.blanks) : bs ∈ flatExpressions :=
    mem_flatExpressions_of_mem_free (Shape.mem_free_of_mem_only (by decide) hbs)
  obtain ⟨bs, hbs, cs, hcs, rfl⟩ := h
  exact append_mem_flatExpressions (append_mem_flatExpressions (hblanks hbs) hcs) (hblanks hvs)

/-- A flat expression that does not begin with a brace is followed by what stands behind it,
whatever of it is taken for blanks. -/
theorem value_of_tail {fs as rest rest' : List Char} {d : Char} (hfs : fs ∈ Shape.blanks)
    (has : as ∈ flatExpressions) (hfirst : (as.dropWhile isBlank).head? ≠ some '\x7b')
    (hd : d = ')' ∨ d = ',') (htl : tl ∈ Shape.blanks * block + Shape.blanks * flatExpressions)
    (hvs : vs ∈ Shape.blanks) (h : fs ++ (as ++ d :: rest) = tl ++ (vs ++ ')' :: rest')) :
    d = ')' ∧ fs ++ as = tl ++ vs := by
  have hvisible : isBlank d = false := by
    rcases hd with rfl | rfl
    · decide
    · decide
  rcases htl with hblock | hvalue
  · obtain ⟨bs, hbs, _, ⟨_, rfl, cs, -, rfl⟩, rfl⟩ := hblock
    have hbrace : ((fs ++ (as ++ d :: rest)).dropWhile isBlank).head? = some '\x7b' := by
      rw [h, List.append_assoc, List.dropWhile_append_of_pos hbs]
      rfl
    rw [head_dropWhile_append hfs hvisible] at hbrace
    cases hhead : (as.dropWhile isBlank).head? with
    | none =>
      rw [hhead, Option.none_or] at hbrace
      rcases hd with rfl | rfl
      · cases hbrace
      · cases hbrace
    | some c =>
      rw [hhead, Option.some_or] at hbrace
      exact absurd (hhead.trans hbrace) hfirst
  · have hsplits := splits_flatExpressions (K := {u | ∃ c cs, u = c :: cs ∧ (c = ',' ∨ c = ')')})
      fun _ hu => hu
    have hexpression : fs ++ as ∈ flatExpressions := by
      have happend := append_blanks_mem_flatExpressions (Language.append_mem_mul hfs has)
        (Shape.nil_mem_only _)
      rwa [List.append_nil] at happend
    obtain ⟨heq, hrest⟩ := hsplits (fs ++ as) hexpression (tl ++ vs)
      (append_blanks_mem_flatExpressions hvalue hvs) (d :: rest) ⟨d, rest, rfl, hd.symm⟩
      (')' :: rest') ⟨')', rest', rfl, .inr rfl⟩ (by simpa using h)
    exact ⟨(List.cons.inj hrest).1, heq⟩

/-- In front of a comma a text that closes its parentheses is no expression that ends at a closing
parenthesis. -/
theorem not_value_of_tail {fs as us rest rest' : List Char} (hfs : fs ∈ Shape.blanks)
    (has : ClosesParens as) (hus : us ∈ Shape.blanks)
    (htl : tl ∈ Shape.blanks * flatExpressions) (hvs : vs ∈ Shape.blanks) :
    fs ++ (as ++ (us ++ ',' :: rest)) ≠ tl ++ (vs ++ ')' :: rest') := by
  intro h
  have hcloses : ClosesParens (fs ++ (as ++ us)) := has.of_append_free
    (Shape.mem_free_of_mem_only (by decide) hfs) (Shape.mem_free_of_mem_only (by decide) hus)
  have heq : (tl ++ vs) ++ ')' :: rest' = (fs ++ (as ++ us)) ++ ',' :: rest := by
    simpa using h.symm
  obtain ⟨ds, -, hds, hrest⟩ :=
    hcloses.exists_flatExpression (append_blanks_mem_flatExpressions htl hvs) heq
  cases ds with
  | nil => cases (List.cons.inj hds).1
  | cons d ds =>
    obtain ⟨rfl, -⟩ := List.cons.inj hds
    exact absurd (hrest.noSurplus 1) (by simp)

end Text

namespace Regex

open Catalog

theorem language_useEffect : useEffectMissingDepsRegex.language =
    Text.effectCall * Shape.word ")" := by
  simp only [useEffectMissingDepsRegex, language_ofList_append, language_ofList_cons, language_word,
    language_blanks, language_free, mul_assoc, Text.effectCall]

theorem matchAt_useEffect {pre call rest : List Char} {d : Char} (hcall : call ∈ Text.effectCall)
    (hd : Text.isBlank d = false) :
    matchAt (pre ++ (call ++ d :: rest)).toArray useEffectMissingDepsRegex pre.length =
      if d = ')' then some ⟨pre.length + call.length + 1, []⟩ else none := by
  have hp : pre.length ≤ (pre ++ (call ++ d :: rest)).toArray.size := by simp
  have hends {s' : Cursor} (h : Reaches (pre ++ (call ++ d :: rest)).toArray
      useEffectMissingDepsRegex (.start pre.length) s') :
      d = ')' ∧ s' = ⟨pre.length + call.length + 1, []⟩ := by
    obtain ⟨_, hcs, hstands, rfl⟩ := (takes_language rfl _ _).mp h
    rw [language_useEffect] at hcs
    obtain ⟨call', hcall', _, rfl, rfl⟩ := hcs
    obtain ⟨more, hmore⟩ := stands_behind.mp hstands
    rw [List.append_assoc] at hmore
    obtain ⟨rfl, hrest⟩ := Text.splits_effectCall (K := {u | Stops Text.isBlank u})
      (fun _ hu => hu) call' hcall' call hcall _ ⟨')', more, rfl, by decide⟩ _
      ⟨d, rest, rfl, hd⟩ hmore
    refine ⟨(List.cons.inj hrest).1.symm, ?_⟩
    simp only [Cursor.start, Cursor.moveTo, List.length_append, ← Nat.add_assoc]
    rfl
  split
  · rename_i hparen
    refine matchAt_eq_some hp ((takes_language rfl _ _).mpr ⟨call ++ [')'], ?_, ?_, ?_⟩)
      fun s' hs' => (hends hs').2
    · rw [language_useEffect]
      exact Language.append_mem_mul hcall rfl
    · exact stands_behind.mpr ⟨rest, by simp [hparen]⟩
    · simp only [Cursor.start, Cursor.moveTo, List.length_append, ← Nat.add_assoc]
      rfl
  · rename_i hother
    exact (matchAt_eq_none_iff hp).mpr fun s' hs' => hother (hends hs').1

def memoHookName : Regex := oneOf [word "useMemo", word "useCallback"]

def blockArgument : Regex :=
  .ofList (word "(" ++ free ")" :: word ")" ++ blanks :: word "=>" ++ blanks :: word "\x7b" ++
    free "\x7d" :: word "\x7d")

def valueArgument : Regex :=
  .ofList (word "(" ++ free ")" :: word ")" ++ blanks :: word "=>" ++ [blanks, arguments])

def memoArgument : Regex := .alt blockArgument (.alt valueArgument (free ",()"))

def callParts : List Regex := .group 1 memoHookName :: (blanks :: word "(" ++ [blanks])

theorem useMemoMissingDepsRegex_eq : useMemoMissingDepsRegex =
    .ofList (callParts ++ .group 2 memoArgument :: (blanks :: word ")")) := by
  simp only [useMemoMissingDepsRegex, callParts, memoHookName, memoArgument, blockArgument,
    valueArgument, oneOf, ofList, List.append_assoc, List.cons_append, List.nil_append]

theorem language_arguments : arguments.language = Text.flatExpressions := by
  have hchars : (Regex.one (noneOf ",()")).language = Text.flatChars := by
    ext cs
    simp only [mem_language_one, accepts_noneOf, Bool.not_eq_true', List.contains_eq_mem,
      decide_eq_false_iff_not]
    rfl
  have hchoices : (oneOf [[.one (noneOf ",()")], word "(" ++ free "()" :: word ")"]).language =
      Text.flatParts := by
    rw [Text.flatParts, ← hchars, Text.groups]
    simp only [oneOf, language_alt, language_ofList_append, language_ofList_cons,
      language_ofList_nil, language_word, language_free, mul_one]
  rw [arguments, language_loop, hchoices, Text.flatExpressions]

theorem language_blockArgument : blockArgument.language =
    Text.arrowOpening * (Shape.blanks * Text.block) := by
  simp only [blockArgument, language_ofList_append, language_ofList_cons, language_word,
    language_blanks, language_free, mul_assoc, Text.arrowOpening, Text.block]

theorem language_valueArgument : valueArgument.language =
    Text.arrowOpening * (Shape.blanks * Text.flatExpressions) := by
  simp only [valueArgument, language_ofList_append, language_ofList_cons, language_ofList_nil,
    language_word, language_blanks, language_free, language_arguments, mul_assoc, mul_one,
    Text.arrowOpening]

theorem language_memoArgument : memoArgument.language = Text.arrowOpening *
    (Shape.blanks * Text.block + Shape.blanks * Text.flatExpressions) + Shape.free ",()" := by
  rw [memoArgument, language_alt, language_alt, language_blockArgument, language_valueArgument,
    language_free, mul_add, add_assoc]

theorem language_memoHookName : memoHookName.language = Text.memoHooks := by
  simp only [memoHookName, oneOf, language_alt, language_word, Text.memoHooks]

theorem language_callOpening :
    (Regex.ofList (blanks :: word "(" ++ [blanks])).language = Text.callOpening := by
  simp only [language_ofList_append, language_ofList_cons, language_ofList_nil, language_word,
    language_blanks, mul_assoc, mul_one, Text.callOpening]

theorem reaches_callParts : Reaches t (.ofList callParts) s m ↔
    ∃ H ∈ Text.memoHooks, ∃ ws ∈ Text.callOpening, Stands t s.pos (H ++ ws) ∧
      m = ⟨s.pos + H.length + ws.length, (1, s.pos, s.pos + H.length) :: s.groups⟩ := by
  rw [callParts, reaches_group_rest rfl rfl, language_memoHookName, language_callOpening]

theorem reaches_argument {r : Regex} (hr : r.isPlain = true) :
    Reaches t (.ofList (.group 2 r :: blanks :: word ")")) m s' ↔
      ∃ as ∈ r.language, ∃ vs ∈ Shape.blanks, Stands t m.pos (as ++ (vs ++ [')'])) ∧
        s' = ⟨m.pos + as.length + vs.length + 1, (2, m.pos, m.pos + as.length) :: m.groups⟩ := by
  rw [reaches_group_rest hr rfl, language_ofList_cons, language_blanks, language_word]
  constructor
  · rintro ⟨as, has, _, ⟨vs, hvs, _, rfl, rfl⟩, hstands, rfl⟩
    refine ⟨as, has, vs, hvs, hstands, ?_⟩
    rw [List.length_append, ← Nat.add_assoc]
    rfl
  · rintro ⟨as, has, vs, hvs, hstands, rfl⟩
    refine ⟨as, has, vs ++ [')'], ⟨vs, hvs, _, rfl, rfl⟩, hstands, ?_⟩
    rw [List.length_append, ← Nat.add_assoc]
    rfl

end Regex

/-- A call of a hook stands at an offset, with an arrow function as its first argument; `y` is all
that stands behind the arrow. -/
structure CallsHook (t : Array Char) (p : Nat) (H ws hd y : List Char) : Prop where
  name : H ∈ Text.memoHooks
  opening : ws ∈ Text.callOpening
  arrow : hd ∈ Text.arrowOpening
  text : t.toList.drop p = H ++ (ws ++ (hd ++ y))

namespace CallsHook

open Regex Catalog

variable {r : Regex} {T : Language Char}

theorem stands_name (h : CallsHook t p H ws hd y) : Stands t p H := by
  rw [Stands, h.text]
  exact List.prefix_append _ _

theorem le_size (h : CallsHook t p H ws hd y) : p ≤ t.size := by
  refine h.stands_name.le_size ?_
  rcases h.name with rfl | rfl
  · decide
  · decide

/-- What a match takes for the argument: the arrow function, or a front of it. -/
theorem argument_of_reaches (h : CallsHook t p H ws hd y) (hr : r.isPlain = true)
    (hT : ∀ u ∈ r.language, u ∈ Text.arrowOpening * T + Shape.free ",()")
    (hm : Reaches t (.ofList callParts) (.start p) m)
    (hs' : Reaches t (.ofList (.group 2 r :: blanks :: word ")")) m s') :
    m = ⟨p + H.length + ws.length, [(1, p, p + H.length)]⟩ ∧
      ∃ tl ∈ T, ∃ vs ∈ Shape.blanks, ∃ rest, y = tl ++ (vs ++ ')' :: rest) ∧
        s'.pos = p + (H ++ (ws ++ (hd ++ (tl ++ vs)))).length + 1 ∧
        s'.groups.lookup 1 = some (p, p + H.length) := by
  obtain ⟨H', hH', ws', hws', hcall, rfl⟩ := reaches_callParts.mp hm
  obtain ⟨as, has, vs, hvs, hargument, rfl⟩ := (reaches_argument hr).mp hs'
  have hstands : Stands t p ((H' ++ ws') ++ (as ++ (vs ++ [')']))) := by
    refine stands_append.mpr ⟨hcall, ?_⟩
    rw [List.length_append, ← Nat.add_assoc]
    exact hargument
  rw [Stands, h.text] at hstands
  obtain ⟨rest, hrest⟩ := hstands
  obtain ⟨rfl, hbehind⟩ := Text.splits_memoHooks ⊤ H' hH' H h.name
    (ws' ++ (as ++ (vs ++ ')' :: rest))) trivial _ trivial (by simpa using hrest)
  rcases hT as has with harrow | hreference
  · obtain ⟨hd', hhd', tl, htl, rfl⟩ := harrow
    obtain ⟨rfl, hfunction⟩ := Text.splits_callOpening (K := Text.arrowOpening * ⊤)
      Text.stops_arrowOpening ws' hws' ws h.opening (hd' ++ (tl ++ (vs ++ ')' :: rest)))
      (Language.append_mem_mul hhd' trivial) _ (Language.append_mem_mul h.arrow trivial)
      (by simpa using hbehind)
    obtain ⟨rfl, hy⟩ :=
      Text.splits_arrowOpening ⊤ hd' hhd' hd h.arrow _ trivial _ trivial hfunction
    refine ⟨rfl, tl, htl, vs, hvs, rest, hy.symm, ?_, rfl⟩
    simp only [Cursor.start, List.length_append]
    omega
  · exact absurd hbehind (Text.reference_ne_arrow hws' hreference hvs h.opening h.arrow)

/-- An arrow function that is followed by blanks and a closing parenthesis can be taken. -/
theorem exists_reaches (h : CallsHook t p H ws hd y) (hr : r.isPlain = true)
    (hT : ∀ u ∈ Text.arrowOpening * T, u ∈ r.language) (htl : tl ∈ T) (hvs : vs ∈ Shape.blanks)
    (hy : ∃ rest, y = tl ++ (vs ++ ')' :: rest)) :
    Reaches t (.ofList callParts) (.start p)
        ⟨p + H.length + ws.length, [(1, p, p + H.length)]⟩ ∧
      ∃ s', Reaches t (.ofList (.group 2 r :: blanks :: word ")"))
        ⟨p + H.length + ws.length, [(1, p, p + H.length)]⟩ s' := by
  obtain ⟨rest, rfl⟩ := hy
  have hstands : Stands t p ((H ++ ws) ++ ((hd ++ tl) ++ (vs ++ [')']))) := by
    rw [Stands, h.text]
    exact ⟨rest, by simp⟩
  obtain ⟨hcall, hargument⟩ := stands_append.mp hstands
  rw [List.length_append, ← Nat.add_assoc] at hargument
  exact ⟨reaches_callParts.mpr ⟨H, h.name, ws, h.opening, hcall, rfl⟩, _,
    (reaches_argument hr).mpr ⟨hd ++ tl, hT _ (Language.append_mem_mul h.arrow htl), vs, hvs,
      hargument, rfl⟩⟩

theorem tail_of_reaches (h : CallsHook t p H ws hd y)
    (hs' : Reaches t useMemoMissingDepsRegex (.start p) s') :
    ∃ tl ∈ Shape.blanks * Text.block + Shape.blanks * Text.flatExpressions, ∃ vs ∈ Shape.blanks,
      ∃ rest, y = tl ++ (vs ++ ')' :: rest) ∧
        s'.pos = p + (H ++ (ws ++ (hd ++ (tl ++ vs)))).length + 1 ∧
        s'.groups.lookup 1 = some (p, p + H.length) := by
  rw [useMemoMissingDepsRegex_eq] at hs'
  obtain ⟨m, hm, hargument⟩ := reaches_ofList_append.mp hs'
  exact (h.argument_of_reaches rfl (fun _ hu => language_memoArgument ▸ hu) hm hargument).2

theorem exists_reaches_useMemo (h : CallsHook t p H ws hd y)
    (htl : tl ∈ Shape.blanks * Text.block + Shape.blanks * Text.flatExpressions)
    (hvs : vs ∈ Shape.blanks) (hy : ∃ rest, y = tl ++ (vs ++ ')' :: rest)) :
    ∃ s', Reaches t useMemoMissingDepsRegex (.start p) s' := by
  have hargument : ∀ u ∈ Text.arrowOpening * (Shape.blanks * Text.block +
      Shape.blanks * Text.flatExpressions), u ∈ memoArgument.language :=
    fun u hu => language_memoArgument ▸ Or.inl hu
  obtain ⟨hm, s', hs'⟩ := h.exists_reaches rfl hargument htl hvs hy
  exact ⟨s', useMemoMissingDepsRegex_eq ▸ reaches_ofList_append.mpr ⟨_, hm, hs'⟩⟩

theorem matchAt?_eq_some (h : CallsHook t p H ws hd y) {e : Nat}
    (hex : ∃ s', Reaches t useMemoMissingDepsRegex (.start p) s')
    (hall : ∀ c, matchAt t useMemoMissingDepsRegex p = some c →
      c.pos = e ∧ c.groups.lookup 1 = some (p, p + H.length)) :
    useMemoMissingDeps.matchAt? t p = some (e, some (String.ofList H)) := by
  obtain ⟨c, hc⟩ := Option.isSome_iff_exists.mp ((isSome_matchAt_iff h.le_size).mpr hex)
  obtain ⟨rfl, hgroup⟩ := hall c hc
  have hcapture : (Occurrence.ofMatch t ⟨p, c.pos, c.groups⟩).capture =
      (c.groups.lookup 1).map fun span => String.ofList (slice t span.1 span.2) := rfl
  have hmatch : useMemoMissingDeps.pattern.regex.matchAt t p = some c := hc
  rw [Rule.matchAt?, hmatch, Option.map_some, hcapture, hgroup, Option.map_some]
  simp only [h.stands_name.slice_eq]

theorem matchAt?_eq_none (h : CallsHook t p H ws hd y)
    (hnone : ∀ s', ¬ Reaches t useMemoMissingDepsRegex (.start p) s') :
    useMemoMissingDeps.matchAt? t p = none := by
  have hmatch : useMemoMissingDeps.pattern.regex.matchAt t p = none :=
    (matchAt_eq_none_iff h.le_size).mpr hnone
  rw [Rule.matchAt?, hmatch, Option.map_none]

/-- Behind an expression without a block the call has to close, and the match ends there. -/
theorem matchAt?_value {fs as rest : List Char} {d : Char}
    (h : CallsHook t p H ws hd (fs ++ (as ++ d :: rest))) (hfs : fs ∈ Shape.blanks)
    (has : as ∈ Text.flatExpressions)
    (hfirst : (as.dropWhile Text.isBlank).head? ≠ some '\x7b') (hd' : d = ')' ∨ d = ',') :
    useMemoMissingDeps.matchAt? t p = if d = ')' then
      some (p + (H ++ (ws ++ (hd ++ (fs ++ as)))).length + 1, some (String.ofList H))
    else none := by
  have hends {s' : Cursor} (hs' : Reaches t useMemoMissingDepsRegex (.start p) s') :
      d = ')' ∧ s'.pos = p + (H ++ (ws ++ (hd ++ (fs ++ as)))).length + 1 ∧
        s'.groups.lookup 1 = some (p, p + H.length) := by
    obtain ⟨tl, htl, vs, hvs, rest', hy, hpos, hgroup⟩ := h.tail_of_reaches hs'
    obtain ⟨hparen, heq⟩ := Text.value_of_tail hfs has hfirst hd' htl hvs hy
    exact ⟨hparen, heq ▸ hpos, hgroup⟩
  split
  · rename_i hparen
    have hex := h.exists_reaches_useMemo (Or.inr (Language.append_mem_mul hfs has))
      (Shape.nil_mem_only _) ⟨rest, by simp [hparen]⟩
    exact h.matchAt?_eq_some hex fun c hc => (hends (reaches_of_matchAt h.le_size hc)).2
  · rename_i hother
    exact h.matchAt?_eq_none fun s' hs' => hother (hends hs').1

/-- A block is preferred to an expression; so behind a block that ends the argument the match ends,
whatever its parentheses. -/
theorem matchAt?_block {fs as us rest : List Char}
    (h : CallsHook t p H ws hd (fs ++ (as ++ (us ++ ')' :: rest)))) (hfs : fs ∈ Shape.blanks)
    (has : as ∈ Text.block) (hus : us ∈ Shape.blanks) :
    useMemoMissingDeps.matchAt? t p =
      some (p + (H ++ (ws ++ (hd ++ (fs ++ (as ++ us))))).length + 1, some (String.ofList H)) := by
  have htail := Language.append_mem_mul hfs has
  have hends : ∃ rest', fs ++ (as ++ (us ++ ')' :: rest)) = (fs ++ as) ++ (us ++ ')' :: rest') :=
    ⟨rest, by simp⟩
  obtain ⟨-, s', hs'⟩ :=
    h.exists_reaches (r := blockArgument) rfl
      (fun _ hu => language_blockArgument ▸ hu) htail hus hends
  have hex := h.exists_reaches_useMemo (Or.inl htail) hus hends
  refine h.matchAt?_eq_some hex fun c hc => ?_
  rw [useMemoMissingDepsRegex_eq] at hc
  obtain ⟨m', hm', hfirst | ⟨hnone, hother⟩⟩ := reaches_first_choice h.le_size hc
  · obtain ⟨-, tl, htl, vs, hvs, rest', hy, hpos, hgroup⟩ := h.argument_of_reaches
      (T := Shape.blanks * Text.block) rfl
      (fun _ hu => Or.inl (language_blockArgument ▸ hu)) hm' hfirst
    obtain ⟨-, heq⟩ := Text.block_of_tail hfs has hus (by decide) htl hvs hy
    exact ⟨heq ▸ hpos, hgroup⟩
  · have hother' : (Regex.alt valueArgument (free ",()")).language =
        Text.arrowOpening * (Shape.blanks * Text.flatExpressions) + Shape.free ",()" := by
      rw [language_alt, language_valueArgument, language_free]
    obtain ⟨rfl, -⟩ := h.argument_of_reaches rfl (fun _ hu => hother' ▸ hu) hm' hother
    exact absurd hs' (hnone s')

/-- In front of a comma neither a block nor an expression ends the argument, if the block closes its
parentheses. -/
theorem matchAt?_block_comma {fs as us rest : List Char}
    (h : CallsHook t p H ws hd (fs ++ (as ++ (us ++ ',' :: rest)))) (hfs : fs ∈ Shape.blanks)
    (has : as ∈ Text.block) (hcloses : Text.ClosesParens as) (hus : us ∈ Shape.blanks) :
    useMemoMissingDeps.matchAt? t p = none := by
  refine h.matchAt?_eq_none fun s' hs' => ?_
  obtain ⟨tl, htl, vs, hvs, rest', hy, -⟩ := h.tail_of_reaches hs'
  rcases htl with hblock | hvalue
  · obtain ⟨hparen, -⟩ := Text.block_of_tail hfs has hus (by decide) hblock hvs hy
    cases hparen
  · exact Text.not_value_of_tail hfs hcloses hus hvalue hvs hy

theorem of_opening {H : String} {head : List Char} (hH : H ∈ ["useMemo", "useCallback"])
    (hhead : head ∈ Text.hookOpening H) : ∃ ws hd, head = H.toList ++ (ws ++ hd) ∧
      ∀ pre y : List Char, CallsHook (pre ++ (head ++ y)).toArray pre.length H.toList ws hd y := by
  obtain ⟨_, rfl, _, ⟨ws, hws, hd, hhd, rfl⟩, rfl⟩ := hhead
  refine ⟨ws, hd, rfl, fun pre y => ⟨?_, hws, hhd, by simp⟩⟩
  rcases List.mem_pair.mp hH with rfl | rfl
  · exact Or.inl rfl
  · exact Or.inr rfl

end CallsHook

namespace Catalog

theorem matchAt?_effect {pre call rest : List Char} {d : Char} (hcall : call ∈ Text.effectCall)
    (hd : Text.isBlank d = false) :
    useEffectMissingDeps.matchAt? (pre ++ (call ++ d :: rest)).toArray pre.length =
      if d = ')' then some (pre.length + call.length + 1, none) else none := by
  have hmatch : useEffectMissingDeps.pattern.regex.matchAt (pre ++ (call ++ d :: rest)).toArray
      pre.length = _ := Regex.matchAt_useEffect hcall hd
  rw [Rule.matchAt?, hmatch]
  split
  · rfl
  · rfl

/-- What stands behind the first argument of a call decides whether its dependency list is missing.
Behind a block that leaves a parenthesis open this is known only if it is the end of the call. -/
theorem matchAt?_dependencies :
    (∀ (pre call rest : List Char) (d : Char), call ∈ Text.effectCall → Text.isBlank d = false →
      useEffectMissingDeps.matchAt? (pre ++ (call ++ d :: rest)).toArray pre.length =
        if d = ')' then some (pre.length + call.length + 1, none) else none) ∧
    ∀ H ∈ ["useMemo", "useCallback"], ∀ head ∈ Text.hookOpening H, ∀ ws ∈ Shape.blanks,
      ∀ pre rest : List Char,
        (∀ E ∈ Text.flatExpressions, (E.dropWhile Text.isBlank).head? ≠ some '\x7b' →
          ∀ d, d = ')' ∨ d = ',' →
            useMemoMissingDeps.matchAt? (pre ++ (head ++ (ws ++ (E ++ d :: rest)))).toArray
                pre.length =
              if d = ')' then some (pre.length + (head ++ (ws ++ E)).length + 1, some H)
              else none) ∧
        ∀ b ∈ Shape.free "\x7d", ∀ us ∈ Shape.blanks,
          let found (d : Char) := useMemoMissingDeps.matchAt?
            (pre ++ (head ++ (ws ++ (Text.braced b ++ (us ++ d :: rest))))).toArray pre.length
          found ')' =
            some (pre.length + (head ++ (ws ++ (Text.braced b ++ us))).length + 1, some H) ∧
          (Text.ClosesParens b → found ',' = none) := by
  refine ⟨fun pre call rest d hcall hd => matchAt?_effect hcall hd,
    fun H hH head hhead ws hws pre rest => ?_⟩
  obtain ⟨cs, hd, rfl, hcalls⟩ := CallsHook.of_opening hH hhead
  constructor
  · intro E hE hfirst d hd'
    rw [(hcalls pre _).matchAt?_value hws hE hfirst hd']
    simp only [List.append_assoc, String.ofList_toList]
  · intro b hb us hus found
    have hblock : Text.braced b ∈ Text.block := ⟨_, rfl, _, ⟨b, hb, _, rfl, rfl⟩, rfl⟩
    constructor
    · refine ((hcalls pre _).matchAt?_block hws hblock hus).trans ?_
      simp only [List.append_assoc, String.ofList_toList]
    · intro hcloses
      have hbraced : Text.ClosesParens (Text.braced b) := hcloses.of_append_free
        (Shape.mem_free_of_all (by decide)) (Shape.mem_free_of_all (by decide))
      exact (hcalls pre _).matchAt?_block_comma hws hblock hbraced hus

/-- A parenthesis that a block leaves open, in a string for example, may be closed behind the
comma. -/
theorem matchAt?_openParen :
    ¬ ∀ H ∈ ["useMemo", "useCallback"], ∀ head ∈ Text.hookOpening H, ∀ ws ∈ Shape.blanks,
      ∀ pre rest : List Char, ∀ b ∈ Shape.free "\x7d", ∀ us ∈ Shape.blanks,
        (∀ n, (b.take n).count ')' ≤ (b.take n).count '(') →
          useMemoMissingDeps.matchAt?
            (pre ++ (head ++ (ws ++ (Text.braced b ++ (us ++ ',' :: rest))))).toArray pre.length =
              none := by
  intro h
  have hsurplus (n : Nat) : ((" return '(' ".toList).take n).count ')' = 0 :=
    List.count_eq_zero.mpr fun hmem => absurd (List.mem_of_mem_take hmem) (by decide)
  have hnone := h "useMemo" (by decide) _ (Text.mem_hookOpening "useMemo") [' ']
    (Shape.mem_only_of_all (by decide)) "f(".toList " [x]))".toList " return '(' ".toList
    (Shape.mem_free_of_all (by decide)) [] (Shape.nil_mem_only _)
    fun n => (hsurplus n).trans_le (Nat.zero_le _)
  exact absurd hnone (by decide +kernel)

/-- Commas inside of calls do not count, neither in an expression nor in a block. -/
theorem matchAt?_dependencies_nested :
    let pre := "x = ".toList
    let head := "useCallback(() =>".toList
    let value := "max(a, b) + c".toList
    let body := " return max(a, min(b, c)) ".toList
    let behindValue (d : Char) := useMemoMissingDeps.matchAt?
      (pre ++ (head ++ ([' '] ++ (value ++ d :: " [])".toList)))).toArray pre.length
    let behindBlock (d : Char) := useMemoMissingDeps.matchAt?
      (pre ++ (head ++ ([' '] ++ (Text.braced body ++ ([] ++ d :: " [])".toList))))).toArray
        pre.length
    let behindEffect (d : Char) := useEffectMissingDeps.matchAt?
      (pre ++ ("useEffect(()=>\x7brun()\x7d".toList ++ d :: " [])".toList)).toArray pre.length
    head ∈ Text.hookOpening "useCallback" ∧ value ∈ Text.flatExpressions ∧
    Text.ClosesParens body ∧ "useEffect(()=>\x7brun()\x7d".toList ∈ Text.effectCall ∧
    behindValue ')' = some (36, some "useCallback") ∧ behindValue ',' = none ∧
    behindBlock ')' = some (51, some "useCallback") ∧ behindBlock ',' = none ∧
    behindEffect ')' = some (26, none) ∧ behindEffect ',' = none := by
  intro pre head value body behindValue behindBlock behindEffect
  have hnil : ([] : List Char) ∈ Shape.blanks := Shape.nil_mem_only _
  have hspace : [' '] ∈ Shape.blanks := Shape.mem_only_of_all (by decide)
  have hhead : head ∈ Text.hookOpening "useCallback" := Text.mem_hookOpening "useCallback"
  have hvalue : value ∈ Text.flatExpressions := by
    have hparts : Text.flatParts ≤ Text.flatExpressions := le_kstar
    have hgroup : "(a, b)".toList ∈ Text.flatExpressions :=
      hparts (Or.inr (Text.mem_groups.mpr ⟨"a, b".toList, Shape.mem_free_of_all (by decide), rfl⟩))
    have hchars (w : String) (hw : w.toList.all (!",()".toList.contains ·) = true) :
        w.toList ∈ Text.flatExpressions :=
      Text.mem_flatExpressions_of_mem_free (Shape.mem_free_of_all hw)
    exact Text.append_mem_flatExpressions (hchars "max" (by decide))
      (Text.append_mem_flatExpressions hgroup (hchars " + c" (by decide)))
  have hbody : Text.ClosesParens body := by decide
  have heffect : "useEffect(()=>\x7brun()\x7d".toList ∈ Text.effectCall :=
    ⟨_, rfl, _, ⟨[], hnil, _, ⟨_, rfl, _, ⟨[], hnil, _, ⟨_, rfl, _, ⟨[], hnil, _, ⟨_, rfl, _,
      ⟨[], hnil, _, ⟨_, rfl, _, ⟨[], hnil, _, ⟨_, rfl, _, ⟨"run()".toList,
        Shape.mem_free_of_all (by decide), _, ⟨_, rfl, [], hnil, rfl⟩, rfl⟩, rfl⟩, rfl⟩, rfl⟩, rfl⟩,
          rfl⟩, rfl⟩, rfl⟩, rfl⟩, rfl⟩, rfl⟩, rfl⟩
  obtain ⟨heffects, hhooks⟩ := matchAt?_dependencies
  obtain ⟨hvalues, hblocks⟩ := hhooks "useCallback" (by decide) head hhead [' '] hspace pre
    " [])".toList
  obtain ⟨hparen, hcomma⟩ := hblocks body (Shape.mem_free_of_all (by decide)) [] hnil
  exact ⟨hhead, hvalue, hbody, heffect, hvalues value hvalue (by decide) ')' (.inl rfl),
    hvalues value hvalue (by decide) ',' (.inr rfl), hparen, hcomma hbody,
    heffects pre _ " [])".toList ')' heffect (by decide),
    heffects pre _ " [])".toList ',' heffect (by decide)⟩

end Catalog

end ReactLint
