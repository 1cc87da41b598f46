import ReactLint.Proofs.Analysis.SingleRule
import ReactLint.Proofs.Letters
import ReactLint.Proofs.Snippet

/-!
# Tags without their attributes

The rules on accessibility match the opening of a tag and blanks behind it, in front of a line that
names none of some attributes. The expression may give back blanks as long as one is left. So a tag
is reported if the line behind all of its blanks names no attribute, and also if a newline stands
among the blanks anywhere but at their front: cut off in front of it, they leave an empty line.
-/

namespace ReactLint

namespace Text

variable {w : String} {words : List String} {cs us vs rest : List Char}

/-! ## Words in a line -/

/-- A word that a text is searched for: ASCII without capitals, and none of its letters is a
blank. -/
structure IsName (w : String) : Prop where
  nonempty : w.toList ≠ []
  plain : IsPlain w
  visible : ∀ d ∈ w.toList, ∀ c ∈ variants d, isBlank c = false

instance (w : String) : Decidable (IsName w) :=
  decidable_of_iff (w.toList ≠ [] ∧ IsPlain w ∧
      w.toList.all (fun d => (variants d).all (!isBlank ·)) = true) <| by
    simp only [List.all_eq_true, Bool.not_eq_true']
    exact ⟨fun ⟨hne, hplain, hvisible⟩ => ⟨hne, hplain, hvisible⟩,
      fun h => ⟨h.nonempty, h.plain, h.visible⟩⟩

def Mentions (words : List String) (cs : List Char) : Prop :=
  ∃ w ∈ words, ∃ us, Spells w us ∧ us <:+: cs

theorem Spells.all {P : Char → Prop} (h : Spells w cs)
    (hw : ∀ d ∈ w.toList, ∀ c ∈ variants d, P c) : ∀ c ∈ cs, P c := by
  rw [Spells] at h
  intro c hc
  obtain ⟨i, hi, rfl⟩ := List.getElem_of_mem hc
  have hlength := h.length_eq
  have hmem := (List.forall₂_iff_get.mp h).2 i (by omega) hi
  exact hw _ (List.getElem_mem _) _ hmem

theorem Spells.ne_nil (h : Spells w cs) (hw : IsName w) : cs ≠ [] := by
  rintro rfl
  exact hw.nonempty (List.eq_nil_of_length_eq_zero (List.Forall₂.length_eq h))

theorem Spells.visible (h : Spells w cs) (hw : IsName w) : ∀ c ∈ cs, isBlank c = false :=
  h.all hw.visible

/-- Of blanks and a text behind them, only the text holds visible texts. -/
theorem infix_blanks_append (hvs : ∀ c ∈ vs, isBlank c = true) (hne : us ≠ [])
    (hus : ∀ c ∈ us, isBlank c = false) : us <:+: vs ++ rest ↔ us <:+: rest := by
  constructor
  · rintro ⟨front, back, h⟩
    rw [List.append_assoc, List.append_eq_append_iff] at h
    rcases h with ⟨more, hsplit, hrest⟩ | ⟨more, hfront, hrest⟩
    · cases more with
      | nil => exact ⟨[], back, by simpa using hrest⟩
      | cons c more =>
        obtain ⟨u, us, rfl⟩ := List.exists_cons_of_ne_nil hne
        obtain rfl : u = c := by simpa using congrArg List.head? hrest
        have hblank := hvs u (by rw [hsplit]; simp)
        simp [hus u List.mem_cons_self] at hblank
    · exact ⟨more, back, by rw [hrest, List.append_assoc]⟩
  · exact fun h => h.trans (List.suffix_append vs rest).isInfix

theorem not_mentions_blanks (hwords : ∀ w ∈ words, IsName w) (hvs : ∀ c ∈ vs, isBlank c = true) :
    ¬ Mentions words vs := by
  rintro ⟨w, hw, us, hspells, hinfix⟩
  have hname := hwords w hw
  have hempty : us <:+: [] := (infix_blanks_append hvs (hspells.ne_nil hname)
    (hspells.visible hname)).mp (by rwa [List.append_nil])
  exact hspells.ne_nil hname (List.infix_nil.mp hempty)

/-- The line behind blanks is empty of words if a newline stands among the blanks. -/
theorem mentions_line_iff (hwords : ∀ w ∈ words, IsName w) (hvs : ∀ c ∈ vs, isBlank c = true)
    (rest : List Char) :
    Mentions words ((vs ++ rest).takeWhile (· != '\n')) ↔
      '\n' ∉ vs ∧ Mentions words (rest.takeWhile (· != '\n')) := by
  by_cases hnewline : '\n' ∈ vs
  · have hline : ((vs ++ rest).takeWhile (· != '\n')) = vs.takeWhile (· != '\n') := by
      rw [List.takeWhile_append, if_neg]
      intro hall
      have hself := List.takeWhile_eq_self_iff.mp ((List.takeWhile_sublist _).eq_of_length hall)
      simpa using hself '\n' hnewline
    rw [hline]
    refine iff_of_false (not_mentions_blanks hwords fun c hc => ?_) fun h => h.1 hnewline
    exact hvs c ((List.takeWhile_sublist _).mem hc)
  · have hline : (vs ++ rest).takeWhile (· != '\n') = vs ++ rest.takeWhile (· != '\n') :=
      List.takeWhile_append_of_pos fun c hc => by
        rw [bne_iff_ne]
        rintro rfl
        exact hnewline hc
    rw [hline]
    simp only [Mentions, hnewline, not_false_eq_true, true_and]
    refine exists_congr fun w => and_congr_right fun hw => exists_congr fun us =>
      and_congr_right fun hspells => ?_
    exact infix_blanks_append hvs (hspells.ne_nil (hwords w hw)) (hspells.visible (hwords w hw))

/-- Blanks can be cut off in front of a line without any of the words exactly if the line behind all
of them has none, or if a newline stands behind the first of them. -/
theorem exists_cut_iff (hwords : ∀ w ∈ words, IsName w) :
    (∃ bs more, cs = bs ++ more ∧ bs ≠ [] ∧ (∀ c ∈ bs, isBlank c = true) ∧
      ¬ Mentions words (more.takeWhile (· != '\n'))) ↔
    ∃ blanks rest, cs = blanks ++ rest ∧ blanks ≠ [] ∧ (∀ c ∈ blanks, isBlank c = true) ∧
      (∀ c ∈ rest.head?, isBlank c = false) ∧
      (¬ Mentions words (rest.takeWhile (· != '\n')) ∨ ∃ j, 1 ≤ j ∧ blanks[j]? = some '\n') := by
  constructor
  · rintro ⟨bs, more, rfl, hne, hbs, hfree⟩
    have hvs : ∀ c ∈ more.takeWhile isBlank, isBlank c = true := fun c hc =>
      List.mem_takeWhile_imp hc
    refine ⟨bs ++ more.takeWhile isBlank, more.dropWhile isBlank, ?_, ?_, ?_, ?_, ?_⟩
    · rw [List.append_assoc, List.takeWhile_append_dropWhile]
    · simp [hne]
    · exact fun c hc => (List.mem_append.mp hc).elim (hbs c) (hvs c)
    · intro c hc
      have hhead := List.head?_dropWhile_not isBlank more
      rw [hc] at hhead
      exact Bool.eq_false_of_not_eq_true (by simpa using hhead)
    · have hline := mentions_line_iff hwords hvs (more.dropWhile isBlank)
      rw [List.takeWhile_append_dropWhile] at hline
      rw [hline, not_and_or, not_not] at hfree
      refine hfree.symm.imp_right fun hnewline => ?_
      obtain ⟨i, hi⟩ := List.mem_iff_getElem?.mp hnewline
      have hlength := List.length_pos_iff.mpr hne
      refine ⟨bs.length + i, by omega, ?_⟩
      rw [List.getElem?_append_right (Nat.le_add_right _ _), Nat.add_sub_cancel_left, hi]
  · rintro ⟨blanks, rest, rfl, hne, hblanks, -, hfree | ⟨j, hj, hnewline⟩⟩
    · exact ⟨blanks, rest, rfl, hne, hblanks, hfree⟩
    · refine ⟨blanks.take j, blanks.drop j ++ rest, ?_, ?_, ?_, ?_⟩
      · rw [← List.append_assoc, List.take_append_drop]
      · simp only [ne_eq, List.take_eq_nil_iff, hne, or_false]
        omega
      · exact fun c hc => hblanks c (List.mem_of_mem_take hc)
      · rw [mentions_line_iff hwords fun c hc => hblanks c (List.mem_of_mem_drop hc)]
        rintro ⟨hnot, -⟩
        refine hnot (List.mem_of_getElem? (i := 0) ?_)
        rw [List.getElem?_drop, Nat.add_zero, hnewline]

end Text

open Text (Spells Mentions IsName)

/-! ## Rules on tags -/

/-- A tag opens, all the blanks behind it follow, and a text that is bare of the attributes. -/
structure BareTag (openers attributes : List String) (opener blanks rest : List Char) : Prop where
  opens : ∃ w ∈ openers, Spells w opener
  nonempty : blanks ≠ []
  blank : ∀ c ∈ blanks, Text.isBlank c = true
  maximal : ∀ c ∈ rest.head?, Text.isBlank c = false
  bare : ¬ Mentions attributes (rest.takeWhile (· != '\n')) ∨
    ∃ j, 1 ≤ j ∧ blanks[j]? = some '\n'

/-- What a tag opens with: an angle bracket, which occurs in no letter behind it. -/
structure IsOpener (w : String) : Prop extends IsName w where
  front : ∀ d ∈ w.toList.head?, Text.variants d = ['<', '<']
  inside : ∀ d ∈ w.toList.tail, '<' ∉ Text.variants d

instance (w : String) : Decidable (IsOpener w) :=
  decidable_of_iff (IsName w ∧
      w.toList.head?.all (fun d => decide (Text.variants d = ['<', '<'])) = true ∧
      w.toList.tail.all (fun d => decide ('<' ∉ Text.variants d)) = true) <| by
    simp only [Option.all_eq_true, List.all_eq_true, decide_eq_true_eq]
    exact ⟨fun ⟨hname, hfront, hinside⟩ => ⟨hname, hfront, hinside⟩,
      fun h => ⟨h.toIsName, h.front, h.inside⟩⟩

def tagRegex (opening naming : List Regex) : Regex :=
  .ofList (opening ++ [Regex.someBlanks,
    .ahead true (.ofList (Regex.many .notNewline :: naming))])

structure TagRule where
  rule : Rule
  openers : List String
  attributes : List String
  opening : List Regex
  naming : List Regex
  /-- The groups that the opening closes, of an offset and a number of characters. -/
  groups : Nat → Nat → List (Nat × Nat × Nat)
  /-- What the first group holds, of the opening. -/
  capture : List Char → Option String
  regex_eq : rule.pattern.regex = tagRegex opening naming
  ungated : rule.gate = none
  unlisted : rule.allowList = none
  isOpener : ∀ w ∈ openers, IsOpener w
  isName : ∀ w ∈ attributes, IsName w
  reaches_opening : ∀ (t : Array Char) (s s' : Cursor), Regex.Reaches t (.ofList opening) s s' ↔
    ∃ w ∈ openers, ∃ cs, Spells w cs ∧ Stands t s.pos cs ∧
      s' = ⟨s.pos + cs.length, groups s.pos cs.length ++ s.groups⟩
  reaches_naming : ∀ (t : Array Char) (s : Cursor), (∃ s', Regex.Reaches t (.ofList naming) s s') ↔
    ∃ w ∈ attributes, ∃ cs, Spells w cs ∧ Stands t s.pos cs
  capture_eq : ∀ (t : Array Char) (p : Nat) (cs : List Char), Stands t p cs → cs ≠ [] →
    ((groups p cs.length).lookup 1).map (fun (i, j) => String.ofList (slice t i j)) = capture cs

namespace TagRule

variable {t : Array Char} {p : Nat} {s s' : Cursor} (r : TagRule)

/-- An attribute is named from an offset on if one of them stands in the rest of the line. -/
theorem reaches_line : (∃ s', Regex.Reaches t (.ofList (Regex.many .notNewline :: r.naming)) s s') ↔
    Mentions r.attributes ((t.toList.drop s.pos).takeWhile (· != '\n')) := by
  simp only [Regex.many, Regex.reaches_run_cons (g := .greedy) nofun, CharTest.accepts_notNewline]
  constructor
  · rintro ⟨s', cs, hcs, hall, -, hnaming⟩
    obtain ⟨w, hw, us, hspells, hus⟩ := (r.reaches_naming t _).mp ⟨s', hnaming⟩
    have hline : ∀ c ∈ cs ++ us, (c != '\n') = true := fun c hc =>
      (List.mem_append.mp hc).elim (hall c) fun hc => by
        rw [bne_iff_ne]
        rintro rfl
        have hvisible := hspells.visible (r.isName w hw) _ hc
        simp [Text.isBlank_newline] at hvisible
    obtain ⟨more, hmore⟩ := stands_append.mpr ⟨hcs, hus⟩
    rw [← hmore, List.takeWhile_append_of_pos hline]
    exact ⟨w, hw, us, hspells, cs, _, rfl⟩
  · rintro ⟨w, hw, us, hspells, front, back, hline⟩
    have hprefix : front ++ us <+: (t.toList.drop s.pos).takeWhile (· != '\n') := ⟨back, hline⟩
    have hstands : Stands t s.pos (front ++ us) := hprefix.trans (List.takeWhile_prefix _)
    obtain ⟨hfront, hus⟩ := stands_append.mp hstands
    obtain ⟨s', hs'⟩ := (r.reaches_naming t (s.moveTo (s.pos + front.length))).mpr
      ⟨w, hw, us, hspells, hus⟩
    refine ⟨s', front, hfront, fun c hc => ?_, Nat.zero_le _, hs'⟩
    refine List.mem_takeWhile_imp (p := (· != '\n')) (l := t.toList.drop s.pos) ?_
    rw [← hline, List.append_assoc]
    exact List.mem_append_left _ hc

theorem reaches_iff : Regex.Reaches t r.rule.pattern.regex s s' ↔
    ∃ cs bs more, (∃ w ∈ r.openers, Spells w cs) ∧ t.toList.drop s.pos = cs ++ (bs ++ more) ∧
      bs ≠ [] ∧ (∀ c ∈ bs, Text.isBlank c = true) ∧
      ¬ Mentions r.attributes (more.takeWhile (· != '\n')) ∧
      s' = ⟨s.pos + (cs ++ bs).length, r.groups s.pos cs.length ++ s.groups⟩ := by
  have hbehind {cs bs more : List Char} (htext : t.toList.drop s.pos = cs ++ (bs ++ more)) :
      t.toList.drop (s.pos + cs.length + bs.length) = more := by
    rw [Nat.add_assoc, ← List.length_append, ← List.drop_drop, htext, ← List.append_assoc,
      List.drop_left]
  rw [r.regex_eq, tagRegex, Regex.reaches_ofList_append]
  simp only [r.reaches_opening, Regex.reaches_someBlanks_cons]
  constructor
  · rintro ⟨_, ⟨w, hw, cs, hspells, hcs, rfl⟩, bs, hbs, hblank, hne, hfree, rfl⟩
    obtain ⟨more, hmore⟩ := stands_append.mpr ⟨hcs, hbs⟩
    have htext : t.toList.drop s.pos = cs ++ (bs ++ more) := by rw [← hmore, List.append_assoc]
    refine ⟨cs, bs, more, ⟨w, hw, hspells⟩, htext, hne, hblank, ?_, ?_⟩
    · rw [← hbehind htext]
      exact fun hmentions => not_exists.mpr hfree (r.reaches_line.mpr hmentions)
    · simp only [Cursor.moveTo, List.length_append, Nat.add_assoc]
  · rintro ⟨cs, bs, more, ⟨w, hw, hspells⟩, htext, hne, hblank, hfree, rfl⟩
    have hstands : Stands t s.pos (cs ++ bs) := ⟨more, by rw [htext, List.append_assoc]⟩
    obtain ⟨hcs, hbs⟩ := stands_append.mp hstands
    refine ⟨_, ⟨w, hw, cs, hspells, hcs, rfl⟩, bs, hbs, hblank, hne, ?_, ?_⟩
    · rw [← hbehind htext] at hfree
      exact fun m hm => hfree (r.reaches_line.mp ⟨m, hm⟩)
    · simp only [Cursor.moveTo, List.length_append, Nat.add_assoc]

variable {r} {cs bs more cs' bs' more' : List Char}

theorem visible_opener (h : ∃ w ∈ r.openers, Spells w cs) :
    ∀ c ∈ cs, Text.isBlank c = false := by
  obtain ⟨w, hw, hspells⟩ := h
  exact hspells.visible (r.isOpener w hw).toIsName

theorem opener_eq_cons (h : ∃ w ∈ r.openers, Spells w cs) :
    ∃ tail, cs = '<' :: tail ∧ '<' ∉ tail := by
  obtain ⟨w, hw, hspells⟩ := h
  have hopener := r.isOpener w hw
  obtain ⟨d, ds, hword⟩ := List.exists_cons_of_ne_nil hopener.nonempty
  rw [Spells, hword] at hspells
  obtain ⟨c, tail, hc, htail, rfl⟩ := List.forall₂_cons_left_iff.mp hspells
  have hfront := hopener.front d (by rw [hword]; rfl)
  obtain rfl : c = '<' := by simpa [hfront] using hc
  refine ⟨tail, rfl, fun hmem => ?_⟩
  obtain ⟨i, hi, heq⟩ := List.getElem_of_mem hmem
  have hlength := htail.length_eq
  have hletter := (List.forall₂_iff_get.mp htail).2 i (by omega) hi
  have hinside := hopener.inside ds[i] (by rw [hword]; exact List.getElem_mem _)
  exact hinside (heq ▸ hletter)

/-- The opening in a text is determined by its offset: blanks follow it. -/
theorem opener_unique (h : ∃ w ∈ r.openers, Spells w cs) (h' : ∃ w ∈ r.openers, Spells w cs')
    (hbs : ∀ c ∈ bs, Text.isBlank c = true) (hbs' : ∀ c ∈ bs', Text.isBlank c = true)
    (hne : bs ≠ []) (hne' : bs' ≠ []) (hstands : Stands t p (cs ++ bs))
    (hstands' : Stands t p (cs' ++ bs')) : cs = cs' := by
  have hvisible {cs : List Char} (h : ∃ w ∈ r.openers, Spells w cs) :
      ∀ c ∈ cs, (!Text.isBlank c) = true := fun c hc => by
    rw [visible_opener h c hc, Bool.not_false]
  have hstops {bs : List Char} (hbs : ∀ c ∈ bs, Text.isBlank c = true) (hne : bs ≠ []) :
      Stops (fun c => !Text.isBlank c) bs := by
    obtain ⟨c, rest, rfl⟩ := List.exists_cons_of_ne_nil hne
    exact ⟨c, rest, rfl, congrArg not (hbs c List.mem_cons_self)⟩
  exact hstands.eq_of_stops hstands' (hvisible h) (hvisible h') (hstops hbs hne)
    (hstops hbs' hne')

theorem ofMatch_eq (h : ∃ w ∈ r.openers, Spells w cs)
    (hbs : ∀ c ∈ bs, Text.isBlank c = true) (hstands : Stands t p (cs ++ bs)) :
    Occurrence.ofMatch t ⟨p, p + (cs ++ bs).length, r.groups p cs.length ++ []⟩ =
      ⟨lineAt t p, String.ofList cs, p, p + cs.length, r.capture cs⟩ := by
  obtain ⟨tail, rfl, -⟩ := opener_eq_cons h
  have hvisible := visible_opener h
  have hfirst : Stops Text.isBlank ('<' :: tail) := ⟨'<', tail, rfl, rfl⟩
  have hlast : Stops Text.isBlank ('<' :: tail).reverse := by
    obtain ⟨c, rest, hrest⟩ := List.exists_cons_of_ne_nil
      (List.reverse_ne_nil_iff.mpr (List.cons_ne_nil '<' tail))
    exact ⟨c, rest, hrest, hvisible c (List.mem_reverse.mp (hrest ▸ List.mem_cons_self))⟩
  rw [Occurrence.ofMatch_of_stands hstands, Text.trim_append hfirst hlast hbs, List.append_nil,
    r.capture_eq t p _ (stands_append.mp hstands).1 (List.cons_ne_nil _ _)]

theorem text_of_matchAt {c : Cursor} (hp : p ≤ t.size)
    (h : Regex.matchAt t r.rule.pattern.regex p = some c) :
    ∃ cs bs more, (∃ w ∈ r.openers, Spells w cs) ∧ t.toList.drop p = cs ++ (bs ++ more) ∧
      bs ≠ [] ∧ (∀ c ∈ bs, Text.isBlank c = true) ∧
      ¬ Mentions r.attributes (more.takeWhile (· != '\n')) ∧
      c = ⟨p + (cs ++ bs).length, r.groups p cs.length ++ []⟩ :=
  r.reaches_iff.mp (Regex.reaches_of_matchAt hp h)

theorem keepsApart (r : TagRule) : r.rule.pattern.regex.KeepsApart t := by
  intro p c q hp hat hlt hstop
  obtain ⟨cs, bs, more, hopener, htext, -, hblank, -, rfl⟩ := text_of_matchAt hp hat
  have hsize := (Regex.matchAt_bounds hp hat).2
  obtain ⟨tail, rfl, htail⟩ := opener_eq_cons hopener
  have hstands : Stands t p ('<' :: (tail ++ bs)) := ⟨more, by rw [htext]; simp⟩
  have hinside := (stands_cons.mp hstands).2
  rw [← Option.not_isSome_iff_eq_none]
  intro hsome
  obtain ⟨d, hd⟩ := Option.isSome_iff_exists.mp hsome
  have hq : q ≤ t.size := Nat.le_trans (Nat.le_of_lt hstop) hsize
  obtain ⟨cs', bs', more', hopener', htext', -⟩ := text_of_matchAt hq hd
  obtain ⟨tail', rfl, -⟩ := opener_eq_cons hopener'
  -- the bracket that opens the second match would stand inside the first one
  have hbracket : t[q]? = some '<' := (stands_cons.mp ⟨_, htext'.symm⟩).1
  obtain ⟨j, rfl⟩ := Nat.exists_eq_add_of_le (show p + 1 ≤ q from hlt)
  have hj : j < (tail ++ bs).length := by
    simp only [List.cons_append, List.length_cons] at hstop
    omega
  rw [hinside.getElem? hj, List.getElem?_eq_getElem hj, Option.some.injEq] at hbracket
  have hmem : '<' ∈ tail ++ bs := hbracket ▸ List.getElem_mem hj
  rcases List.mem_append.mp hmem with hmem | hmem
  · exact htail hmem
  · exact absurd (hblank _ hmem) (by decide)

/-- A rule on tags reports every bare tag, by its opening. -/
theorem mem_reportedFor (r : TagRule) {g : Registry} (hg : g.Sound) (hr : r.rule ∈ g.enabled)
    {i : Issue} : i ∈ g.reportedFor t r.rule.id ↔
      ∃ (p : Nat) (opener blanks rest : List Char),
        BareTag r.openers r.attributes opener blanks rest ∧
        t.toList.drop p = opener ++ (blanks ++ rest) ∧
        i = Issue.ofRule r.rule
          ⟨lineAt t p, String.ofList opener, p, p + opener.length, r.capture opener⟩ := by
  refine (hg.mem_reportedFor hr r.ungated r.keepsApart).trans ?_
  constructor
  · rintro ⟨p, c, hp, hat, -, rfl⟩
    obtain ⟨cs, bs, more, hopener, htext, hne, hblank, hfree, rfl⟩ := text_of_matchAt hp hat
    obtain ⟨blanks, rest, hsplit, hbne, hblanks, hmaximal, hbare⟩ :=
      (Text.exists_cut_iff r.isName).mp ⟨bs, more, rfl, hne, hblank, hfree⟩
    have hstands : Stands t p (cs ++ bs) := ⟨more, by rw [htext, List.append_assoc]⟩
    refine ⟨p, cs, blanks, rest, ⟨hopener, hbne, hblanks, hmaximal, hbare⟩, hsplit ▸ htext, ?_⟩
    rw [ofMatch_eq hopener hblank hstands]
  · rintro ⟨p, cs, blanks, rest, htag, htext, rfl⟩
    obtain ⟨bs, more, hsplit, hne, hblank, hfree⟩ := (Text.exists_cut_iff r.isName).mpr
      ⟨blanks, rest, rfl, htag.nonempty, htag.blank, htag.maximal, htag.bare⟩
    rw [hsplit] at htext
    have hstands : Stands t p (cs ++ bs) := ⟨more, by rw [htext, List.append_assoc]⟩
    have hp : p ≤ t.size := hstands.le_size <| by
      have hpos := List.length_pos_iff.mpr hne
      rw [List.length_append]
      omega
    obtain ⟨c, hat⟩ := Option.isSome_iff_exists.mp <| (Regex.isSome_matchAt_iff hp).mpr
      ⟨_, r.reaches_iff.mpr ⟨cs, bs, more, htag.opens, htext, hne, hblank, hfree, rfl⟩⟩
    obtain ⟨cs', bs', more', hopener', htext', hne', hblank', -, rfl⟩ := text_of_matchAt hp hat
    have hstands' : Stands t p (cs' ++ bs') := ⟨more', by rw [htext', List.append_assoc]⟩
    obtain rfl := opener_unique htag.opens hopener' hblank hblank' hne hne' hstands hstands'
    refine ⟨p, _, hp, hat, AllowLists.suppresses_of_no_list r.unlisted _ _, ?_⟩
    rw [ofMatch_eq hopener' hblank' hstands']

end TagRule

/-! ## The rules of the catalog -/

namespace Catalog

open Regex

def imageTags : TagRule where
  rule := missingAlt
  openers := ["<img"]
  attributes := ["alt="]
  opening := anyCase "<img"
  naming := anyCase "alt="
  groups := fun _ _ => []
  capture := fun _ => none
  regex_eq := rfl
  ungated := rfl
  unlisted := rfl
  isOpener := by decide
  isName := by decide
  reaches_opening := by
    intro t s s'
    rw [reaches_anyCase (by decide)]
    simp [Cursor.moveTo]
  reaches_naming := by
    intro t s
    simp [reaches_anyCase (w := "alt=") (by decide)]
  capture_eq := fun _ _ _ _ _ => rfl

def controls : List String := ["input", "textarea", "select"]

theorem reaches_control {t : Array Char} {s s' : Cursor} :
    Reaches t (.ofList (anyCase "<" ++ [.group 1 (oneOf (controls.map anyCase))])) s s' ↔
      ∃ w ∈ controls.map ("<" ++ ·), ∃ cs, Spells w cs ∧ Stands t s.pos cs ∧
        s' = ⟨s.pos + cs.length, [(1, s.pos + 1, s.pos + cs.length)] ++ s.groups⟩ := by
  have hone {as : List Char} (h : Spells "<" as) : as.length = 1 := h.length_eq.symm
  simp only [reaches_ofList_append, reaches_anyCase (w := "<") (by decide), reaches_group_cons,
    reaches_ofList_nil, reaches_oneOf_anyCase controls (by decide) (by decide),
    List.mem_map, exists_exists_and_eq_and, Text.spells_append]
  constructor
  · rintro ⟨_, ⟨as, has, hfront, rfl⟩, _, ⟨w, hw, bs, hbs, hback, rfl⟩, rfl⟩
    refine ⟨w, hw, as ++ bs, ⟨as, bs, has, hbs, rfl⟩, stands_append.mpr ⟨hfront, hback⟩, ?_⟩
    simp [Cursor.moveTo, Cursor.close, hone has, Nat.add_assoc]
  · rintro ⟨w, hw, _, ⟨as, bs, has, hbs, rfl⟩, hstands, rfl⟩
    obtain ⟨hfront, hback⟩ := stands_append.mp hstands
    refine ⟨_, ⟨as, has, hfront, rfl⟩, _, ⟨w, hw, bs, hbs, hback, rfl⟩, ?_⟩
    simp [Cursor.moveTo, Cursor.close, hone has, Nat.add_assoc]

def controlTags : TagRule where
  rule := missingLabel
  openers := controls.map ("<" ++ ·)
  attributes := ["id=", "aria-label=", "aria-labelledby="]
  opening := anyCase "<" ++ [.group 1 (oneOf (controls.map anyCase))]
  naming := [.group 2 (oneOf (["id=", "aria-label=", "aria-labelledby="].map anyCase))]
  groups := fun p n => [(1, p + 1, p + n)]
  capture := fun opener => some (String.ofList opener.tail)
  regex_eq := rfl
  ungated := rfl
  unlisted := rfl
  isOpener := by decide
  isName := by decide
  reaches_opening := fun _ _ _ => reaches_control
  reaches_naming := by
    intro t s
    simp only [reaches_group_cons, reaches_ofList_nil,
      reaches_oneOf_anyCase ["id=", "aria-label=", "aria-labelledby="] (by decide) (by decide)]
    constructor
    · rintro ⟨_, _, ⟨w, hw, cs, hcs, hstands, -⟩, -⟩
      exact ⟨w, hw, cs, hcs, hstands⟩
    · rintro ⟨w, hw, cs, hcs, hstands⟩
      exact ⟨_, _, ⟨w, hw, cs, hcs, hstands, rfl⟩, rfl⟩
  capture_eq := by
    intro t p cs hstands hne
    obtain ⟨c, cs, rfl⟩ := List.exists_cons_of_ne_nil hne
    have hslice := (stands_cons.mp hstands).2.slice_eq
    rw [List.lookup_cons_self, Option.map_some, List.tail_cons, List.length_cons,
      Nat.add_comm cs.length, ← Nat.add_assoc]
    simp only [hslice]

end Catalog

namespace Registry

/-- With the built-in catalog, an image is reported at every offset at which one opens, in front of
blanks, with no description named in the line behind them or with a newline among them but not at
their front; and a form control likewise, for want of an id and a label. The snippet is the opening
alone. -/
theorem analyze_tags (now : Moment) (code : String) :
    let found (id : String) :=
      (Registry.default.analyze now (.text code)).1.issues.filter (·.id == id)
    let line (p : Nat) := lineAt code.toList.toArray p
    (found "C001").Pairwise (fun a b => a.occurrence.start < b.occurrence.start) ∧
    (∀ i, i ∈ found "C001" ↔ ∃ (p : Nat) (opener blanks rest : List Char),
      BareTag ["<img"] ["alt="] opener blanks rest ∧
      code.toList.drop p = opener ++ (blanks ++ rest) ∧
      i = Issue.ofRule Catalog.missingAlt
        ⟨line p, String.ofList opener, p, p + opener.length, none⟩) ∧
    (found "C002").Pairwise (fun a b => a.occurrence.start < b.occurrence.start) ∧
    ∀ i, i ∈ found "C002" ↔ ∃ (p : Nat) (opener blanks rest : List Char),
      BareTag ["<input", "<textarea", "<select"] ["id=", "aria-label=", "aria-labelledby="]
        opener blanks rest ∧
      code.toList.drop p = opener ++ (blanks ++ rest) ∧
      i = Issue.ofRule Catalog.missingLabel
        ⟨line p, String.ofList opener, p, p + opener.length,
          some (String.ofList opener.tail)⟩ := by
  intro found line
  have hsound := reachable_default.sound
  have himage : Catalog.missingAlt ∈ Registry.default.enabled := by
    simp [enabled, Registry.default, Catalog.rules]
  have hcontrol : Catalog.missingLabel ∈ Registry.default.enabled := by
    simp [enabled, Registry.default, Catalog.rules]
  exact ⟨hsound.pairwise_reportedFor himage,
    fun i => Catalog.imageTags.mem_reportedFor hsound himage,
    hsound.pairwise_reportedFor hcontrol,
    fun i => Catalog.controlTags.mem_reportedFor hsound hcontrol⟩

/-- A line break behind the first blank hides the description. -/
theorem analyze_tags_lineBreak :
    Issue.ofRule Catalog.missingAlt ⟨1, "<Img", 0, 4, none⟩ ∈
      (Registry.default.analyze ⟨⟨2025, 1, 31⟩, ⟨12, 0, 0, 0⟩, some 0⟩
        (.text "<Img\r\nalt=''>")).1.issues := by
  obtain ⟨-, hissues, -⟩ := analyze_tags ⟨⟨2025, 1, 31⟩, ⟨12, 0, 0, 0⟩, some 0⟩ "<Img\r\nalt=''>"
  refine (List.mem_filter.mp ((hissues _).mpr
    ⟨0, "<Img".toList, "\r\n".toList, "alt=''>".toList, ⟨⟨_, List.mem_singleton_self _, ?_⟩,
      by decide, List.all_eq_true.mp (by decide), ?_, .inr ⟨1, Nat.le_refl 1, by decide⟩⟩,
      by decide, ?_⟩)).1
  · exact .cons (by decide) (.cons (by decide) (.cons (by decide) (.cons (by decide) .nil)))
  · rintro c hc
    obtain rfl : 'a' = c := Option.some.inj hc
    decide
  · decide +kernel

end Registry

end ReactLint
