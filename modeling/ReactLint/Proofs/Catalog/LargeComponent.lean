import ReactLint.Proofs.Analysis.SingleRule
import ReactLint.Proofs.Matching.Language
import ReactLint.Proofs.Snippet

/-!
# Components that are exported bare

A component is reported that names a hook in its body and is exported by its own name. The name ends
where letters and digits do, in front of the parameters as in front of the semicolon; so it is read
in one way only, and what is exported is compared with the whole of it.
-/

namespace ReactLint

open scoped Computability

variable {t : Array Char} {s s' c : Cursor} {p : Nat} {N e cs : List Char} {B : Language Char}

namespace Text

def componentNames : Language Char :=
  {N | ∃ c cs, N = c :: cs ∧ c.isUpper = true ∧ ∀ d ∈ cs, d.isAlphanum = true}

def hookBodies : Language Char :=
  {b | b ∈ Shape.free "\x7d" ∧ ("useState".toList <:+: b ∨ "useEffect".toList <:+: b)}

def opening : Language Char := Shape.word "function" * Shape.gap

/-- What stands between the name of a component and what is exported: the parameters, a body of the
given kind, and `export default`. -/
def declaration (B : Language Char) : Language Char :=
  Shape.blanks * (Shape.word "(" * (Shape.free ")" * (Shape.word ")" * (Shape.blanks *
    (Shape.word "\x7b" * (B * (Shape.word "\x7d" * (Shape.blanks * (Shape.word "export" *
      (Shape.gap * (Shape.word "default" * Shape.gap)))))))))))

def component (B : Language Char) (N : List Char) : Language Char :=
  opening * ({N} * declaration B)

def bareExport (N : List Char) : Language Char :=
  component hookBodies N * ({N} * (Shape.blanks * Shape.word ";"))

theorem mem_declaration_of_hookBodies (h : cs ∈ declaration hookBodies) :
    cs ∈ declaration (Shape.free "\x7d") := by
  have hbody : hookBodies ≤ Shape.free "\x7d" := fun _ h => h.1
  have hle : declaration hookBodies ≤ declaration (Shape.free "\x7d") := by
    unfold declaration
    gcongr
  exact hle h

theorem isAlphanum_eq (d : Char) : d.isAlphanum = ((d.isUpper || d.isLower) || d.isDigit) := rfl

theorem isAlphanum_of_isUpper {d : Char} (h : d.isUpper = true) : d.isAlphanum = true := by
  rw [isAlphanum_eq, h, Bool.true_or, Bool.true_or]

theorem isAlphanum_of_isBlank {d : Char} (h : isBlank d = true) : d.isAlphanum = false :=
  (Bool.or_eq_false_iff.mp (isAsciiWord_of_isBlank h)).2

theorem isAlphanum_of_mem_componentNames (h : N ∈ componentNames) :
    N ∈ Shape.only Char.isAlphanum := by
  obtain ⟨c, cs, rfl, hc, hcs⟩ := h
  exact List.forall_mem_cons.mpr ⟨isAlphanum_of_isUpper hc, hcs⟩

theorem stops_isBlank_of_mem_componentNames (h : N ∈ componentNames) : Stops isBlank N := by
  obtain ⟨c, cs, rfl, hc, -⟩ := h
  refine ⟨c, cs, rfl, Bool.eq_false_iff.mpr fun hblank => ?_⟩
  have halnum := isAlphanum_of_isUpper hc
  rw [isAlphanum_of_isBlank hblank] at halnum
  cases halnum

def isNameChar (d : Char) : Bool := isWord d || d == '$'

theorem isNameChar_of_isAlphanum {d : Char} (h : d.isAlphanum = true) : isNameChar d = true := by
  have hascii : d.toNat < 128 := by
    have halnum : d.isAlphanum = ((decide (d.val ≥ 'A'.val ∧ d.val ≤ 'Z'.val) ||
        (d.val ≥ 'a'.val && d.val ≤ 'z'.val)) || (d.val ≥ '0'.val && d.val ≤ '9'.val)) := rfl
    rw [halnum] at h
    simp only [Bool.or_eq_true, Bool.and_eq_true, decide_eq_true_eq, UInt32.le_iff_toNat_le,
      ge_iff_le] at h
    simp only [← Char.toNat_val]
    have hz : 'z'.val.toNat = 122 := rfl
    have hZ : 'Z'.val.toNat = 90 := rfl
    have h9 : '9'.val.toNat = 57 := rfl
    omega
  rw [isNameChar, isWord_of_ascii hascii, isAsciiWord, h]
  simp

theorem isNameChar_of_isBlank {d : Char} (h : isBlank d = true) : isNameChar d = false := by
  rw [isNameChar, isWord_of_isBlank h, Bool.false_or, beq_eq_false_iff_ne]
  rintro rfl
  exact absurd h (by decide)

/-- The name of a component ends in front of its parameters. -/
theorem stops_isAlphanum_declaration {M : Language Char} :
    ∀ u ∈ declaration B * M, Stops Char.isAlphanum u := by
  rintro _ ⟨_, ⟨bs, hbs, _, ⟨_, rfl, as, -, rfl⟩, rfl⟩, ms, -, rfl⟩
  cases bs with
  | nil => exact ⟨'(', as ++ ms, rfl, by decide⟩
  | cons d bs =>
    exact ⟨d, (bs ++ ('(' :: as)) ++ ms, rfl, isAlphanum_of_isBlank (hbs d List.mem_cons_self)⟩

theorem splits_declaration {K : Language Char} (hK : ∀ u ∈ K, Stops isBlank u) :
    Shape.Splits (declaration (Shape.free "\x7d")) K := by
  have hgap : ∀ a ∈ Shape.gap, a ∈ Shape.only isBlank := fun a ha => ha.1
  have hlast : Shape.Splits Shape.gap K := (Shape.splits_only hK).mono hgap
  exact .only_word (by decide) (.word_mul _ (.only_word (by decide) (.word_mul _
    (.only_word (by decide) (.word_mul _ (.only_word (by decide) (.word_mul _
      (.only_word (by decide) (.word_mul _ (.run_word hgap (by decide)
        (.word_mul _ hlast)))))))))))

/-- What a component exports is told by the text: its head is split off in one way only. -/
theorem component_split {M : Language Char} {us us' N' ms ms' u v : List Char}
    (hM : ∀ u ∈ M, Stops isBlank u) (hus : us ∈ opening) (hus' : us' ∈ opening)
    (hN : N ∈ componentNames) (hN' : N' ∈ componentNames)
    (hms : ms ∈ declaration (Shape.free "\x7d")) (hms' : ms' ∈ declaration (Shape.free "\x7d"))
    (hu : u ∈ M) (hv : v ∈ M)
    (h : us ++ (N ++ (ms ++ u)) = us' ++ (N' ++ (ms' ++ v))) : N = N' ∧ u = v := by
  have hopening : Shape.Splits opening
      (componentNames * (declaration (Shape.free "\x7d") * M)) := by
    refine .word_mul _ (.mono (Shape.splits_only ?_) fun a ha => ha.1)
    rintro _ ⟨a, ha, b, -, rfl⟩
    exact (stops_isBlank_of_mem_componentNames ha).append
  have hnames : Shape.Splits componentNames (declaration (Shape.free "\x7d") * M) :=
    (Shape.splits_only stops_isAlphanum_declaration).mono fun a ha =>
      isAlphanum_of_mem_componentNames ha
  obtain ⟨-, h⟩ := hopening us hus us' hus' _
    (Language.append_mem_mul hN (Language.append_mem_mul hms hu)) _
    (Language.append_mem_mul hN' (Language.append_mem_mul hms' hv)) h
  obtain ⟨hname, h⟩ := hnames N hN N' hN' _ (Language.append_mem_mul hms hu) _
    (Language.append_mem_mul hms' hv) h
  exact ⟨hname, (splits_declaration hM ms hms ms' hms' u hu v hv h).2⟩

theorem mem_component :
    cs ∈ component B N ↔ ∃ us ∈ opening, ∃ ms ∈ declaration B, cs = us ++ (N ++ ms) := by
  constructor
  · rintro ⟨us, hus, _, ⟨_, rfl, ms, hms, rfl⟩, rfl⟩
    exact ⟨us, hus, ms, hms, rfl⟩
  · rintro ⟨us, hus, ms, hms, rfl⟩
    exact ⟨us, hus, _, ⟨N, rfl, ms, hms, rfl⟩, rfl⟩

theorem mem_bareExport : cs ∈ bareExport N ↔ ∃ us ∈ opening, ∃ ms ∈ declaration hookBodies,
    ∃ vs ∈ Shape.blanks * Shape.word ";", cs = us ++ (N ++ (ms ++ (N ++ vs))) := by
  constructor
  · rintro ⟨_, hcomponent, _, ⟨_, rfl, vs, hvs, rfl⟩, rfl⟩
    obtain ⟨us, hus, ms, hms, rfl⟩ := mem_component.mp hcomponent
    exact ⟨us, hus, ms, hms, vs, hvs, by simp⟩
  · rintro ⟨us, hus, ms, hms, vs, hvs, rfl⟩
    exact ⟨us ++ (N ++ ms), mem_component.mpr ⟨us, hus, ms, hms, rfl⟩, N ++ vs,
      Language.append_mem_mul rfl hvs, by simp⟩

theorem stops_bareExport (h : cs ∈ bareExport N) : Stops isBlank cs := by
  obtain ⟨_, ⟨_, rfl, bs, -, rfl⟩, ms, -, vs, -, rfl⟩ := mem_bareExport.mp h
  exact ⟨'f', _, rfl, by decide⟩

theorem ends_bareExport (h : cs ∈ bareExport N) : Stops isBlank cs.reverse := by
  rw [bareExport, ← mul_assoc, ← mul_assoc] at h
  exact Shape.stops_reverse_of_mul_word (by decide) h

/-! ## What is exported -/

theorem takeWhile_isNameChar {bs : List Char} (hN : N ∈ componentNames) (hbs : bs ∈ Shape.blanks)
    (rest : List Char) : (N ++ (bs ++ [';']) ++ rest).takeWhile isNameChar = N := by
  have hname : ∀ d ∈ N, isNameChar d = true := fun d hd =>
    isNameChar_of_isAlphanum (isAlphanum_of_mem_componentNames hN d hd)
  have hstops : (bs ++ [';'] ++ rest).takeWhile isNameChar = [] := by
    cases bs with
    | nil => rfl
    | cons d bs =>
      rw [List.cons_append, List.cons_append, List.takeWhile_cons_of_neg]
      simp [isNameChar_of_isBlank (hbs d List.mem_cons_self)]
  rw [List.append_assoc, List.takeWhile_append_of_pos hname, hstops, List.append_nil]

theorem paren_not_mem_takeWhile {bs : List Char} (hN : N ∈ componentNames)
    (hbs : bs ∈ Shape.blanks) (rest : List Char) :
    '(' ∉ (N ++ (bs ++ [';']) ++ rest).takeWhile (· != ';') := by
  have hfree : N ++ bs ∈ Shape.free "(;" := Shape.append_mem_only.mpr
    ⟨Shape.mem_free_of_mem_only (by decide) (isAlphanum_of_mem_componentNames hN),
      Shape.mem_free_of_mem_only (by decide) hbs⟩
  have hall := Shape.mem_free.mp hfree
  have hexported : (N ++ (bs ++ [';']) ++ rest).takeWhile (· != ';') = N ++ bs := by
    rw [← List.append_assoc, List.append_assoc, List.takeWhile_append_of_pos]
    · simp
    · intro d hd
      rw [bne_iff_ne]
      rintro rfl
      exact hall ';' hd (by decide)
  rw [hexported]
  intro hmem
  exact hall '(' hmem (by decide)

end Text

namespace Regex

open Catalog

def componentName : Regex :=
  .ofList [.one (among [upperItem]), many (among [lowerItem, upperItem, digitItem])]

def hook : Regex := oneOf [word "useState", word "useEffect"]

/-- The parts of the expression between the name and the hook, and between the hook and the name. -/
def untilHook : List Regex :=
  blanks :: word "(" ++ free ")" :: word ")" ++ blanks :: word "\x7b" ++ [lazyFree "\x7d"]

def behindHook : List Regex :=
  lazyFree "\x7d" :: word "\x7d" ++ blanks :: word "export" ++ someBlanks :: word "default" ++
    [someBlanks]

theorem memoMissingLargeComponentRegex_eq : memoMissingLargeComponentRegex =
    .ofList ((word "function" ++ [someBlanks]) ++ .group 1 componentName :: (untilHook ++
      .group 2 hook :: (behindHook ++ .backref 1 .exact :: (blanks :: word ";")))) := by
  simp only [memoMissingLargeComponentRegex, untilHook, behindHook, List.append_assoc,
    List.cons_append, List.nil_append, componentName, hook]

theorem language_hook : hook.language = Shape.word "useState" + Shape.word "useEffect" := by
  simp only [hook, oneOf, language_alt, language_word]

theorem language_hookBodies : Shape.free "\x7d" * (hook.language * Shape.free "\x7d") =
    Text.hookBodies := by
  rw [language_hook]
  ext b
  constructor
  · rintro ⟨as, has, _, ⟨us, hus, cs, hcs, rfl⟩, rfl⟩
    have hinfix : us <:+: as ++ (us ++ cs) := ⟨as, cs, List.append_assoc ..⟩
    rcases hus with rfl | rfl
    · have hfree : "useState".toList ∈ Shape.free "\x7d" := Shape.mem_free_of_all (by decide)
      exact ⟨Shape.append_mem_only.mpr ⟨has, Shape.append_mem_only.mpr ⟨hfree, hcs⟩⟩, .inl hinfix⟩
    · have hfree : "useEffect".toList ∈ Shape.free "\x7d" := Shape.mem_free_of_all (by decide)
      exact ⟨Shape.append_mem_only.mpr ⟨has, Shape.append_mem_only.mpr ⟨hfree, hcs⟩⟩, .inr hinfix⟩
  · rintro ⟨hb, hnames⟩
    obtain ⟨us, hus, as, cs, rfl⟩ :
        ∃ us ∈ Shape.word "useState" + Shape.word "useEffect", us <:+: b := by
      rcases hnames with hstate | heffect
      · exact ⟨_, Or.inl rfl, hstate⟩
      · exact ⟨_, Or.inr rfl, heffect⟩
    rw [List.append_assoc] at hb ⊢
    obtain ⟨has, hrest⟩ := Shape.append_mem_only.mp hb
    exact Language.append_mem_mul has
      (Language.append_mem_mul hus (Shape.append_mem_only.mp hrest).2)

theorem language_declaration :
    (Regex.ofList untilHook).language * (hook.language * (Regex.ofList behindHook).language) =
      Text.declaration Text.hookBodies := by
  rw [Text.declaration, ← language_hookBodies]
  simp only [untilHook, behindHook, language_ofList_append, language_ofList_cons,
    language_ofList_nil, language_word, language_blanks, language_someBlanks, language_free,
    language_lazyFree, mul_assoc, mul_one]

theorem language_componentName : componentName.language = Text.componentNames := by
  have hfirst (c : Char) : (among [upperItem]).accepts c = c.isUpper := by
    simp [among, CharTest.accepts, accepts_upperItem]
  have hrest (c : Char) : (among [lowerItem, upperItem, digitItem]).accepts c = c.isAlphanum := by
    simp [among, CharTest.accepts, accepts_lowerItem, accepts_upperItem, accepts_digitItem,
      Text.isAlphanum_eq, Bool.or_assoc, Bool.or_left_comm]
  rw [componentName, language_ofList_cons, language_ofList_cons, language_ofList_nil, mul_one, many,
    language_run, funext hrest]
  ext N
  constructor
  · rintro ⟨_, ⟨c, rfl, hc⟩, cs, hcs, rfl⟩
    exact ⟨c, cs, rfl, hfirst c ▸ hc, hcs⟩
  · rintro ⟨c, cs, rfl, hc, hcs⟩
    exact ⟨[c], ⟨c, rfl, (hfirst c).trans hc⟩, cs, hcs, rfl⟩

theorem language_opening : (Regex.ofList (word "function" ++ [someBlanks])).language =
    Text.opening := by
  rw [language_ofList_append, language_ofList_cons, language_ofList_nil, language_word,
    language_someBlanks, mul_one, Text.opening]

theorem language_closing : (Regex.ofList (blanks :: word ";")).language =
    Shape.blanks * Shape.word ";" := by
  rw [language_ofList_cons, language_blanks, language_word]

theorem text_of_reaches (h : Reaches t memoMissingLargeComponentRegex s s') :
    ∃ us ∈ Text.opening, ∃ N ∈ Text.componentNames, ∃ ms ∈ Text.declaration Text.hookBodies,
      ∃ vs ∈ Shape.blanks * Shape.word ";", Stands t s.pos (us ++ (N ++ (ms ++ (N ++ vs)))) ∧
        s'.pos = s.pos + (us ++ (N ++ (ms ++ (N ++ vs)))).length ∧
        s'.span? 1 = some (s.pos + us.length, s.pos + us.length + N.length) := by
  rw [memoMissingLargeComponentRegex_eq] at h
  obtain ⟨us, hus, hopening, h⟩ := (reaches_plain_append rfl).mp h
  obtain ⟨N, hN, hname, h⟩ := (reaches_group_plain rfl).mp h
  obtain ⟨as, has, huntil, h⟩ := (reaches_plain_append rfl).mp h
  obtain ⟨hs, hhs, hhook, h⟩ := (reaches_group_plain rfl).mp h
  obtain ⟨bs, hbs, hbehind, h⟩ := (reaches_plain_append rfl).mp h
  simp only [Cursor.moveTo] at hname huntil hhook hbehind h
  obtain ⟨hagain, h⟩ := (reaches_backref_cons rfl hname).mp h
  obtain ⟨vs, hvs, hlast, rfl⟩ := (takes_language rfl _ _).mp h
  simp only [Cursor.moveTo] at hagain hlast
  refine ⟨us, language_opening ▸ hus, N, language_componentName ▸ hN, as ++ (hs ++ bs), ?_, vs,
    language_closing ▸ hvs, ?_, ?_, rfl⟩
  · rw [← language_declaration]
    exact Language.append_mem_mul has (Language.append_mem_mul hhs hbs)
  · simp only [stands_append, List.length_append, ← Nat.add_assoc]
    exact ⟨hopening, hname, ⟨huntil, hhook, hbehind⟩, hagain, hlast⟩
  · simp only [Cursor.moveTo, List.length_append, Nat.add_assoc]

theorem exists_reaches {us ms vs : List Char} (hus : us ∈ Text.opening)
    (hN : N ∈ Text.componentNames) (hms : ms ∈ Text.declaration Text.hookBodies)
    (hvs : vs ∈ Shape.blanks * Shape.word ";")
    (h : Stands t s.pos (us ++ (N ++ (ms ++ (N ++ vs))))) :
    ∃ s', Reaches t memoMissingLargeComponentRegex s s' := by
  rw [← language_declaration] at hms
  obtain ⟨as, has, _, ⟨hs, hhs, bs, hbs, rfl⟩, rfl⟩ := hms
  rw [← language_opening] at hus
  rw [← language_componentName] at hN
  rw [← language_closing] at hvs
  simp only [stands_append, List.length_append, ← Nat.add_assoc] at h
  obtain ⟨hopening, hname, ⟨huntil, hhook, hbehind⟩, hagain, hlast⟩ := h
  rw [memoMissingLargeComponentRegex_eq]
  refine ⟨_, (reaches_plain_append rfl).mpr ⟨us, hus, hopening, (reaches_group_plain rfl).mpr
    ⟨N, hN, hname, (reaches_plain_append rfl).mpr ⟨as, has, huntil, (reaches_group_plain rfl).mpr
    ⟨hs, hhs, hhook, (reaches_plain_append rfl).mpr ⟨bs, hbs, hbehind,
      (reaches_backref_cons rfl hname).mpr ⟨hagain, (takes_language rfl _ _).mpr
        ⟨vs, hvs, hlast, rfl⟩⟩⟩⟩⟩⟩⟩⟩

theorem matchAt_largeComponent (hp : p ≤ t.size)
    (h : matchAt t memoMissingLargeComponentRegex p = some c) :
    ∃ N ∈ Text.componentNames, ∃ cs ∈ Text.bareExport N, Stands t p cs ∧ c.pos = p + cs.length ∧
      Occurrence.ofMatch t ⟨p, c.pos, c.groups⟩ =
        ⟨lineAt t p, String.ofList cs, p, p + cs.length, some (String.ofList N)⟩ := by
  obtain ⟨us, hus, N, hN, ms, hms, vs, hvs, hstands, hpos, hspan⟩ :=
    text_of_reaches (reaches_of_matchAt hp h)
  have hcs : us ++ (N ++ (ms ++ (N ++ vs))) ∈ Text.bareExport N :=
    Text.mem_bareExport.mpr ⟨us, hus, ms, hms, vs, hvs, rfl⟩
  have hname : Stands t (p + us.length) N := (stands_append.mp (stands_append.mp hstands).2).1
  have hgroup : c.groups.lookup 1 = some (p + us.length, p + us.length + N.length) := hspan
  refine ⟨N, hN, _, hcs, hstands, hpos, ?_⟩
  rw [hpos]
  refine (Occurrence.ofMatch_of_stands hstands c.groups).trans ?_
  rw [Text.trim_of_stops (Text.stops_bareExport hcs) (Text.ends_bareExport hcs), hgroup,
    Option.map_some]
  simp only [hname.slice_eq]
  rfl

theorem isSome_matchAt_largeComponent (hN : N ∈ Text.componentNames)
    (hcs : cs ∈ Text.bareExport N) (h : Stands t p cs) :
    p ≤ t.size ∧ (matchAt t memoMissingLargeComponentRegex p).isSome = true := by
  have hne : 0 < cs.length := by
    obtain ⟨d, rest, rfl, -⟩ := Text.stops_bareExport hcs
    exact Nat.succ_pos _
  obtain ⟨us, hus, ms, hms, vs, hvs, rfl⟩ := Text.mem_bareExport.mp hcs
  exact ⟨h.le_size hne, (isSome_matchAt_iff (h.le_size hne)).mpr
    (exists_reaches (s := .start p) hus hN hms hvs h)⟩

/-- A component that is matched exports its own name and nothing else. -/
theorem exports_of_matchAt (hp : p ≤ t.size)
    (h : matchAt t memoMissingLargeComponentRegex p = some c) (hN : N ∈ Text.componentNames)
    (hcs : cs ∈ Text.component (Shape.free "\x7d") N) (he : Stops Text.isBlank e)
    (htext : t.toList.drop p = cs ++ e) : ∃ bs ∈ Shape.blanks, N ++ (bs ++ [';']) <+: e := by
  obtain ⟨us', hus', N', hN', ms', hms', _, ⟨bs, hbs, _, rfl, rfl⟩, ⟨rest, hrest⟩, -⟩ :=
    text_of_reaches (reaches_of_matchAt hp h)
  obtain ⟨us, hus, ms, hms, rfl⟩ := Text.mem_component.mp hcs
  have heq : us ++ (N ++ (ms ++ e)) =
      us' ++ (N' ++ (ms' ++ (N' ++ (bs ++ ";".toList) ++ rest))) := by
    simpa using htext.symm.trans hrest.symm
  have hagain : Stops Text.isBlank (N' ++ (bs ++ ";".toList) ++ rest) :=
    (Text.stops_isBlank_of_mem_componentNames hN').append.append
  obtain ⟨rfl, rfl⟩ := Text.component_split (M := {u | Stops Text.isBlank u}) (fun _ hu => hu) hus
    hus' hN hN' hms (Text.mem_declaration_of_hookBodies hms') he hagain heq
  exact ⟨bs, hbs, List.prefix_append _ _⟩

end Regex

namespace Catalog

theorem covers_largeComponent (hN : N ∈ Text.componentNames) (hcs : cs ∈ Text.bareExport N)
    (h : Stands t p cs) :
    ∃ o ∈ memoMissingLargeComponent.occurrences t, o.start ≤ p ∧ p < o.stop := by
  obtain ⟨hp, hat⟩ := Regex.isSome_matchAt_largeComponent hN hcs h
  have hcatalog : memoMissingLargeComponent ∈ rules := by simp [rules]
  refine Rule.exists_covering (isMovable_of_mem hcatalog).visible (fun q c hq hat => ?_) hp hat
  obtain ⟨M, -, ds, hds, hstands, hpos, -⟩ := Regex.matchAt_largeComponent hq hat
  rw [hpos, hstands.slice_eq]
  exact Text.ends_bareExport hds

def largeComponents (code : String) : List Occurrence :=
  memoMissingLargeComponent.occurrences code.toList.toArray

/-- A component is reported if it names a hook and its own name is all that it exports. Behind the
head of a component an exported name that is not its own, a longer one for example, or a call keep
the rule from reporting it from its `function` on. -/
theorem occurrences_largeComponent (code : String) :
    (∀ o ∈ largeComponents code, ∃ (p : Nat) (N cs : List Char), N ∈ Text.componentNames ∧
      cs ∈ Text.bareExport N ∧ cs <+: code.toList.drop p ∧ o =
        ⟨lineAt code.toList.toArray p, String.ofList cs, p, p + cs.length,
          some (String.ofList N)⟩) ∧
    (∀ (p : Nat) (N cs : List Char), N ∈ Text.componentNames → cs ∈ Text.bareExport N →
      cs <+: code.toList.drop p → ∃ o ∈ largeComponents code, o.start ≤ p ∧ p < o.stop) ∧
    ∀ (p : Nat) (N cs e : List Char), N ∈ Text.componentNames →
      cs ∈ Text.component (Shape.free "\x7d") N → code.toList.drop p = cs ++ e →
      Stops Text.isBlank e →
        ((∃ o ∈ largeComponents code, o.start = p) →
          ∃ bs ∈ Shape.blanks, N ++ (bs ++ [';']) <+: e) ∧
        (e.takeWhile Text.isNameChar ≠ N → ∀ o ∈ largeComponents code, o.start ≠ p) ∧
        ('(' ∈ e.takeWhile (· != ';') → ∀ o ∈ largeComponents code, o.start ≠ p) := by
  refine ⟨fun o ho => ?_, fun p N cs hN hcs h => covers_largeComponent hN hcs h,
    fun p N cs e hN hcs htext he => ?_⟩
  · obtain ⟨p, c, hp, hat, rfl⟩ := Rule.exists_matchAt_of_mem ho
    obtain ⟨N, hN, cs, hcs, hstands, -, ho⟩ := Regex.matchAt_largeComponent hp hat
    exact ⟨p, N, cs, hN, hcs, hstands, ho⟩
  · have hexports : (∃ o ∈ largeComponents code, o.start = p) →
        ∃ bs ∈ Shape.blanks, N ++ (bs ++ [';']) <+: e := by
      rintro ⟨o, ho, hstart⟩
      obtain ⟨q, c, hq, hat, rfl⟩ := Rule.exists_matchAt_of_mem ho
      obtain rfl : q = p := Int.ofNat_inj.mp hstart
      exact Regex.exports_of_matchAt hq hat hN hcs he htext
    refine ⟨hexports, fun hname o ho hstart => ?_, fun hcall o ho hstart => ?_⟩
    · obtain ⟨bs, hbs, rest, rfl⟩ := hexports ⟨o, ho, hstart⟩
      exact hname (Text.takeWhile_isNameChar hN hbs rest)
    · obtain ⟨bs, hbs, rest, rfl⟩ := hexports ⟨o, ho, hstart⟩
      exact Text.paren_not_mem_takeWhile hN hbs rest hcall

/-- Of two components with a hook the one is reported, and the other one, which is exported through
a call, is not. -/
theorem occurrences_largeComponent_wrapped :
    let code := "function Foo()\x7buseState\x7dexport default Foo;" ++
      "function Bar()\x7buseEffect\x7dexport default memo(Bar);"
    "function Foo()\x7buseState\x7dexport default Foo;".toList ∈ Text.bareExport "Foo".toList ∧
    (∃ o ∈ largeComponents code, o.start ≤ 0 ∧ 0 < o.stop) ∧
    "function Bar()\x7buseEffect\x7dexport default ".toList ∈
      Text.component (Shape.free "\x7d") "Bar".toList ∧
    ∀ o ∈ largeComponents code, o.start ≠ 43 := by
  intro code
  have hnil : ([] : List Char) ∈ Shape.blanks := Shape.nil_mem_only _
  have hgap : [' '] ∈ Shape.gap := ⟨Shape.mem_only_of_all (by decide), List.cons_ne_nil _ _⟩
  have hopening : "function ".toList ∈ Text.opening := ⟨_, rfl, [' '], hgap, rfl⟩
  have hdeclaration {B : Language Char} {b : List Char} (hb : b ∈ B) :
      "()\x7b".toList ++ (b ++ "\x7dexport default ".toList) ∈ Text.declaration B :=
    ⟨[], hnil, _, ⟨_, rfl, _, ⟨[], Shape.nil_mem_only _, _, ⟨_, rfl, _, ⟨[], hnil, _, ⟨_, rfl, _,
      ⟨b, hb, _, ⟨_, rfl, _, ⟨[], hnil, _, ⟨_, rfl, _, ⟨[' '], hgap, _, ⟨_, rfl, [' '], hgap, rfl⟩,
        rfl⟩, rfl⟩, rfl⟩, rfl⟩, rfl⟩, rfl⟩, rfl⟩, rfl⟩, rfl⟩, rfl⟩, rfl⟩
  have hfoo : "Foo".toList ∈ Text.componentNames :=
    ⟨'F', "oo".toList, rfl, rfl, List.all_eq_true.mp rfl⟩
  have hbar : "Bar".toList ∈ Text.componentNames :=
    ⟨'B', "ar".toList, rfl, rfl, List.all_eq_true.mp rfl⟩
  have hbare : "function Foo()\x7buseState\x7dexport default Foo;".toList ∈
      Text.bareExport "Foo".toList :=
    Text.mem_bareExport.mpr ⟨_, hopening, _, hdeclaration (b := "useState".toList)
      ⟨Shape.mem_free_of_all (by decide), .inl (List.infix_refl _)⟩, _, ⟨[], hnil, _, rfl, rfl⟩,
      by decide⟩
  have hcomponent : "function Bar()\x7buseEffect\x7dexport default ".toList ∈
      Text.component (Shape.free "\x7d") "Bar".toList :=
    Text.mem_component.mpr ⟨_, hopening, _, hdeclaration (b := "useEffect".toList)
      (Shape.mem_free_of_all (by decide)), by decide⟩
  obtain ⟨-, hcovers, hexports⟩ := occurrences_largeComponent code
  refine ⟨hbare, hcovers 0 _ _ hfoo hbare (by decide), hcomponent, ?_⟩
  exact (hexports 43 _ _ "memo(Bar);".toList hbar hcomponent (by decide)
    ⟨'m', "emo(Bar);".toList, rfl, by decide⟩).2.2 (by decide)

end Catalog

end ReactLint
