import ReactLint.Proofs.Analysis.SingleRule
import ReactLint.Proofs.Matching.Language
import ReactLint.Proofs.Snippet

/-!
# Inline functions, with and without a gate

Two rules report a prop that is given an arrow function in place. The one behind a gate takes the
names of handlers only, the other one is always on and takes names that may hold anything but `=`.
Where the first matches, the second does too, and in the same way: the name ends at the first `=`,
and what stands behind it can be read in one way only. The scan of the second rule may have begun
earlier; then it covers the offset by another match.
-/

namespace ReactLint

open scoped Computability

variable {t : Array Char} {s s' : Cursor} {p : Nat} {c : Cursor}

namespace Text

def arrowProp : Language Char :=
  Shape.word "=" * (Shape.blanks * (Shape.word "\x7b" * (Shape.blanks * (Shape.word "(" *
    (Shape.free ")" * (Shape.word ")" * (Shape.blanks * (Shape.word "=>" * (Shape.blanks *
      (Shape.free "\x7d" * Shape.word "\x7d"))))))))))

/-- The blanks behind the arrow may be counted to the body; so the text is read in one way only. -/
theorem splits_arrowProp (K : Language Char) : Shape.Splits arrowProp K := by
  have hbody : Shape.Splits (Shape.blanks * (Shape.free "\x7d" * Shape.word "\x7d")) K := by
    refine Shape.Splits.mono (M := Shape.free "\x7d" * Shape.word "\x7d")
      (Shape.Splits.only_word_last (by decide)) ?_
    rintro _ ⟨bs, hbs, _, ⟨body, hbody, _, rfl, rfl⟩, rfl⟩
    exact Language.mem_mul.mpr ⟨bs ++ body, Shape.append_mem_only.mpr
      ⟨Shape.mem_free_of_mem_only (by decide) hbs, hbody⟩, _, rfl, List.append_assoc ..⟩
  exact .word_mul _ (.only_word (by decide) (.word_mul _ (.only_word (by decide) (.word_mul _
    (.only_word (by decide) (.word_mul _ (.only_word (by decide) (.word_mul _ hbody))))))))

end Text

namespace Regex

open Catalog

theorem language_arrowProp : (Regex.ofList arrowProp).language = Text.arrowProp := by
  simp only [arrowProp, language_ofList_append, language_ofList_cons, language_word,
    language_blanks, language_free, mul_assoc]
  rfl

theorem reaches_prop {r : Regex} (hr : r.isPlain = true) :
    Reaches t (.ofList (.group 1 r :: arrowProp)) s s' ↔ ∃ name ∈ r.language,
      ∃ cs ∈ Text.arrowProp, Stands t s.pos (name ++ cs) ∧
        s' = ⟨s.pos + name.length + cs.length, (1, s.pos, s.pos + name.length) :: s.groups⟩ := by
  rw [reaches_group_rest hr rfl, language_arrowProp]

/-- The names of props that are looked for, and those of them that a handler can have. -/
def propName : Regex :=
  oneOf [word "on" ++ [.one (among [upperItem]), free "="], word "value", word "onChange",
    word "onClick"]

def handlerName : Regex :=
  .ofList (word "on" ++ [.one (among [upperItem]), many (among [upperItem, lowerItem, digitItem])])

theorem language_handlerName : handlerName.language =
    Shape.word "on" * ((Regex.one (among [upperItem])).language *
      Shape.only (among [upperItem, lowerItem, digitItem]).accepts) := by
  simp only [handlerName, many, language_ofList_append, language_ofList_cons, language_ofList_nil,
    language_word, language_run, mul_one]

theorem mem_propName {cs : List Char} : cs ∈ propName.language ↔
    cs ∈ Shape.word "on" * ((Regex.one (among [upperItem])).language * Shape.free "=") ∨
      cs ∈ ["value".toList, "onChange".toList, "onClick".toList] := by
  have hchoices : propName.language =
      Shape.word "on" * ((Regex.one (among [upperItem])).language * Shape.free "=") +
        (Shape.word "value" + (Shape.word "onChange" + Shape.word "onClick")) := by
    simp only [propName, oneOf, language_alt, language_ofList_append, language_ofList_cons,
      language_ofList_nil, language_word, language_free, mul_one]
  rw [hchoices]
  simp only [Language.mem_add, Shape.mem_word, List.mem_cons, List.not_mem_nil, or_false]

theorem handlerName_le {cs : List Char} (h : cs ∈ handlerName.language) :
    cs ∈ propName.language := by
  rw [language_handlerName] at h
  obtain ⟨on, hon, _, ⟨first, hfirst, rest, hrest, rfl⟩, rfl⟩ := h
  exact mem_propName.mpr (.inl (Language.append_mem_mul hon (Language.append_mem_mul hfirst
    (Shape.mem_free_of_mem_only (by decide) hrest))))

theorem propName_free {cs : List Char} (h : cs ∈ propName.language) : cs ∈ Shape.free "=" := by
  rcases mem_propName.mp h with hhandler | hword
  · obtain ⟨_, rfl, _, ⟨_, ⟨c, rfl, hc⟩, rest, hrest, rfl⟩, rfl⟩ := hhandler
    have hon : "on".toList ∈ Shape.free "=" := Shape.mem_free_of_all (by decide)
    have hfirst : [c] ∈ Shape.only (among [upperItem]).accepts :=
      Shape.mem_only.mpr (List.forall_mem_singleton.mpr hc)
    exact Shape.append_mem_only.mpr ⟨hon, Shape.append_mem_only.mpr
      ⟨Shape.mem_free_of_mem_only (by decide) hfirst, hrest⟩⟩
  · have hwords : ["value".toList, "onChange".toList, "onClick".toList].all
        (·.all (!"=".toList.contains ·)) = true := by decide
    exact Shape.mem_free_of_all (List.all_eq_true.mp hwords cs hword)

/-- Where a handler is given an arrow function, the expression for all props matches too, and in the
same way. -/
theorem matchAt_inlineArrowFunction (hp : p ≤ t.size)
    (h : matchAt t memoChildInlineFunctionRegex p = some c) :
    matchAt t inlineArrowFunctionRegex p = some c := by
  obtain ⟨name, hname, cs, hcs, hstands, rfl⟩ :=
    (reaches_prop (r := handlerName) rfl).mp (reaches_of_matchAt hp h)
  refine matchAt_eq_some hp ((reaches_prop (r := propName) rfl).mpr
    ⟨name, handlerName_le hname, cs, hcs, hstands, rfl⟩) fun c' hc' => ?_
  obtain ⟨name', hname', cs', hcs', hstands', rfl⟩ := (reaches_prop (r := propName) rfl).mp hc'
  have hsplits : Shape.Splits (Shape.free "=") (Text.arrowProp * ⊤) := by
    rw [Text.arrowProp, mul_assoc]
    exact Shape.splits_only_word (by decide)
  obtain ⟨rfl, rfl⟩ := hsplits.eq_of_stands (Text.splits_arrowProp ⊤) (propName_free hname')
    (propName_free (handlerName_le hname)) hcs' hcs hstands' hstands
  rfl

theorem ends_inlineArrowFunction {q : Nat} (hq : q ≤ t.size)
    (h : matchAt t inlineArrowFunctionRegex q = some c) :
    Stops Text.isBlank (slice t q c.pos).reverse := by
  obtain ⟨name, -, cs, hcs, hstands, rfl⟩ :=
    (reaches_prop (r := propName) rfl).mp (reaches_of_matchAt hq h)
  have hslice : slice t q (q + name.length + cs.length) = name ++ cs := by
    rw [Nat.add_assoc, ← List.length_append]
    exact hstands.slice_eq
  simp only [Text.arrowProp, ← mul_assoc] at hcs
  dsimp only [Cursor.start]
  rw [hslice, List.reverse_append]
  exact (Shape.stops_reverse_of_mul_word (by decide) hcs).append

end Regex

namespace Catalog

/-- An occurrence of the rule behind the gate starts in an occurrence of the rule that is always on,
and is the same as that one if both start at one offset. -/
theorem memoChildInlineFunction_covered {o : Occurrence}
    (ho : o ∈ memoChildInlineFunction.occurrences t) :
    (∃ o₁ ∈ inlineArrowFunction.occurrences t, o₁.start ≤ o.start ∧ o.start < o₁.stop) ∧
      ∀ o₁ ∈ inlineArrowFunction.occurrences t, o₁.start = o.start → o₁ = o := by
  obtain ⟨p, c, hp, hat, rfl⟩ := Rule.exists_matchAt_of_mem ho
  have hat' : inlineArrowFunction.pattern.regex.matchAt t p = some c :=
    Regex.matchAt_inlineArrowFunction hp hat
  constructor
  · have hcatalog : inlineArrowFunction ∈ rules := by simp [rules]
    exact Rule.exists_covering (isMovable_of_mem hcatalog).visible
      (fun q c hq h => Regex.ends_inlineArrowFunction hq h) hp
      (Option.isSome_iff_exists.mpr ⟨c, hat'⟩)
  · intro o₁ ho₁ hstart
    obtain ⟨q, d, -, hd, rfl⟩ := Rule.exists_matchAt_of_mem ho₁
    obtain rfl : q = p := Int.ofNat_inj.mp hstart
    obtain rfl : d = c := Option.some.inj (hd.symm.trans hat')
    rfl

end Catalog

namespace Registry

/-- The gated rule never speaks alone: where it reports a handler, the rule that is always on
reports a prop that covers the start of the handler, and the text holds the fact behind the gate. -/
theorem analyze_memoChild_covered :
    (∀ t, ∀ o ∈ Catalog.memoChildInlineFunction.occurrences t,
      (∃ o₁ ∈ Catalog.inlineArrowFunction.occurrences t,
        o₁.start ≤ o.start ∧ o.start < o₁.stop) ∧
      ∀ o₁ ∈ Catalog.inlineArrowFunction.occurrences t, o₁.start = o.start →
        o₁.stop = o.stop ∧ o₁.snippet = o.snippet ∧ o₁.line = o.line ∧ o₁.capture = o.capture) ∧
    ∀ now code, let issues := (Registry.default.analyze now (.text code)).1.issues
      ∀ i ∈ issues, i.id = "B004" →
        (∃ j ∈ issues, j.id = "B001" ∧ j.occurrence.start ≤ i.occurrence.start ∧
          i.occurrence.start < j.occurrence.stop) ∧
        (Context.detect code.toList.toArray).lookup Context.memoWrapper = some true := by
  constructor
  · intro t o ho
    obtain ⟨hcovered, hsame⟩ := Catalog.memoChildInlineFunction_covered ho
    refine ⟨hcovered, fun o₁ ho₁ hstart => ?_⟩
    obtain rfl := hsame o₁ ho₁ hstart
    exact ⟨rfl, rfl, rfl, rfl⟩
  · intro now code issues i hi hid
    have hsound := reachable_default.sound
    obtain ⟨r, o, hfinds, rfl⟩ := mem_issues.mp hi
    have hchild : Catalog.memoChildInlineFunction ∈ Registry.default.rules := by
      simp [Registry.default, Catalog.rules]
    have harrow : Catalog.inlineArrowFunction ∈ Registry.default.rules := by
      simp [Registry.default, Catalog.rules]
    obtain rfl : r = Catalog.memoChildInlineFunction :=
      hsound.eq_of_id_eq hfinds.stored hchild hid
    obtain ⟨⟨o₁, ho₁, hstart, hstop⟩, -⟩ :=
      Catalog.memoChildInlineFunction_covered hfinds.scanned
    constructor
    · have hfinds₁ : Registry.default.Finds code.toList.toArray Catalog.inlineArrowFunction o₁ :=
        ⟨harrow, by decide +kernel, .inl rfl, ho₁, by simp [Catalog.inlineArrowFunction]⟩
      exact ⟨_, mem_issues.mpr ⟨_, o₁, hfinds₁, rfl⟩, rfl, hstart, hstop⟩
    · obtain hnone | ⟨fact, hfact, hmem⟩ := hfinds.gate
      · cases hnone
      · obtain rfl : Context.memoWrapper = fact := Value.text.inj (Option.some.inj hfact)
        rw [Context.detect_eq, List.mem_singleton, Prod.mk.injEq] at hmem
        rw [Context.detect_eq, List.lookup_cons_self, hmem.2]

/-- The rule that is always on may take the name to begin earlier. -/
theorem analyze_memoChild_covered_early :
    let code := "memo(onA onB=\x7b() => 1\x7d)"
    let o : Occurrence := ⟨1, "onB=\x7b() => 1\x7d", 9, 22, some "onB"⟩
    let issues := (Registry.default.analyze ⟨⟨2025, 1, 31⟩, ⟨12, 0, 0, 0⟩, some 0⟩
      (.text code)).1.issues
    o ∈ Catalog.memoChildInlineFunction.occurrences code.toList.toArray ∧
    Issue.ofRule Catalog.memoChildInlineFunction o ∈ issues ∧
    (∃ j ∈ issues, j.id = "B001" ∧ j.occurrence.start ≤ 9 ∧ 9 < j.occurrence.stop) ∧
    (∀ o₁ ∈ Catalog.inlineArrowFunction.occurrences code.toList.toArray, o₁.start < 9) ∧
    (Context.detect code.toList.toArray).lookup Context.memoWrapper = some true := by
  intro code o issues
  have hscanned : o ∈ Catalog.memoChildInlineFunction.occurrences code.toList.toArray := by
    decide +kernel
  have hfound : Issue.ofRule Catalog.memoChildInlineFunction o ∈ issues :=
    Issue.mem_rank.mpr (by decide +kernel)
  obtain ⟨hcovered, hfact⟩ := analyze_memoChild_covered.2
    ⟨⟨2025, 1, 31⟩, ⟨12, 0, 0, 0⟩, some 0⟩ code _ hfound rfl
  exact ⟨hscanned, hfound, hcovered, by decide +kernel, hfact⟩

end Registry

end ReactLint
