import ReactLint.Proofs.Shape

/-!
# Flat expressions

A flat expression holds no comma outside of parentheses, and its parentheses hold no others. It is
read part by part, a character or a group at a time. A text in which every parenthesis is closed and
none is closed that was not opened is never left in the middle of a group: its front is read by
whole parts, as far as the first comma behind it.
-/

namespace ReactLint.Text

open scoped Computability

variable {K : Language Char} {as bs cs us vs : List Char}

def flatChars : Language Char := {cs | ∃ c, cs = [c] ∧ c ∉ ",()".toList}

def groups : Language Char := Shape.word "(" * (Shape.free "()" * Shape.word ")")

def flatParts : Language Char := flatChars + groups

def flatExpressions : Language Char := flatParts∗

theorem mem_groups : as ∈ groups ↔ ∃ gs ∈ Shape.free "()", as = '(' :: (gs ++ [')']) := by
  constructor
  · rintro ⟨_, rfl, _, ⟨gs, hgs, _, rfl, rfl⟩, rfl⟩
    exact ⟨gs, hgs, rfl⟩
  · rintro ⟨gs, hgs, rfl⟩
    exact ⟨_, rfl, _, ⟨gs, hgs, _, rfl, rfl⟩, rfl⟩

theorem head_flatParts (h : as ∈ flatParts) : ∃ c cs, as = c :: cs ∧ c ≠ ',' ∧ c ≠ ')' := by
  rcases h with ⟨c, rfl, hc⟩ | hgroup
  · refine ⟨c, [], rfl, ?_, ?_⟩
    · rintro rfl
      exact hc (by decide)
    · rintro rfl
      exact hc (by decide)
  · obtain ⟨gs, -, rfl⟩ := mem_groups.mp hgroup
    exact ⟨'(', _, rfl, by decide, by decide⟩

theorem splits_flatParts (K : Language Char) : Shape.Splits flatParts K := by
  have hchars : Shape.Splits flatChars K := by
    rintro _ ⟨c, rfl, -⟩ _ ⟨d, rfl, -⟩ us _ vs _ h
    obtain ⟨rfl, rfl⟩ := List.cons.inj h
    exact ⟨rfl, rfl⟩
  have hgroups : Shape.Splits groups K := .word_mul _ (.only_word_last (by decide))
  refine .add hchars hgroups ?_
  rintro _ ⟨c, rfl, hc⟩ _ hgroup us vs heq
  obtain ⟨rest, -, rfl⟩ := mem_groups.mp hgroup
  obtain rfl : c = '(' := (List.cons.inj heq).1
  exact hc (by decide)

/-- A flat expression ends where a comma or a closing parenthesis stands behind it. -/
theorem splits_flatExpressions
    (hK : ∀ u ∈ K, ∃ c rest, u = c :: rest ∧ (c = ',' ∨ c = ')')) :
    Shape.Splits flatExpressions K := by
  refine .kstar splits_flatParts fun as has us hmem => ?_
  obtain ⟨c, cs, rfl, hcomma, hparen⟩ := head_flatParts has
  obtain ⟨d, rest, heq, hd⟩ := hK _ hmem
  obtain ⟨rfl, -⟩ := List.cons.inj heq
  rcases hd with rfl | rfl
  · exact hcomma rfl
  · exact hparen rfl

theorem append_mem_flatExpressions (has : as ∈ flatExpressions) (hbs : bs ∈ flatExpressions) :
    as ++ bs ∈ flatExpressions := by
  rw [flatExpressions, ← kstar_mul_kstar]
  exact Language.append_mem_mul has hbs

theorem mem_flatExpressions_of_mem_free (h : cs ∈ Shape.free ",()") : cs ∈ flatExpressions := by
  refine Language.mem_kstar.mpr ⟨cs.map fun c => [c], ?_, fun as has => ?_⟩
  · rw [← List.flatMap_def, List.flatMap_singleton']
  · obtain ⟨c, hc, rfl⟩ := List.mem_map.mp has
    exact Or.inl ⟨c, rfl, Shape.mem_free.mp h c hc⟩

/-! ## Texts that close their parentheses -/

/-- No part at the front of a text closes more parentheses than it opens, and behind every opened
parenthesis a closing one stands. -/
structure ClosesParens (cs : List Char) : Prop where
  noSurplus : ∀ n, (cs.take n).count ')' ≤ (cs.take n).count '('
  closed : ∀ n, cs[n]? = some '(' → ')' ∈ cs.drop n

instance (cs : List Char) : Decidable (ClosesParens cs) :=
  decidable_of_iff ((∀ n < cs.length + 1, (cs.take n).count ')' ≤ (cs.take n).count '(') ∧
      ∀ n < cs.length, cs[n]? = some '(' → ')' ∈ cs.drop n) <| by
    constructor
    · rintro ⟨hsurplus, hclosed⟩
      refine ⟨fun n => ?_, fun n hn => hclosed n (List.getElem?_eq_some_iff.mp hn).1 hn⟩
      rcases Nat.lt_or_ge n (cs.length + 1) with hlt | hge
      · exact hsurplus n hlt
      · have htake : cs.take n = cs.take cs.length := by
          rw [List.take_length, List.take_of_length_le (Nat.le_of_lt hge)]
        rw [htake]
        exact hsurplus cs.length (Nat.lt_succ_self _)
    · intro h
      exact ⟨fun n _ => h.noSurplus n, fun n _ => h.closed n⟩

theorem count_of_mem_free {s : String} {c : Char} (hc : c ∈ s.toList) (h : cs ∈ Shape.free s) :
    cs.count c = 0 :=
  List.count_eq_zero.mpr fun hmem => Shape.mem_free.mp h c hmem hc

theorem count_flatParts (h : as ∈ flatParts) : as.count ')' = as.count '(' := by
  rcases h with ⟨c, rfl, hc⟩ | hgroup
  · have hfree : [c] ∈ Shape.free ",()" := Shape.mem_free.mpr (by simpa using hc)
    rw [count_of_mem_free (by decide) hfree, count_of_mem_free (by decide) hfree]
  · obtain ⟨gs, hgs, rfl⟩ := mem_groups.mp hgroup
    have hclose : gs.count ')' = 0 := count_of_mem_free (by decide) hgs
    have hopen : gs.count '(' = 0 := count_of_mem_free (by decide) hgs
    simp [hclose, hopen]

namespace ClosesParens

theorem of_append (h : ClosesParens (as ++ cs)) (has : as.count ')' = as.count '(') :
    ClosesParens cs where
  noSurplus n := by
    have hle := h.noSurplus (as.length + n)
    rw [List.take_length_add_append, List.count_append, List.count_append, has] at hle
    omega
  closed n hn := by
    have hmem := h.closed (as.length + n)
    rw [List.getElem?_append_right (Nat.le_add_right _ _), Nat.add_sub_cancel_left,
      List.drop_length_add_append] at hmem
    exact hmem hn

theorem of_append_free (h : ClosesParens cs) (has : as ∈ Shape.free "()")
    (hbs : bs ∈ Shape.free "()") : ClosesParens (as ++ (cs ++ bs)) where
  noSurplus n := by
    have hnone {ds : List Char} (hds : ds ∈ Shape.free "()") (k : Nat) :
        (ds.take k).count ')' = 0 ∧ (ds.take k).count '(' = 0 := by
      have htake : ds.take k ∈ Shape.free "()" := fun d hd => hds d (List.mem_of_mem_take hd)
      exact ⟨count_of_mem_free (by decide) htake, count_of_mem_free (by decide) htake⟩
    have hle := h.noSurplus (n - as.length)
    simp only [List.take_append, List.count_append, hnone has, hnone hbs]
    omega
  closed n hn := by
    have hnone {ds : List Char} (hds : ds ∈ Shape.free "()") (k : Nat) : ds[k]? ≠ some '(' :=
      fun hk => Shape.mem_free.mp hds '(' (List.mem_of_getElem? hk) (by decide)
    rw [List.getElem?_append] at hn
    split at hn
    · exact absurd hn (hnone has _)
    · rw [List.getElem?_append] at hn
      split at hn
      · rw [List.drop_append, List.drop_append]
        simp [h.closed _ hn]
      · exact absurd hn (hnone hbs _)

theorem exists_flatPart (h : ClosesParens cs) (has : as ∈ flatParts)
    (heq : as ++ us = cs ++ ',' :: vs) : ∃ ds, cs = as ++ ds ∧ us = ds ++ ',' :: vs := by
  cases cs with
  | nil =>
    obtain ⟨c, rest, rfl, hcomma, -⟩ := head_flatParts has
    exact absurd (List.cons.inj heq).1 hcomma
  | cons d cs =>
    rcases has with ⟨c, rfl, -⟩ | hgroup
    · obtain ⟨rfl, hrest⟩ := List.cons.inj heq
      exact ⟨cs, rfl, hrest⟩
    · obtain ⟨gs, hgs, rfl⟩ := mem_groups.mp hgroup
      obtain ⟨rfl, hrest⟩ := List.cons.inj heq
      -- the group ends at the first parenthesis that closes, and the text still holds one
      have hmem : ')' ∈ cs := (List.mem_cons.mp (h.closed 0 rfl)).resolve_left (by decide)
      obtain ⟨fs, ds, rfl, hfs⟩ := List.eq_append_cons_of_mem hmem
      have hfs' : fs ∈ Shape.free ")" := by
        refine Shape.mem_free.mpr fun c hc hparen => ?_
        obtain rfl : c = ')' := List.mem_singleton.mp hparen
        exact hfs hc
      have hends : gs ++ ')' :: us = fs ++ ')' :: (ds ++ ',' :: vs) := by simpa using hrest
      obtain ⟨rfl, hus⟩ := Stops.append_inj ⟨')', us, rfl, by decide⟩
        ⟨')', ds ++ ',' :: vs, rfl, by decide⟩ (Shape.free_mono (by decide) hgs) hfs' hends
      exact ⟨ds, by simp, (List.cons.inj hus).2⟩

/-- So a flat expression that begins such a text does not reach over the comma. -/
theorem exists_flatExpression (h : ClosesParens cs) (has : as ∈ flatExpressions)
    (heq : as ++ us = cs ++ ',' :: vs) :
    ∃ ds, cs = as ++ ds ∧ us = ds ++ ',' :: vs ∧ ClosesParens ds := by
  obtain ⟨parts, rfl, hparts⟩ := Language.mem_kstar.mp has
  clear has
  induction parts generalizing cs with
  | nil => exact ⟨cs, rfl, heq, h⟩
  | cons part parts ih =>
    obtain ⟨hpart, hrest⟩ := List.forall_mem_cons.mp hparts
    rw [List.flatten_cons, List.append_assoc] at heq
    obtain ⟨cs, rfl, hbehind⟩ := h.exists_flatPart hpart heq
    obtain ⟨ds, rfl, hus, hds⟩ := ih (h.of_append (count_flatParts hpart)) hrest hbehind
    exact ⟨ds, by rw [List.flatten_cons, List.append_assoc], hus, hds⟩

end ClosesParens

end ReactLint.Text
