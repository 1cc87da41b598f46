import ReactLint.Proofs.Matching.Parts

/-!
# Words without their case

The forms of a letter are all the letters that a comparison without the case takes for it. For an
ASCII character they are its small and its capital letter, and a few letters beyond ASCII that share
a form with `i`, `k` or `s`.
-/

namespace ReactLint

namespace Text

variable {m n : Nat}

theorem lowerPoint_cases (h : lowerPoint m = n) :
    m = n ∨ (65 ≤ m ∧ m ≤ 90 ∧ m + 32 = n) ∨
      ∃ r ∈ capitalRuns, r.covers m = true ∧ r.apply m = n := by
  simp only [lowerPoint] at h
  split at h
  · split at h
    · rename_i hupper
      simp only [Bool.and_eq_true, decide_eq_true_eq] at hupper
      exact .inr (.inl ⟨hupper.1, hupper.2, h⟩)
    · exact .inl h
  · split at h
    · rename_i r hr
      have hcovers : r.covers m = true := by simpa using List.find?_some hr
      exact .inr (.inr ⟨r, List.mem_of_find?_eq_some hr, hcovers, h⟩)
    · exact .inl h

/-- Two runs hold a letter beyond ASCII whose lower-case form is in it. -/
theorem capitalRuns_lower : ∀ r ∈ capitalRuns, 128 ≤ (r.first : Int) + r.shift ∨
    (r.first = 304 ∧ r.last = 304 ∧ r.shift = -199) ∨
    (r.first = 8490 ∧ r.last = 8490 ∧ r.shift = -8383) := by decide +kernel

theorem CaseRun.bounds_of_covers {r : CaseRun} (h : r.covers m = true) :
    r.first ≤ m ∧ m ≤ r.last := by
  simp only [CaseRun.covers, Bool.and_eq_true, decide_eq_true_eq] at h
  exact h.1

/-- A code point is the lower-case form of itself and of the capitals that are listed for it. -/
theorem eq_or_mem_capitalsOf (h : lowerPoint m = n) : m = n ∨ m ∈ capitalsOf n := by
  rcases lowerPoint_cases h with heq | ⟨hlo, hhi, rfl⟩ | ⟨r, hr, hcovers, hn⟩
  · exact .inl heq
  · refine .inr (List.mem_append_left _ ?_)
    rw [if_pos (by simp only [Bool.and_eq_true, decide_eq_true_eq]; omega), Nat.add_sub_cancel]
    exact List.mem_singleton_self m
  · have hfirst := (CaseRun.bounds_of_covers hcovers).1
    have hback : ((n : Int) - r.shift).toNat = m := by
      have hforward : 0 ≤ (r.first : Int) + r.shift := by
        have hrun := capitalRuns_lower r hr
        omega
      rw [← hn, CaseRun.apply]
      omega
    refine .inr (List.mem_append_right _ (List.mem_filterMap.mpr ⟨r, hr, ?_⟩))
    simp only [hback, hcovers, hn, beq_self_eq_true, Bool.and_self, if_true]

theorem lowerPoint_of_isUpper_eq_false {d : Char} (hd : d.toNat < 128) (h : d.isUpper = false) :
    lowerPoint d.toNat = d.toNat := by
  have hcase : ¬ (65 ≤ d.toNat ∧ d.toNat ≤ 90) := of_decide_eq_false h
  rw [lowerPoint, if_pos hd, if_neg]
  simpa only [Bool.and_eq_true, decide_eq_true_eq] using hcase

/-- Only two code points beyond ASCII have their lower-case form within it. -/
theorem lowerPoint_small (hn : n < 128) (h : lowerPoint m = n) :
    m = n ∨ (65 ≤ m ∧ m ≤ 90 ∧ m + 32 = n) ∨ (m = 304 ∧ n = 105) ∨ (m = 8490 ∧ n = 107) := by
  rcases lowerPoint_cases h with heq | hupper | ⟨r, hr, hcovers, happly⟩
  · exact .inl heq
  · exact .inr (.inl hupper)
  · obtain ⟨hfirst, hlast⟩ := CaseRun.bounds_of_covers hcovers
    rw [CaseRun.apply] at happly
    rcases capitalRuns_lower r hr with hbig | hrun | hrun
    · omega
    · omega
    · omega

theorem mem_alikePoints (h : n ∈ alikePoints m) : ∃ l, (m, l) ∈ sharedCapitals ∧ n ∈ l := by
  rw [alikePoints] at h
  cases hlookup : sharedCapitals.lookup m with
  | none => simp [hlookup] at h
  | some l =>
    rw [hlookup, Option.getD_some] at h
    obtain ⟨before, after, hsplit, -⟩ := List.lookup_eq_some_iff.mp hlookup
    exact ⟨l, by rw [hsplit]; simp, h⟩

theorem alikePoints_symm (h : n ∈ alikePoints m) : m ∈ alikePoints n := by
  have hall : ∀ entry ∈ sharedCapitals, ∀ n ∈ entry.2, entry.1 ∈ alikePoints n := by
    decide
  obtain ⟨l, hentry, hn⟩ := mem_alikePoints h
  exact hall (m, l) hentry n hn

theorem alikePoints_small (hn : n < 128) (h : n ∈ alikePoints m) :
    m = 305 ∧ n = 105 ∨ m = 383 ∧ n = 115 := by
  have hall : ∀ entry ∈ sharedCapitals, ∀ n ∈ entry.2, n < 128 →
      entry.1 = 305 ∧ n = 105 ∨ entry.1 = 383 ∧ n = 115 := by decide
  obtain ⟨l, hentry, hmem⟩ := mem_alikePoints h
  exact hall (m, l) hentry n hmem hn

end Text

theorem Folding.mem_forms {m n : Nat} (h : Folding.full.same m n = true) :
    m ∈ Folding.full.forms n := by
  have hform : ∀ e, Text.lowerPoint m = e → m ∈ e :: Text.capitalsOf e := fun e he =>
    List.mem_cons.mpr (Text.eq_or_mem_capitalsOf he)
  simp only [same, lower, beq_self_eq_true, Bool.true_and, Bool.or_eq_true, beq_iff_eq,
    List.contains_iff_mem] at h
  simp only [forms, List.mem_flatMap]
  rcases h with heq | hmem
  · exact ⟨_, List.mem_cons_self, hform _ heq⟩
  · exact ⟨_, List.mem_cons_of_mem _ (Text.alikePoints_symm hmem), hform _ rfl⟩

namespace Text

/-- What counts as the same letter as an ASCII character that is no capital. -/
def variants (d : Char) : List Char :=
  if d = 'i' then ['i', 'I', 'İ', 'ı']
  else if d = 'k' then ['k', 'K', '\u212A']
  else if d = 's' then ['s', 'S', 'ſ']
  else [d, d.toUpper]

/-- A word letter by letter, without regard to the case. -/
def Spells (w : String) (cs : List Char) : Prop :=
  List.Forall₂ (fun d c => c ∈ variants d) w.toList cs

theorem spells_append {v w : String} {cs : List Char} :
    Spells (v ++ w) cs ↔ ∃ as bs, Spells v as ∧ Spells w bs ∧ cs = as ++ bs := by
  rw [Spells, String.toList_append]
  constructor
  · intro h
    have hfront := List.forall₂_take v.toList.length h
    have hback := List.forall₂_drop v.toList.length h
    rw [List.take_left] at hfront
    rw [List.drop_left] at hback
    exact ⟨_, _, hfront, hback, (List.take_append_drop _ cs).symm⟩
  · rintro ⟨as, bs, hv, hw, rfl⟩
    exact List.rel_append hv hw

def IsPlain (w : String) : Prop := ∀ d ∈ w.toList, d.toNat < 128 ∧ d.isUpper = false

instance (w : String) : Decidable (IsPlain w) :=
  List.decidableBAll (fun d : Char => d.toNat < 128 ∧ d.isUpper = false) w.toList

end Text

theorem CharTest.accepts_point {c d : Char} :
    (CharTest.point .full d.toNat).accepts c = true ↔
      Folding.full.same c.toNat d.toNat = true := by
  have hvalid : d.toNat.isValidChar := d.valid
  simp only [point, hvalid, if_true, Char.ofNat_toNat]
  split
  · simp [accepts, SetItem.accepts]
  · rename_i hcased
    rw [accepts_char, beq_iff_eq]
    constructor
    · rintro rfl
      exact Folding.same_self _ _
    · intro hsame
      have hforms : Folding.full.forms d.toNat = [d.toNat] := by
        simpa [Folding.isCased] using hcased
      have hmem := Folding.mem_forms hsame
      rw [hforms, List.mem_singleton, Char.toNat_inj] at hmem
      exact hmem

theorem Text.same_iff_mem_variants {c d : Char} (hd : d.toNat < 128 ∧ d.isUpper = false) :
    Folding.full.same c.toNat d.toNat = true ↔ c ∈ variants d := by
  have hself : ∀ n < 128, Char.ofNat n ∈ variants (Char.ofNat n) := by decide +kernel
  have hupper : ∀ n < 91, 65 ≤ n → Char.ofNat n ∈ variants (Char.ofNat (n + 32)) := by
    decide +kernel
  have hsame : ∀ n < 128, (Char.ofNat n).isUpper = false →
      (variants (Char.ofNat n)).all (fun v => Folding.full.same v.toNat n) = true := by
    decide +kernel
  obtain ⟨hsmall, hcase⟩ := hd
  constructor
  · intro h
    have hd := lowerPoint_of_isUpper_eq_false hsmall hcase
    simp only [Folding.same, Folding.lower, hd, beq_self_eq_true, Bool.true_and, Bool.or_eq_true,
      beq_iff_eq, List.contains_iff_mem] at h
    have hcapital {m e : Nat} (he : capitalsOf e = []) (h : lowerPoint m = e) : m = e := by
      simpa [he] using eq_or_mem_capitalsOf h
    suffices hmem : Char.ofNat c.toNat ∈ variants (Char.ofNat d.toNat) by
      rwa [Char.ofNat_toNat, Char.ofNat_toNat] at hmem
    rcases h with hform | halike
    · rcases lowerPoint_small hsmall hform with heq | ⟨hlo, hhi, heq⟩ | ⟨hc, hd⟩ | ⟨hc, hd⟩
      · rw [heq]
        exact hself _ hsmall
      · rw [← heq]
        exact hupper _ (by omega) hlo
      · rw [hc, hd]
        decide
      · rw [hc, hd]
        decide
    · rcases alikePoints_small hsmall halike with ⟨hform, hd⟩ | ⟨hform, hd⟩
      · rw [hcapital (by decide +kernel) hform, hd]
        decide
      · rw [hcapital (by decide +kernel) hform, hd]
        decide
  · intro h
    have hmem := hsame d.toNat hsmall
    rw [Char.ofNat_toNat] at hmem
    exact List.all_eq_true.mp (hmem hcase) c h

namespace Regex

variable {t : Array Char} {s s' : Cursor}

theorem reaches_anyCase {w : String} (hw : Text.IsPlain w) :
    Reaches t (.ofList (anyCase w)) s s' ↔
      ∃ cs, Text.Spells w cs ∧ Stands t s.pos cs ∧ s' = s.moveTo (s.pos + cs.length) := by
  have hlist : anyCase w = (w.toList.map fun d => CharTest.point .full d.toNat).map .one :=
    (List.map_map ..).symm
  have hspells (cs : List Char) :
      List.Forall₂ (fun p c => p.accepts c = true)
          (w.toList.map fun d => CharTest.point .full d.toNat) cs ↔ Text.Spells w cs := by
    have hplain (R : Char → Char → Prop) : List.Forall₂ R w.toList cs ↔
        List.Forall₂ (fun d c => (d.toNat < 128 ∧ d.isUpper = false) ∧ R d c) w.toList cs := by
      rw [List.forall₂_and_left]
      exact (and_iff_right hw).symm
    rw [List.forall₂_map_left_iff, Text.Spells, hplain, hplain fun d c => c ∈ Text.variants d]
    simp only [CharTest.accepts_point]
    have hletters (d c : Char) :
        ((d.toNat < 128 ∧ d.isUpper = false) ∧ Folding.full.same c.toNat d.toNat = true) ↔
          (d.toNat < 128 ∧ d.isUpper = false) ∧ c ∈ Text.variants d :=
      and_congr_right fun hd => Text.same_iff_mem_variants hd
    simp only [hletters]
  rw [hlist, reaches_tests]
  simp only [hspells]

theorem reaches_oneOf_anyCase (ws : List String) (hne : ws ≠ [])
    (hws : ∀ w ∈ ws, Text.IsPlain w) :
    Reaches t (oneOf (ws.map anyCase)) s s' ↔ ∃ w ∈ ws, ∃ cs, Text.Spells w cs ∧
      Stands t s.pos cs ∧ s' = s.moveTo (s.pos + cs.length) := by
  rw [reaches_oneOf (by simpa using hne)]
  simp only [List.mem_map, exists_exists_and_eq_and]
  exact exists_congr fun w => and_congr_right fun hw => reaches_anyCase (hws w hw)

end Regex

end ReactLint
