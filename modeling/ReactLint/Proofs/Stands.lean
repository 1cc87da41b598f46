import ReactLint.Occurrence

/-!
# Texts at an offset

A text stands at an offset of a larger one if the larger one goes on with it there. A text that is
put together of parts stands where its parts do, one behind the other; and a run of characters is
read in one way only if what follows it does not go on with the run.
-/

namespace ReactLint

variable {t : Array Char} {i : Nat} {as bs cs : List Char}

def Stands (t : Array Char) (i : Nat) (cs : List Char) : Prop := cs <+: t.toList.drop i

theorem stands_nil : Stands t i [] := List.nil_prefix

theorem stands_cons {c : Char} : Stands t i (c :: cs) ↔ t[i]? = some c ∧ Stands t (i + 1) cs := by
  rw [Stands, Stands, ← Array.getElem?_toList]
  by_cases hi : i < t.toList.length
  · rw [List.drop_eq_getElem_cons hi, List.cons_prefix_cons, List.getElem?_eq_getElem hi,
      Option.some.injEq, eq_comm]
  · rw [List.drop_eq_nil_of_le (by omega), List.getElem?_eq_none (by omega)]
    simp

theorem stands_append :
    Stands t i (as ++ bs) ↔ Stands t i as ∧ Stands t (i + as.length) bs := by
  induction as generalizing i with
  | nil => simp [stands_nil]
  | cons a as ih =>
    rw [List.cons_append, stands_cons, stands_cons, ih, and_assoc, List.length_cons,
      Nat.add_right_comm, Nat.add_assoc]

theorem stands_behind : Stands (as ++ cs).toArray as.length bs ↔ bs <+: cs := by
  rw [Stands, List.toList_toArray, List.drop_left]

theorem slice_eq_take_drop (t : Array Char) (i j : Nat) :
    slice t i j = (t.toList.drop i).take (j - i) := by
  rw [slice, Array.toList_extract, List.extract_eq_take_drop]

theorem Stands.slice_eq (h : Stands t i cs) : slice t i (i + cs.length) = cs := by
  rw [slice_eq_take_drop, Nat.add_sub_cancel_left]
  exact (List.prefix_iff_eq_take.mp h).symm

theorem Stands.length_le (h : Stands t i cs) : cs.length ≤ t.size - i := by
  have hle := List.IsPrefix.length_le h
  rwa [List.length_drop, Array.length_toList] at hle

theorem Stands.le_size (h : Stands t i cs) (hcs : 0 < cs.length) : i ≤ t.size := by
  have hle := h.length_le
  omega

theorem Stands.getElem? {j : Nat} (h : Stands t i cs) (hj : j < cs.length) :
    t[i + j]? = cs[j]? := by
  obtain ⟨rest, hrest⟩ := h
  rw [← Array.getElem?_toList, ← List.getElem?_drop, ← hrest, List.getElem?_append_left hj]

/-- A text that ends a run of accepted characters: its first character is refused. -/
def Stops (q : Char → Bool) (cs : List Char) : Prop := ∃ c rest, cs = c :: rest ∧ q c = false

theorem Stops.head? {q : Char → Bool} (h : Stops q as) : ∀ c ∈ as.head?, q c = false := by
  obtain ⟨c, rest, rfl, hc⟩ := h
  rintro _ ⟨⟩
  exact hc

theorem Stops.append {q : Char → Bool} (h : Stops q as) : Stops q (as ++ bs) := by
  obtain ⟨c, rest, rfl, hc⟩ := h
  exact ⟨c, rest ++ bs, rfl, hc⟩

theorem Stops.ne_cons {q : Char → Bool} {c : Char} (h : Stops q as) (hc : q c = true) :
    as ≠ c :: cs := by
  rintro rfl
  obtain ⟨d, rest, heq, hd⟩ := h
  obtain ⟨rfl, -⟩ := List.cons.inj heq
  rw [hc] at hd
  cases hd

theorem Stops.append_inj {q : Char → Bool} {us vs : List Char} (hus : Stops q us)
    (hvs : Stops q vs) (has : ∀ c ∈ as, q c = true) (hbs : ∀ c ∈ bs, q c = true)
    (h : as ++ us = bs ++ vs) : as = bs ∧ us = vs := by
  induction as generalizing bs with
  | nil =>
    cases bs with
    | nil => exact ⟨rfl, h⟩
    | cons b bs => exact absurd h (hus.ne_cons (hbs b List.mem_cons_self))
  | cons a as ih =>
    cases bs with
    | nil => exact absurd h.symm (hvs.ne_cons (has a List.mem_cons_self))
    | cons b bs =>
      obtain ⟨rfl, hrest⟩ := List.cons.inj h
      obtain ⟨rfl, huv⟩ := ih (List.forall_mem_cons.mp has).2 (List.forall_mem_cons.mp hbs).2 hrest
      exact ⟨rfl, huv⟩

theorem Stands.eq_of_stops {q : Char → Bool} {us vs : List Char} (h : Stands t i (as ++ us))
    (h' : Stands t i (bs ++ vs)) (has : ∀ c ∈ as, q c = true) (hbs : ∀ c ∈ bs, q c = true)
    (hus : Stops q us) (hvs : Stops q vs) : as = bs := by
  obtain ⟨more, hmore⟩ := h
  obtain ⟨more', hmore'⟩ := h'
  have heq : as ++ (us ++ more) = bs ++ (vs ++ more') := by
    rw [← List.append_assoc, ← List.append_assoc, hmore, hmore']
  exact (hus.append.append_inj hvs.append has hbs heq).1

end ReactLint
