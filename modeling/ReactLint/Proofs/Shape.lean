import Mathlib.Computability.Language
import ReactLint.Proofs.Stands
import ReactLint.Text.Character

/-!
# Kinds of texts

A kind of texts is a language. The kinds used here are put together from fixed words and from runs
of characters that pass a test. In front of another text such a text can be split off in one way
only, provided that no run is carried on by what stands behind it; so a text is read in one way if
every run in it is followed by a word that the run refuses.
-/

namespace ReactLint.Shape

open scoped Computability

variable {K L M : Language Char} {q : Char → Bool} {w : String} {as cs : List Char}

def word (w : String) : Language Char := {w.toList}

def only (q : Char → Bool) : Language Char := {cs | ∀ c ∈ cs, q c = true}

def blanks : Language Char := only Text.isBlank

def gap : Language Char := {cs | cs ∈ blanks ∧ cs ≠ []}

def free (s : String) : Language Char := only fun c => !s.toList.contains c

theorem mem_word : cs ∈ word w ↔ cs = w.toList := Iff.rfl

theorem mem_only : cs ∈ only q ↔ ∀ c ∈ cs, q c = true := Iff.rfl

theorem mem_free {s : String} : cs ∈ free s ↔ ∀ c ∈ cs, c ∉ s.toList := by
  simp [free, mem_only]

theorem mem_only_of_all (h : cs.all q = true) : cs ∈ only q := List.all_eq_true.mp h

theorem mem_free_of_all {s : String} (h : cs.all (!s.toList.contains ·) = true) : cs ∈ free s :=
  mem_only_of_all h

theorem nil_mem_only (q : Char → Bool) : [] ∈ only q := by simp [mem_only]

theorem mem_free_of_mem_only {s : String} (hs : s.toList.all (!q ·) = true) (hcs : cs ∈ only q) :
    cs ∈ free s := by
  refine mem_free.mpr fun c hc hmem => ?_
  have hrefused := List.all_eq_true.mp hs c hmem
  rw [hcs c hc] at hrefused
  cases hrefused

theorem free_mono {s s' : String} (h : s'.toList.all s.toList.contains = true)
    (hcs : cs ∈ free s) : cs ∈ free s' := by
  refine mem_free.mpr fun c hc hmem => mem_free.mp hcs c hc ?_
  exact List.contains_iff_mem.mp (List.all_eq_true.mp h c hmem)

theorem append_mem_only : as ++ cs ∈ only q ↔ as ∈ only q ∧ cs ∈ only q := by
  simp [mem_only, or_imp, forall_and]

theorem stops_reverse_of_mul_word (hw : w.toList.getLast?.any (!q ·) = true)
    (h : cs ∈ L * word w) : Stops q cs.reverse := by
  obtain ⟨front, _, _, rfl, rfl⟩ := Language.mem_mul.mp h
  obtain ⟨c, hlast, hc⟩ := (Option.any_eq_true _ _).mp hw
  obtain ⟨more, hmore⟩ := List.getLast?_eq_some_iff.mp hlast
  refine ⟨c, more.reverse ++ front.reverse, ?_, by simpa using hc⟩
  rw [hmore, List.reverse_append, List.reverse_append]
  rfl

/-- A text of the first kind in front of one of the second is split off in one way only. -/
def Splits (L K : Language Char) : Prop :=
  ∀ a ∈ L, ∀ b ∈ L, ∀ u ∈ K, ∀ v ∈ K, a ++ u = b ++ v → a = b ∧ u = v

theorem splits_one (K : Language Char) : Splits 1 K := by
  intro a ha b hb u _ v _ h
  obtain rfl : a = [] := ha
  obtain rfl : b = [] := hb
  exact ⟨rfl, h⟩

theorem splits_word (w : String) (K : Language Char) : Splits (word w) K := by
  intro a ha b hb u _ v _ h
  rw [mem_word.mp ha, mem_word.mp hb] at h ⊢
  exact ⟨rfl, List.append_cancel_left h⟩

theorem splits_only (hK : ∀ u ∈ K, Stops q u) : Splits (only q) K :=
  fun _ ha _ hb u hu v hv h => (hK u hu).append_inj (hK v hv) ha hb h

theorem splits_only_word (hw : w.toList.head?.any (!q ·) = true) :
    Splits (only q) (word w * K) := by
  refine splits_only fun x hx => ?_
  obtain ⟨_, rfl, k, _, rfl⟩ := Language.mem_mul.mp hx
  cases hchars : w.toList with
  | nil => simp [hchars] at hw
  | cons c rest => exact ⟨c, rest ++ k, rfl, by simpa [hchars] using hw⟩

namespace Splits

theorem mono (h : Splits M K) (hL : ∀ a ∈ L, a ∈ M) : Splits L K :=
  fun a ha b hb => h a (hL a ha) b (hL b hb)

theorem mul (hL : Splits L (M * K)) (hM : Splits M K) : Splits (L * M) K := by
  intro a ha b hb u hu v hv h
  obtain ⟨a₁, ha₁, a₂, ha₂, rfl⟩ := Language.mem_mul.mp ha
  obtain ⟨b₁, hb₁, b₂, hb₂, rfl⟩ := Language.mem_mul.mp hb
  rw [List.append_assoc, List.append_assoc] at h
  obtain ⟨rfl, hrest⟩ := hL a₁ ha₁ b₁ hb₁ _ (Language.append_mem_mul ha₂ hu) _
    (Language.append_mem_mul hb₂ hv) h
  obtain ⟨rfl, huv⟩ := hM a₂ ha₂ b₂ hb₂ u hu v hv hrest
  exact ⟨rfl, huv⟩

theorem word_mul (w : String) (h : Splits M K) : Splits (word w * M) K :=
  (splits_word w _).mul h

/-- Characters that a test accepts, in front of a word whose first character it refuses. -/
theorem run_word (hL : ∀ a ∈ L, a ∈ only q) (hw : w.toList.head?.any (!q ·) = true)
    (h : Splits (word w * M) K) : Splits (L * (word w * M)) K := by
  refine Splits.mul (mono ?_ hL) h
  rw [mul_assoc]
  exact splits_only_word hw

theorem only_word (hw : w.toList.head?.any (!q ·) = true) (h : Splits (word w * M) K) :
    Splits (only q * (word w * M)) K := run_word (fun _ ha => ha) hw h

theorem only_word_last (hw : w.toList.head?.any (!q ·) = true) : Splits (only q * word w) K := by
  rw [← mul_one (word w)]
  exact only_word hw (word_mul w (splits_one K))

theorem add (hL : Splits L K) (hM : Splits M K)
    (hapart : ∀ a ∈ L, ∀ b ∈ M, ∀ u v, a ++ u ≠ b ++ v) : Splits (L + M) K := by
  intro a ha b hb u hu v hv h
  rcases ha with ha | ha
  · rcases hb with hb | hb
    · exact hL a ha b hb u hu v hv h
    · exact absurd h (hapart a ha b hb u v)
  · rcases hb with hb | hb
    · exact absurd h.symm (hapart b hb a ha v u)
    · exact hM a ha b hb u hu v hv h

/-- A sequence of texts of one kind, if none of them begins what stands behind the sequence. -/
theorem kstar (hL : ∀ N, Splits L N) (hK : ∀ a ∈ L, ∀ u, a ++ u ∉ K) : Splits L∗ K := by
  intro a ha b hb u hu v hv h
  obtain ⟨S, rfl, hS⟩ := ha
  obtain ⟨T, rfl, hT⟩ := hb
  induction S generalizing T with
  | nil =>
    cases T with
    | nil => exact ⟨rfl, h⟩
    | cons b T =>
      rw [List.flatten_nil, List.nil_append, List.flatten_cons, List.append_assoc] at h
      exact absurd (h ▸ hu) (hK b (hT b List.mem_cons_self) _)
  | cons a S ih =>
    cases T with
    | nil =>
      rw [List.flatten_nil, List.nil_append, List.flatten_cons, List.append_assoc] at h
      exact absurd (h ▸ hv) (hK a (hS a List.mem_cons_self) _)
    | cons b T =>
      rw [List.flatten_cons, List.flatten_cons, List.append_assoc, List.append_assoc] at h
      obtain ⟨rfl, hrest⟩ := hL ⊤ a (hS a List.mem_cons_self) b (hT b List.mem_cons_self) _
        trivial _ trivial h
      obtain ⟨hflat, huv⟩ := ih (List.forall_mem_cons.mp hS).2 T (List.forall_mem_cons.mp hT).2
        hrest
      exact ⟨by rw [List.flatten_cons, List.flatten_cons, hflat], huv⟩

theorem eq_of_stands {t : Array Char} {p : Nat} {a b u v : List Char} (hL : Splits L (M * ⊤))
    (hM : Splits M ⊤) (ha : a ∈ L) (hb : b ∈ L) (hu : u ∈ M) (hv : v ∈ M)
    (h : Stands t p (a ++ u)) (h' : Stands t p (b ++ v)) : a = b ∧ u = v := by
  obtain ⟨x, hx⟩ := h
  obtain ⟨y, hy⟩ := h'
  have heq := hx.trans hy.symm
  rw [List.append_assoc, List.append_assoc] at heq
  obtain ⟨rfl, hrest⟩ := hL a ha b hb _ (Language.append_mem_mul hu trivial) _
    (Language.append_mem_mul hv trivial) heq
  exact ⟨rfl, (hM u hu v hv x trivial y trivial hrest).1⟩

end Splits

end ReactLint.Shape
