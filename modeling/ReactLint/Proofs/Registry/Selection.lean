import Mathlib.Data.List.Induction
import ReactLint.Proofs.Registry.Invariant

/-!
# Which rules are enabled

A selection speaks of the rules that are known when it is made: the disabled ones are chosen anew
from them, and a rule that is registered later is on until the next selection. No other operation
touches the choice, whether it succeeds, fails or stops half-way, and neither does a selection that
fails. So what is enabled follows from the last selection that succeeded.
-/

namespace ReactLint

namespace Registry

variable {g : Registry} {ops : List Operation} {op : Operation} {enable disable : Value}
  {id : String}

theorem disabled_extendList (g : Registry) (name values : Value) :
    (g.extendList name values).registry.disabled = g.disabled := by
  simp only [extendList]
  split
  · rfl
  · split
    · rfl
    · split <;> rfl

theorem disabled_select_of_ok (h : (g.select enable disable).result = .ok ()) :
    (g.select enable disable).registry.disabled = g.ids.filter (isDeselected enable disable) := by
  simp only [select] at h ⊢
  split at h
  · split at h
    · cases h
    · rfl
  · cases h

theorem disabled_select_of_not_ok (h : (g.select enable disable).result ≠ .ok ()) :
    (g.select enable disable).registry.disabled = g.disabled := by
  simp only [select] at h ⊢
  split at h
  · split at h
    · rfl
    · exact absurd rfl h
  · rfl

/-- An operation that leaves the choice of disabled rules alone: it is no selection, or one that
fails. -/
def KeepsChoice (g : Registry) (op : Operation) : Prop :=
  ∀ enable disable, op = .select enable disable → (g.select enable disable).result ≠ .ok ()

theorem keepsChoice_or_selects (g : Registry) (op : Operation) :
    g.KeepsChoice op ∨ ∃ enable disable, op = .select enable disable ∧
      (g.select enable disable).result = .ok () := by
  by_cases hop : ∃ enable disable, op = .select enable disable ∧
      (g.select enable disable).result = .ok ()
  · exact .inr hop
  · exact .inl fun enable disable hsel hok => hop ⟨enable, disable, hsel, hok⟩

theorem disabled_perform (h : g.KeepsChoice op) : (g.perform op).disabled = g.disabled := by
  cases op with
  | register r built => exact (sameRest_register g r).disabled
  | registerAll rs built => exact (builtUp_sameRest.registerAll built g).disabled
  | extendList name values => exact disabled_extendList g name values
  | select enable disable => exact disabled_select_of_not_ok (h enable disable rfl)
  | loadFolder R w folder => exact (builtUp_sameRest.loadFolder R w folder g).disabled

def SelectedAt (g : Registry) (ops : List Operation) (n : Nat) (enable disable : Value) : Prop :=
  ops[n]? = some (.select enable disable) ∧
    ((g.performAll (ops.take n)).select enable disable).result = .ok ()

def LastSelectedAt (g : Registry) (ops : List Operation) (n : Nat) (enable disable : Value) :
    Prop :=
  g.SelectedAt ops n enable disable ∧ ∀ m, n < m → ∀ on off, ¬ g.SelectedAt ops m on off

theorem performAll_snoc (g : Registry) (ops : List Operation) (op : Operation) :
    g.performAll (ops ++ [op]) = (g.performAll ops).perform op := by
  simp only [performAll, List.foldl_append, List.foldl_cons, List.foldl_nil]

theorem SelectedAt.lt {n : Nat} (h : g.SelectedAt ops n enable disable) : n < ops.length :=
  (List.getElem?_eq_some_iff.mp h.1).1

theorem selectedAt_snoc_of_lt {n : Nat} (h : n < ops.length) :
    g.SelectedAt (ops ++ [op]) n enable disable ↔ g.SelectedAt ops n enable disable := by
  rw [SelectedAt, SelectedAt, List.getElem?_append_left h,
    List.take_append_of_le_length (Nat.le_of_lt h)]

theorem selectedAt_snoc_length :
    g.SelectedAt (ops ++ [op]) ops.length enable disable ↔
      op = .select enable disable ∧ ((g.performAll ops).select enable disable).result = .ok () := by
  rw [SelectedAt, List.getElem?_concat_length, List.take_left, Option.some.injEq]

theorem lastSelectedAt_snoc_of_ok {n : Nat} {on off : Value}
    (h : ((g.performAll ops).select enable disable).result = .ok ()) :
    g.LastSelectedAt (ops ++ [.select enable disable]) n on off ↔
      n = ops.length ∧ on = enable ∧ off = disable := by
  have hlast : g.SelectedAt (ops ++ [.select enable disable]) ops.length enable disable :=
    selectedAt_snoc_length.mpr ⟨rfl, h⟩
  constructor
  · rintro ⟨hat, hnone⟩
    have hlt := hat.lt
    rw [List.length_append, List.length_singleton] at hlt
    have hle : ¬ n < ops.length := fun hn => hnone ops.length hn enable disable hlast
    obtain rfl : n = ops.length := by omega
    obtain ⟨hop, -⟩ := selectedAt_snoc_length.mp hat
    cases hop
    exact ⟨rfl, rfl, rfl⟩
  · rintro ⟨rfl, rfl, rfl⟩
    refine ⟨hlast, fun m hm on off hat => ?_⟩
    have hlt := hat.lt
    rw [List.length_append, List.length_singleton] at hlt
    omega

theorem selectedAt_snoc_of_keeps {n : Nat} {on off : Value}
    (h : (g.performAll ops).KeepsChoice op) :
    g.SelectedAt (ops ++ [op]) n on off ↔ g.SelectedAt ops n on off := by
  by_cases hn : n < ops.length
  · exact selectedAt_snoc_of_lt hn
  · constructor
    · intro hat
      have hlt := hat.lt
      rw [List.length_append, List.length_singleton] at hlt
      obtain rfl : n = ops.length := by omega
      obtain ⟨hop, hok⟩ := selectedAt_snoc_length.mp hat
      exact absurd hok (h on off hop)
    · exact fun hat => absurd hat.lt hn

theorem lastSelectedAt_snoc_of_keeps {n : Nat} {on off : Value}
    (h : (g.performAll ops).KeepsChoice op) :
    g.LastSelectedAt (ops ++ [op]) n on off ↔ g.LastSelectedAt ops n on off := by
  simp only [LastSelectedAt, selectedAt_snoc_of_keeps h]

/-- The disabled rules are those that were known to the last selection and left out by it. -/
theorem mem_disabled_performAll (hnew : g.disabled = []) (ops : List Operation) :
    id ∈ (g.performAll ops).disabled ↔
      ∃ n enable disable, g.LastSelectedAt ops n enable disable ∧
        id ∈ (g.performAll (ops.take n)).ids ∧ isDeselected enable disable id = true := by
  induction ops using List.reverseRecOn with
  | nil =>
    constructor
    · intro hid
      rw [performAll, List.foldl_nil, hnew] at hid
      cases hid
    · rintro ⟨n, enable, disable, ⟨hat, -⟩, -⟩
      exact absurd hat.lt (Nat.not_lt_zero n)
  | append_singleton ops op ih =>
    rw [performAll_snoc]
    rcases keepsChoice_or_selects (g.performAll ops) op with hkeep | ⟨enable, disable, rfl, hok⟩
    · rw [disabled_perform hkeep, ih]
      refine exists_congr fun n => exists_congr fun on => exists_congr fun off => ?_
      rw [lastSelectedAt_snoc_of_keeps hkeep]
      refine and_congr_right fun hlast => ?_
      rw [List.take_append_of_le_length (Nat.le_of_lt hlast.1.lt)]
    · rw [perform, disabled_select_of_ok hok, List.mem_filter]
      constructor
      · rintro ⟨hid, hoff⟩
        refine ⟨ops.length, enable, disable, (lastSelectedAt_snoc_of_ok hok).mpr ⟨rfl, rfl, rfl⟩,
          ?_, hoff⟩
        rwa [List.take_left]
      · rintro ⟨n, on, off, hlast, hid, hoff⟩
        obtain ⟨rfl, rfl, rfl⟩ := (lastSelectedAt_snoc_of_ok hok).mp hlast
        rw [List.take_left] at hid
        exact ⟨hid, hoff⟩

theorem exists_lastSelectedAt (g : Registry) (ops : List Operation) :
    (∀ n enable disable, ¬ g.SelectedAt ops n enable disable) ∨
      ∃ n enable disable, g.LastSelectedAt ops n enable disable := by
  induction ops using List.reverseRecOn with
  | nil => exact .inl fun n _ _ hat => absurd hat.lt (Nat.not_lt_zero n)
  | append_singleton ops op ih =>
    rcases keepsChoice_or_selects (g.performAll ops) op with hkeep | ⟨enable, disable, rfl, hok⟩
    · simpa only [selectedAt_snoc_of_keeps hkeep, lastSelectedAt_snoc_of_keeps hkeep] using ih
    · exact .inr ⟨ops.length, enable, disable,
        (lastSelectedAt_snoc_of_ok hok).mpr ⟨rfl, rfl, rfl⟩⟩

theorem LastSelectedAt.unique {n m : Nat} {on off : Value}
    (h : g.LastSelectedAt ops n enable disable) (h' : g.LastSelectedAt ops m on off) :
    n = m ∧ enable = on ∧ disable = off := by
  obtain ⟨hat, hlast⟩ := h
  obtain ⟨hat', hlast'⟩ := h'
  have hle : ¬ n < m := fun hlt => hlast m hlt on off hat'
  have hge : ¬ m < n := fun hlt => hlast' n hlt enable disable hat
  obtain rfl : n = m := by omega
  have hsame := hat.1.symm.trans hat'.1
  rw [Option.some.injEq, Operation.select.injEq] at hsame
  exact ⟨rfl, hsame⟩

theorem ids_performAll_take {m n : Nat} (h : m ≤ n)
    (hid : id ∈ (g.performAll (ops.take m)).ids) : id ∈ (g.performAll (ops.take n)).ids := by
  have hsplit := List.take_append_drop m (ops.take n)
  rw [List.take_take, Nat.min_eq_left h] at hsplit
  have hgrow := changes_performAll (g.performAll (ops.take m)) ((ops.take n).drop m)
  rw [← hsplit, performAll, List.foldl_append]
  exact (List.IsPrefix.map Rule.id hgrow.rules_prefix).subset hid

/-! ## Selections by lists of texts -/

theorem unknownIds_texts (g : Registry) (ids : List String) :
    (g.unknownIds (ids.map .text)).2 = none := by
  induction ids with
  | nil => rfl
  | cons id ids ih =>
    simp only [List.map_cons, unknownIds, Value.isKey, Bool.not_true, Bool.false_eq_true, if_false]
    split <;> exact ih

theorem select_texts_ok (g : Registry) (on off : List String) :
    (g.select (.list (on.map .text)) (.list (off.map .text))).result = .ok () := by
  have hfault := g.unknownIds_texts (on ++ off)
  rw [List.map_append] at hfault
  simp only [select, Value.elements?]
  split
  · rename_i heq
    rw [heq] at hfault
    cases hfault
  · rfl

theorem containsText_texts (id : String) (ids : List String) :
    (Value.list (ids.map .text)).containsText id = true ↔ id ∈ ids := by
  simp [Value.containsText, Value.isText, Value.text?]

theorem isDeselected_texts (on off : List String) (id : String) :
    isDeselected (.list (on.map .text)) (.list (off.map .text)) id = false ↔
      (on = [] ∨ id ∈ on) ∧ id ∉ off := by
  rw [← containsText_texts id on, ← containsText_texts id off]
  cases on <;> simp [isDeselected, Value.isTruthy]

/-! ## The state of a rule after a history -/

/-- After any history of operations on a new registry, failed ones among them, a rule is enabled
exactly if no selection has succeeded since it was registered or the last one that did picks it. A
selection by lists of texts succeeds; it picks the ids that it enables, or all if it enables none,
less those that it disables. The two ways to ask for what is enabled agree. -/
theorem isEnabled_performAll (lists : AllowLists) (ops : List Operation) :
    let new : Registry := { lists := lists }
    let g := new.performAll ops
    (∀ id ∈ g.ids, (g.isEnabled id = true ↔
      (∀ n enable disable, new.SelectedAt ops n enable disable →
        id ∉ (new.performAll (ops.take n)).ids) ∨
      ∃ n enable disable, new.LastSelectedAt ops n enable disable ∧
        isDeselected enable disable id = false)) ∧
    (∀ on off : List String,
      (g.select (.list (on.map .text)) (.list (off.map .text))).result = .ok () ∧
      ∀ id, isDeselected (.list (on.map .text)) (.list (off.map .text)) id = false ↔
        (on = [] ∨ id ∈ on) ∧ id ∉ off) ∧
    (∀ id, g.isEnabled id = true ↔ ∃ r ∈ g.enabled, r.id = id) ∧
    g.enabled.Sublist g.rules := by
  intro new g
  refine ⟨fun id hid => ?_, fun on off => ⟨select_texts_ok g on off, isDeselected_texts on off⟩,
    fun id => isEnabled_iff_exists, List.filter_sublist⟩
  rw [isEnabled_iff, mem_disabled_performAll (g := new) rfl ops]
  constructor
  · rintro ⟨-, hon⟩
    rcases exists_lastSelectedAt new ops with hnone | ⟨n, enable, disable, hlast⟩
    · exact .inl fun n enable disable hat => absurd hat (hnone n enable disable)
    · by_cases hknown : id ∈ (new.performAll (ops.take n)).ids
      · right
        refine ⟨n, enable, disable, hlast, ?_⟩
        rw [← Bool.not_eq_true]
        exact fun hdes => hon ⟨n, enable, disable, hlast, hknown, hdes⟩
      · -- the rule came after the last selection, so after all of them
        refine .inl fun m on off hat hm => hknown (ids_performAll_take ?_ hm)
        exact Nat.le_of_not_lt fun hlt => hlast.2 m hlt on off hat
  · rintro (hsince | ⟨n, enable, disable, hlast, hpick⟩)
    · refine ⟨hid, ?_⟩
      rintro ⟨n, enable, disable, hlast, hknown, -⟩
      exact hsince n enable disable hlast.1 hknown
    · refine ⟨hid, ?_⟩
      rintro ⟨m, on, off, hlast', -, hdes⟩
      obtain ⟨rfl, rfl, rfl⟩ := hlast.unique hlast'
      exact absurd hdes (by rw [hpick]; exact Bool.false_ne_true)

/-- A history in which a selection names a rule that is there and one that comes later. -/
def earlySelection : List Operation :=
  [.registerAll [Catalog.missingAlt] fun _ h =>
      Catalog.isBuilt_of_mem (by rw [List.mem_singleton.mp h]; simp [Catalog.rules]),
    .select (.list []) (.list [.text "C001", .text "E001"]),
    .registerAll [Catalog.consoleCall] fun _ h =>
      Catalog.isBuilt_of_mem (by rw [List.mem_singleton.mp h]; simp [Catalog.rules])]

theorem selectedAt_earlySelection {n : Nat} (h : g.SelectedAt earlySelection n enable disable) :
    n = 1 ∧ enable = .list [] ∧ disable = .list [.text "C001", .text "E001"] := by
  obtain ⟨hop, -⟩ := h
  rcases n with _ | _ | _ | n
  · cases hop
  · cases hop
    exact ⟨rfl, rfl, rfl⟩
  · cases hop
  · cases hop

theorem isEnabled_performAll_earlySelection :
    let g := ({} : Registry).performAll earlySelection
    ("C001" ∈ g.ids ∧ g.isEnabled "C001" = false) ∧ "E001" ∈ g.ids ∧ g.isEnabled "E001" = true := by
  intro g
  have hknown : "C001" ∈ g.ids := by decide +kernel
  have hlate : "E001" ∈ g.ids := by decide +kernel
  obtain ⟨hstate, -⟩ := isEnabled_performAll AllowLists.builtin earlySelection
  refine ⟨⟨hknown, ?_⟩, hlate, (hstate "E001" hlate).mpr (.inl fun n on off hat => ?_)⟩
  · rw [← Bool.not_eq_true]
    intro hon
    rcases (hstate "C001" hknown).mp hon with hsince | ⟨n, on, off, ⟨hat, -⟩, hpick⟩
    · exact hsince 1 (.list []) (.list [.text "C001", .text "E001"]) ⟨rfl, rfl⟩ (by decide +kernel)
    · obtain ⟨-, rfl, rfl⟩ := selectedAt_earlySelection hat
      exact absurd hpick (by decide +kernel)
  · obtain ⟨rfl, -, -⟩ := selectedAt_earlySelection hat
    decide +kernel

end Registry

end ReactLint
