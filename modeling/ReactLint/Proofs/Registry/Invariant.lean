import ReactLint.Proofs.Registry.History

/-!
# What every history keeps

An elementary change never takes away a rule, the name of an allow-list or a member of one. It keeps
the ids apart, the disabled ids known, and the names that rules hold ready to be looked up: a rule
is checked against the allow-lists when it is added, and the lists only grow afterwards.
-/

namespace ReactLint.Registry

variable {g g' : Registry}

structure Sound (g : Registry) : Prop where
  nodup : g.ids.Nodup
  listed : ∀ r ∈ g.rules, ∀ name, r.allowList = some name →
    name.isKey = true ∧ ∃ members, g.lists.find? name = some members
  captured : ∀ r ∈ g.rules, r.allowList.isSome = true → r.hasCapture = true
  gated : ∀ r ∈ g.rules, ∀ name, r.gate = some name → name.isKey = true
  disabled : ∀ id ∈ g.disabled, id ∈ g.ids

theorem has_iff {id : String} : g.has id = true ↔ id ∈ g.ids := List.contains_iff_mem

theorem has_eq_false_iff {id : String} : g.has id = false ↔ id ∉ g.ids := by
  rw [← has_iff, Bool.not_eq_true]

theorem isEnabled_iff {id : String} : g.isEnabled id = true ↔ id ∈ g.ids ∧ id ∉ g.disabled := by
  simp [isEnabled, has_iff]

theorem mem_enabled_iff {r : Rule} :
    r ∈ g.enabled ↔ r ∈ g.rules ∧ g.isEnabled r.id = true := by
  rw [enabled, List.mem_filter, isEnabled_iff]
  constructor
  · rintro ⟨hr, hon⟩
    exact ⟨hr, List.mem_map_of_mem hr, by simpa using hon⟩
  · rintro ⟨hr, -, hon⟩
    exact ⟨hr, by simpa using hon⟩

theorem isEnabled_iff_exists {id : String} :
    g.isEnabled id = true ↔ ∃ r ∈ g.enabled, r.id = id := by
  constructor
  · intro hid
    obtain ⟨r, hr, rfl⟩ := List.mem_map.mp (isEnabled_iff.mp hid).1
    exact ⟨r, mem_enabled_iff.mpr ⟨hr, hid⟩, rfl⟩
  · rintro ⟨r, hr, rfl⟩
    exact (mem_enabled_iff.mp hr).2

theorem ids_add (r : Rule) :
    ({ g with rules := g.rules ++ [r] } : Registry).ids = g.ids ++ [r.id] := by
  simp only [ids, List.map_append, List.map_cons, List.map_nil]

theorem nodup_ids_add (hids : g.ids.Nodup) {r : Rule} (hfresh : g.has r.id = false) :
    ({ g with rules := g.rules ++ [r] } : Registry).ids.Nodup := by
  rw [ids_add, List.nodup_append]
  refine ⟨hids, by simp, fun id hid new hnew => ?_⟩
  rw [List.mem_singleton.mp hnew]
  rintro rfl
  exact has_eq_false_iff.mp hfresh hid

theorem checkList_eq_ok {r : Rule} (h : g.checkList r = .ok ()) (name : Value)
    (hname : r.allowList = some name) :
    name.isKey = true ∧ ∃ members, g.lists.find? name = some members := by
  simp only [checkList, hname] at h
  split at h
  · cases h
  · rename_i hkey
    split at h
    · rename_i hsome
      exact ⟨by simpa using hkey, Option.isSome_iff_exists.mp hsome⟩
    · cases h

theorem checkGate_eq_ok {r : Rule} {logs : List LogEntry} (h : checkGate r = .ok logs)
    (name : Value) (hname : r.gate = some name) : name.isKey = true := by
  simp only [checkGate, hname] at h
  split at h
  · cases h
  · rename_i hkey
    simpa using hkey

theorem register_eq_ok {r : Rule} (h : (g.register r).result = .ok ()) :
    g.has r.id = false ∧ (g.register r).registry = { g with rules := g.rules ++ [r] } := by
  simp only [register] at h ⊢
  split at h
  · cases h
  · rename_i hfresh
    split at h
    · cases h
    · cases h
    · simp_all

theorem select_eq (enable disable : Value) :
    ∃ off, (g.select enable disable).registry = { g with disabled := off } := by
  simp only [select]
  split
  · split
    · exact ⟨g.disabled, rfl⟩
    · exact ⟨_, rfl⟩
  · exact ⟨g.disabled, rfl⟩

theorem Change.rules_prefix (h : Change g g') : g.rules <+: g'.rules := by
  cases h with
  | add r logs hr hfresh hlist hgate => exact List.prefix_append g.rules [r]
  | extend name values => exact List.prefix_refl g.rules
  | select enable disable => exact List.prefix_refl g.rules

theorem Change.lists_within (h : Change g g') : g.lists.Within g'.lists := by
  cases h with
  | add r logs hr hfresh hlist hgate => exact .refl g.lists
  | extend name values => exact AllowLists.within_extend name values g.lists
  | select enable disable => exact .refl g.lists

theorem Change.sound (h : Change g g') (hg : g.Sound) : g'.Sound := by
  cases h with
  | add r logs hr hfresh hlist hgate =>
    -- a property of all rules need only be checked for the new one
    have hall : ∀ {P : Rule → Prop}, (∀ q ∈ g.rules, P q) → P r → ∀ q ∈ g.rules ++ [r], P q := by
      intro P hold hnew q hq
      rcases List.mem_append.mp hq with hq | hq
      · exact hold q hq
      · rw [List.mem_singleton.mp hq]
        exact hnew
    refine ⟨nodup_ids_add hg.nodup hfresh, hall hg.listed (checkList_eq_ok hlist),
      hall hg.captured hr.hasCapture, hall hg.gated (checkGate_eq_ok hgate), fun id hid => ?_⟩
    rw [ids_add]
    exact List.mem_append_left _ (hg.disabled id hid)
  | extend name values =>
    refine ⟨hg.nodup, fun r hr other hother => ?_, hg.captured, hg.gated, hg.disabled⟩
    obtain ⟨hkey, members, hmembers⟩ := hg.listed r hr other hother
    obtain ⟨more, hmore, -⟩ := AllowLists.within_extend name values g.lists other members hmembers
    exact ⟨hkey, more, hmore⟩
  | select enable disable =>
    exact ⟨hg.nodup, hg.listed, hg.captured, hg.gated, fun id hid => (List.mem_filter.mp hid).1⟩

theorem Changes.rules_prefix (h : Changes g g') : g.rules <+: g'.rules := by
  induction h with
  | refl => exact List.prefix_refl g.rules
  | tail _ hlast ih => exact ih.trans hlast.rules_prefix

theorem Changes.lists_within (h : Changes g g') : g.lists.Within g'.lists := by
  induction h with
  | refl => exact .refl g.lists
  | tail _ hlast ih => exact ih.trans hlast.lists_within

theorem Changes.sound (h : Changes g g') (hg : g.Sound) : g'.Sound := by
  induction h with
  | refl => exact hg
  | tail _ hlast ih => exact hlast.sound ih

theorem sound_new (lists : AllowLists) : ({ lists := lists } : Registry).Sound where
  nodup := List.nodup_nil
  listed := by simp
  captured := by simp
  gated := by simp
  disabled := by simp

theorem sound_performAll (lists : AllowLists) (ops : List Operation) :
    (performAll { lists := lists } ops).Sound :=
  (changes_performAll _ ops).sound (sound_new lists)

theorem Reachable.sound (h : g.Reachable) : g.Sound := by
  obtain ⟨lists, ops, rfl⟩ := h
  exact sound_performAll lists ops

theorem Sound.get?_id (hg : g.Sound) {r : Rule} (hr : r ∈ g.rules) : g.get? r.id = some r := by
  have hnodup := hg.nodup
  simp only [ids] at hnodup
  simp only [get?]
  generalize g.rules = rules at hr hnodup
  induction rules with
  | nil => cases hr
  | cons q rest ih =>
    rw [List.map_cons, List.nodup_cons] at hnodup
    rcases List.mem_cons.mp hr with rfl | hr
    · simp
    · have hne : q.id ≠ r.id := fun heq => hnodup.1 (heq ▸ List.mem_map_of_mem hr)
      rw [List.find?_cons_of_neg (by simpa using hne)]
      exact ih hr hnodup.2

theorem Sound.eq_of_id_eq (hg : g.Sound) {q r : Rule} (hq : q ∈ g.rules) (hr : r ∈ g.rules)
    (h : q.id = r.id) : q = r := by
  have hget := hg.get?_id hq
  rw [h, hg.get?_id hr] at hget
  exact (Option.some.inj hget).symm

theorem reachable_default : Registry.default.Reachable := by
  refine ⟨AllowLists.builtin, [.registerAll Catalog.rules fun _ h => Catalog.isBuilt_of_mem h], ?_⟩
  rfl

end ReactLint.Registry
