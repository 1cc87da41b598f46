import Mathlib.Logic.Relation
import ReactLint.Proofs.Rule
import ReactLint.Registry.Load

/-!
# Histories of a registry

Whatever an operation does to a registry, also one that fails half-way, it does by elementary
changes: a rule that passed all checks is added at the end, values are added to an allow-list, or
the set of disabled rules is chosen anew.
-/

namespace ReactLint

open Relation (ReflTransGen)

namespace AllowLists

theorem mem_addMembers {v : Value} {members : List Value} (h : v ∈ members) (values : List Value) :
    v ∈ addMembers members values := by
  induction values generalizing members with
  | nil => exact h
  | cons w ws ih =>
    simp only [addMembers]
    split
    · exact ih h
    · exact ih (List.mem_append_left _ h)

/-- Every list of the first lists is, under its name, a part of a list of the second ones. -/
def Within (a b : AllowLists) : Prop :=
  ∀ name members, a.find? name = some members →
    ∃ more, b.find? name = some more ∧ ∀ v ∈ members, v ∈ more

theorem Within.refl (a : AllowLists) : a.Within a :=
  fun _ members h => ⟨members, h, fun _ hv => hv⟩

theorem Within.trans {a b c : AllowLists} (hab : a.Within b) (hbc : b.Within c) : a.Within c := by
  intro name members h
  obtain ⟨more, hmore, hsub⟩ := hab name members h
  obtain ⟨most, hmost, hsub'⟩ := hbc name more hmore
  exact ⟨most, hmost, fun v hv => hsub' v (hsub v hv)⟩

theorem within_extend (name : Value) (values : List Value) (lists : AllowLists) :
    lists.Within (extend name values lists) := by
  induction lists with
  | nil =>
    intro other members h
    cases h
  | cons entry rest ih =>
    obtain ⟨n, known⟩ := entry
    intro other members h
    rw [find?_cons] at h
    rw [extend_cons]
    split at h
    · rename_i hother
      cases h
      split
      · exact ⟨_, by rw [find?_cons, if_pos hother], fun v hv => mem_addMembers hv values⟩
      · exact ⟨known, by rw [find?_cons, if_pos hother], fun v hv => hv⟩
    · rename_i hother
      split
      · exact ⟨members, by rw [find?_cons, if_neg hother, h], fun v hv => hv⟩
      · obtain ⟨more, hmore, hsub⟩ := ih other members h
        exact ⟨more, by rw [find?_cons, if_neg hother, hmore], hsub⟩

end AllowLists

namespace Registry

inductive Change (g : Registry) : Registry → Prop where
  | add (r : Rule) (logs : List LogEntry) : r.IsBuilt → g.has r.id = false →
      g.checkList r = .ok () → checkGate r = .ok logs → Change g { g with rules := g.rules ++ [r] }
  | extend (name : Value) (values : List Value) :
      Change g { g with lists := g.lists.extend name values }
  | select (enable disable : Value) :
      Change g { g with disabled := g.ids.filter (isDeselected enable disable) }

abbrev Changes : Registry → Registry → Prop := ReflTransGen Change

theorem changes_register (g : Registry) {r : Rule} (hr : r.IsBuilt) :
    Changes g (g.register r).registry := by
  simp only [register]
  split
  · exact .refl
  · rename_i hfresh
    split
    · exact .refl
    · exact .refl
    · rename_i logs hlist hgate
      exact .single (.add r logs hr (by simpa using hfresh) hlist hgate)

theorem isBuilt_of_ofEntry {R : Readers} {entry : Value} {source : String} {r : Rule}
    (h : Rule.ofEntry R entry source = .ok r) : r.IsBuilt := by
  simp only [Rule.ofEntry] at h
  split at h
  · split at h
    · obtain ⟨id, -, h⟩ := bind_eq_ok.mp h
      obtain ⟨flags, -, hdraft⟩ := bind_eq_ok.mp h
      exact ⟨R, _, hdraft⟩
    · cases h
  · cases h

theorem changes_extendList (g : Registry) (name values : Value) :
    Changes g (g.extendList name values).registry := by
  simp only [extendList]
  split
  · exact .refl
  · split
    · exact .refl
    · split
      · exact .single (.extend _ _)
      · exact .refl

theorem changes_select (g : Registry) (enable disable : Value) :
    Changes g (g.select enable disable).registry := by
  simp only [select]
  split
  · split
    · exact .refl
    · exact .single (.select enable disable)
  · exact .refl

/-! ## What registering leaves alone -/

structure SameRest (g g' : Registry) : Prop where
  disabled : g'.disabled = g.disabled
  lists : g'.lists = g.lists

theorem SameRest.refl (g : Registry) : SameRest g g := ⟨rfl, rfl⟩

theorem SameRest.trans {g g' g'' : Registry} (h : SameRest g g') (h' : SameRest g' g'') :
    SameRest g g'' :=
  ⟨h'.disabled.trans h.disabled, h'.lists.trans h.lists⟩

theorem sameRest_register (g : Registry) (r : Rule) : SameRest g (g.register r).registry := by
  simp only [register]
  split
  · exact .refl g
  · split <;> exact ⟨rfl, rfl⟩

/-! ## Registering many rules -/

/-- A relation between registries that registering one rule after another builds up: a registry is
in it with itself, steps can be put together, and what registering a rule leaves follows. -/
structure BuiltUp (Q : Registry → Registry → Prop) : Prop where
  refl (g : Registry) : Q g g
  trans {g g' g'' : Registry} : Q g g' → Q g' g'' → Q g g''
  register (g : Registry) {r : Rule} : r.IsBuilt → Q g (g.register r).registry

namespace BuiltUp

variable {Q : Registry → Registry → Prop}

theorem andThen {α β : Type} (h : BuiltUp Q) {g : Registry} {e : Effect α}
    {next : α → Registry → Effect β} (he : Q g e.registry)
    (hnext : ∀ a g', Q g' (next a g').registry) : Q g (e.andThen next).registry := by
  simp only [Effect.andThen]
  split
  · exact h.trans he (hnext _ _)
  · exact he

theorem registerAll (h : BuiltUp Q) {rs : List Rule} (hrs : ∀ r ∈ rs, r.IsBuilt) (g : Registry) :
    Q g (registerAll rs g).registry := by
  induction rs generalizing g with
  | nil => exact h.refl g
  | cons r rs ih =>
    obtain ⟨hr, hrest⟩ := List.forall_mem_cons.mp hrs
    exact h.andThen (h.register g hr) fun _ g' => ih hrest g'

theorem registerEntries (h : BuiltUp Q) (R : Readers) (source : String) (entries : List Value)
    (g : Registry) : Q g (registerEntries R source entries g).registry := by
  induction entries generalizing g with
  | nil => exact h.refl g
  | cons entry entries ih =>
    simp only [Registry.registerEntries]
    split
    · exact h.refl g
    · rename_i r hr
      exact h.andThen (h.register g (isBuilt_of_ofEntry hr)) fun _ g' => ih g'

theorem loadFile (h : BuiltUp Q) (R : Readers) (w : Place) (p : Path) (g : Registry) :
    Q g (loadFile R w p g).registry := by
  simp only [Registry.loadFile]
  split
  · exact h.refl g
  · exact h.refl g
  · exact h.andThen (h.registerEntries R _ _ g) fun _ g' => h.refl g'

theorem loadFiles (h : BuiltUp Q) (R : Readers) (w : Place) (ps : List Path) (g : Registry) :
    Q g (loadFiles R w ps g).registry := by
  induction ps generalizing g with
  | nil => exact h.refl g
  | cons p ps ih =>
    exact h.andThen (h.loadFile R w p g) fun _ g' => h.andThen (ih g') fun _ g'' => h.refl g''

theorem loadFolder (h : BuiltUp Q) (R : Readers) (w : Place) (folder : Path) (g : Registry) :
    Q g (loadFolder R w folder g).registry := by
  simp only [Registry.loadFolder]
  split
  · exact h.loadFiles R w _ g
  · exact h.refl g

end BuiltUp

theorem builtUp_changes : BuiltUp Changes where
  refl _ := .refl
  trans h h' := h.trans h'
  register g _ hr := changes_register g hr

theorem builtUp_sameRest : BuiltUp SameRest where
  refl := .refl
  trans h h' := h.trans h'
  register g r _ := sameRest_register g r

/-! ## Operations -/

inductive Operation where
  | register (r : Rule) (built : r.IsBuilt)
  | registerAll (rs : List Rule) (built : ∀ r ∈ rs, r.IsBuilt)
  | extendList (name values : Value)
  | select (enable disable : Value)
  | loadFolder (R : Readers) (w : Place) (folder : Path)

def perform (g : Registry) : Operation → Registry
  | .register r _ => (g.register r).registry
  | .registerAll rs _ => (Registry.registerAll rs g).registry
  | .extendList name values => (g.extendList name values).registry
  | .select enable disable => (g.select enable disable).registry
  | .loadFolder R w folder => (Registry.loadFolder R w folder g).registry

def performAll (g : Registry) (ops : List Operation) : Registry := ops.foldl perform g

/-- The registries that some history of operations leads to from a new registry. -/
def Reachable (g : Registry) : Prop := ∃ lists ops, g = performAll { lists := lists } ops

theorem changes_perform (g : Registry) (op : Operation) : Changes g (g.perform op) := by
  cases op with
  | register r built => exact changes_register g built
  | registerAll rs built => exact builtUp_changes.registerAll built g
  | extendList name values => exact changes_extendList g name values
  | select enable disable => exact changes_select g enable disable
  | loadFolder R w folder => exact builtUp_changes.loadFolder R w folder g

theorem changes_performAll (g : Registry) (ops : List Operation) :
    Changes g (g.performAll ops) := by
  induction ops generalizing g with
  | nil => exact .refl
  | cons op ops ih => exact (changes_perform g op).trans (ih (g.perform op))

end Registry

end ReactLint
