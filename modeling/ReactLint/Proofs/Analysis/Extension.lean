import ReactLint.Proofs.Analysis.Contents

/-!
# Extending an allow-list only removes what it names

An extension of an allow-list takes those issues out of a report whose rule names the list and whose
first group is one of the new values, and leaves the others as they stand. Extensions may be made in
any order, joined, split and repeated; and those of one registry are not seen by another.
-/

namespace ReactLint

theorem AllowLists.allows_iff_mem {lists : AllowLists} {name : Value} {s : String} :
    lists.allows name s = true ↔ Value.text s ∈ (lists.find? name).getD [] := by
  rw [allows_iff]
  cases lists.find? name with
  | none => simp
  | some members => simp

theorem AllowLists.allows_extend (lists : AllowLists) (name : String) (values : List String)
    (other : Value) (s : String) :
    (lists.extend (.text name) (values.map .text)).allows other s =
      (lists.allows other s || (other.isText name && values.contains s)) := by
  rw [Bool.eq_iff_iff, Bool.or_eq_true, Bool.and_eq_true, allows_iff_mem, allows_iff_mem,
    Value.isText_iff, List.contains_iff_mem, mem_find?_extend_text]
  simp

theorem AllowLists.suppresses_extend (lists : AllowLists) (name : String) (values : List String)
    (r : Rule) (capture : Option String) :
    (lists.extend (.text name) (values.map .text)).suppresses r capture =
      (lists.suppresses r capture ||
        (r.allowList.any (·.isText name) && capture.any values.contains)) := by
  cases hlist : r.allowList with
  | none => simp [suppresses, hlist]
  | some other =>
    cases capture with
    | none => simp [suppresses, hlist]
    | some s => simp [suppresses, hlist, allows_extend]

namespace Registry

variable {g : Registry} {t : Array Char} {name : String} {values : List String}

def Operation.extension (call : String × List String) : Operation :=
  .extendList (.text call.1) (.list (call.2.map .text))

theorem extendList_texts (g : Registry) (name : String) (values : List String) :
    g.extendList (.text name) (.list (values.map .text)) =
      { registry := { g with lists := g.lists.extend (.text name) (values.map .text) }
        result := .ok () } := by
  have hkeys : (values.map Value.text).all Value.isKey = true := by
    simp [Value.isKey]
  simp [extendList, Value.isKey, Value.elements?, hkeys]

theorem performAll_extensions (g : Registry) (calls : List (String × List String)) :
    g.performAll (calls.map .extension) = { g with lists := g.lists.extendAll calls } := by
  induction calls generalizing g with
  | nil => rfl
  | cons call calls ih =>
    have hstep : g.perform (.extension call) =
        { g with lists := g.lists.extend (.text call.1) (call.2.map .text) } := by
      rw [Operation.extension, perform, extendList_texts]
    rw [List.map_cons, performAll, List.foldl_cons, hstep]
    exact ih _

/-- Whether an issue comes from a rule that names the given list, with one of the given values as
its first group. -/
def exempts (g : Registry) (name : String) (values : List String) (i : Issue) : Bool :=
  (g.get? i.id).any fun r =>
    r.allowList.any (·.isText name) && i.occurrence.capture.any values.contains

theorem issuesOf_extend {r : Rule} (hr : g.get? r.id = some r) (facts : Facts) :
    ({ g with lists := g.lists.extend (.text name) (values.map .text) } : Registry).issuesOf
        facts t r =
      (g.issuesOf facts t r).filter fun i => !g.exempts name values i := by
  have hexempts (o : Occurrence) : g.exempts name values (Issue.ofRule r o) =
      (r.allowList.any (·.isText name) && o.capture.any values.contains) := by
    simp only [exempts, Issue.ofRule, hr, Option.any_some]
  simp only [issuesOf, AllowLists.keep, AllowLists.suppresses_extend, List.filter_map,
    List.filter_filter, Function.comp_def, hexempts, Bool.not_or, Bool.and_comm]

theorem Sound.issues_extend (hg : g.Sound) :
    ({ g with lists := g.lists.extend (.text name) (values.map .text) } : Registry).issues t =
      (g.issues t).filter fun i => !g.exempts name values i := by
  have hraw : ({ g with lists := g.lists.extend (.text name) (values.map .text) } :
      Registry).rawIssues t = (g.rawIssues t).filter fun i => !g.exempts name values i := by
    rw [rawIssues, rawIssues, List.filter_flatMap]
    refine List.flatMap_congr fun r hr => ?_
    exact issuesOf_extend (hg.get?_id (mem_rules_of_mem_enabled hr)) (Context.detect t)
  rw [issues, issues, hraw, Issue.filter_rank]

/-- Makes an extension at one of several registries, each of which has lists of its own. -/
def extendAt (gs : List Registry) (step : Nat × String × List String) : List Registry :=
  gs.modify step.1 fun g => g.perform (.extension step.2)

theorem getElem?_foldl_extendAt (gs : List Registry) (steps : List (Nat × String × List String))
    (k : Nat) :
    (steps.foldl extendAt gs)[k]? = gs[k]?.map fun g =>
      g.performAll ((steps.filter fun step => step.1 == k).map fun step => .extension step.2) := by
  induction steps generalizing gs with
  | nil => simp [performAll]
  | cons step steps ih =>
    rw [List.foldl_cons, ih, extendAt, List.getElem?_modify]
    by_cases hk : step.1 = k
    · simp [hk, performAll, Function.comp_def]
    · simp [hk, performAll]

theorem lists_of_no_extension {gs : List Registry} {steps : List (Nat × String × List String)}
    {k : Nat} (hg : gs[k]? = some g) (hsteps : ∀ step ∈ steps, step.1 ≠ k) :
    ((steps.foldl extendAt gs)[k]?.map Registry.lists) = some g.lists := by
  have hnone : (steps.filter fun step => step.1 == k) = [] := by
    simpa [List.filter_eq_nil_iff] using hsteps
  rw [getElem?_foldl_extendAt, hnone, hg]
  rfl

/-- An extension of an allow-list removes exactly the issues of the rules that name the list whose
first group is one of the values; the others keep their contents and their order. Of any number of
extensions only the names and the pairs of a name and a value count that they mention. Each of
several registries sees its own extensions only, so a new one has the built-in lists whatever is
done to the others. -/
theorem analyze_extendList (hg : g.Reachable) (name : String) (values : List String)
    (code : String) (now now' : Moment) :
    let extended := g.extendList (.text name) (.list (values.map .text))
    extended.result = .ok () ∧
    (extended.registry.analyze now' (.text code)).1.issues =
      ((g.analyze now (.text code)).1.issues.filter fun i => !g.exempts name values i) ∧
    (∀ calls calls' : List (String × List String),
      (∀ name, (∃ call ∈ calls, call.1 = name) ↔ ∃ call ∈ calls', call.1 = name) →
      (∀ name s, (∃ call ∈ calls, call.1 = name ∧ s ∈ call.2) ↔
        ∃ call ∈ calls', call.1 = name ∧ s ∈ call.2) →
      (g.performAll (calls.map .extension)).lists.SameSets
        (g.performAll (calls'.map .extension)).lists) ∧
    ∀ (gs : List Registry) (steps : List (Nat × String × List String)) (k : Nat),
      ((steps.foldl extendAt gs)[k]? = gs[k]?.map fun g =>
        g.performAll ((steps.filter fun step => step.1 == k).map fun step => .extension step.2)) ∧
      (gs[k]? = some {} → (∀ step ∈ steps, step.1 ≠ k) →
        (steps.foldl extendAt gs)[k]?.map Registry.lists = some AllowLists.builtin) := by
  intro extended
  have hextended : extended = { registry := _, result := .ok () } :=
    extendList_texts g name values
  refine ⟨by rw [hextended], ?_, fun calls calls' hnames hpairs => ?_, fun gs steps k =>
    ⟨getElem?_foldl_extendAt gs steps k, lists_of_no_extension⟩⟩
  · rw [hextended]
    exact hg.sound.issues_extend
  · rw [performAll_extensions, performAll_extensions]
    exact AllowLists.sameSets_extendAll hnames hpairs

theorem analyze_extendList_load :
    let now : Moment := ⟨⟨2025, 1, 31⟩, ⟨12, 0, 0, 0⟩, some 0⟩
    let found (g : Registry) : List Issue :=
      (g.analyze now (.text "useState(load); useState(next)")).1.issues
    let g := Registry.default
    let extended := g.extendList (.text "safe_state_initializers") (.list [.text "load"])
    let load := Issue.ofRule Catalog.useStateInitializer ⟨1, "useState(load)", 0, 14, some "load"⟩
    let next := Issue.ofRule Catalog.useStateInitializer ⟨1, "useState(next)", 16, 30, some "next"⟩
    g.Reachable ∧ (load ∈ found g ∧ load ∉ found extended.registry) ∧
    (next ∈ found g ∧ next ∈ found extended.registry) ∧
    (g.performAll ([("a", ["x"]), ("b", [])].map .extension)).lists.SameSets
      (g.performAll ([("b", []), ("a", ["x"]), ("a", ["x"])].map .extension)).lists ∧
    (([(0, "safe_state_initializers", ["load"])].foldl extendAt [g, {}])[1]?.map Registry.lists) =
      some AllowLists.builtin := by
  intro now found g extended load next
  obtain ⟨-, hissues, hcalls, hothers⟩ := analyze_extendList reachable_default
    "safe_state_initializers" ["load"] "useState(load); useState(next)" now now
  have hfound : found extended.registry =
      (found g).filter fun i => !g.exempts "safe_state_initializers" ["load"] i := hissues
  have hload : load ∈ found g := Issue.mem_rank.mpr (by decide +kernel)
  have hnext : next ∈ found g := Issue.mem_rank.mpr (by decide +kernel)
  refine ⟨reachable_default, ⟨hload, ?_⟩, ⟨hnext, ?_⟩, hcalls _ _ ?_ ?_,
    (hothers [g, {}] _ 1).2 rfl ?_⟩
  · rw [hfound, List.mem_filter]
    rintro ⟨-, hkept⟩
    exact absurd hkept (by decide +kernel)
  · rw [hfound, List.mem_filter]
    exact ⟨hnext, by decide +kernel⟩
  · intro name
    simp [or_comm]
  · intro name s
    simp
  · simp

end Registry

end ReactLint
