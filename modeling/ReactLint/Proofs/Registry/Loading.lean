import Mathlib.Data.List.Forall2
import ReactLint.Proofs.Disk.Listing
import ReactLint.Proofs.Registry.Faults

/-!
# What a failed operation leaves behind

Adding a rule, extending an allow-list and selecting rules is done as a whole or not at all. An
operation on many rules takes them one after another and ends at the first that is refused; those in
front of it stay. What it takes from a folder are the items of the rule files, file after file in
ascending order of the names: the entries of a document, or an item that cannot be read.
-/

namespace ReactLint.Registry

variable {g : Registry} {r : Rule} {w : Place}

/-! ## What the rule files offer -/

inductive Item where
  | entry (source : String) (value : Value)
  | unreadable

def documentEntries : Value → List Value
  | .null => []
  | v => entriesOf v

section Readers

variable (R : Readers)

/-- The items of a rule file. Whatever stands under its name may hold no bytes, or none that the
reader takes for a document. -/
inductive Offers (w : Place) (p : Path) : List Item → Prop where
  | document {bytes : ByteArray} {v : Value} : w.readBytes p = .ok bytes → R.rules bytes = .ok v →
      Offers w p ((documentEntries v).map (.entry (w.shown p)))
  | unreadable : (∀ bytes v, w.readBytes p = .ok bytes → R.rules bytes ≠ .ok v) →
      Offers w p [.unreadable]

/-- The items of the rule files in a folder: the files are the names with one of the two suffixes,
in ascending order. A folder that the system cannot name offers an item that cannot be read. -/
inductive Agenda (w : Place) (folder : Path) : List Item → Prop where
  | files {names : List String} {offers : List (List Item)} :
      w.locate folder ≠ .error .nameTooLong →
      names.Perm ((w.listing folder).filter fun name =>
        Path.suffix name = ".yaml" ∨ Path.suffix name = ".yml") →
      names.Pairwise (· ≤ ·) → List.Forall₂ (Offers R w) (names.map folder.child) offers →
      Agenda w folder offers.flatten
  | unnamed : w.locate folder = .error .nameTooLong → Agenda w folder [.unreadable]

def Item.rule? : Item → Option Rule
  | .entry source value => (Rule.ofEntry R value source).toOption
  | .unreadable => none

end Readers

variable {R : Readers}

theorem Item.rule?_entry_of_ok {source : String} {value : Value}
    (h : Rule.ofEntry R value source = .ok r) : (Item.entry source value).rule? R = some r := by
  rw [rule?, h, Except.toOption]

theorem Item.eq_entry_of_rule? {item : Item} (h : item.rule? R = some r) :
    ∃ source value, item = .entry source value ∧ Rule.ofEntry R value source = .ok r := by
  cases item with
  | unreadable => cases h
  | entry source value =>
    refine ⟨source, value, rfl, ?_⟩
    rw [rule?] at h
    cases hrule : Rule.ofEntry R value source with
    | error f =>
      rw [hrule] at h
      cases h
    | ok q =>
      rw [hrule] at h
      cases h
      rfl

theorem ruleFiles_cases (w : Place) (folder : Path) :
    (∃ names : List String, w.locate folder ≠ .error .nameTooLong ∧
      names.Perm ((w.listing folder).filter fun name =>
        Path.suffix name = ".yaml" ∨ Path.suffix name = ".yml") ∧
      names.Pairwise (· ≤ ·) ∧ ruleFiles w folder = .ok (names.map folder.child)) ∨
    w.locate folder = .error .nameTooLong ∧ ruleFiles w folder = .error .nameTooLong := by
  have hsuffix : isRuleFile = fun name =>
      decide (Path.suffix name = ".yaml" ∨ Path.suffix name = ".yml") := by
    funext name
    simp [isRuleFile]
  rw [ruleFiles, ← hsuffix]
  rcases w.namesIn_cases folder with ⟨names, hnames, hnamed, hperm, hsorted⟩ | ⟨hnames, hlong⟩
  · rw [hnames]
    exact .inl ⟨_, hnamed, hperm.filter isRuleFile, hsorted.filter isRuleFile, rfl⟩
  · rw [hnames]
    exact .inr ⟨hlong, rfl⟩

theorem ruleFiles_of_listing {folder : Path} {loc : Location} {names : List String}
    (hloc : w.locate folder = .ok loc) (hfolder : w.disk.isFolder loc = true)
    (hperm : names.Perm (w.disk.listing loc)) (hsorted : names.Pairwise (· ≤ ·)) :
    ruleFiles w folder = .ok ((names.filter isRuleFile).map folder.child) := by
  rw [ruleFiles, Place.namesIn, Place.seek, hloc]
  simp only [Except.map, hfolder, if_true, Disk.names_of_sorted hperm hsorted]

/-! ## Adding rules -/

def add (g : Registry) (rs : List Rule) : Registry := { g with rules := g.rules ++ rs }

structure Admits (g : Registry) (r : Rule) : Prop where
  new : r.id ∉ g.ids
  listed : ∀ list, r.allowList = some list →
    list.isKey = true ∧ (g.lists.find? list).isSome = true
  gated : ∀ fact, r.gate = some fact → fact.isKey = true

/-- Rules of which each is what the registry asks for once those in front of it are there. -/
inductive AdmitsAll : Registry → List Rule → Prop where
  | nil {g : Registry} : AdmitsAll g []
  | cons {g : Registry} {r : Rule} {rs : List Rule} : g.Admits r → AdmitsAll (g.add [r]) rs →
      AdmitsAll g (r :: rs)

def Refuses (g : Registry) (offer : Option Rule) : Prop := ∀ r, offer = some r → ¬ g.Admits r

theorem add_nil (g : Registry) : g.add [] = g := by
  rw [add, List.append_nil]

theorem add_add (g : Registry) (rs qs : List Rule) : (g.add rs).add qs = g.add (rs ++ qs) := by
  simp only [add, List.append_assoc]

theorem length_rules_add (g : Registry) (rs : List Rule) :
    (g.add rs).rules.length = g.rules.length + rs.length := List.length_append

theorem AdmitsAll.append {rs qs : List Rule} (h : g.AdmitsAll rs)
    (h' : (g.add rs).AdmitsAll qs) : g.AdmitsAll (rs ++ qs) := by
  induction h with
  | nil => rwa [add_nil] at h'
  | cons hr _ ih =>
    rw [add_add] at ih
    exact .cons hr (ih h')

theorem register_of_admits (h : g.Admits r) :
    ∃ logs, g.register r = { registry := g.add [r], logs, result := .ok () } := by
  have hlist : g.checkList r = .ok () := by
    apply checkList_of_listed
    intro list hname
    obtain ⟨hkey, hsome⟩ := h.listed list hname
    exact ⟨hkey, Option.isSome_iff_exists.mp hsome⟩
  obtain ⟨logs, hlogs⟩ := checkGate_of_gated h.gated
  exact ⟨logs, by simp [register, has_eq_false_iff.mpr h.new, hlist, hlogs, add]⟩

theorem register_of_not_admits (h : ¬ g.Admits r) :
    ∃ f, g.register r = { registry := g, result := .error f } := by
  rw [register]
  split
  · exact ⟨_, rfl⟩
  · rename_i hnew
    split
    · exact ⟨_, rfl⟩
    · exact ⟨_, rfl⟩
    · rename_i logs hlist hgate
      refine absurd ⟨?_, fun list hname => ?_, checkGate_eq_ok hgate⟩ h
      · exact has_eq_false_iff.mp (by simpa using hnew)
      · obtain ⟨hkey, members, hmembers⟩ := checkList_eq_ok hlist list hname
        exact ⟨hkey, by rw [hmembers, Option.isSome_some]⟩

/-! ## Taking offers one after another -/

/-- What an operation leaves behind that takes offers up to the first that it refuses: the rules of
the offers in front of it are added, and nothing else is changed. -/
def Adds {α : Type} (g : Registry) (offers : List (Option Rule)) (e : Effect α) : Prop :=
  ∃ rules, g.AdmitsAll rules ∧ e.registry = g.add rules ∧
    match e.result with
    | .ok _ => offers = rules.map some
    | .error _ => ∃ offer later, offers = rules.map some ++ offer :: later ∧
        (g.add rules).Refuses offer

theorem adds_nothing {α : Type} (g : Registry) (logs : List LogEntry) (a : α) :
    g.Adds [] { registry := g, logs, result := .ok a } :=
  ⟨[], .nil, g.add_nil.symm, rfl⟩

theorem adds_refused {α : Type} {offer : Option Rule} (h : g.Refuses offer)
    (later : List (Option Rule)) (f : Failure) :
    g.Adds (offer :: later) ({ registry := g, result := .error f } : Effect α) :=
  ⟨[], .nil, g.add_nil.symm, offer, later, rfl, by rwa [add_nil]⟩

theorem Adds.andThen {α β : Type} {offers offers' : List (Option Rule)} {e : Effect α}
    {next : α → Registry → Effect β} (he : g.Adds offers e)
    (hnext : ∀ a, e.result = .ok a → e.registry.Adds offers' (next a e.registry)) :
    g.Adds (offers ++ offers') (e.andThen next) := by
  obtain ⟨rules, hrules, hregistry, hoffers⟩ := he
  cases hresult : e.result with
  | error f =>
    simp only [hresult] at hoffers
    obtain ⟨offer, later, rfl, hrefused⟩ := hoffers
    refine ⟨rules, hrules, ?_, ?_⟩
    · simp only [Effect.andThen, hresult, hregistry]
    · simp only [Effect.andThen, hresult]
      exact ⟨offer, later ++ offers', by simp, hrefused⟩
  | ok a =>
    simp only [hresult] at hoffers
    obtain ⟨rules', hrules', hregistry', hoffers'⟩ := hnext a hresult
    rw [hregistry] at hrules' hregistry' hoffers'
    refine ⟨rules ++ rules', hrules.append hrules', ?_, ?_⟩
    · simp only [Effect.andThen, hresult, hregistry, hregistry', add_add]
    · simp only [Effect.andThen, hresult, hregistry]
      split at hoffers'
      · rw [hoffers, hoffers', List.map_append]
      · obtain ⟨offer, later, rfl, hrefused⟩ := hoffers'
        exact ⟨offer, later, by simp [hoffers], add_add g rules rules' ▸ hrefused⟩

theorem Adds.answer {α β : Type} {offers : List (Option Rule)} {e : Effect α}
    (he : g.Adds offers e) (logs : α → List LogEntry) (b : α → β) :
    g.Adds offers
      (e.andThen fun a g => { registry := g, logs := logs a, result := .ok (b a) }) := by
  rw [← List.append_nil offers]
  exact he.andThen fun a _ => adds_nothing e.registry (logs a) (b a)

theorem result_answer {α β : Type} {e : Effect α} {logs : α → List LogEntry} {b : α → β} {c : β}
    (h : (e.andThen fun a g => { registry := g, logs := logs a, result := .ok (b a) }).result =
      .ok c) : ∃ a, e.result = .ok a ∧ c = b a := by
  simp only [Effect.andThen] at h
  split at h
  · rename_i a ha
    cases h
    exact ⟨a, ha, rfl⟩
  · cases h

theorem adds_register (g : Registry) (r : Rule) : g.Adds [some r] (g.register r) := by
  by_cases hadmits : g.Admits r
  · obtain ⟨logs, hregister⟩ := register_of_admits hadmits
    rw [hregister]
    exact ⟨[r], .cons hadmits .nil, rfl, rfl⟩
  · obtain ⟨f, hregister⟩ := register_of_not_admits hadmits
    rw [hregister]
    refine adds_refused (fun q hq => ?_) [] f
    cases hq
    exact hadmits

theorem adds_registerAll (rs : List Rule) (g : Registry) :
    g.Adds (rs.map some) (registerAll rs g) := by
  induction rs generalizing g with
  | nil => exact adds_nothing g [] ()
  | cons r rs ih =>
    rw [registerAll, List.map_cons]
    exact (adds_register g r).andThen fun _ _ => ih (g.register r).registry

section Readers

variable (R : Readers)

theorem adds_registerEntries (source : String) (values : List Value) (g : Registry) :
    g.Adds ((values.map (.entry source)).map (Item.rule? R))
      (registerEntries R source values g) := by
  induction values generalizing g with
  | nil => exact adds_nothing g [] ()
  | cons value values ih =>
    rw [registerEntries, List.map_cons, List.map_cons]
    cases hrule : Rule.ofEntry R value source with
    | error f =>
      refine adds_refused (fun q hq => ?_) _ f
      rw [Item.rule?, hrule] at hq
      cases hq
    | ok r =>
      rw [Item.rule?_entry_of_ok hrule]
      exact (adds_register g r).andThen fun _ _ => ih (g.register r).registry

theorem adds_unreadable (g : Registry) (f : Failure) :
    g.Adds ([Item.unreadable].map (Item.rule? R))
      ({ registry := g, result := .error f } : Effect Nat) :=
  adds_refused (fun q hq => by cases hq) [] f

theorem adds_loadFile (w : Place) (p : Path) (g : Registry) :
    ∃ items, Offers R w p items ∧ g.Adds (items.map (Item.rule? R)) (loadFile R w p g) ∧
      ∀ n, (loadFile R w p g).result = .ok n → n = items.length := by
  rw [loadFile]
  cases hbytes : w.readBytes p with
  | error e =>
    rw [readRuleFile_of_error R hbytes]
    refine ⟨_, .unreadable fun bytes v hbytes' _ => ?_, adds_unreadable R g _,
      fun n hn => by cases hn⟩
    rw [hbytes] at hbytes'
    cases hbytes'
  | ok bytes =>
    rw [readRuleFile_of_bytes R hbytes]
    cases hdecode : R.rules bytes with
    | error e =>
      refine ⟨_, .unreadable fun bytes' v hbytes' hv => ?_, adds_unreadable R g _,
        fun n hn => by cases hn⟩
      rw [hbytes] at hbytes'
      cases hbytes'
      rw [hdecode] at hv
      cases hv
    | ok v =>
      refine ⟨_, .document hbytes hdecode, ?_⟩
      cases v with
      | null =>
        refine ⟨adds_nothing g [] 0, fun n hn => ?_⟩
        cases hn
        rfl
      | _ =>
        refine ⟨(adds_registerEntries R (w.shown p) _ g).answer _ _, fun n hn => ?_⟩
        obtain ⟨-, -, rfl⟩ := result_answer hn
        exact (List.length_map _).symm

theorem adds_loadFiles (w : Place) (ps : List Path) (g : Registry) :
    ∃ offers, List.Forall₂ (Offers R w) ps offers ∧
      g.Adds (offers.flatten.map (Item.rule? R)) (loadFiles R w ps g) ∧
      ∀ n, (loadFiles R w ps g).result = .ok n → n = offers.flatten.length := by
  induction ps generalizing g with
  | nil =>
    refine ⟨[], .nil, adds_nothing g [] 0, fun n hn => ?_⟩
    cases hn
    rfl
  | cons p ps ih =>
    obtain ⟨items, hitems, hfile, hcount⟩ := adds_loadFile R w p g
    obtain ⟨offers, hoffers, hfiles, hrest⟩ := ih (loadFile R w p g).registry
    refine ⟨items :: offers, .cons hitems hoffers, ?_, fun n hn => ?_⟩
    · rw [loadFiles, List.flatten_cons, List.map_append]
      exact hfile.andThen fun n _ => hfiles.answer (fun _ => []) (n + ·)
    · rw [loadFiles, Effect.andThen] at hn
      split at hn
      · rename_i k hk
        obtain ⟨m, hm, rfl⟩ := result_answer hn
        rw [hcount k hk, hrest m hm, List.flatten_cons, List.length_append]
      · cases hn

theorem adds_loadFolder (w : Place) (folder : Path) (g : Registry) :
    ∃ items, Agenda R w folder items ∧
      g.Adds (items.map (Item.rule? R)) (loadFolder R w folder g) ∧
      ∀ n, (loadFolder R w folder g).result = .ok n → n = items.length := by
  rw [loadFolder]
  rcases ruleFiles_cases w folder with ⟨names, hnamed, hperm, hsorted, hfiles⟩ | ⟨hlong, hfiles⟩
  · rw [hfiles]
    obtain ⟨offers, hoffers, hadds, hcount⟩ := adds_loadFiles R w (names.map folder.child) g
    exact ⟨offers.flatten, .files hnamed hperm hsorted hoffers, hadds, hcount⟩
  · rw [hfiles]
    exact ⟨_, .unnamed hlong, adds_unreadable R g _, fun n hn => by cases hn⟩

end Readers

/-! ## Operations that fail -/

theorem register_of_error {f : Failure} (h : (g.register r).result = .error f) :
    (g.register r).registry = g := by
  by_cases hadmits : g.Admits r
  · obtain ⟨logs, hregister⟩ := register_of_admits hadmits
    rw [hregister] at h
    cases h
  · obtain ⟨f', hregister⟩ := register_of_not_admits hadmits
    rw [hregister]

theorem extendList_of_error {name values : Value} {f : Failure}
    (h : (g.extendList name values).result = .error f) :
    (g.extendList name values).registry = g := by
  revert h
  rw [extendList]
  split
  · exact fun _ => rfl
  · split
    · exact fun _ => rfl
    · split
      · exact fun h => by cases h
      · exact fun _ => rfl

theorem select_of_error {enable disable : Value} {f : Failure}
    (h : (g.select enable disable).result = .error f) :
    (g.select enable disable).registry = g := by
  simp only [select] at h ⊢
  split at h
  · split at h
    · rfl
    · cases h
  · rfl

theorem Adds.of_error {α : Type} {offers : List (Option Rule)} {e : Effect α} {f : Failure}
    (h : g.Adds offers e) (hresult : e.result = .error f) :
    ∃ added offer later, offers = added.map some ++ offer :: later ∧ g.AdmitsAll added ∧
      (g.add added).Refuses offer ∧ e.registry = g.add added := by
  obtain ⟨added, hadded, hregistry, hoffers⟩ := h
  simp only [hresult] at hoffers
  obtain ⟨offer, later, hsplit, hrefused⟩ := hoffers
  exact ⟨added, offer, later, hsplit, hadded, hrefused, hregistry⟩

theorem Adds.of_ok {α : Type} {offers : List (Option Rule)} {e : Effect α} {a : α}
    (h : g.Adds offers e) (hresult : e.result = .ok a) :
    ∃ added, offers = added.map some ∧ g.AdmitsAll added ∧ e.registry = g.add added := by
  obtain ⟨added, hadded, hregistry, hoffers⟩ := h
  simp only [hresult] at hoffers
  exact ⟨added, hoffers, hadded, hregistry⟩

theorem isBuilt_of_map_rule? {items : List Item} {rules : List Rule}
    (h : items.map (Item.rule? R) = rules.map some) : ∀ r ∈ rules, r.IsBuilt := by
  intro r hr
  have hmem : some r ∈ items.map (Item.rule? R) := h ▸ List.mem_map_of_mem hr
  obtain ⟨item, -, hitem⟩ := List.mem_map.mp hmem
  obtain ⟨source, value, -, hrule⟩ := Item.eq_entry_of_rule? hitem
  exact isBuilt_of_ofEntry hrule

/-- A failed operation leaves a known registry behind. Adding a rule, extending an allow-list and
selecting rules have then changed nothing. Of many rules those in front of the first that is refused
are added, and of the rule files in a folder the rules of the items in front of the first that is no
rule or is refused; each of them was admitted after the ones before it, and the allow-lists and the
selection stay. A folder that is loaded adds the rules of all its items and answers with their
number. -/
theorem failed_operations (R : Readers) (g : Registry) :
    (∀ r f, (g.register r).result = .error f → (g.register r).registry = g) ∧
    (∀ name values f, (g.extendList name values).result = .error f →
      (g.extendList name values).registry = g) ∧
    (∀ enable disable f, (g.select enable disable).result = .error f →
      (g.select enable disable).registry = g) ∧
    (∀ rs f, (registerAll rs g).result = .error f → ∃ added r later, rs = added ++ r :: later ∧
      g.AdmitsAll added ∧ ¬ (g.add added).Admits r ∧
      (registerAll rs g).registry = { g with rules := g.rules ++ added }) ∧
    ∀ w folder, ∃ items, Agenda R w folder items ∧
      (∀ f, (loadFolder R w folder g).result = .error f → ∃ before item later added,
        items = before ++ item :: later ∧ before.map (Item.rule? R) = added.map some ∧
        (∀ r ∈ added, r.IsBuilt) ∧ g.AdmitsAll added ∧ (g.add added).Refuses (item.rule? R) ∧
        (loadFolder R w folder g).registry = { g with rules := g.rules ++ added }) ∧
      ∀ n, (loadFolder R w folder g).result = .ok n → ∃ added,
        items.map (Item.rule? R) = added.map some ∧ (∀ r ∈ added, r.IsBuilt) ∧ g.AdmitsAll added ∧
        (loadFolder R w folder g).registry = { g with rules := g.rules ++ added } ∧
        (loadFolder R w folder g).registry.rules.length = g.rules.length + n := by
  refine ⟨fun r f => register_of_error, fun name values f => extendList_of_error,
    fun enable disable f => select_of_error, fun rs f hfailed => ?_, fun w folder => ?_⟩
  · obtain ⟨added, offer, later, hsplit, hadded, hrefused, hregistry⟩ :=
      (adds_registerAll rs g).of_error hfailed
    obtain ⟨front, back, rfl, hfront, hback⟩ := List.map_eq_append_iff.mp hsplit
    obtain ⟨r, rest, rfl, hr, -⟩ := List.map_eq_cons_iff.mp hback
    obtain rfl := (List.map_inj_right fun _ _ => Option.some.inj).mp hfront
    exact ⟨front, r, rest, rfl, hadded, hrefused r hr.symm, hregistry⟩
  · obtain ⟨items, hagenda, hadds, hcount⟩ := adds_loadFolder R w folder g
    refine ⟨items, hagenda, fun f hfailed => ?_, fun n hloaded => ?_⟩
    · obtain ⟨added, offer, later, hsplit, hadded, hrefused, hregistry⟩ := hadds.of_error hfailed
      obtain ⟨before, rest, rfl, hbefore, hrest⟩ := List.map_eq_append_iff.mp hsplit
      obtain ⟨item, after, rfl, rfl, -⟩ := List.map_eq_cons_iff.mp hrest
      exact ⟨before, item, after, added, rfl, hbefore, isBuilt_of_map_rule? hbefore, hadded,
        hrefused, hregistry⟩
    · obtain ⟨added, hitems, hadded, hregistry⟩ := hadds.of_ok hloaded
      refine ⟨added, hitems, isBuilt_of_map_rule? hitems, hadded, hregistry, ?_⟩
      have hlength := congrArg List.length hitems
      rw [List.length_map, List.length_map] at hlength
      rw [hregistry, length_rules_add, hcount n hloaded, hlength]

def strayEntry : Place where
  disk := { entries := [
    ([ruleFolder], .folder),
    ([ruleFolder, "c.yml"], .file
      "id: X3\ntype: t\ntitle: t\nwhy: w\nfix: f\nseverity: Low\npattern: x\n".toUTF8),
    ([ruleFolder, "b.yml"], .file
      ("- id: X2\n  type: t\n  title: t\n  why: w\n  fix: f\n  severity: Low\n" ++
        "  pattern: x\n- 5\n").toUTF8),
    ([ruleFolder, "a.yaml"], .file
      "id: X1\ntype: t\ntitle: t\nwhy: w\nfix: f\nseverity: Low\npattern: x\n".toUTF8)] }

theorem failed_operations_strayEntry :
    let loading := loadFolder .standard strayEntry (Path.child {} ruleFolder) {}
    let stray : Path := ⟨"", [ruleFolder, "b.yml"]⟩
    (loading.result = .error (.rule (.notMapping (strayEntry.shown stray))) ∧
      loading.registry.ids = ["X1", "X2"]) ∧
    ∃ added, added.map Rule.id = ["X1", "X2"] ∧ AdmitsAll {} added ∧
      loading.registry = { rules := added } := by
  intro loading stray
  have hfiles : ruleFiles strayEntry (Path.child {} ruleFolder) =
      .ok [⟨"", [ruleFolder, "a.yaml"]⟩, ⟨"", [ruleFolder, "b.yml"]⟩,
        ⟨"", [ruleFolder, "c.yml"]⟩] :=
    (@ruleFiles_of_listing strayEntry _ [ruleFolder] ["a.yaml", "b.yml", "c.yml"]
      (by decide +kernel) (by decide +kernel) (by decide +kernel) (by decide +kernel)).trans
      (by decide +kernel)
  have hloading : loading.result = .error (.rule (.notMapping (strayEntry.shown stray))) ∧
      loading.registry.ids = ["X1", "X2"] := by
    simp only [loading, loadFolder, hfiles]
    decide +kernel
  obtain ⟨hfailed, hids⟩ := hloading
  obtain ⟨-, -, -, -, hfolder⟩ := failed_operations .standard {}
  obtain ⟨items, -, hstopped, -⟩ := hfolder strayEntry (Path.child {} ruleFolder)
  obtain ⟨before, item, later, added, -, -, -, hadded, -, hregistry⟩ := hstopped _ hfailed
  have hregistry' : loading.registry = { rules := added } := hregistry
  refine ⟨⟨hfailed, hids⟩, added, ?_, hadded, hregistry'⟩
  rw [hregistry'] at hids
  exact hids

end ReactLint.Registry
