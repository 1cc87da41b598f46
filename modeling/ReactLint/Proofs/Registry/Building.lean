import ReactLint.Proofs.Registry.Loading
import ReactLint.Proofs.Registry.Selection

/-!
# What a project's registry holds

The items that the rule files of a project offer are taken in order up to the first that is
refused, and there are three reasons to refuse an entry: it describes no rule, the rule names an
allow-list that is neither built in nor configured, or its id is taken. Since the allow-lists are
complete before the first item and the files are sorted, neither the place of a rule among the files
nor the order in which the folder is listed decides whether it may name a list.
-/

namespace ReactLint

/-- Whether a list is there once a configuration is applied, if only as an empty one. -/
def Config.HasList (c : Config) (list : Value) : Prop :=
  list = .text "safe_state_initializers" ∨ ∃ entry ∈ c.allowLists, list = .text entry.1

namespace Registry

variable {R : Readers} {w : Place} {c : Config} {g : Registry}

/-! ## Which items are taken -/

/-- An entry that describes a rule, whose gate can be looked up among the facts. -/
structure Decodes (R : Readers) (source : String) (value : Value) (r : Rule) : Prop where
  rule : Rule.ofEntry R value source = .ok r
  gate : ∀ fact, r.gate = some fact → fact.isKey = true

structure Fits (R : Readers) (c : Config) (known : List Rule) (source : String) (value : Value)
    (r : Rule) : Prop where
  decodes : Decodes R source value r
  listed : ∀ list, r.allowList = some list → c.HasList list
  new : r.id ∉ known.map Rule.id

inductive Refused (R : Readers) (c : Config) (known : List Rule) : Item → Prop where
  | unreadable : Refused R c known .unreadable
  | malformed {source : String} {value : Value} : (∀ r, ¬ Decodes R source value r) →
      Refused R c known (.entry source value)
  | unlisted {source : String} {value list : Value} {r : Rule} : Decodes R source value r →
      r.allowList = some list → ¬ c.HasList list → Refused R c known (.entry source value)
  | repeated {source : String} {value : Value} {r : Rule} : Decodes R source value r →
      r.id ∈ known.map Rule.id → Refused R c known (.entry source value)

theorem Decodes.unique {source : String} {value : Value} {r r' : Rule}
    (h : Decodes R source value r) (h' : Decodes R source value r') : r = r' :=
  Except.ok.inj (h.rule.symm.trans h'.rule)

theorem Fits.not_refused {known : List Rule} {source : String} {value : Value} {r : Rule}
    (h : Fits R c known source value r) : ¬ Refused R c known (.entry source value) := by
  intro hrefused
  cases hrefused with
  | malformed hnone => exact hnone r h.decodes
  | unlisted hdecodes hlist hunknown =>
    rw [hdecodes.unique h.decodes] at hlist
    exact hunknown (h.listed _ hlist)
  | repeated hdecodes hid =>
    rw [hdecodes.unique h.decodes] at hid
    exact h.new hid

theorem fits_or_refused (R : Readers) (c : Config) (known : List Rule) (source : String)
    (value : Value) :
    (∃ r, Fits R c known source value r) ∨ Refused R c known (.entry source value) := by
  by_cases hdecodes : ∃ r, Decodes R source value r
  · obtain ⟨r, hr⟩ := hdecodes
    by_cases hlisted : ∀ list, r.allowList = some list → c.HasList list
    · by_cases hnew : r.id ∈ known.map Rule.id
      · exact .inr (.repeated hr hnew)
      · exact .inl ⟨r, hr, hlisted, hnew⟩
    · simp only [not_forall] at hlisted
      obtain ⟨list, hlist, hunknown⟩ := hlisted
      exact .inr (.unlisted hr hlist hunknown)
  · exact .inr (.malformed fun r hr => hdecodes ⟨r, hr⟩)

/-- The rules that items add to the known ones, and whether all the items are taken. -/
inductive Loads (R : Readers) (c : Config) : List Rule → List Item → List Rule → Bool → Prop where
  | done {known : List Rule} : Loads R c known [] [] true
  | refused {known : List Rule} {item : Item} {items : List Item} : Refused R c known item →
      Loads R c known (item :: items) [] false
  | taken {known rules : List Rule} {source : String} {value : Value} {r : Rule}
      {items : List Item} {all : Bool} : Fits R c known source value r →
      Loads R c (known ++ [r]) items rules all →
      Loads R c known (.entry source value :: items) (r :: rules) all

namespace Loads

variable {known rules rules' : List Rule} {items items' : List Item} {all all' : Bool}

theorem unique (h : Loads R c known items rules all) (h' : Loads R c known items rules' all') :
    rules = rules' ∧ all = all' := by
  induction h generalizing rules' with
  | done =>
    cases h' with
    | done => exact ⟨rfl, rfl⟩
  | refused hrefused =>
    cases h' with
    | refused _ => exact ⟨rfl, rfl⟩
    | taken hfits _ => exact absurd hrefused hfits.not_refused
  | taken hfits _ ih =>
    cases h' with
    | refused hrefused => exact absurd hrefused hfits.not_refused
    | taken hfits' hrest =>
      obtain rfl := hfits.decodes.unique hfits'.decodes
      obtain ⟨rfl, rfl⟩ := ih hrest
      exact ⟨rfl, rfl⟩

theorem append (h : Loads R c known items rules true)
    (h' : Loads R c (known ++ rules) items' rules' all') :
    Loads R c known (items ++ items') (rules ++ rules') all' := by
  -- the induction needs a variable in place of the outcome
  generalize htrue : true = all at h
  induction h with
  | done => simpa using h'
  | refused _ => cases htrue
  | taken hfits _ ih => exact .taken hfits (ih (by simpa using h') htrue)

end Loads

theorem exists_loads (R : Readers) (c : Config) (known : List Rule) (items : List Item) :
    ∃ rules all, Loads R c known items rules all := by
  induction items generalizing known with
  | nil => exact ⟨[], true, .done⟩
  | cons item items ih =>
    cases item with
    | unreadable => exact ⟨[], false, .refused .unreadable⟩
    | entry source value =>
      rcases fits_or_refused R c known source value with ⟨r, hfits⟩ | hrefused
      · obtain ⟨rules, all, hrest⟩ := ih (known ++ [r])
        exact ⟨r :: rules, all, .taken hfits hrest⟩
      · exact ⟨[], false, .refused hrefused⟩

theorem Loads.refused_iff {known taken rules : List Rule} {before after : List Item} {item : Item}
    {all : Bool} (h : Loads R c known (before ++ item :: after) rules all)
    (hbefore : Loads R c known before taken true) :
    Refused R c (known ++ taken) item ↔ all = false ∧ rules = taken := by
  constructor
  · intro hrefused
    have hstop : Loads R c known (before ++ item :: after) (taken ++ []) false :=
      hbefore.append (.refused hrefused)
    rw [List.append_nil] at hstop
    obtain ⟨hrules, hall⟩ := h.unique hstop
    exact ⟨hall, hrules⟩
  · rintro ⟨hall, hrules⟩
    cases item with
    | unreadable => exact .unreadable
    | entry source value =>
      refine (fits_or_refused R c (known ++ taken) source value).resolve_left ?_
      rintro ⟨r, hfits⟩
      -- an item that fits would be taken, and more rules be there than were taken before it
      obtain ⟨more, all', hmore⟩ := exists_loads R c (known ++ taken ++ [r]) after
      have hlonger := (h.unique (hbefore.append (.taken hfits hmore))).1
      simp [hrules] at hlonger

/-! ## Loading is taking the items -/

def configured (c : Config) : AllowLists := AllowLists.builtin.extendAll c.allowLists

theorem isSome_find?_configured (c : Config) (list : Value) :
    ((configured c).find? list).isSome = true ↔ c.HasList list := by
  rw [configured, AllowLists.isSome_find?_extendAll, Config.HasList]
  refine or_congr_left ?_
  rw [AllowLists.builtin, AllowLists.find?_cons, Value.text_sameKey, ← Value.isText_iff]
  cases list.isText "safe_state_initializers" <;> simp [AllowLists.find?]

theorem isKey_of_hasList {list : Value} (h : c.HasList list) : list.isKey = true := by
  rcases h with rfl | ⟨entry, -, rfl⟩ <;> rfl

def Takes {α : Type} (R : Readers) (c : Config) (g : Registry) (items : List Item)
    (e : Effect α) : Prop :=
  ∃ rules, Loads R c g.rules items rules e.result.isOk ∧
    e.registry = { g with rules := g.rules ++ rules }

theorem Fits.admits {source : String} {value : Value} {r : Rule}
    (h : Fits R c g.rules source value r) (hlists : g.lists = configured c) : g.Admits r := by
  refine ⟨h.new, fun list hname => ?_, h.decodes.gate⟩
  have hhas := h.listed list hname
  rw [hlists]
  exact ⟨isKey_of_hasList hhas, (isSome_find?_configured c list).mpr hhas⟩

theorem Admits.fits {source : String} {value : Value} {r : Rule} (h : g.Admits r)
    (hlists : g.lists = configured c) (hrule : Rule.ofEntry R value source = .ok r) :
    Fits R c g.rules source value r := by
  refine ⟨⟨hrule, h.gated⟩, fun list hname => ?_, h.new⟩
  rw [← isSome_find?_configured, ← hlists]
  exact (h.listed list hname).2

theorem Refuses.refused {item : Item} (h : g.Refuses (item.rule? R))
    (hlists : g.lists = configured c) : Refused R c g.rules item := by
  cases item with
  | unreadable => exact .unreadable
  | entry source value =>
    refine (fits_or_refused R c g.rules source value).resolve_left ?_
    rintro ⟨r, hfits⟩
    exact h r (Item.rule?_entry_of_ok hfits.decodes.rule) (hfits.admits hlists)

theorem AdmitsAll.loads {items : List Item} {rules : List Rule} (h : g.AdmitsAll rules)
    (hlists : g.lists = configured c) (hitems : items.map (Item.rule? R) = rules.map some) :
    Loads R c g.rules items rules true := by
  induction h generalizing items with
  | nil =>
    rw [List.map_nil, List.map_eq_nil_iff] at hitems
    rw [hitems]
    exact .done
  | cons hr _ ih =>
    obtain ⟨item, rest, rfl, hitem, hrest⟩ := List.map_eq_cons_iff.mp hitems
    obtain ⟨source, value, rfl, hrule⟩ := Item.eq_entry_of_rule? hitem
    exact .taken (hr.fits hlists hrule) (ih hlists hrest)

theorem Adds.takes {α : Type} {items : List Item} {e : Effect α}
    (h : g.Adds (items.map (Item.rule? R)) e) (hlists : g.lists = configured c) :
    Takes R c g items e := by
  cases hresult : e.result with
  | ok a =>
    obtain ⟨rules, hitems, hrules, hregistry⟩ := h.of_ok hresult
    exact ⟨rules, hresult ▸ hrules.loads hlists hitems, hregistry⟩
  | error f =>
    obtain ⟨rules, offer, later, hsplit, hrules, hrefused, hregistry⟩ := h.of_error hresult
    obtain ⟨before, rest, rfl, hbefore, hrest⟩ := List.map_eq_append_iff.mp hsplit
    obtain ⟨item, after, rfl, rfl, -⟩ := List.map_eq_cons_iff.mp hrest
    have hstop : Loads R c g.rules (before ++ item :: after) (rules ++ []) false :=
      (hrules.loads hlists hbefore).append (.refused (hrefused.refused hlists))
    rw [List.append_nil] at hstop
    exact ⟨rules, hresult ▸ hstop, hregistry⟩

/-! ## The files of a folder -/

section Reordered

variable {w' : Place} (h : w.Reordered w')

include h

theorem ruleFiles_reordered (folder : Path) : ruleFiles w' folder = ruleFiles w folder := by
  rw [ruleFiles, ruleFiles, h.namesIn_eq]

theorem loadFiles_reordered (R : Readers) (ps : List Path) (g : Registry) :
    loadFiles R w' ps g = loadFiles R w ps g := by
  have hfile (p : Path) (g : Registry) : loadFile R w' p g = loadFile R w p g := by
    simp only [loadFile, readRuleFile, h.shown_eq, h.readBytes_eq]
  induction ps generalizing g with
  | nil => rfl
  | cons p ps ih => simp only [loadFiles, hfile, ih]

theorem build_reordered (R : Readers) (c : Config) (root : Path) :
    build R w' c root = build R w c root := by
  simp only [build, loadFolder, ruleFiles_reordered h, loadFiles_reordered h]

end Reordered

/-! ## The registry of a project -/

theorem registry_registerAll {rs : List Rule} (h : (registerAll rs g).result = .ok ()) :
    (registerAll rs g).registry = { g with rules := g.rules ++ rs } := by
  induction rs generalizing g with
  | nil => rw [registerAll, List.append_nil]
  | cons r rs ih =>
    rw [registerAll] at h ⊢
    cases hresult : (g.register r).result with
    | ok _ =>
      have hregistry := (register_eq_ok hresult).2
      simp only [Effect.andThen, hresult, hregistry] at h ⊢
      rw [ih h, List.append_assoc, List.singleton_append]
    | error f =>
      simp only [Effect.andThen, hresult] at h
      cases h

theorem isOk_iff {result : Except Failure Unit} : result.isOk = true ↔ result = .ok () := by
  cases result <;> simp [Except.isOk, Except.toBool]

def loaded (R : Readers) (w : Place) (c : Config) (root : Path) : Effect Nat :=
  loadFolder R w (root.child ruleFolder) { rules := Catalog.rules, lists := configured c }

theorem build_eq (R : Readers) (w : Place) (c : Config) (root : Path) :
    ∃ logs, build R w c root =
      { ((loaded R w c root).andThen fun _ g => g.select c.enable c.disable) with logs } := by
  have hresult := result_catalog c.allowLists
  have hcatalog : (registerAll Catalog.rules (extendLists c.allowLists {})).registry =
      { rules := Catalog.rules, lists := configured c } := registry_registerAll hresult
  rw [build, Effect.andThen]
  simp only [hresult, hcatalog]
  exact ⟨_, rfl⟩

/-- A selection by lists of texts picks the ids that it enables, or all if it enables none, less
those that it disables. -/
theorem isEnabled_select_texts (g : Registry) (on off : List String) (id : String) :
    (g.select (.list (on.map .text)) (.list (off.map .text))).registry.isEnabled id = true ↔
      id ∈ g.ids ∧ (on = [] ∨ id ∈ on) ∧ id ∉ off := by
  have hdisabled := disabled_select_of_ok (g.select_texts_ok on off)
  obtain ⟨disabled, hregistry⟩ :=
    g.select_eq (.list (on.map .text)) (.list (off.map .text))
  rw [hregistry] at hdisabled ⊢
  rw [isEnabled_iff, hdisabled, ← isDeselected_texts, ← Bool.not_eq_true, List.mem_filter]
  exact and_congr_right fun hid => not_congr (and_iff_right hid)

section Texts

variable {on off : List String} (hon : c.enable = .list (on.map .text))
  (hoff : c.disable = .list (off.map .text)) (R : Readers) (w : Place) (root : Path)

theorem build_of_error {f : Failure} (h : (loaded R w c root).result = .error f) :
    (build R w c root).result = .error f ∧
      (build R w c root).registry = (loaded R w c root).registry := by
  obtain ⟨logs, hbuild⟩ := build_eq R w c root
  rw [hbuild]
  simp only [Effect.andThen, h, and_self]

include hon hoff

theorem build_of_ok {n : Nat} (h : (loaded R w c root).result = .ok n) :
    (build R w c root).result = .ok () ∧ (build R w c root).registry =
      ((loaded R w c root).registry.select (.list (on.map .text))
        (.list (off.map .text))).registry := by
  obtain ⟨logs, hbuild⟩ := build_eq R w c root
  have hselect := (loaded R w c root).registry.select_texts_ok on off
  rw [hbuild, hon, hoff]
  simp only [Effect.andThen, h, hselect, and_self]

theorem loads_build :
    ∃ items rules, Agenda R w (root.child ruleFolder) items ∧
      Loads R c Catalog.rules items rules (build R w c root).result.isOk ∧
      (build R w c root).registry.rules = Catalog.rules ++ rules ∧
      (build R w c root).registry.lists = configured c := by
  obtain ⟨items, hagenda, hadds, -⟩ := adds_loadFolder R w (root.child ruleFolder)
    { rules := Catalog.rules, lists := configured c }
  obtain ⟨rules, hloads, hregistry⟩ := hadds.takes (c := c) rfl
  rw [← loaded] at hloads hregistry
  refine ⟨items, rules, hagenda, ?_⟩
  cases hresult : (loaded R w c root).result with
  | error f =>
    obtain ⟨hbuilt, hsame⟩ := build_of_error R w root hresult
    rw [hresult] at hloads
    rw [hbuilt, hsame, hregistry]
    exact ⟨hloads, rfl, rfl⟩
  | ok n =>
    obtain ⟨hbuilt, hsame⟩ := build_of_ok hon hoff R w root hresult
    obtain ⟨disabled, hselect⟩ := select_eq (.list (on.map .text)) (.list (off.map .text))
    rw [hresult] at hloads
    rw [hbuilt, hsame, hselect, hregistry]
    exact ⟨hloads, rfl, rfl⟩

theorem isEnabled_build (h : (build R w c root).result = .ok ()) (id : String) :
    (build R w c root).registry.isEnabled id = true ↔
      id ∈ (build R w c root).registry.ids ∧ (on = [] ∨ id ∈ on) ∧ id ∉ off := by
  cases hresult : (loaded R w c root).result with
  | error f =>
    rw [(build_of_error R w root hresult).1] at h
    cases h
  | ok n =>
    obtain ⟨-, hsame⟩ := build_of_ok hon hoff R w root hresult
    obtain ⟨disabled, hselect⟩ := select_eq (.list (on.map .text)) (.list (off.map .text))
    rw [hsame, isEnabled_select_texts, hselect, ids, ids]

end Texts

/-- What is built from a selection by lists of texts. The rule files of the project's folder, by
ascending name, offer items. The building succeeds exactly if all of them are taken, and the rules
are then those of the catalog and those that the items describe; an item after others that were
taken ends it exactly if there is a reason to refuse it. The allow-lists are the built-in and the
configured ones, united. A rule is on if the selection enables it or nothing, and does not disable
it. The order in which folders are listed changes nothing. -/
theorem build_project {on off : List String} (hon : c.enable = .list (on.map .text))
    (hoff : c.disable = .list (off.map .text)) (R : Readers) (w : Place) (root : Path) :
    let built := build R w c root
    let g := built.registry
    Catalog.rules.length = 11 ∧
    (∃ items, Agenda R w (root.child ruleFolder) items ∧
      (built.result = .ok () ↔ ∃ rules, Loads R c Catalog.rules items rules true) ∧
      (∀ rules, Loads R c Catalog.rules items rules true → g.rules = Catalog.rules ++ rules) ∧
      ∀ before item after rules, items = before ++ item :: after →
        Loads R c Catalog.rules before rules true →
        (Refused R c (Catalog.rules ++ rules) item ↔
          built.result ≠ .ok () ∧ g.rules = Catalog.rules ++ rules)) ∧
    (∀ list, (g.lists.find? list).isSome = true ↔ c.HasList list) ∧
    (∀ list v, v ∈ (g.lists.find? list).getD [] ↔
      v ∈ (AllowLists.builtin.find? list).getD [] ∨
        ∃ entry ∈ c.allowLists, list = .text entry.1 ∧ ∃ s ∈ entry.2, v = .text s) ∧
    (built.result = .ok () → ∀ id, g.isEnabled id = true ↔
      id ∈ g.ids ∧ (on = [] ∨ id ∈ on) ∧ id ∉ off) ∧
    ∀ w', w.Reordered w' → build R w' c root = built := by
  intro built g
  obtain ⟨items, rules, hagenda, hloads, hrules, hlists⟩ := loads_build hon hoff R w root
  refine ⟨rfl, ⟨items, hagenda, ?_, ?_, ?_⟩, ?_, ?_, isEnabled_build hon hoff R w root,
    fun w' h => build_reordered h R c root⟩
  · rw [← isOk_iff]
    constructor
    · intro hall
      exact ⟨rules, hall ▸ hloads⟩
    · rintro ⟨rules', hloads'⟩
      exact (hloads.unique hloads').2
  · intro rules' hloads'
    rw [← (hloads.unique hloads').1]
    exact hrules
  · rintro before item after taken rfl htaken
    rw [hloads.refused_iff htaken, ne_eq, ← isOk_iff, Bool.not_eq_true, hrules,
      List.append_cancel_left_eq]
  · intro list
    rw [hlists]
    exact isSome_find?_configured c list
  · intro list v
    rw [hlists]
    exact AllowLists.mem_find?_extendAll c.allowLists AllowLists.builtin list

/-- Two rule files, of which the one that is listed first comes second and names a list, among
other entries of the folder. -/
def twoRuleFiles : Place where
  disk := { entries := [
    ([ruleFolder], .folder),
    ([ruleFolder, "b.yml"], .file
      ("id: X1\ntype: t\ntitle: t\nwhy: w\nfix: f\nseverity: Low\npattern: (x)\n" ++
        "suppress_if_capture_in: mine\n").toUTF8),
    ([ruleFolder, "notes.txt"], .file "id: X3\n".toUTF8),
    ([ruleFolder, "a.yaml"], .file
      ("- id: X2\n  type: t\n  title: t\n  why: w\n  fix: f\n  severity: Low\n" ++
        "  pattern: x\n").toUTF8)] }

theorem build_project_twoRuleFiles :
    let c : Config := { allowLists := [("mine", [])], disable := .list [.text "X2"] }
    let built := build .standard twoRuleFiles c {}
    let turned : Place :=
      { twoRuleFiles with disk := { entries := twoRuleFiles.disk.entries.reverse } }
    (c.enable = .list (([] : List String).map .text) ∧ c.disable = .list (["X2"].map .text)) ∧
    (built.result = .ok () ∧ built.registry.ids = Catalog.rules.map Rule.id ++ ["X2", "X1"]) ∧
    (built.registry.isEnabled "X1" = true ∧ ¬ built.registry.isEnabled "X2" = true) ∧
    twoRuleFiles.Reordered turned ∧ build .standard turned c {} = built := by
  intro c built turned
  have hfiles : ruleFiles twoRuleFiles (Path.child {} ruleFolder) =
      .ok [⟨"", [ruleFolder, "a.yaml"]⟩, ⟨"", [ruleFolder, "b.yml"]⟩] :=
    (@ruleFiles_of_listing twoRuleFiles _ [ruleFolder] ["a.yaml", "b.yml", "notes.txt"]
      (by decide +kernel) (by decide +kernel) (by decide +kernel) (by decide +kernel)).trans
      (by decide +kernel)
  have hbuilt : (built.registry.ids, built.result.isOk) =
      (Catalog.rules.map Rule.id ++ ["X2", "X1"], true) := by
    simp only [built, build, loadFolder, hfiles]
    decide +kernel
  obtain ⟨hids, hok⟩ := Prod.mk.inj hbuilt
  have hturned : twoRuleFiles.Reordered turned :=
    ⟨rfl, rfl, Disk.reordered_of_perm (List.reverse_perm _) (by decide +kernel)⟩
  have hon : c.enable = .list (([] : List String).map .text) := rfl
  have hoff : c.disable = .list (["X2"].map .text) := rfl
  obtain ⟨-, -, -, -, henabled, hsame⟩ := build_project hon hoff .standard twoRuleFiles {}
  have hresult : built.result = .ok () := isOk_iff.mp hok
  refine ⟨⟨hon, hoff⟩, ⟨hresult, hids⟩, ⟨?_, ?_⟩, hturned, hsame turned hturned⟩
  · rw [henabled hresult, hids]
    simp
  · rw [henabled hresult]
    simp

end Registry

end ReactLint
