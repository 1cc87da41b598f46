import ReactLint.Proofs.AllowList
import ReactLint.Proofs.Disk.Listing
import ReactLint.Proofs.Registry.Invariant
import ReactLint.Proofs.Rule.Faults

/-!
# Where the faults of loading rules come from

The rules of a project come from files of any content and are registered, after those of the
catalog, with names of any kind; the selection among them is made by values of any kind. The faults
that all this holds are listed here, and they account for the outcome of building the registry. The
catalog itself is always registered.
-/

namespace ReactLint

namespace Accounts

variable {α β : Type} {held later : Fault → Prop}

theorem andThen {e : Effect α} {next : α → Registry → Effect β}
    (he : Accounts Failure.fault? held e.result)
    (hnext : ∀ a, e.result = .ok a → Accounts Failure.fault? later (next a e.registry).result) :
    Accounts Failure.fault? (fun f => held f ∨ later f) (e.andThen next).result := by
  cases hresult : e.result with
  | ok a =>
    rw [hresult] at he
    simp only [Effect.andThen, hresult]
    exact or_right he (hnext a hresult)
  | error failure =>
    rw [hresult] at he
    simp only [Effect.andThen, hresult]
    exact fun f hf => .inl (he f hf)

theorem andThen_ok {e : Effect α} {next : α → Registry → Effect β}
    (he : Accounts Failure.fault? held e.result)
    (hnext : ∀ a g, ∃ b, (next a g).result = .ok b) :
    Accounts Failure.fault? held (e.andThen next).result := by
  refine (he.andThen fun a _ => ?_).congr fun f => or_iff_left (b := False) id
  obtain ⟨b, hb⟩ := hnext a e.registry
  rw [hb]
  exact fun f hf => hf

end Accounts

/-! ## Registering -/

namespace AllowLists

def TextNamed (lists : AllowLists) : Prop := ∀ entry ∈ lists, ∃ s, entry.1 = .text s

theorem textNamed_builtin : TextNamed builtin := by
  intro entry hentry
  rw [List.mem_singleton.mp hentry]
  exact ⟨_, rfl⟩

theorem TextNamed.extend {lists : AllowLists} (h : lists.TextNamed) (s : String)
    (values : List Value) : (lists.extend (.text s) values).TextNamed := by
  induction lists with
  | nil =>
    intro entry hentry
    rw [List.mem_singleton.mp hentry]
    exact ⟨s, rfl⟩
  | cons known rest ih =>
    obtain ⟨hknown, hrest⟩ := List.forall_mem_cons.mp h
    rw [extend_cons]
    split
    · exact List.forall_mem_cons.mpr ⟨hknown, hrest⟩
    · exact List.forall_mem_cons.mpr ⟨hknown, ih hrest⟩

theorem TextNamed.eq_text {lists : AllowLists} (h : lists.TextNamed) {name : Value}
    (hsome : (lists.find? name).isSome = true) : ∃ s, name = .text s := by
  induction lists with
  | nil => cases hsome
  | cons known rest ih =>
    obtain ⟨⟨s, hs⟩, hrest⟩ := List.forall_mem_cons.mp h
    rw [find?_cons] at hsome
    split at hsome
    · rename_i hsame
      rw [hs] at hsame
      exact ⟨s, Value.isText_iff.mp (Value.text_sameKey s name ▸ hsame)⟩
    · exact ih hrest hsome

end AllowLists

namespace Registry

open Rule (NameFault EntryFault)

variable {g : Registry} {r : Rule} {gate list : Value}

theorem accounts_checkList (hnames : g.lists.TextNamed)
    (hlist : r.allowList = Rule.optional list) :
    Accounts Failure.fault?
      (fun f => list.isKey = false ∧ f = .notKey ∨ list.isKey = true ∧ list.showFault? 0 = some f)
      (g.checkList r) := by
  rw [checkList, hlist]
  cases hname : Rule.optional list with
  | none =>
    rw [Rule.eq_null_of_optional hname]
    simp [Accounts, Value.isKey, Value.showFault?]
  | some name =>
    obtain rfl := Rule.eq_of_optional hname
    dsimp only
    split
    · rename_i hkey
      intro f hf
      cases hf
      exact .inl ⟨by simpa using hkey, rfl⟩
    · rename_i hkey
      split
      · rename_i hsome
        obtain ⟨s, rfl⟩ := hnames.eq_text hsome
        simp [Accounts, Value.isKey, Value.showFault?]
      · intro f hf
        rw [Failure.showing, Failure.fault?_orFault] at hf
        exact .inr ⟨by simpa using hkey, hf⟩

theorem accounts_checkGate (hgate : r.gate = Rule.optional gate) :
    Accounts Failure.fault? (fun f => gate.isKey = false ∧ f = .notKey) (checkGate r) := by
  rw [checkGate, hgate]
  cases hname : Rule.optional gate with
  | none =>
    rw [Rule.eq_null_of_optional hname]
    simp [Accounts, Value.isKey]
  | some name =>
    obtain rfl := Rule.eq_of_optional hname
    dsimp only
    split
    · rename_i hkey
      intro f hf
      cases hf
      exact ⟨by simpa using hkey, rfl⟩
    · rename_i hkey
      split <;> simpa [Accounts] using hkey

theorem accounts_register (hnames : g.lists.TextNamed) (hgate : r.gate = Rule.optional gate)
    (hlist : r.allowList = Rule.optional list) :
    Accounts Failure.fault? (NameFault gate list) (g.register r).result := by
  have hchecks : Accounts Failure.fault? (NameFault gate list)
      (g.checkList r >>= fun _ => checkGate r) := by
    refine ((accounts_checkList hnames hlist).bind fun _ _ => accounts_checkGate hgate).congr
      fun f => ⟨?_, fun hf => ?_⟩
    · rintro ((⟨hkey, rfl⟩ | ⟨hkey, hshown⟩) | ⟨hkey, rfl⟩)
      · exact .list hkey
      · exact .listShown hkey hshown
      · exact .gate hkey
    · cases hf with
      | gate hkey => exact .inr ⟨hkey, rfl⟩
      | list hkey => exact .inl (.inl ⟨hkey, rfl⟩)
      | listShown hkey hshown => exact .inl (.inr ⟨hkey, hshown⟩)
  rw [register]
  split
  · exact fun f hf => by cases hf
  · cases hcheck : g.checkList r with
    | error e =>
      rw [hcheck] at hchecks
      exact hchecks
    | ok _ =>
      rw [hcheck] at hchecks
      cases hlogs : checkGate r with
      | error e =>
        rw [hlogs] at hchecks
        exact hchecks
      | ok logs =>
        rw [hlogs] at hchecks
        exact hchecks

theorem accounts_registerEntries (R : Readers) (source : String) (entries : List Value)
    (hnames : g.lists.TextNamed) :
    Accounts Failure.fault? (fun f => ∃ es, .mapping es ∈ entries ∧ EntryFault R es f)
      (registerEntries R source entries g).result := by
  induction entries generalizing g with
  | nil => simp [registerEntries, Accounts]
  | cons entry entries ih =>
    cases entry with
    | mapping es =>
      have hbuild := Rule.accounts_ofEntry R es source
      rw [registerEntries]
      cases hrule : Rule.ofEntry R (.mapping es) source with
      | error e =>
        rw [hrule] at hbuild
        exact fun f hf => ⟨es, List.mem_cons_self, .inl (hbuild f hf)⟩
      | ok r =>
        rw [hrule] at hbuild
        obtain ⟨hgate, hlist⟩ := Rule.names_ofEntry hrule
        -- a rule was built, so what is left are the faults of its names
        have hlists := (sameRest_register g r).lists
        refine (Accounts.or_right hbuild ((accounts_register hnames hgate hlist).andThen
          fun _ _ => ih (hlists ▸ hnames))).congr fun f => ?_
        simp [EntryFault, or_and_right, exists_or, or_assoc]
    | _ => exact fun f hf => by cases hf

/-! ## Rule files -/

section Readers

variable (R : Readers)

/-- The faults of a rule file: that of its reader, and those of its entries. -/
inductive RuleFileFault (w : Place) (p : Path) : Fault → Prop where
  | document {bytes : ByteArray} {f : Fault} : w.readBytes p = .ok bytes →
      R.rules bytes = .error (.fault f) → RuleFileFault w p f
  | entry {bytes : ByteArray} {v : Value} {es : List (Value × Value)} {f : Fault} :
      w.readBytes p = .ok bytes → R.rules bytes = .ok v → .mapping es ∈ entriesOf v →
      EntryFault R es f → RuleFileFault w p f

theorem readRuleFile_of_error {w : Place} {p : Path} {e : Fault} (h : w.readBytes p = .error e)
    (label : String) : readRuleFile R w p label = .error (.rule (.unreadable label)) := by
  simp only [readRuleFile, h]

theorem readRuleFile_of_bytes {w : Place} {p : Path} {bytes : ByteArray}
    (h : w.readBytes p = .ok bytes) (label : String) : readRuleFile R w p label =
      (R.rules bytes).mapError fun e => .orFault (.unreadable label) e.fault? := by
  simp only [readRuleFile, h]

/-- A file whose document is read holds the faults of its entries only. -/
theorem ruleFileFault_iff {w : Place} {p : Path} {bytes : ByteArray} {v : Value} {f : Fault}
    (hbytes : w.readBytes p = .ok bytes) (hdecode : R.rules bytes = .ok v) :
    RuleFileFault R w p f ↔ ∃ es, .mapping es ∈ entriesOf v ∧ EntryFault R es f := by
  constructor
  · intro hf
    cases hf with
    | document hbytes' he =>
      cases hbytes.symm.trans hbytes'
      cases hdecode.symm.trans he
    | entry hbytes' hv hes hf =>
      cases hbytes.symm.trans hbytes'
      cases hdecode.symm.trans hv
      exact ⟨_, hes, hf⟩
  · rintro ⟨es, hes, hf⟩
    exact .entry hbytes hdecode hes hf

theorem accounts_loadFile (w : Place) (p : Path) (hnames : g.lists.TextNamed) :
    Accounts Failure.fault? (RuleFileFault R w p) (loadFile R w p g).result := by
  rw [loadFile]
  cases hbytes : w.readBytes p with
  | error e =>
    rw [readRuleFile_of_error R hbytes]
    intro f hf
    cases hf
  | ok bytes =>
    rw [readRuleFile_of_bytes R hbytes]
    cases hdecode : R.rules bytes with
    | error e =>
      intro f hf
      dsimp only at hf
      rw [Failure.fault?_orFault] at hf
      cases e with
      | malformed => cases hf
      | fault f' =>
        cases hf
        exact .document hbytes hdecode
    | ok v =>
      refine Accounts.congr ?_ fun f => (ruleFileFault_iff R hbytes hdecode).symm
      simp only [mapError_ok]
      split
      · rename_i heq
        cases heq
      · rename_i heq
        cases heq
        simp [Accounts, entriesOf]
      · rename_i heq
        cases heq
        exact (accounts_registerEntries R _ _ hnames).andThen_ok fun _ _ => ⟨_, rfl⟩

theorem accounts_loadFiles (w : Place) (ps : List Path) (hnames : g.lists.TextNamed) :
    Accounts Failure.fault? (fun f => ∃ p ∈ ps, RuleFileFault R w p f)
      (loadFiles R w ps g).result := by
  induction ps generalizing g with
  | nil => simp [loadFiles, Accounts]
  | cons p ps ih =>
    have hlists := (builtUp_sameRest.loadFile R w p g).lists
    rw [loadFiles]
    refine ((accounts_loadFile R w p hnames).andThen fun n _ =>
      (ih (hlists ▸ hnames)).andThen_ok fun _ _ => ⟨_, rfl⟩).congr fun f => ?_
    simp

/-- The faults of a folder of rule files: that the system cannot name it, and those of its files. -/
inductive FolderFault (w : Place) (folder : Path) : Fault → Prop where
  | name : w.locate folder = .error .nameTooLong → FolderFault w folder .nameTooLong
  | file {ps : List Path} {p : Path} {f : Fault} : ruleFiles w folder = .ok ps → p ∈ ps →
      RuleFileFault R w p f → FolderFault w folder f

theorem accounts_loadFolder (w : Place) (folder : Path) (hnames : g.lists.TextNamed) :
    Accounts Failure.fault? (FolderFault R w folder) (loadFolder R w folder g).result := by
  rw [loadFolder]
  rcases w.namesIn_cases folder with ⟨names, hlisted, hnamed, -⟩ | ⟨hlisted, hlong⟩
  · have hfiles : ruleFiles w folder = .ok ((names.filter isRuleFile).map folder.child) := by
      rw [ruleFiles, hlisted]
      rfl
    rw [hfiles]
    refine (accounts_loadFiles R w _ hnames).congr fun f => ⟨?_, fun hf => ?_⟩
    · rintro ⟨p, hp, hf⟩
      exact .file hfiles hp hf
    · cases hf with
      | name hlong => exact absurd hlong hnamed
      | file hfiles' hp hf =>
        rw [hfiles] at hfiles'
        cases hfiles'
        exact ⟨_, hp, hf⟩
  · rw [ruleFiles, hlisted]
    intro f hf
    cases hf
    exact .name hlong

end Readers

/-! ## The selection -/

inductive SelectionFault (enable disable : Value) : Fault → Prop where
  | enable : enable.elements? = none → SelectionFault enable disable .notIterable
  | disable : disable.elements? = none → SelectionFault enable disable .notIterable
  | enableKey {vs : List Value} {v : Value} : enable.elements? = some vs → v ∈ vs →
      v.isKey = false → SelectionFault enable disable .notKey
  | disableKey {vs : List Value} {v : Value} : disable.elements? = some vs → v ∈ vs →
      v.isKey = false → SelectionFault enable disable .notKey

theorem unknownIds_fault (g : Registry) (vs : List Value) :
    (g.unknownIds vs).2 = if vs.all Value.isKey then none else some .notKey := by
  induction vs with
  | nil => rfl
  | cons v vs ih =>
    rw [unknownIds]
    cases hkey : v.isKey with
    | false => simp [hkey]
    | true =>
      simp only [Bool.not_true, Bool.false_eq_true, if_false, List.all_cons, hkey, Bool.true_and]
      split <;> exact ih

theorem selectionFault_iff {enable disable : Value} {on off : List Value} {f : Fault}
    (hon : enable.elements? = some on) (hoff : disable.elements? = some off) :
    SelectionFault enable disable f ↔ (on ++ off).all Value.isKey = false ∧ f = .notKey := by
  rw [List.all_eq_false]
  constructor
  · intro hf
    cases hf with
    | enable hnone => cases hon.symm.trans hnone
    | disable hnone => cases hoff.symm.trans hnone
    | enableKey hsome hv hkey =>
      cases hon.symm.trans hsome
      exact ⟨⟨_, List.mem_append_left _ hv, by simp [hkey]⟩, rfl⟩
    | disableKey hsome hv hkey =>
      cases hoff.symm.trans hsome
      exact ⟨⟨_, List.mem_append_right _ hv, by simp [hkey]⟩, rfl⟩
  · rintro ⟨⟨v, hv, hkey⟩, rfl⟩
    rw [Bool.not_eq_true] at hkey
    rcases List.mem_append.mp hv with hv | hv
    · exact .enableKey hon hv hkey
    · exact .disableKey hoff hv hkey

theorem accounts_select (g : Registry) (enable disable : Value) :
    Accounts Failure.fault? (SelectionFault enable disable) (g.select enable disable).result := by
  rw [select]
  cases hon : enable.elements? with
  | none =>
    intro f hf
    cases hf
    exact .enable hon
  | some on =>
    cases hoff : disable.elements? with
    | none =>
      intro f hf
      cases hf
      exact .disable hoff
    | some off =>
      refine Accounts.congr ?_ fun f => (selectionFault_iff hon hoff).symm
      have hfault := g.unknownIds_fault (on ++ off)
      cases hkeys : (on ++ off).all Value.isKey with
      | true =>
        rw [if_pos hkeys] at hfault
        dsimp only
        split
        · rename_i hids
          rw [hids] at hfault
          cases hfault
        · simp [Accounts]
      | false =>
        rw [hkeys, if_neg Bool.false_ne_true] at hfault
        dsimp only
        split
        · rename_i hids
          rw [hids] at hfault
          cases hfault
          intro f hf
          cases hf
          exact ⟨rfl, rfl⟩
        · rename_i hids
          rw [hids] at hfault
          cases hfault

/-! ## The catalog -/

theorem result_registerAll {rs : List Rule} (hids : (g.ids ++ rs.map Rule.id).Nodup)
    (hlist : ∀ r ∈ rs, g.checkList r = .ok ()) (hgate : ∀ r ∈ rs, ∃ logs, checkGate r = .ok logs) :
    (registerAll rs g).result = .ok () := by
  induction rs generalizing g with
  | nil => rfl
  | cons r rs ih =>
    obtain ⟨hlistr, hlists⟩ := List.forall_mem_cons.mp hlist
    obtain ⟨⟨logs, hlogs⟩, hgates⟩ := List.forall_mem_cons.mp hgate
    have hfresh : g.has r.id = false := by
      rw [has_eq_false_iff]
      intro hmem
      exact (List.nodup_append.mp hids).2.2 _ hmem _ List.mem_cons_self rfl
    have hregister : g.register r =
        { registry := { g with rules := g.rules ++ [r] }, logs, result := .ok () } := by
      simp [register, hfresh, hlistr, hlogs]
    rw [registerAll, hregister]
    refine ih (g := { g with rules := g.rules ++ [r] }) ?_ hlists hgates
    rw [ids_add, List.append_assoc]
    exact hids

theorem checkList_of_listed (h : ∀ name, r.allowList = some name →
    name.isKey = true ∧ ∃ members, g.lists.find? name = some members) : g.checkList r = .ok () := by
  cases hname : r.allowList with
  | none => simp [checkList, hname]
  | some name =>
    obtain ⟨hkey, members, hmembers⟩ := h name hname
    simp [checkList, hname, hkey, hmembers]

theorem checkGate_of_gated (h : ∀ name, r.gate = some name → name.isKey = true) :
    ∃ logs, checkGate r = .ok logs := by
  cases hname : r.gate with
  | none => exact ⟨_, by rw [checkGate, hname]⟩
  | some name =>
    have hkey := h name hname
    by_cases hknown : Context.isKnown name = true
    · exact ⟨[], by simp [checkGate, hname, hkey, hknown]⟩
    · exact ⟨_, by simp [checkGate, hname, hkey, hknown]; rfl⟩

theorem extendLists_lists (lists : List (String × List String)) (g : Registry) :
    g.lists.Within (extendLists lists g).lists ∧
      (g.lists.TextNamed → (extendLists lists g).lists.TextNamed) := by
  induction lists generalizing g with
  | nil => exact ⟨.refl _, id⟩
  | cons entry lists ih =>
    obtain ⟨name, values⟩ := entry
    obtain ⟨hwithin, hnamed⟩ :=
      ih { g with lists := g.lists.extend (.text name) (values.map .text) }
    exact ⟨(AllowLists.within_extend _ _ _).trans hwithin, fun h => hnamed (h.extend name _)⟩

theorem result_catalog (lists : List (String × List String)) :
    (registerAll Catalog.rules (extendLists lists {})).result = .ok () := by
  have hsound := reachable_default.sound
  refine result_registerAll Catalog.nodup_ids (fun r hr => ?_) fun r hr =>
    checkGate_of_gated (hsound.gated r hr)
  apply checkList_of_listed
  intro name hname
  obtain ⟨hkey, members, hmembers⟩ := hsound.listed r hr name hname
  obtain ⟨more, hmore, -⟩ := (extendLists_lists lists {}).1 name members hmembers
  exact ⟨hkey, more, hmore⟩

inductive ProjectFault (R : Readers) (w : Place) (c : Config) (root : Path) : Fault → Prop where
  | rules {f : Fault} : FolderFault R w (root.child ruleFolder) f → ProjectFault R w c root f
  | selection {f : Fault} : SelectionFault c.enable c.disable f → ProjectFault R w c root f

theorem accounts_build (R : Readers) (w : Place) (c : Config) (root : Path) :
    Accounts Failure.fault? (ProjectFault R w c root) (build R w c root).result := by
  have hcatalog := result_catalog c.allowLists
  have hnamed := (extendLists_lists c.allowLists {}).2 AllowLists.textNamed_builtin
  have hlists := (builtUp_sameRest.registerAll (fun _ => Catalog.isBuilt_of_mem)
    (extendLists c.allowLists {})).lists
  rw [build, Effect.andThen]
  simp only [hcatalog]
  refine ((accounts_loadFolder R w _ (hlists ▸ hnamed)).andThen fun _ _ =>
    accounts_select _ c.enable c.disable).congr fun f => ⟨?_, fun hf => ?_⟩
  · rintro (hf | hf)
    · exact .rules hf
    · exact .selection hf
  · cases hf with
    | rules hf => exact .inl hf
    | selection hf => exact .inr hf

end Registry

end ReactLint
