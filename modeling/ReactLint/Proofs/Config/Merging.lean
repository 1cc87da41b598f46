import Mathlib
import ReactLint.Proofs.CommandLine.Refusal

/-!
# What a configuration is made of

A configuration takes each setting from the environment, from the document of the configuration file
or from the defaults. The document is checked on its own, before the environment has a say; what of
the environment is not valid counts as missing. So the settings that are checked are always valid,
and keys that no section knows have no influence, not even on the error of a document that is
refused.
-/

namespace ReactLint

namespace Config

/-! ## What the configuration is loaded from -/

/-- What there is to load apart from the environment: nothing, or the document of the configuration
file together with the name of the file in messages. -/
inductive Supplies (R : Readers) (w : Place) (root : Path) (asked : String) :
    Option (String × Entries) → Prop where
  | nothing : findFile w root asked = .ok none → Supplies R w root asked none
  | document {p : Path} {label : String} {bytes : ByteArray} {doc : Entries} :
      findFile w root asked = .ok (some (p, label)) → w.readBytes p = .ok bytes →
      R.config bytes = .ok doc → Supplies R w root asked (some (label, doc))

def merge (room : Nat) (env : Environment) :
    Option (String × Entries) → Except ConfigFailure Config
  | none => (override env {}).mapError .fault
  | some (label, doc) => do
    let c ← ofDocument room label doc
    (override env c).mapError .fault

variable {R : Readers} {w : Place} {root : Path} {room : Nat} {asked label : String}
  {source : Option (String × Entries)} {doc es : Entries} {env : Environment} {c : Config}

theorem load_eq_merge (h : Supplies R w root asked source) (env : Environment) :
    load R w env root asked = merge R.room env source := by
  cases h with
  | nothing hfind =>
    rw [load, hfind]
    rfl
  | @document p label bytes doc hfind hbytes hdecode =>
    have hread : readDocument R w p label = .ok doc := by
      rw [readDocument, hbytes]
      exact mapError_eq_ok.mpr hdecode
    have hfile : ofFile R w (some (p, label)) = ofDocument R.room label doc := by
      rw [ofFile, hread]
      rfl
    rw [load, hfind, merge, ← hfile]
    rfl

theorem merge_none (room : Nat) (env : Environment) (label : String) :
    merge room env none = merge room env (some (label, [])) := rfl

/-! ## Fields of a document -/

/-- What a document holds under a key of one of its sections. -/
def held? (doc : Entries) (name key : String) : Option Value :=
  match Value.field? name doc with
  | some (.mapping es) => Value.field? key es
  | _ => none

theorem held?_of_sectionOf {name : String} (h : sectionOf label doc name = .ok es) (key : String) :
    held? doc name key = Value.field? key es := by
  simp only [sectionOf] at h
  rw [held?]
  split at h
  · rename_i hnone
    cases h
    rw [hnone]
    rfl
  · rename_i hsome
    cases h
    rw [hsome]
  · cases h

theorem checked_eq_ok {α : Type} {name : String} {base : α} {read : Value → Option α}
    {refuse : Value → ConfigFailure} {a : α} :
    checked name base read refuse es = .ok a ↔
      (Value.field? name es = none ∧ base = a) ∨
        ∃ v, Value.field? name es = some v ∧ read v = some a := by
  rw [checked]
  cases Value.field? name es with
  | none => simp
  | some v =>
    simp only [reduceCtorEq, false_and, Option.some.injEq, exists_eq_left', false_or]
    cases read v <;> simp

theorem ofDocument_eq_ok (h : ofDocument room label doc = .ok c) :
    ∃ s, sectionsOf label doc = .ok s ∧ failOnOf room s.scan = .ok c.failOn ∧
      formatOf room s.output = .ok c.format ∧ maxInputOf s.scan = .ok c.maxInput ∧
      c = { version := (Value.field? "version" doc).getD (.text "1.0")
            maxInput := c.maxInput, failOn := c.failOn, format := c.format
            showSummary := (Value.field? "show_summary" s.output).getD (.bool true)
            explain := (Value.field? "explain" s.output).getD (.bool false)
            enable := (Value.field? "enable" s.rules).getD (.list [])
            disable := (Value.field? "disable" s.rules).getD (.list [])
            allowLists := s.lists
            origins := (Value.field? "cors_origins" s.server).getD (.list [.text "*"]) } := by
  simp only [ofDocument] at h
  obtain ⟨s, hs, h⟩ := bind_eq_ok.mp h
  obtain ⟨failOn, hfailOn, h⟩ := bind_eq_ok.mp h
  obtain ⟨format, hformat, h⟩ := bind_eq_ok.mp h
  obtain ⟨maxInput, hmaxInput, h⟩ := bind_eq_ok.mp h
  cases h
  exact ⟨s, mapError_eq_ok.mp hs, hfailOn, hformat, hmaxInput, rfl⟩

/-! ## Settings that are checked -/

/-- A setting is what the environment says, if that is valid; else what the document holds, if it
holds anything; else the default. -/
def Settled {α : Type} (a : α) (env : Option α) (held : Option Value) (read : Value → Option α)
    (base : α) : Prop :=
  match env, held with
  | some b, _ => a = b
  | none, some v => read v = some a
  | none, none => a = base

def level? (s : String) : Option String :=
  if Text.lowerAscii s ∈ ["info", "low", "medium", "high"] then some (Text.lowerAscii s) else none

def format? (s : String) : Option String :=
  if s ∈ ["terminal", "json", "sarif"] then some s else none

def size? (s : String) : Option Value :=
  match Text.readInt? s.toList with
  | some n => if 0 < n then some (.int n) else none
  | none => none

theorem mem_levels {s : String} :
    s ∈ ["info", "low", "medium", "high"] ↔ ∃ l : Severity, s = l.word := by
  constructor
  · intro h
    simp only [List.mem_cons, List.not_mem_nil, or_false] at h
    rcases h with rfl | rfl | rfl | rfl
    exacts [⟨.info, rfl⟩, ⟨.low, rfl⟩, ⟨.medium, rfl⟩, ⟨.high, rfl⟩]
  · rintro ⟨l, rfl⟩
    cases l <;> decide

theorem mem_formats {s : String} :
    s ∈ ["terminal", "json", "sarif"] ↔ ∃ f : Format, s = f.word := by
  constructor
  · intro h
    simp only [List.mem_cons, List.not_mem_nil, or_false] at h
    rcases h with rfl | rfl | rfl
    exacts [⟨.terminal, rfl⟩, ⟨.json, rfl⟩, ⟨.sarif, rfl⟩]
  · rintro ⟨f, rfl⟩
    cases f <;> decide

theorem level?_eq (s : String) : level? s = (Severity.ofAnyCase? s).map Severity.word := by
  rw [level?]
  cases h : Severity.ofAnyCase? s with
  | some l =>
    have hword := Severity.ofAnyCase?_eq_some_iff.mp h
    rw [hword, if_pos (mem_levels.mpr ⟨l, rfl⟩)]
    rfl
  | none =>
    refine if_neg fun hmem => ?_
    obtain ⟨l, hl⟩ := mem_levels.mp hmem
    rw [Severity.ofAnyCase?_eq_some_iff.mpr hl] at h
    cases h

theorem format?_eq (s : String) : format? s = (Format.ofWord? s).map Format.word := by
  rw [format?]
  cases h : Format.ofWord? s with
  | some f =>
    have hword := Format.ofWord?_eq_some_iff.mp h
    rw [hword, if_pos (mem_formats.mpr ⟨f, rfl⟩)]
    rfl
  | none =>
    refine if_neg fun hmem => ?_
    obtain ⟨f, hf⟩ := mem_formats.mp hmem
    rw [Format.ofWord?_eq_some_iff.mpr hf] at h
    cases h

theorem toValue_of_ofValue? {v : Value} {l : SizeLimit} (h : SizeLimit.ofValue? v = some l) :
    l.toValue = v ∧ (v = .bool true ∨ ∃ n, 0 < n ∧ v = .int n) := by
  cases v with
  | int n =>
    simp only [SizeLimit.ofValue?] at h
    split at h
    · rename_i hn
      cases h
      refine ⟨?_, .inr ⟨n, hn, rfl⟩⟩
      rw [SizeLimit.toValue, Int.toNat_of_nonneg (Int.le_of_lt hn)]
    · cases h
  | bool b =>
    cases b with
    | false => cases h
    | true =>
      cases h
      exact ⟨rfl, .inl rfl⟩
  | _ => cases h

theorem ofText?_eq (s : String) : SizeLimit.ofText? s =
    (Text.readInt? s.toList).bind fun n => SizeLimit.ofValue? (.int n) := rfl

theorem size?_eq (s : String) : size? s = (SizeLimit.ofText? s).map SizeLimit.toValue := by
  rw [size?, ofText?_eq]
  cases Text.readInt? s.toList with
  | none => rfl
  | some n =>
    rw [Option.bind_some]
    change (if 0 < n then some (Value.int n) else none) = _
    by_cases hn : 0 < n
    · have hlimit : SizeLimit.ofValue? (.int n) = some (.kilobytes n.toNat) := if_pos hn
      rw [if_pos hn, hlimit, Option.map_some, (toValue_of_ofValue? hlimit).1]
    · have hnone : SizeLimit.ofValue? (.int n) = none := if_neg hn
      rw [if_neg hn, hnone]
      rfl

theorem settled_of_checked {α β : Type} {name : String} {base a : α} {read : Value → Option α}
    {refuse : Value → ConfigFailure} {shown : α → β} {readShown : Value → Option β}
    (hread : ∀ v a, read v = some a → readShown v = some (shown a))
    (h : checked name base read refuse es = .ok a) (set? : Option α) :
    Settled (shown (set?.getD a)) (set?.map shown) (Value.field? name es) readShown
      (shown base) := by
  cases set? with
  | some b => rfl
  | none =>
    rcases checked_eq_ok.mp h with ⟨hnone, rfl⟩ | ⟨v, hsome, hv⟩
    · rw [hnone]
      rfl
    · rw [hsome]
      exact hread v a hv

/-! ## Settings that are taken over -/

/-- The parts of a text between its commas, without the blanks around them; those of blanks only are
left out. -/
def IsCommaList (s : String) (ids : List String) : Prop :=
  ∃ parts : List (List Char), parts ≠ [] ∧ Text.join ',' parts = s.toList ∧
    (∀ part ∈ parts, ',' ∉ part) ∧
    ids = ((parts.map Text.trim).filter fun part => part ≠ []).map String.ofList

theorem isCommaList_segments (s : String) : IsCommaList s (segments s) := by
  refine ⟨Text.parts ',' s.toList, Text.parts_ne_nil _ _, Text.join_parts _ _,
    Text.not_mem_parts _ _, ?_⟩
  rw [segments]
  refine congrArg (List.map String.ofList) (List.filter_congr fun part _ => ?_)
  cases part <;> rfl

/-- A list that is extended by the parts of a text; what is no list stays as it is. -/
def Extended (s : String) : Value → Value → Prop
  | .list items, v => ∃ ids, IsCommaList s ids ∧ v = .list (items ++ ids.map .text)
  | held, v => v = held

theorem extended_of_addDisabled {held v : Value} (h : addDisabled env held = .ok v) :
    Extended env.disableRules held v := by
  by_cases hempty : env.disableRules = ""
  · simp only [addDisabled, if_pos hempty] at h
    cases h
    cases held with
    | list items =>
      refine ⟨segments env.disableRules, isCommaList_segments _, ?_⟩
      rw [hempty, segments_empty, List.map_nil, List.append_nil]
    | _ => rfl
  · simp only [addDisabled, if_neg hempty] at h
    cases held with
    | list items =>
      cases h
      exact ⟨segments env.disableRules, isCommaList_segments _, rfl⟩
    | _ => cases h

/-- The allow-lists of a document: its table, which holds nothing but lists of texts. -/
def Listed : Option Value → List (String × List String) → Prop
  | none, lists => lists = []
  | some v, lists => ∃ entries, v = .mapping entries ∧
      List.Forall₂ (fun e list => list.1 = e.1.str ∧ e.2 = .list (list.2.map .text)) entries lists

theorem eq_list_of_texts? {v : Value} {values : List String} (h : texts? v = some values) :
    v = .list (values.map .text) := by
  cases v with
  | list items =>
    simp only [texts?] at h
    refine congrArg Value.list ?_
    induction items generalizing values with
    | nil =>
      cases h
      rfl
    | cons item items ih =>
      rw [List.mapM_cons] at h
      obtain ⟨s, hs, h⟩ := Option.bind_eq_some_iff.mp h
      obtain ⟨rest, hrest, h⟩ := Option.bind_eq_some_iff.mp h
      cases h
      rw [ih hrest, List.map_cons]
      cases item with
      | text t =>
        cases hs
        rfl
      | _ => cases hs
  | _ => cases h

theorem listsOf_eq_ok {lists : List (String × List String)} (h : listsOf es = .ok lists) :
    List.Forall₂ (fun e list => list.1 = e.1.str ∧ e.2 = .list (list.2.map .text)) es lists := by
  induction es generalizing lists with
  | nil =>
    cases h
    exact .nil
  | cons e es ih =>
    obtain ⟨name, v⟩ := e
    simp only [listsOf] at h
    split at h
    · rename_i values hvalues
      obtain ⟨rest, hrest, h⟩ := bind_eq_ok.mp h
      cases h
      exact .cons ⟨rfl, eq_list_of_texts? hvalues⟩ (ih hrest)
    · cases h

theorem listed_of_allowListsOf {lists : List (String × List String)}
    (h : allowListsOf doc = .ok lists) : Listed (Value.field? "allowlist" doc) lists := by
  simp only [allowListsOf] at h
  split at h
  · rename_i hnone
    cases h
    rw [hnone]
    rfl
  · rename_i entries hsome
    rw [hsome]
    exact ⟨entries, rfl, listsOf_eq_ok h⟩
  · cases h

/-! ## The configuration that is returned -/

structure Merged (doc : Entries) (env : Environment) (c : Config) : Prop where
  failOn : Settled c.failOn.word (level? env.failOn) (held? doc "scan" "fail_on")
    (fun v => v.text?.map Text.lowerAscii) "high"
  format : Settled c.format.word (format? env.format) (held? doc "output" "format") Value.text?
    "terminal"
  maxInput : Settled c.maxInput.toValue (size? env.maxInputKb) (held? doc "scan" "max_input_kb")
    some (.int 256)
  known : c.failOn.word ∈ ["info", "low", "medium", "high"] ∧
    c.format.word ∈ ["terminal", "json", "sarif"]
  positive : (c.maxInput.toValue = .bool true ∨ ∃ n, 0 < n ∧ c.maxInput.toValue = .int n) ∧
    1024 ≤ c.maxInput.bytes
  disable : Extended env.disableRules ((held? doc "rules" "disable").getD (.list [])) c.disable
  allowLists : Listed (Value.field? "allowlist" doc) c.allowLists
  version : c.version = (Value.field? "version" doc).getD (.text "1.0")
  showSummary : c.showSummary = (held? doc "output" "show_summary").getD (.bool true)
  explain : c.explain = (held? doc "output" "explain").getD (.bool false)
  enable : c.enable = (held? doc "rules" "enable").getD (.list [])
  origins : c.origins = (held? doc "server" "cors_origins").getD (.list [.text "*"])

theorem override_eq_ok {c' : Config} (h : override env c = .ok c') :
    ∃ disable, addDisabled env c.disable = .ok disable ∧
      c' = { c with
        failOn := (Severity.ofAnyCase? env.failOn).getD c.failOn
        format := (Format.ofWord? env.format).getD c.format
        maxInput := (SizeLimit.ofText? env.maxInputKb).getD c.maxInput
        disable } := by
  simp only [override] at h
  obtain ⟨disable, hdisable, h⟩ := bind_eq_ok.mp h
  cases h
  exact ⟨disable, hdisable, rfl⟩

theorem positive_of_checked {refuse : Value → ConfigFailure} {l : SizeLimit}
    (h : checked "max_input_kb" (.kilobytes 256) SizeLimit.ofValue? refuse es = .ok l)
    (s : String) :
    let limit := (SizeLimit.ofText? s).getD l
    (limit.toValue = .bool true ∨ ∃ n, 0 < n ∧ limit.toValue = .int n) ∧ 1024 ≤ limit.bytes := by
  intro limit
  obtain ⟨v, hv⟩ : ∃ v, SizeLimit.ofValue? v = some limit := by
    cases hset : SizeLimit.ofText? s with
    | some k =>
      obtain ⟨n, -, hn⟩ := Option.bind_eq_some_iff.mp (ofText?_eq s ▸ hset)
      exact ⟨.int n, by simp only [limit, hset, Option.getD_some, hn]⟩
    | none =>
      simp only [limit, hset, Option.getD_none]
      rcases checked_eq_ok.mp h with ⟨-, rfl⟩ | ⟨v, -, hv⟩
      · exact ⟨.int 256, rfl⟩
      · exact ⟨v, hv⟩
  obtain ⟨rfl, hpositive⟩ := toValue_of_ofValue? hv
  exact ⟨hpositive, SizeLimit.bytes_of_ofValue? hv⟩

theorem merged_of_merge (h : merge room env (some (label, doc)) = .ok c) : Merged doc env c := by
  obtain ⟨base, hbase, h⟩ := bind_eq_ok.mp h
  obtain ⟨disable, hdisable, rfl⟩ := override_eq_ok (mapError_eq_ok.mp h)
  obtain ⟨s, hs, hfailOn, hformat, hmaxInput, hrest⟩ := ofDocument_eq_ok hbase
  obtain ⟨hscan, houtput, hrules, hlists, hserver⟩ := sectionsOf_eq_ok hs
  constructor
  case failOn =>
    rw [level?_eq, held?_of_sectionOf hscan]
    refine settled_of_checked (fun v a hv => ?_) hfailOn _
    obtain ⟨t, ht, hlevel⟩ := Option.bind_eq_some_iff.mp hv
    rw [ht, Option.map_some, Severity.ofAnyCase?_eq_some_iff.mp hlevel]
  case format =>
    rw [format?_eq, held?_of_sectionOf houtput]
    refine settled_of_checked (fun v a hv => ?_) hformat _
    obtain ⟨t, ht, hword⟩ := Option.bind_eq_some_iff.mp hv
    rw [ht, Format.ofWord?_eq_some_iff.mp hword]
  case maxInput =>
    rw [size?_eq, held?_of_sectionOf hscan]
    exact settled_of_checked (fun v a hv => by rw [(toValue_of_ofValue? hv).1]) hmaxInput _
  case known => exact ⟨mem_levels.mpr ⟨_, rfl⟩, mem_formats.mpr ⟨_, rfl⟩⟩
  case positive => exact positive_of_checked hmaxInput _
  case disable =>
    rw [held?_of_sectionOf hrules]
    rw [congrArg Config.disable hrest] at hdisable
    exact extended_of_addDisabled hdisable
  case allowLists =>
    rw [congrArg Config.allowLists hrest]
    exact listed_of_allowListsOf hlists
  case version => exact congrArg Config.version hrest
  case showSummary =>
    rw [held?_of_sectionOf houtput]
    exact congrArg Config.showSummary hrest
  case explain =>
    rw [held?_of_sectionOf houtput]
    exact congrArg Config.explain hrest
  case enable =>
    rw [held?_of_sectionOf hrules]
    exact congrArg Config.enable hrest
  case origins =>
    rw [held?_of_sectionOf hserver]
    exact congrArg Config.origins hrest

/-! ## Keys that no section knows -/

def topKeys : List String := ["version", "scan", "output", "rules", "allowlist", "server"]

/-- The keys that a section is asked for. All keys of the other tables count. -/
def sectionKeys? : String → Option (List String)
  | "scan" => some ["max_input_kb", "fail_on"]
  | "output" => some ["format", "show_summary", "explain"]
  | "rules" => some ["enable", "disable"]
  | "server" => some ["cors_origins"]
  | _ => none

def keep (keys : List String) (es : Entries) : Entries := es.filter fun e => keys.any e.1.isText

/-- A value of a document without what the section of this name does not know. -/
def prune (name : String) (v : Value) : Value :=
  match sectionKeys? name, v with
  | some keys, .mapping es => .mapping (keep keys es)
  | _, v => v

def known (doc : Entries) : Entries := (keep topKeys doc).map fun e => (e.1, prune e.1.str e.2)

theorem field?_keep {keys : List String} {key : String} (h : key ∈ keys) (es : Entries) :
    Value.field? key (keep keys es) = Value.field? key es := by
  induction es with
  | nil => rfl
  | cons e es ih =>
    rw [keep] at ih ⊢
    rw [Value.field?]
    by_cases hkey : e.1.isText key = true
    · have hkept : keys.any e.1.isText = true := List.any_eq_true.mpr ⟨key, h, hkey⟩
      rw [List.filter_cons, if_pos hkept, Value.field?, if_pos hkey, if_pos hkey]
    · rw [if_neg hkey, ← ih, List.filter_cons]
      split
      · rw [Value.field?, if_neg hkey]
      · rfl

theorem field?_map_prune (key : String) (es : Entries) :
    Value.field? key (es.map fun e => (e.1, prune e.1.str e.2)) =
      (Value.field? key es).map (prune key) := by
  induction es with
  | nil => rfl
  | cons e es ih =>
    rw [List.map_cons, Value.field?, Value.field?]
    by_cases hkey : e.1.isText key = true
    · rw [if_pos hkey, if_pos hkey, Value.isText_iff.mp hkey, Value.str_text]
      rfl
    · rw [if_neg hkey, if_neg hkey, ih]

theorem field?_known {key : String} (h : key ∈ topKeys) (doc : Entries) :
    Value.field? key (known doc) = (Value.field? key doc).map (prune key) := by
  rw [known, field?_map_prune, field?_keep h]

theorem sectionOf_known {name : String} {keys : List String} (htop : name ∈ topKeys)
    (hkeys : sectionKeys? name = some keys) (label : String) (doc : Entries) :
    sectionOf label (known doc) name = (sectionOf label doc name).map (keep keys) := by
  have hfield := field?_known htop doc
  simp only [sectionOf, hfield]
  cases Value.field? name doc with
  | none => rfl
  | some v =>
    simp only [Option.map_some, prune, hkeys]
    cases v <;> rfl

theorem allowListsOf_known (doc : Entries) : allowListsOf (known doc) = allowListsOf doc := by
  have hfield : Value.field? "allowlist" (known doc) = Value.field? "allowlist" doc := by
    rw [field?_known (by decide)]
    cases Value.field? "allowlist" doc <;> rfl
  rw [allowListsOf, hfield]
  rfl

def Sections.known (s : Sections) : Sections :=
  { s with
    scan := keep ["max_input_kb", "fail_on"] s.scan
    output := keep ["format", "show_summary", "explain"] s.output
    rules := keep ["enable", "disable"] s.rules
    server := keep ["cors_origins"] s.server }

theorem sectionsOf_known (label : String) (doc : Entries) :
    sectionsOf label (known doc) = (sectionsOf label doc).map Sections.known := by
  simp only [sectionsOf]
  rw [sectionOf_known (by decide) rfl, sectionOf_known (by decide) rfl,
    sectionOf_known (by decide) rfl, sectionOf_known (by decide) rfl, allowListsOf_known]
  cases sectionOf label doc "scan" with
  | error e => rfl
  | ok scan =>
    cases sectionOf label doc "output" with
    | error e => rfl
    | ok output =>
      cases sectionOf label doc "rules" with
      | error e => rfl
      | ok rules =>
        cases allowListsOf doc with
        | error e => rfl
        | ok lists => cases sectionOf label doc "server" <;> rfl

theorem checked_keep {α : Type} {name : String} {keys : List String} (h : name ∈ keys) (base : α)
    (read : Value → Option α) (refuse : Value → ConfigFailure) (es : Entries) :
    checked name base read refuse (keep keys es) = checked name base read refuse es := by
  rw [checked, checked, field?_keep h]

theorem ofDocument_known (room : Nat) (label : String) (doc : Entries) :
    ofDocument room label (known doc) = ofDocument room label doc := by
  have hversion : Value.field? "version" (known doc) = Value.field? "version" doc := by
    rw [field?_known (by decide)]
    cases Value.field? "version" doc <;> rfl
  have hfailOn (s : Sections) : failOnOf room s.known.scan = failOnOf room s.scan :=
    checked_keep (by decide) _ _ _ _
  have hformat (s : Sections) : formatOf room s.known.output = formatOf room s.output :=
    checked_keep (by decide) _ _ _ _
  have hmaxInput (s : Sections) : maxInputOf s.known.scan = maxInputOf s.scan :=
    checked_keep (by decide) _ _ _ _
  simp only [ofDocument]
  rw [sectionsOf_known, hversion]
  cases sectionsOf label doc with
  | error e => rfl
  | ok s =>
    simp only [Except.map, mapError_ok, bind, Except.bind, hfailOn, hformat, hmaxInput]
    simp (disch := decide) only [Sections.known, field?_keep]

theorem keep_keep (keys : List String) (es : Entries) :
    keep keys (keep keys es) = keep keys es := by
  rw [keep, keep, List.filter_filter]
  simp only [Bool.and_self]

theorem prune_prune (name : String) (v : Value) : prune name (prune name v) = prune name v := by
  cases hkeys : sectionKeys? name with
  | none => simp only [prune, hkeys]
  | some keys => cases v <;> simp only [prune, hkeys, keep_keep]

theorem known_known (doc : Entries) : known (known doc) = known doc := by
  have hkeep : keep topKeys (known doc) = known doc := by
    rw [known, keep, List.filter_map]
    exact congrArg (List.map _) (keep_keep topKeys doc)
  calc known (known doc)
      = (known doc).map fun e => (e.1, prune e.1.str e.2) := by rw [known, hkeep]
    _ = known doc := by
      rw [known, List.map_map]
      refine List.map_congr_left fun e _ => ?_
      rw [Function.comp_apply, prune_prune]

theorem merge_known (room : Nat) (env : Environment) (label : String) (doc : Entries) :
    merge room env (some (label, known doc)) = merge room env (some (label, doc)) := by
  simp only [merge, ofDocument_known]

/-! ## Documents that are refused -/

/-- A document with a setting that its own check refuses. -/
inductive Invalid (doc : Entries) : Prop where
  | failOn {v : Value} : held? doc "scan" "fail_on" = some v → v.text?.bind level? = none →
      Invalid doc
  | format {v : Value} : held? doc "output" "format" = some v → v.text?.bind format? = none →
      Invalid doc
  | maxInput {v : Value} : held? doc "scan" "max_input_kb" = some v → v ≠ .bool true →
      (∀ n, v = .int n → n ≤ 0) → Invalid doc

/-- A document with a threshold or a format that no message can show, for a fault. -/
def HoldsUnshowable (room : Nat) (doc : Entries) (f : Fault) : Prop :=
  ∃ v, (held? doc "scan" "fail_on" = some v ∨ held? doc "output" "format" = some v) ∧
    v.showFault? room = some f

theorem eq_some_of_checked {α : Type} {name : String} {base a : α} {read : Value → Option α}
    {refuse : Value → ConfigFailure} {v : Value} (h : checked name base read refuse es = .ok a)
    (hv : Value.field? name es = some v) : read v = some a := by
  rcases checked_eq_ok.mp h with ⟨hnone, -⟩ | ⟨v', hv', hread⟩
  · rw [hv] at hnone
    cases hnone
  · rw [hv] at hv'
    cases hv'
    exact hread

theorem Invalid.not_ok (h : Invalid doc) : ofDocument room label doc ≠ .ok c := by
  intro hok
  obtain ⟨s, hs, hfailOn, hformat, hmaxInput, -⟩ := ofDocument_eq_ok hok
  obtain ⟨hscan, houtput, -, -, -⟩ := sectionsOf_eq_ok hs
  cases h with
  | failOn hv hno =>
    rw [held?_of_sectionOf hscan] at hv
    obtain ⟨t, ht, hlevel⟩ := Option.bind_eq_some_iff.mp (eq_some_of_checked hfailOn hv)
    rw [ht, Option.bind_some, level?_eq, hlevel] at hno
    cases hno
  | format hv hno =>
    rw [held?_of_sectionOf houtput] at hv
    obtain ⟨t, ht, hword⟩ := Option.bind_eq_some_iff.mp (eq_some_of_checked hformat hv)
    rw [ht, Option.bind_some, format?_eq, hword] at hno
    cases hno
  | maxInput hv htrue hno =>
    rw [held?_of_sectionOf hscan] at hv
    rcases (toValue_of_ofValue? (eq_some_of_checked hmaxInput hv)).2 with rfl | ⟨n, hn, rfl⟩
    · exact htrue rfl
    · exact absurd hn (Int.not_lt.mpr (hno n rfl))

theorem HoldsUnshowable.of_documentFault {f : Fault} (h : DocumentFault room label doc f) :
    HoldsUnshowable room doc f := by
  cases h with
  | failOn hscan hv hshown => exact ⟨_, .inl ((held?_of_sectionOf hscan _).trans hv), hshown⟩
  | format houtput hv hshown => exact ⟨_, .inr ((held?_of_sectionOf houtput _).trans hv), hshown⟩

theorem Invalid.merge_eq (h : Invalid doc) (room : Nat) (env : Environment) (label : String) :
    (∃ e, merge room env (some (label, doc)) = .error (.config e)) ∨
      ∃ f, merge room env (some (label, doc)) = .error (.fault f) ∧ HoldsUnshowable room doc f := by
  have haccounts := accounts_ofDocument room label doc
  simp only [merge]
  cases hof : ofDocument room label doc with
  | ok c => exact absurd hof h.not_ok
  | error e =>
    cases e with
    | config e => exact .inl ⟨e, rfl⟩
    | fault f =>
      rw [hof] at haccounts
      exact .inr ⟨f, rfl, HoldsUnshowable.of_documentFault (haccounts f rfl)⟩

/-! ## Loading -/

theorem supplies_of_load (h : load R w env root asked = .ok c) :
    ∃ source, Supplies R w root asked source := by
  obtain ⟨file, hfile, h⟩ := bind_eq_ok.mp h
  cases file with
  | none => exact ⟨none, .nothing hfile⟩
  | some found =>
    obtain ⟨p, label⟩ := found
    obtain ⟨c', hof, -⟩ := bind_eq_ok.mp h
    obtain ⟨doc, hread, -⟩ := bind_eq_ok.mp hof
    rw [readDocument] at hread
    cases hbytes : w.readBytes p with
    | error e =>
      rw [hbytes] at hread
      cases hread
    | ok bytes =>
      rw [hbytes] at hread
      exact ⟨some (label, doc), .document hfile hbytes (mapError_eq_ok.mp hread)⟩

theorem merged_of_merge_source (h : merge room env source = .ok c) :
    Merged (source.elim [] Prod.snd) env c := by
  cases source with
  | none => exact merged_of_merge ((merge_none room env "").symm.trans h)
  | some s => exact merged_of_merge h

/-- A configuration that is returned is made of the document, or of none, and the environment. The
keys that are not known have no influence on it or on an error, and an invalid document is refused
under every environment, unless the message would have to show a value that cannot be shown. -/
theorem load_merges (R : Readers) (w : Place) (root : Path) (asked : String) (env : Environment) :
    (∀ c, load R w env root asked = .ok c → (∃ source, Supplies R w root asked source) ∧
      ∀ source, Supplies R w root asked source → Merged (source.elim [] Prod.snd) env c) ∧
    ∀ label doc, Supplies R w root asked (some (label, doc)) →
      (load R w env root asked = merge R.room env (some (label, known doc)) ∧
        known (known doc) = known doc) ∧
      (∀ w' root' asked' doc', Supplies R w' root' asked' (some (label, doc')) →
        known doc' = known doc → load R w' env root' asked' = load R w env root asked) ∧
      (Invalid doc → (∃ e, load R w env root asked = .error (.config e)) ∨
        ∃ f, load R w env root asked = .error (.fault f) ∧ HoldsUnshowable R.room doc f) := by
  refine ⟨fun c hload => ⟨supplies_of_load hload, fun source hsource => ?_⟩, fun label doc hdoc =>
    ⟨⟨?_, known_known doc⟩, fun w' root' asked' doc' hdoc' hknown => ?_, fun hinvalid => ?_⟩⟩
  · exact merged_of_merge_source ((load_eq_merge hsource env).symm.trans hload)
  · rw [load_eq_merge hdoc, merge_known]
  · rw [load_eq_merge hdoc, load_eq_merge hdoc', ← merge_known R.room env label doc', hknown,
      merge_known]
  · rw [load_eq_merge hdoc]
    exact hinvalid.merge_eq R.room env label

def folderWith (text : String) : Place where
  disk := { entries := [([fileName], .file text.toUTF8)] }
  label := "/app"

theorem supplies_folderWith {text : String} (h : Toml.decode 480 text = .ok doc) :
    Supplies .standard (folderWith text) {} "" (some ("/app/.rerender.toml", doc)) := by
  have hfound : findFile (folderWith text) {} "" =
      .ok (some (({} : Path).child fileName, "/app/.rerender.toml")) := by
    with_unfolding_all rfl
  have hbytes : (folderWith text).readBytes (({} : Path).child fileName) = .ok text.toUTF8 := by
    with_unfolding_all rfl
  have hread : Readers.standard.config text.toUTF8 = .ok doc := by
    simp only [Readers.standard, Readers.textOf, Place.textOf_toUTF8]
    exact h
  exact .document hfound hbytes hread

theorem load_merges_lowThreshold :
    let R : Readers := .standard
    let env : Environment := { failOn := "severe", format := "json" }
    let spare := folderWith "[scan]\nfail_on = \"LOW\"\nspeed = \"fast\"\n"
    let plain := folderWith "[scan]\nfail_on = \"LOW\"\n"
    let wrong := folderWith "[output]\nformat = \"text\"\n"
    (∃ c, load R spare env {} "" = .ok c ∧ c.failOn.word = "low" ∧ c.format.word = "json") ∧
      load R plain env {} "" = load R spare env {} "" ∧
        ∃ e, load R wrong env {} "" = .error (.config e) := by
  intro R env spare plain wrong
  have hspare : Supplies R spare {} "" (some ("/app/.rerender.toml", [(.text "scan",
      .mapping [(.text "fail_on", .text "LOW"), (.text "speed", .text "fast")])])) :=
    supplies_folderWith (by cbv)
  have hplain : Supplies R plain {} "" (some ("/app/.rerender.toml", [(.text "scan",
      .mapping [(.text "fail_on", .text "LOW")])])) := supplies_folderWith (by cbv)
  have hwrong : Supplies R wrong {} "" (some ("/app/.rerender.toml", [(.text "output",
      .mapping [(.text "format", .text "text")])])) := supplies_folderWith (by cbv)
  obtain ⟨hmerged, hdocument⟩ := load_merges R spare {} "" env
  refine ⟨?_, (hdocument _ _ hspare).2.1 plain {} "" _ hplain rfl, ?_⟩
  · obtain ⟨c, hc⟩ : ∃ c, load R spare env {} "" = .ok c := by
      rw [load_eq_merge hspare]
      exact ⟨_, rfl⟩
    have hmade := (hmerged c hc).2 _ hspare
    have hsevere : level? "severe" = none := by decide
    have hlower : Text.lowerAscii "LOW" = "low" := by decide
    have hlow : Settled c.failOn.word (level? "severe") (some (.text "LOW"))
      (fun v => v.text?.map Text.lowerAscii) "high" := hmade.failOn
    rw [hsevere] at hlow
    exact ⟨c, hc, (Option.some.inj hlow).symm.trans hlower, hmade.format⟩
  · obtain ⟨-, hwrongs⟩ := load_merges R wrong {} "" env
    refine ((hwrongs _ _ hwrong).2.2 (.format rfl rfl)).resolve_right ?_
    rintro ⟨f, -, v, hv | hv, hshown⟩
    · cases hv
    · cases hv
      cases hshown

/-- A threshold that no message can show is not refused, under no environment. -/
theorem merge_unshowable {v : Value} {f : Fault} (h : v.showFault? room = some f)
    (env : Environment) (label : String) :
    merge room env (some (label, [(.text "scan", .mapping [(.text "fail_on", v)])])) =
      .error (.fault f) := by
  have htext : v.text? = none := by
    cases v <;> first | rfl | cases h
  have hchecked : failOnOf room [(.text "fail_on", v)] = .error (.fault f) := by
    have hfield : Value.field? "fail_on" [(.text "fail_on", v)] = some v := rfl
    simp only [failOnOf, checked, hfield, htext, Option.bind_none, ConfigFailure.showing, h,
      ConfigFailure.orFault]
  have hof : ofDocument room label [(.text "scan", .mapping [(.text "fail_on", v)])] =
      failOnOf room [(.text "fail_on", v)] >>= fun failOn => .ok { failOn } := rfl
  rw [merge, hof, hchecked]
  rfl

/-- A number of 4335 digits is no threshold, but it is not refused. -/
theorem merge_longThreshold :
    let room := Readers.standard.room
    Invalid [(.text "scan", .mapping [(.text "fail_on", .int (Nat.pow 16 3600))])] ∧
      merge room {} (some (".rerender.toml",
        [(.text "scan", .mapping [(.text "fail_on", .int (Nat.pow 16 3600))])])) =
          .error (.fault .tooManyDigits) :=
  ⟨.failOn rfl rfl, merge_unshowable (by decide +kernel) {} ".rerender.toml"⟩

end Config

end ReactLint
