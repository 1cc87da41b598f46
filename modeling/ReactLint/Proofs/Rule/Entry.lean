import Mathlib.Data.List.TakeWhile
import Mathlib.Data.Nat.Bitwise
import ReactLint.Proofs.Rule.Faults

/-!
# Which entries are rules

An entry of a rule file passes several checks on its way to a rule: some take any value, some turn a
value into a text, some put something in the place of a value that is missing. Together they accept
an entry exactly when its fields are well formed. The rule then carries these fields as they stand,
and as its flags the union of those that the entry names, in whatever order, how often and in which
letter case it names them.
-/

namespace ReactLint

theorem Text.trim_eq_nil_iff {cs : List Char} : trim cs = [] ↔ ∀ c ∈ cs, isBlank c = true := by
  induction cs with
  | nil => simp [trim]
  | cons c cs ih =>
    by_cases hc : isBlank c = true
    · have htrim : trim (c :: cs) = trim cs := by rw [trim, List.dropWhile_cons_of_pos hc, trim]
      rw [htrim, ih, List.forall_mem_cons, and_iff_right hc]
    · rw [trim, List.dropWhile_cons_of_neg hc, List.reverse_eq_nil_iff, List.dropWhile_eq_nil_iff]
      simp [or_imp, forall_and, and_comm]

theorem Text.isBlankText_eq_false_iff {s : String} :
    isBlankText s = false ↔ trim s.toList ≠ [] := by
  rw [← Bool.not_eq_true, isBlankText, List.all_eq_true, ne_eq, trim_eq_nil_iff]

theorem Readers.eq_of_compile {R : Readers} {source : String} {flags : Int} {p : Pattern}
    (h : R.compile source flags = .ok p) : p.source = source ∧ p.flags = flags := by
  obtain ⟨⟨regex, groupCount⟩, -, h⟩ := bind_eq_ok.mp h
  cases h
  exact ⟨rfl, rfl⟩

namespace Rule

/-! ## Flags -/

/-- The flags that a value names. Stepping through the value yields them, unless it counts as
nothing. -/
inductive NamesFlags (v : Value) : List String → Prop where
  | nothing : v.isTruthy = false → NamesFlags v []
  | items {names : List String} : v.isTruthy = true → v.elements? = some (names.map .text) →
      NamesFlags v names

def IsUnion (names : List String) (flags : Nat) : Prop :=
  ∀ k, flags.testBit k = true ↔
    ∃ name ∈ names, ∃ bits, flagNames.lookup (Text.upper name) = some bits ∧ bits.testBit k = true

theorem flagBit_eq_ok {v : Value} {bits : Nat} :
    flagBit v = .ok bits ↔
      ∃ name, v = .text name ∧ flagNames.lookup (Text.upper name) = some bits := by
  cases v with
  | text name =>
    simp only [flagBit, Value.text.injEq, exists_eq_left']
    split
    · rename_i found hfound
      rw [hfound, Except.ok.injEq, Option.some.injEq]
    · rename_i hnone
      simp [hnone]
  | _ => simp [flagBit]

theorem unionBits_eq_ok {vs : List Value} {m n : Nat} :
    unionBits m vs = .ok n ↔ ∃ names : List String, vs = names.map .text ∧
      (∀ name ∈ names, ∃ bits, flagNames.lookup (Text.upper name) = some bits) ∧
      ∀ k, n.testBit k = true ↔ m.testBit k = true ∨ ∃ name ∈ names, ∃ bits,
        flagNames.lookup (Text.upper name) = some bits ∧ bits.testBit k = true := by
  induction vs generalizing m with
  | nil =>
    constructor
    · intro h
      cases h
      exact ⟨[], rfl, by simp, by simp⟩
    · rintro ⟨names, hnames, -, hbits⟩
      obtain rfl : names = [] := List.map_eq_nil_iff.mp hnames.symm
      have heq : m = n := Nat.eq_of_testBit_eq fun k => by
        rw [Bool.eq_iff_iff, hbits k]
        simp
      rw [unionBits, heq]
  | cons v vs ih =>
    simp only [unionBits, bind_eq_ok, flagBit_eq_ok, ih, Nat.testBit_or, Bool.or_eq_true]
    constructor
    · rintro ⟨bits, ⟨name, rfl, hname⟩, names, rfl, hknown, hbits⟩
      refine ⟨name :: names, rfl, List.forall_mem_cons.mpr ⟨⟨bits, hname⟩, hknown⟩, fun k => ?_⟩
      rw [hbits k]
      simp [hname, or_assoc]
    · rintro ⟨names, hnames, hknown, hbits⟩
      obtain ⟨name, rest, rfl, rfl, rfl⟩ := List.map_eq_cons_iff.mp hnames.symm
      obtain ⟨⟨bits, hname⟩, hrest⟩ := List.forall_mem_cons.mp hknown
      refine ⟨bits, ⟨name, rfl, hname⟩, rest, rfl, hrest, fun k => ?_⟩
      rw [hbits k]
      simp [hname, or_assoc]

theorem parseFlags_eq_ok {v : Value} {flags : Nat} :
    parseFlags v = .ok flags ↔ ∃ names, NamesFlags v names ∧
      (∀ name ∈ names, ∃ bits, flagNames.lookup (Text.upper name) = some bits) ∧
      IsUnion names flags := by
  rw [parseFlags]
  split
  · rename_i htrue
    split
    · rename_i vs hvs
      rw [unionBits_eq_ok]
      constructor
      · rintro ⟨names, rfl, hknown, hbits⟩
        exact ⟨names, .items htrue hvs, hknown, by simpa [IsUnion] using hbits⟩
      · rintro ⟨names, hnames, hknown, hbits⟩
        cases hnames with
        | nothing hfalse => simp [htrue] at hfalse
        | items _ hitems =>
          rw [hvs, Option.some.injEq] at hitems
          exact ⟨names, hitems, hknown, by simpa [IsUnion] using hbits⟩
    · rename_i hnone
      refine ⟨fun h => (by cases h), ?_⟩
      rintro ⟨names, hnames, -, -⟩
      cases hnames with
      | nothing hfalse => simp [htrue] at hfalse
      | items _ hitems => simp [hnone] at hitems
  · rename_i hfalse
    rw [Bool.not_eq_true] at hfalse
    constructor
    · intro h
      cases h
      exact ⟨[], .nothing hfalse, by simp, by simp [IsUnion]⟩
    · rintro ⟨names, hnames, -, hbits⟩
      cases hnames with
      | nothing _ =>
        have hzero : 0 = flags := Nat.eq_of_testBit_eq fun k => by
          rw [Bool.eq_iff_iff, hbits k]
          simp
        rw [hzero]
      | items htrue _ => simp [hfalse] at htrue

/-! ## Fields -/

theorem required_eq_ok {room : Nat} {d : Draft} {name s : String} {v : Value} :
    required room d name v = .ok s ↔ v = .text s ∧ Text.trim s.toList ≠ [] := by
  constructor
  · intro h
    obtain rfl := eq_text_of_required h
    refine ⟨rfl, Text.isBlankText_eq_false_iff.mp ?_⟩
    rw [← Bool.not_eq_true]
    intro hblank
    simp [required, required.refuse, Value.text?, hblank] at h
  · rintro ⟨rfl, hs⟩
    exact required_text (Text.isBlankText_eq_false_iff.mpr hs)

theorem severityOf_eq_ok {room : Nat} {id : String} {v : Value} {l : Severity} :
    severityOf room id v = .ok l ↔ v = .text l.name := by
  constructor
  · intro h
    simp only [severityOf] at h
    split at h
    · rename_i found hfound
      cases h
      obtain ⟨s, hs, hname⟩ := Option.bind_eq_some_iff.mp hfound
      cases v with
      | text t =>
        cases hs
        rw [Severity.ofName?_eq_some_iff.mp hname]
      | _ => cases hs
    · cases h
  · rintro rfl
    exact severityOf_name room id l

theorem compileFor_eq_ok {R : Readers} {id source : String} {flags : Int} {p : Pattern} :
    compileFor R id source flags = .ok p ↔ R.compile source flags = .ok p := by
  rw [compileFor, mapError_eq_ok]

/-- Whether a text is left when the blanks at the ends of a value are taken off. -/
def HoldsText (v : Value) (s : String) : Prop := v = .text s ∧ Text.trim s.toList ≠ []

theorem ofDraft_eq_ok {R : Readers} {d : Draft} {flags : Nat} (hflags : d.flags = .int flags)
    {r : Rule} : ofDraft R d = .ok r ↔
      (HoldsText d.id r.id ∧ HoldsText d.type r.type ∧ HoldsText d.title r.title ∧
      HoldsText d.why r.why ∧ HoldsText d.fix r.fix ∧ HoldsText d.pattern r.pattern.source) ∧
      d.severity = .text r.severity.name ∧
      R.compile r.pattern.source flags = .ok r.pattern ∧
      r.gate = optional d.gate ∧ r.allowList = optional d.allowList ∧
      (r.allowList.isSome = true → r.pattern.hasCapture = true) := by
  have hnumber : flagsOf (.int flags) = .ok (flags : Int) := rfl
  simp only [ofDraft, bind_eq_ok, required_eq_ok, severityOf_eq_ok, compileFor_eq_ok, hflags,
    hnumber]
  constructor
  · rintro ⟨id, hid, type, htype, title, htitle, why, hwhy, fix, hfix, source, hsource, severity,
      hseverity, _, hn, pattern, hpattern, h⟩
    cases hn
    obtain ⟨rfl, -⟩ := Readers.eq_of_compile hpattern
    split at h
    · cases h
    · rename_i hcapture
      cases h
      refine ⟨⟨hid, htype, htitle, hwhy, hfix, hsource⟩, hseverity, hpattern, rfl, rfl,
        fun hlist => ?_⟩
      simpa [hlist] using hcapture
  · rintro ⟨⟨hid, htype, htitle, hwhy, hfix, hsource⟩, hseverity, hpattern, hgate, hlist, hcapture⟩
    refine ⟨r.id, hid, r.type, htype, r.title, htitle, r.why, hwhy, r.fix, hfix, r.pattern.source,
      hsource, r.severity, hseverity, _, rfl, r.pattern, hpattern, ?_⟩
    rw [← hlist, ← hgate]
    split
    · rename_i hrefused
      obtain ⟨hsome, hnone⟩ := Bool.and_eq_true_iff.mp hrefused
      simp [hcapture hsome] at hnone
    · rfl

theorem entryId_eq_ok {room : Nat} {v : Value} {s : String} :
    entryId room v = .ok s ↔ v.showFault? room = none ∧ s = v.str := by
  rw [entryId]
  split
  · rename_i hshown
    simp [hshown, eq_comm]
  · rename_i f hfault
    simp [hfault]

/-! ## Entries -/

/-- What the fields of an entry must be. A field that is missing counts as nothing. The id is taken
as a text, so that it only has to be one that can be shown. -/
structure IsRule (R : Readers) (entries : List (Value × Value)) : Prop where
  keys : ∀ key ∈ ["id", "type", "title", "why", "fix", "severity", "pattern"],
    (Value.field? key entries).isSome = true
  id : (entryField entries "id").showFault? R.room = none ∧
    Text.trim (entryField entries "id").str.toList ≠ []
  texts : ∀ key ∈ ["type", "title", "why", "fix", "pattern"],
    ∃ s, HoldsText (entryField entries key) s
  severity : ∃ s ∈ ["High", "Medium", "Low", "Info"], entryField entries "severity" = .text s
  flags : ∃ names, NamesFlags (entryField entries "flags") names ∧
    ∀ name ∈ names, Text.upper name ∈ ["IGNORECASE", "DOTALL", "MULTILINE", "VERBOSE"]
  pattern : ∃ names flags p, NamesFlags (entryField entries "flags") names ∧ IsUnion names flags ∧
    R.compile (entryField entries "pattern").str flags = .ok p ∧
    (entryField entries "suppress_if_capture_in" = .null ∨ 0 < p.groupCount)

structure Carries (R : Readers) (entries : List (Value × Value)) (r : Rule) : Prop where
  id : r.id = (entryField entries "id").str
  type : entryField entries "type" = .text r.type
  title : entryField entries "title" = .text r.title
  why : entryField entries "why" = .text r.why
  fix : entryField entries "fix" = .text r.fix
  severity : entryField entries "severity" = .text r.severity.name
  source : entryField entries "pattern" = .text r.pattern.source
  flags : ∃ (names : List String) (flags : Nat), NamesFlags (entryField entries "flags") names ∧
    IsUnion names flags ∧ r.pattern.flags = flags
  compiled : R.compile r.pattern.source r.pattern.flags = .ok r.pattern
  gate : r.gate = optional (entryField entries "requires_context_fact")
  allowList : r.allowList = optional (entryField entries "suppress_if_capture_in")

theorem NamesFlags.unique {v : Value} {names names' : List String} (h : NamesFlags v names)
    (h' : NamesFlags v names') : names = names' := by
  cases h with
  | nothing hfalse =>
    cases h' with
    | nothing _ => rfl
    | items htrue _ => simp [hfalse] at htrue
  | items htrue hitems =>
    cases h' with
    | nothing hfalse => simp [htrue] at hfalse
    | items _ hitems' =>
      rw [hitems, Option.some.injEq] at hitems'
      exact (List.map_inj_right fun _ _ => Value.text.inj).mp hitems'

theorem IsUnion.unique {names : List String} {m n : Nat} (hm : IsUnion names m)
    (hn : IsUnion names n) : m = n :=
  Nat.eq_of_testBit_eq fun k => by rw [Bool.eq_iff_iff, hm k, hn k]

theorem exists_lookup_iff {name : String} :
    (∃ bits, flagNames.lookup name = some bits) ↔
      name ∈ ["IGNORECASE", "DOTALL", "MULTILINE", "VERBOSE"] := by
  rw [← Option.isSome_iff_exists, List.lookup_isSome_iff]
  simp [flagNames]

theorem optional_isSome_iff {v : Value} : (optional v).isSome = true ↔ v ≠ .null := by
  cases v <;> simp [optional]

variable {R : Readers} {entries : List (Value × Value)} {source : String} {r : Rule}

theorem ofEntry_eq_ok : ofEntry R (.mapping entries) source = .ok r ↔
    (∀ key ∈ requiredKeys, (Value.field? key entries).isSome = true) ∧
      (entryField entries "id").showFault? R.room = none ∧
      ∃ flags, parseFlags (entryField entries "flags") = .ok flags ∧
        ofDraft R (entryDraft entries (entryField entries "id").str flags) = .ok r := by
  have hkeys : (requiredKeys.filter fun k => (Value.field? k entries).isNone).isEmpty = true ↔
      ∀ key ∈ requiredKeys, (Value.field? key entries).isSome = true := by
    rw [List.isEmpty_iff, List.filter_eq_nil_iff]
    simp [Option.isSome_iff_ne_none]
  simp only [ofEntry]
  split
  · rename_i hall
    simp only [bind_eq_ok, entryId_eq_ok, and_iff_right (hkeys.mp hall)]
    constructor
    · rintro ⟨id, ⟨hshown, rfl⟩, h⟩
      exact ⟨hshown, h⟩
    · rintro ⟨hshown, h⟩
      exact ⟨_, ⟨hshown, rfl⟩, h⟩
  · rename_i hmissing
    exact ⟨fun h => (by cases h), fun h => absurd (hkeys.mpr h.1) hmissing⟩

theorem fits_of_ofEntry (h : ofEntry R (.mapping entries) source = .ok r) :
    IsRule R entries ∧ Carries R entries r := by
  obtain ⟨hkeys, hshown, flags, hparse, hdraft⟩ := ofEntry_eq_ok.mp h
  obtain ⟨names, hnames, hknown, hunion⟩ := parseFlags_eq_ok.mp hparse
  obtain ⟨⟨hid, htype, htitle, hwhy, hfix, hsource⟩, hseverity, hcompile, hgate, hlist, hcapture⟩ :=
    (ofDraft_eq_ok rfl).mp hdraft
  simp only [exists_lookup_iff] at hknown
  have hflags : r.pattern.flags = flags := (Readers.eq_of_compile hcompile).2
  have hstr : (entryField entries "id").str = r.id := Value.text.inj hid.1
  have hpattern : entryField entries "pattern" = .text r.pattern.source := hsource.1
  refine ⟨⟨hkeys, ⟨hshown, hstr ▸ hid.2⟩, ?_, ⟨_, by cases r.severity <;> decide, hseverity⟩,
    ⟨names, hnames, hknown⟩, names, flags, r.pattern, hnames, hunion, ?_, ?_⟩,
    ⟨hstr.symm, htype.1, htitle.1, hwhy.1, hfix.1, hseverity, hsource.1,
      ⟨names, flags, hnames, hunion, hflags⟩, hflags ▸ hcompile, hgate, hlist⟩⟩
  · simpa using ⟨⟨_, htype⟩, ⟨_, htitle⟩, ⟨_, hwhy⟩, ⟨_, hfix⟩, ⟨_, hsource⟩⟩
  · rw [hpattern, Value.str_text]
    exact hcompile
  · by_cases hnull : entryField entries "suppress_if_capture_in" = .null
    · exact .inl hnull
    · refine .inr (of_decide_eq_true (hcapture ?_))
      rw [hlist]
      exact optional_isSome_iff.mpr hnull

theorem IsRule.holdsText (h : IsRule R entries) {key s : String}
    (hkey : key ∈ ["type", "title", "why", "fix", "pattern"])
    (hs : entryField entries key = .text s) : HoldsText (entryField entries key) s := by
  obtain ⟨t, ht, hblank⟩ := h.texts key hkey
  obtain rfl : s = t := Value.text.inj (hs ▸ ht)
  exact ⟨hs, hblank⟩

theorem IsRule.pattern_of_names (h : IsRule R entries) {names : List String}
    (hnames : NamesFlags (entryField entries "flags") names) :
    ∃ flags p, parseFlags (entryField entries "flags") = .ok flags ∧ IsUnion names flags ∧
      R.compile (entryField entries "pattern").str flags = .ok p ∧
      (entryField entries "suppress_if_capture_in" = .null ∨ 0 < p.groupCount) := by
  obtain ⟨names₁, hnames₁, hknown⟩ := h.flags
  obtain ⟨names₂, flags, p, hnames₂, hunion, hcompile, hcapture⟩ := h.pattern
  obtain rfl := hnames.unique hnames₁
  obtain rfl := hnames.unique hnames₂
  simp only [← exists_lookup_iff] at hknown
  exact ⟨flags, p, parseFlags_eq_ok.mpr ⟨names, hnames, hknown, hunion⟩, hunion, hcompile, hcapture⟩

theorem IsRule.ofEntry_eq (h : IsRule R entries) (hr : Carries R entries r) :
    ofEntry R (.mapping entries) source = .ok r := by
  obtain ⟨names, _, hnames, hunion', hflags⟩ := hr.flags
  obtain ⟨flags, p, hparse, hunion, hcompile, hcapture⟩ := h.pattern_of_names hnames
  obtain rfl := hunion.unique hunion'
  have hpattern := hr.compiled
  rw [hflags] at hpattern
  rw [hr.source, Value.str_text, hpattern, Except.ok.injEq] at hcompile
  obtain rfl := hcompile
  refine ofEntry_eq_ok.mpr ⟨h.keys, h.id.1, flags, hparse, (ofDraft_eq_ok rfl).mpr ⟨⟨?_,
    h.holdsText (by decide) hr.type, h.holdsText (by decide) hr.title,
    h.holdsText (by decide) hr.why, h.holdsText (by decide) hr.fix,
    h.holdsText (by decide) hr.source⟩, hr.severity, hpattern, hr.gate, hr.allowList,
    fun hlist => ?_⟩⟩
  · exact ⟨by rw [hr.id]; rfl, hr.id ▸ h.id.2⟩
  · rw [hr.allowList, optional_isSome_iff] at hlist
    exact decide_eq_true (hcapture.resolve_left hlist)

theorem IsRule.exists_carries (h : IsRule R entries) : ∃ r, Carries R entries r := by
  obtain ⟨names, hnames, -⟩ := h.flags
  obtain ⟨flags, p, -, hunion, hcompile, -⟩ := h.pattern_of_names hnames
  obtain ⟨type, htype, -⟩ := h.texts "type" (by decide)
  obtain ⟨title, htitle, -⟩ := h.texts "title" (by decide)
  obtain ⟨why, hwhy, -⟩ := h.texts "why" (by decide)
  obtain ⟨fix, hfix, -⟩ := h.texts "fix" (by decide)
  obtain ⟨text, htext, -⟩ := h.texts "pattern" (by decide)
  obtain ⟨name, hname, hseverity⟩ := h.severity
  obtain ⟨l, rfl⟩ := Severity.mem_names.mp hname
  rw [htext, Value.str_text] at hcompile
  obtain ⟨hsource, hflags⟩ := Readers.eq_of_compile hcompile
  exact ⟨{ id := (entryField entries "id").str, type, title, why, fix, severity := l, pattern := p
           gate := optional (entryField entries "requires_context_fact")
           allowList := optional (entryField entries "suppress_if_capture_in") },
    { id := rfl, type := htype, title := htitle, why := hwhy, fix := hfix, severity := hseverity
      source := by rw [hsource, htext], flags := ⟨names, flags, hnames, hunion, hflags⟩
      compiled := by rw [hsource, hflags, hcompile], gate := rfl, allowList := rfl }⟩

/-! ## The names of the flags -/

theorem parseFlags_congr {v w : Value} {names names' : List String} (hv : NamesFlags v names)
    (hw : NamesFlags w names')
    (hsame : ∀ s, s ∈ names.map Text.upper ↔ s ∈ names'.map Text.upper) {flags : Nat}
    (h : parseFlags v = .ok flags) : parseFlags w = .ok flags := by
  obtain ⟨_, hnames, hknown, hunion⟩ := parseFlags_eq_ok.mp h
  obtain rfl := hv.unique hnames
  -- each name of the one list is, in capitals, one of the other list
  have hfind (q : String → Prop) :
      (∃ name ∈ names, q (Text.upper name)) ↔ ∃ name ∈ names', q (Text.upper name) := by
    have hexists := exists_congr fun s => and_congr_left fun _ : q s => hsame s
    simpa using hexists
  refine parseFlags_eq_ok.mpr ⟨names', hw, fun name hname => ?_, fun k => ?_⟩
  · obtain ⟨name₀, hname₀, hupper⟩ :=
      List.mem_map.mp ((hsame _).mpr (List.mem_map_of_mem (f := Text.upper) hname))
    exact hupper ▸ hknown name₀ hname₀
  · rw [hunion k]
    exact hfind fun s => ∃ bits, flagNames.lookup s = some bits ∧ bits.testBit k = true

theorem ofEntry_congr {entries' : List (Value × Value)} {names names' : List String}
    (hfields : ∀ key, key ≠ "flags" → Value.field? key entries = Value.field? key entries')
    (hnames : NamesFlags (entryField entries "flags") names)
    (hnames' : NamesFlags (entryField entries' "flags") names')
    (hsame : ∀ s, s ∈ names.map Text.upper ↔ s ∈ names'.map Text.upper)
    (h : ofEntry R (.mapping entries) source = .ok r) :
    ofEntry R (.mapping entries') source = .ok r := by
  obtain ⟨hkeys, hshown, flags, hparse, hdraft⟩ := ofEntry_eq_ok.mp h
  have hfield (key : String) (hkey : key ≠ "flags") :
      entryField entries key = entryField entries' key := by
    rw [entryField, entryField, hfields key hkey]
  have hsameDraft (id : String) : entryDraft entries id flags = entryDraft entries' id flags := by
    simp only [entryDraft, hfield "type" (by decide), hfield "title" (by decide),
      hfield "why" (by decide), hfield "fix" (by decide), hfield "severity" (by decide),
      hfield "pattern" (by decide), hfield "requires_context_fact" (by decide),
      hfield "suppress_if_capture_in" (by decide)]
  rw [hfield "id" (by decide)] at hshown hdraft
  refine ofEntry_eq_ok.mpr ⟨fun key hkey => ?_, hshown, flags,
    parseFlags_congr hnames hnames' hsame hparse, hsameDraft _ ▸ hdraft⟩
  rw [← hfields key (by rintro rfl; revert hkey; decide)]
  exact hkeys key hkey

/-- An entry becomes a rule exactly if it is a mapping with well-formed fields, and is refused in
every other case. The rule carries the fields of the entry. Its flags are the union of those that
the entry names; naming them in another order, again or in other letters changes nothing. -/
theorem exists_ofEntry_iff (R : Readers) (entry : Value) (source : String) :
    ((∃ r, ofEntry R entry source = .ok r) ↔
        ∃ entries, entry = .mapping entries ∧ IsRule R entries) ∧
      ((∃ e, ofEntry R entry source = .error e) ↔
        ¬ ∃ entries, entry = .mapping entries ∧ IsRule R entries) ∧
      (∀ entries r, entry = .mapping entries → ofEntry R entry source = .ok r →
        Carries R entries r) ∧
      ∀ entries entries' names names', entry = .mapping entries →
        (∀ key, key ≠ "flags" → Value.field? key entries = Value.field? key entries') →
        NamesFlags (entryField entries "flags") names →
        NamesFlags (entryField entries' "flags") names' →
        (∀ s, s ∈ names.map Text.upper ↔ s ∈ names'.map Text.upper) →
        ∀ r, ofEntry R entry source = .ok r ↔ ofEntry R (.mapping entries') source = .ok r := by
  have haccepts : (∃ r, ofEntry R entry source = .ok r) ↔
      ∃ entries, entry = .mapping entries ∧ IsRule R entries := by
    constructor
    · rintro ⟨r, hr⟩
      cases entry with
      | mapping entries => exact ⟨entries, rfl, (fits_of_ofEntry hr).1⟩
      | _ => cases hr
    · rintro ⟨entries, rfl, hrule⟩
      obtain ⟨r, hr⟩ := hrule.exists_carries
      exact ⟨r, hrule.ofEntry_eq hr⟩
  refine ⟨haccepts, ?_, ?_, ?_⟩
  · rw [← haccepts]
    cases ofEntry R entry source <;> simp
  · rintro entries r rfl hr
    exact (fits_of_ofEntry hr).2
  · rintro entries entries' names names' rfl hfields hnames hnames' hsame r
    exact ⟨ofEntry_congr hfields hnames hnames' hsame,
      ofEntry_congr (fun key hkey => (hfields key hkey).symm) hnames' hnames
        fun s => (hsame s).symm⟩

theorem exists_ofEntry_iff_letters :
    let R : Readers := .standard
    let fields : List (Value × Value) :=
      [(.text "id", .null), (.text "type", .text "t"), (.text "title", .text "t"),
        (.text "why", .text "w"), (.text "fix", .text "f"), (.text "severity", .text "Low"),
        (.text "pattern", .text "(a)"), (.text "suppress_if_capture_in", .text "x")]
    let twice : Value := .list [.text "ignorecase", .text "DotAll", .text "IGNORECASE"]
    let once : Value := .list [.text "DOTALL", .text "IgnoreCase"]
    (NamesFlags twice ["ignorecase", "DotAll", "IGNORECASE"] ∧
      NamesFlags once ["DOTALL", "IgnoreCase"]) ∧
      ∃ r, ofEntry R (.mapping ((.text "flags", twice) :: fields)) "a.yml" = .ok r ∧
        ofEntry R (.mapping ((.text "flags", once) :: fields)) "a.yml" = .ok r ∧
        r.id = "None" ∧ r.pattern.flags = 18 ∧ IsRule R ((.text "flags", once) :: fields) := by
  intro R fields twice once
  have htwice : NamesFlags twice ["ignorecase", "DotAll", "IGNORECASE"] := .items rfl rfl
  have honce : NamesFlags once ["DOTALL", "IgnoreCase"] := .items rfl rfl
  have hfields (key : String) (hkey : key ≠ "flags") :
      Value.field? key ((.text "flags", twice) :: fields) =
        Value.field? key ((.text "flags", once) :: fields) := by
    simp [Value.field?, Value.isText_text, Ne.symm hkey]
  have hsame (s : String) : s ∈ ["ignorecase", "DotAll", "IGNORECASE"].map Text.upper ↔
      s ∈ ["DOTALL", "IgnoreCase"].map Text.upper := by
    have hfirst : ["ignorecase", "DotAll", "IGNORECASE"].map Text.upper =
        ["IGNORECASE", "DOTALL", "IGNORECASE"] := by decide +kernel
    have hsecond : ["DOTALL", "IgnoreCase"].map Text.upper = ["DOTALL", "IGNORECASE"] := by
      decide +kernel
    rw [hfirst, hsecond]
    simp only [List.mem_cons, List.not_mem_nil, or_false]
    tauto
  have hbuilt : (ofEntry R (.mapping ((.text "flags", twice) :: fields)) "a.yml").toOption.map
      (fun r => (r.id, r.pattern.flags)) = some ("None", 18) := by
    decide +kernel
  obtain ⟨r, hr, hvalues⟩ := Option.map_eq_some_iff.mp hbuilt
  obtain ⟨hid, hflags⟩ := Prod.mk.inj hvalues
  have hok : ofEntry R (.mapping ((.text "flags", twice) :: fields)) "a.yml" = .ok r := by
    revert hr
    cases ofEntry R (.mapping ((.text "flags", twice) :: fields)) "a.yml" <;> simp [Except.toOption]
  obtain ⟨-, -, -, hnames⟩ :=
    exists_ofEntry_iff R (.mapping ((.text "flags", twice) :: fields)) "a.yml"
  have hagain := (hnames _ _ _ _ rfl hfields htwice honce hsame r).mp hok
  obtain ⟨entries, hentries, hrule⟩ :=
    (exists_ofEntry_iff R (.mapping ((.text "flags", once) :: fields)) "a.yml").1.mp ⟨r, hagain⟩
  cases hentries
  exact ⟨⟨htwice, honce⟩, r, hok, hagain, hid, hflags, hrule⟩

end Rule

end ReactLint
