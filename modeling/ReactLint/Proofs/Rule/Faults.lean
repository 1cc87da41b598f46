import ReactLint.Proofs.Rule
import ReactLint.Rule.Entry

/-!
# Where the faults of an entry come from

An entry of a rule file that is no rule is refused with an error, which a run reports. Some entries
get past these checks and end in a fault instead. For each step from an entry to a rule, the faults
that its input holds are told without reference to the step; a fault of the step is one of them, and
the step does not succeed while its input holds one.
-/

namespace ReactLint

def Failure.fault? : Failure → Option Fault
  | .rule _ => none
  | .fault f => some f

@[simp]
theorem Failure.fault?_orFault (e : RuleError) (f? : Option Fault) :
    (Failure.orFault e f?).fault? = f? := by
  cases f? <;> rfl

/-- The faults that are `held` by an input account for an outcome: a fault of the outcome is among
them, and the outcome is no success if there are any. -/
def Accounts {ε α : Type} (fault? : ε → Option Fault) (held : Fault → Prop) : Except ε α → Prop
  | .ok _ => ∀ f, ¬ held f
  | .error e => ∀ f, fault? e = some f → held f

namespace Accounts

variable {ε α β : Type} {fault? : ε → Option Fault} {held later : Fault → Prop} {x : Except ε α}

theorem congr (h : Accounts fault? held x) (hiff : ∀ f, held f ↔ later f) :
    Accounts fault? later x := by
  cases x with
  | ok a => exact fun f hf => h f ((hiff f).mpr hf)
  | error e => exact fun f hf => (hiff f).mp (h f hf)

theorem or_right (hnone : ∀ f, ¬ held f) (h : Accounts fault? later x) :
    Accounts fault? (fun f => held f ∨ later f) x :=
  h.congr fun f => ⟨.inr, fun hf => hf.resolve_left (hnone f)⟩

theorem bind {next : α → Except ε β} (hx : Accounts fault? held x)
    (hnext : ∀ a, x = .ok a → Accounts fault? later (next a)) :
    Accounts fault? (fun f => held f ∨ later f) (x >>= next) := by
  cases x with
  | ok a => exact or_right hx (hnext a rfl)
  | error e => exact fun f hf => .inl (hx f hf)

theorem bind_result {next : α → Except ε β} {after : α → Fault → Prop}
    (hx : Accounts fault? held x) (hnext : ∀ a, x = .ok a → Accounts fault? (after a) (next a)) :
    Accounts fault? (fun f => held f ∨ ∃ a, x = .ok a ∧ after a f) (x >>= next) :=
  hx.bind fun a ha => (hnext a ha).congr fun f => by simp [ha]

/-- A step that refuses its input with an error at most. -/
theorem bind_of_quiet {next : α → Except ε β} (hx : ∀ e, x = .error e → fault? e = none)
    (hnext : ∀ a, x = .ok a → Accounts fault? later (next a)) :
    Accounts fault? later (x >>= next) := by
  cases x with
  | ok a => exact hnext a rfl
  | error e =>
    intro f hf
    rw [hx e rfl] at hf
    cases hf

theorem bind_quiet {next : α → Except ε β} (hx : Accounts fault? held x)
    (hnext : ∀ a e, next a = .error e → fault? e = none) : Accounts fault? held (x >>= next) := by
  cases x with
  | error e => exact hx
  | ok a =>
    change Accounts fault? held (next a)
    cases hlast : next a with
    | ok b => exact hx
    | error e =>
      intro f hf
      rw [hnext a e hlast] at hf
      cases hf

end Accounts

namespace Rule

inductive FlagsFault (v : Value) : Fault → Prop where
  | notList : v.isTruthy = true → v.elements? = none → FlagsFault v .notIterable
  | notText {names : List Value} {name : Value} : v.isTruthy = true → v.elements? = some names →
      name ∈ names → name.text? = none → FlagsFault v .flagNotText

inductive NameFault (gate list : Value) : Fault → Prop where
  | gate : gate.isKey = false → NameFault gate list .notKey
  | list : list.isKey = false → NameFault gate list .notKey
  | listShown {f : Fault} : list.isKey = true → list.showFault? 0 = some f → NameFault gate list f

section Readers

variable (R : Readers)

inductive FieldFault (severity pattern : Value) (flags : Int) : Fault → Prop where
  | severity {f : Fault} : severity.showFault? R.room = some f →
      FieldFault severity pattern flags f
  | pattern {source : String} {f : Fault} : pattern = .text source →
      R.compile source flags = .error (.fault f) → FieldFault severity pattern flags f

inductive BuildFault (entries : List (Value × Value)) : Fault → Prop where
  | id {f : Fault} : (entryField entries "id").showFault? R.room = some f → BuildFault entries f
  | flags {f : Fault} : FlagsFault (entryField entries "flags") f → BuildFault entries f
  | field {flags : Nat} {f : Fault} : parseFlags (entryField entries "flags") = .ok flags →
      FieldFault R (entryField entries "severity") (entryField entries "pattern") flags f →
      BuildFault entries f

/-- The faults of an entry of a rule file: those of building a rule from it, and those of the names
that the rule is registered with. -/
def EntryFault (entries : List (Value × Value)) (f : Fault) : Prop :=
  BuildFault R entries f ∨
    NameFault (entryField entries "requires_context_fact")
      (entryField entries "suppress_if_capture_in") f

end Readers

theorem accounts_flagBit (name : Value) :
    Accounts Failure.fault? (fun f => name.text? = none ∧ f = .flagNotText) (flagBit name) := by
  cases name with
  | text s =>
    simp only [flagBit]
    split
    · simp [Accounts, Value.text?]
    · simp [Accounts, Failure.fault?]
  | _ => simp [flagBit, Accounts, Failure.fault?, Value.text?, eq_comm]

theorem accounts_unionBits (names : List Value) (n : Nat) :
    Accounts Failure.fault? (fun f => ∃ name ∈ names, name.text? = none ∧ f = .flagNotText)
      (unionBits n names) := by
  induction names generalizing n with
  | nil => simp [unionBits, Accounts]
  | cons name names ih =>
    rw [unionBits]
    exact ((accounts_flagBit name).bind fun bit _ => ih (n ||| bit)).congr fun f => by simp

theorem accounts_parseFlags (v : Value) :
    Accounts Failure.fault? (FlagsFault v) (parseFlags v) := by
  rw [parseFlags]
  split
  · rename_i htrue
    cases hnames : v.elements? with
    | none =>
      intro f hf
      cases hf
      exact .notList htrue hnames
    | some names =>
      refine (accounts_unionBits names 0).congr fun f => ⟨?_, fun hf => ?_⟩
      · rintro ⟨name, hname, htext, rfl⟩
        exact .notText htrue hnames hname htext
      · cases hf with
        | notList _ hnone =>
          rw [hnames] at hnone
          cases hnone
        | notText _ hsome hname htext =>
          rw [hnames] at hsome
          cases hsome
          exact ⟨_, hname, htext, rfl⟩
  · rename_i hfalse
    intro f hf
    cases hf with
    | notList htrue _ => exact hfalse htrue
    | notText htrue _ _ _ => exact hfalse htrue

theorem quiet_required {room : Nat} {d : Draft} {name : String} {v : Value}
    (hlabel : d.labelFault? room = none) (e : Failure) (h : required room d name v = .error e) :
    e.fault? = none := by
  have hrefuse : required.refuse room d name = .error e → e.fault? = none := by
    rw [required.refuse, hlabel]
    rintro ⟨⟩
    rfl
  rw [required] at h
  split at h
  · split at h
    · exact hrefuse h
    · cases h
  · exact hrefuse h

theorem eq_text_of_required {room : Nat} {d : Draft} {name s : String} {v : Value}
    (h : required room d name v = .ok s) : v = .text s := by
  rw [required] at h
  split at h
  · rename_i t ht
    split at h
    · cases h
    · cases h
      cases v <;> cases ht
      rfl
  · cases h

theorem showFault?_of_text? {room : Nat} {v : Value} {s : String} (h : v.text? = some s) :
    v.showFault? room = none := by
  cases v <;> cases h
  rfl

theorem accounts_severityOf (room : Nat) (id : String) (v : Value) :
    Accounts Failure.fault? (fun f => v.showFault? room = some f) (severityOf room id v) := by
  rw [severityOf]
  split
  · rename_i l hl
    obtain ⟨s, hs, -⟩ := Option.bind_eq_some_iff.mp hl
    simp [Accounts, showFault?_of_text? hs]
  · intro f hf
    rwa [Failure.showing, Failure.fault?_orFault] at hf

theorem accounts_compileFor (R : Readers) (id source : String) (flags : Int) :
    Accounts Failure.fault? (fun f => R.compile source flags = .error (.fault f))
      (compileFor R id source flags) := by
  rw [compileFor]
  cases hcompile : R.compile source flags with
  | ok p =>
    intro f hf
    cases hf
  | error e =>
    intro f hf
    rw [Failure.fault?_orFault] at hf
    cases e with
    | malformed => cases hf
    | fault f' =>
      cases hf
      rfl

theorem accounts_ofDraft (R : Readers) {d : Draft} {n : Int} (hid : d.labelFault? R.room = none)
    (hflags : d.flags = .int n) :
    Accounts Failure.fault? (FieldFault R d.severity d.pattern n) (ofDraft R d) := by
  rw [ofDraft]
  -- the texts are refused at most; that the pattern is one is what the rest needs of them
  refine .bind_of_quiet (quiet_required hid) fun id _ => ?_
  refine .bind_of_quiet (quiet_required hid) fun type _ => ?_
  refine .bind_of_quiet (quiet_required hid) fun title _ => ?_
  refine .bind_of_quiet (quiet_required hid) fun why _ => ?_
  refine .bind_of_quiet (quiet_required hid) fun fix _ => ?_
  refine .bind_of_quiet (quiet_required hid) fun source hsource => ?_
  have hpattern := eq_text_of_required hsource
  rw [hflags, hpattern]
  refine ((accounts_severityOf R.room id d.severity).bind fun severity _ =>
    (accounts_compileFor R id source n).bind_quiet fun pattern e he => ?_).congr
      fun f => ⟨?_, fun hf => ?_⟩
  · dsimp only at he
    split at he
    · cases he
      rfl
    · cases he
  · rintro (hshown | hf)
    · exact .severity hshown
    · exact .pattern rfl hf
  · cases hf with
    | severity hshown => exact .inl hshown
    | pattern htext hf =>
      cases htext
      exact .inr hf

theorem accounts_entryId (room : Nat) (v : Value) :
    Accounts Failure.fault? (fun f => v.showFault? room = some f) (entryId room v) := by
  rw [entryId]
  split
  · rename_i hshown
    simp [Accounts, hshown]
  · rename_i f hshown
    intro f' hf
    cases hf
    exact hshown

theorem labelFault?_entryDraft (room : Nat) (entries : List (Value × Value)) (id : String)
    (flags : Nat) : (entryDraft entries id flags).labelFault? room = none := by
  rw [Draft.labelFault?, entryDraft]
  split <;> rfl

theorem accounts_ofEntry (R : Readers) (entries : List (Value × Value)) (source : String) :
    Accounts Failure.fault? (BuildFault R entries) (ofEntry R (.mapping entries) source) := by
  have hdraft (id : String) (flags : Nat) : Accounts Failure.fault?
      (FieldFault R (entryField entries "severity") (entryField entries "pattern") flags)
      (ofDraft R (entryDraft entries id flags)) :=
    accounts_ofDraft R (labelFault?_entryDraft R.room entries id flags) rfl
  simp only [ofEntry]
  split
  · refine ((accounts_entryId R.room _).bind fun id _ => (accounts_parseFlags _).bind_result
      fun flags _ => hdraft id flags).congr fun f => ⟨?_, fun hf => ?_⟩
    · rintro (hshown | hf | ⟨n, hn, hf⟩)
      · exact .id hshown
      · exact .flags hf
      · exact .field hn hf
    · cases hf with
      | id hshown => exact .inl hshown
      | flags hf => exact .inr (.inl hf)
      | field hn hf => exact .inr (.inr ⟨_, hn, hf⟩)
  · intro f hf
    rw [Failure.showing, Failure.fault?_orFault] at hf
    exact .id hf

theorem eq_null_of_optional {v : Value} (h : optional v = none) : v = .null := by
  cases v with
  | null => rfl
  | _ => cases h

theorem eq_of_optional {v w : Value} (h : optional v = some w) : v = w := by
  cases v with
  | null => cases h
  | _ => exact Option.some.inj h

theorem names_ofEntry {R : Readers} {entries : List (Value × Value)} {source : String} {r : Rule}
    (h : ofEntry R (.mapping entries) source = .ok r) :
    r.gate = optional (entryField entries "requires_context_fact") ∧
      r.allowList = optional (entryField entries "suppress_if_capture_in") := by
  simp only [ofEntry] at h
  split at h
  · obtain ⟨id, -, h⟩ := bind_eq_ok.mp h
    obtain ⟨flags, -, h⟩ := bind_eq_ok.mp h
    obtain ⟨hgate, hlist, -⟩ := names_ofDraft h
    exact ⟨hgate, hlist⟩
  · cases h

end Rule

end ReactLint
