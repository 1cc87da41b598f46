import ReactLint.Catalog.Basic
import ReactLint.Reader.Standard
import ReactLint.Rule.Basic

/-!
# Rules that pass their checks

A rule comes into being only through the checks of its fields. What these leave of interest to the
rest of the library is that a rule with an allow-list has a group to look up in it. The rules of the
catalog are written down with the expression that their pattern stands for; they pass the same
checks.
-/

namespace ReactLint

theorem bind_eq_ok {ε α β : Type} {x : Except ε α} {f : α → Except ε β} {b : β} :
    (x >>= f) = .ok b ↔ ∃ a, x = .ok a ∧ f a = .ok b := by
  cases x with
  | ok a => simp [bind, Except.bind]
  | error e => simp [bind, Except.bind]

section MapError

variable {ε ε' α : Type} {f : ε → ε'}

@[simp]
theorem mapError_ok (a : α) : (Except.ok a).mapError f = .ok a := rfl

@[simp]
theorem mapError_error (e : ε) : (.error e : Except ε α).mapError f = .error (f e) := rfl

theorem mapError_eq_ok {x : Except ε α} {a : α} : x.mapError f = .ok a ↔ x = .ok a := by
  cases x <;> simp

end MapError

namespace Rule

theorem names_ofDraft {R : Readers} {d : Draft} {r : Rule} (h : ofDraft R d = .ok r) :
    r.gate = optional d.gate ∧ r.allowList = optional d.allowList ∧
      (r.allowList.isSome = true → r.hasCapture = true) := by
  simp only [ofDraft] at h
  obtain ⟨id, -, h⟩ := bind_eq_ok.mp h
  obtain ⟨type, -, h⟩ := bind_eq_ok.mp h
  obtain ⟨title, -, h⟩ := bind_eq_ok.mp h
  obtain ⟨why, -, h⟩ := bind_eq_ok.mp h
  obtain ⟨fix, -, h⟩ := bind_eq_ok.mp h
  obtain ⟨source, -, h⟩ := bind_eq_ok.mp h
  obtain ⟨severity, -, h⟩ := bind_eq_ok.mp h
  obtain ⟨flags, -, h⟩ := bind_eq_ok.mp h
  obtain ⟨pattern, -, h⟩ := bind_eq_ok.mp h
  split at h
  · cases h
  · rename_i hcapture
    cases h
    exact ⟨rfl, rfl, fun hlist => by simpa [hlist, Rule.hasCapture] using hcapture⟩

/-- Whether a rule is the outcome of checking some fields, whatever reads the pattern. -/
def IsBuilt (r : Rule) : Prop := ∃ R d, ofDraft R d = .ok r

theorem IsBuilt.hasCapture {r : Rule} (h : r.IsBuilt) (hlist : r.allowList.isSome = true) :
    r.hasCapture = true := by
  obtain ⟨R, d, hd⟩ := h
  exact (names_ofDraft hd).2.2 hlist

def draft (r : Rule) : Draft where
  id := .text r.id
  type := .text r.type
  title := .text r.title
  why := .text r.why
  fix := .text r.fix
  severity := .text r.severity.name
  pattern := .text r.pattern.source
  flags := .int r.pattern.flags
  gate := r.gate.getD .null
  allowList := r.allowList.getD .null

theorem required_text {room : Nat} {d : Draft} {name s : String}
    (h : Text.isBlankText s = false) : required room d name (.text s) = .ok s := by
  simp [required, Value.text?, h]

theorem severityOf_name (room : Nat) (id : String) (l : Severity) :
    severityOf room id (.text l.name) = .ok l := by
  simp [severityOf, Value.text?, Severity.ofName?_name]

theorem compileFor_source {R : Readers} {id : String} {p : Pattern}
    (h : R.compile p.source p.flags = .ok p) : compileFor R id p.source p.flags = .ok p := by
  rw [compileFor, h]
  rfl

theorem isBuilt_of_compile {R : Readers} {r : Rule}
    (hid : Text.isBlankText r.id = false) (htype : Text.isBlankText r.type = false)
    (htitle : Text.isBlankText r.title = false) (hwhy : Text.isBlankText r.why = false)
    (hfix : Text.isBlankText r.fix = false)
    (hsource : Text.isBlankText r.pattern.source = false)
    (hcompile : R.compile r.pattern.source r.pattern.flags = .ok r.pattern)
    (hgate : optional (r.gate.getD .null) = r.gate)
    (hlist : optional (r.allowList.getD .null) = r.allowList)
    (hcapture : (r.allowList.isSome && !r.pattern.hasCapture) = false) : r.IsBuilt := by
  refine ⟨R, r.draft, ?_⟩
  simp only [ofDraft, draft, required_text hid, required_text htype, required_text htitle,
    required_text hwhy, required_text hfix, required_text hsource, severityOf_name, flagsOf,
    Value.int?, compileFor_source hcompile, hgate, hlist, hcapture, bind, Except.bind, pure,
    Except.pure, Bool.false_eq_true, if_false]

end Rule

namespace Text

theorem nonblank {c : Char} {cs : List Char} (h : isBlank c = false) :
    isBlankText (String.ofList (c :: cs)) = false := by
  simp [isBlankText, h]

theorem nonblank_append {s t : String} (h : isBlankText s = false) :
    isBlankText (s ++ t) = false := by
  simp only [isBlankText, String.toList_append, List.all_append, Bool.and_eq_false_iff] at h ⊢
  exact .inl h

end Text

/-- The patterns of the rules are what their sources compile to. -/
theorem Catalog.compile_rules : ∀ r ∈ rules,
    Readers.standard.compile r.pattern.source r.pattern.flags = .ok r.pattern := by decide +kernel

open Text in
theorem Catalog.isBuilt_of_mem {r : Rule} (h : r ∈ rules) : r.IsBuilt := by
  have hcompile := compile_rules r h
  simp only [rules, List.mem_cons, List.not_mem_nil, or_false] at h
  -- the checks are given piece by piece: whole texts are too long to be evaluated
  rcases h with rfl | rfl | rfl | rfl | rfl | rfl | rfl | rfl | rfl | rfl | rfl
  · exact Rule.isBuilt_of_compile (nonblank rfl) (nonblank rfl) (nonblank rfl)
      (nonblank_append (nonblank_append (nonblank rfl))) (nonblank_append (nonblank rfl))
      (nonblank rfl) hcompile rfl rfl rfl
  · exact Rule.isBuilt_of_compile (nonblank rfl) (nonblank rfl) (nonblank rfl)
      (nonblank_append (nonblank_append (nonblank rfl))) (nonblank_append (nonblank rfl))
      (nonblank rfl) hcompile rfl rfl rfl
  · exact Rule.isBuilt_of_compile (nonblank rfl) (nonblank rfl) (nonblank rfl)
      (nonblank_append (nonblank_append (nonblank rfl)))
      (nonblank_append (nonblank_append (nonblank rfl))) (nonblank rfl) hcompile
      rfl rfl rfl
  · exact Rule.isBuilt_of_compile (nonblank rfl) (nonblank rfl) (nonblank rfl)
      (nonblank_append (nonblank_append (nonblank rfl))) (nonblank_append (nonblank rfl))
      (nonblank rfl) hcompile rfl rfl rfl
  · exact Rule.isBuilt_of_compile (nonblank rfl) (nonblank rfl) (nonblank rfl)
      (nonblank_append (nonblank_append (nonblank rfl))) (nonblank_append (nonblank rfl))
      (nonblank rfl) hcompile rfl rfl rfl
  · exact Rule.isBuilt_of_compile (nonblank rfl) (nonblank rfl) (nonblank rfl)
      (nonblank_append (nonblank_append (nonblank rfl))) (nonblank_append (nonblank rfl))
      (nonblank rfl) hcompile rfl rfl rfl
  · exact Rule.isBuilt_of_compile (nonblank rfl) (nonblank rfl) (nonblank rfl)
      (nonblank_append (nonblank_append (nonblank rfl))) (nonblank_append (nonblank rfl))
      (nonblank rfl) hcompile rfl rfl rfl
  · exact Rule.isBuilt_of_compile (nonblank rfl) (nonblank rfl) (nonblank rfl)
      (nonblank_append (nonblank rfl)) (nonblank_append (nonblank rfl)) (nonblank rfl)
      hcompile rfl rfl rfl
  · exact Rule.isBuilt_of_compile (nonblank rfl) (nonblank rfl) (nonblank rfl)
      (nonblank_append (nonblank_append (nonblank rfl))) (nonblank rfl) (nonblank rfl)
      hcompile rfl rfl rfl
  · exact Rule.isBuilt_of_compile (nonblank rfl) (nonblank rfl) (nonblank rfl)
      (nonblank_append (nonblank_append (nonblank rfl))) (nonblank_append (nonblank rfl))
      (nonblank rfl) hcompile rfl rfl rfl
  · exact Rule.isBuilt_of_compile (nonblank rfl) (nonblank rfl) (nonblank rfl)
      (nonblank_append (nonblank rfl)) (nonblank rfl) (nonblank rfl) hcompile rfl rfl rfl

end ReactLint
