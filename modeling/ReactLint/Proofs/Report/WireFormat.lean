import ReactLint.Proofs.Json.Writing
import ReactLint.Report.Sarif

/-!
# The texts of a report

The JSON text and the SARIF text of a report carry its JSON form and its SARIF form, whatever the
fields of the report hold. Only numbers with too many digits keep a report from having these texts.
The JSON text tells two reports apart unless they differ only in what is not written: the texts of
the first groups, the number and the list of issues of an error, the reason of what is no error.
-/

namespace ReactLint

open Json

namespace Issue

/-- The issue as it is written: the text of the first group is left out. -/
def withoutCapture (i : Issue) : Issue :=
  { i with occurrence := { i.occurrence with capture := none } }

theorem toJson_eq_iff (i k : Issue) :
    i.toJson = k.toJson ↔ i.withoutCapture = k.withoutCapture := by
  rcases i with ⟨_, _, _, _, _, _, ⟨_, _, _, _, _⟩⟩
  rcases k with ⟨_, _, _, _, _, _, ⟨_, _, _, _, _⟩⟩
  simp [toJson, withoutCapture]

theorem map_toJson_eq_iff (is ks : List Issue) :
    is.map toJson = ks.map toJson ↔ is.map withoutCapture = ks.map withoutCapture := by
  induction is generalizing ks with
  | nil => cases ks <;> simp
  | cons i is ih => cases ks <;> simp [toJson_eq_iff, ih]

end Issue

theorem Status.name_inj (s t : Status) : s.name = t.name ↔ s = t := by
  cases s <;> cases t <;> decide

namespace Report.Fields

def Agree (f g : Fields) : Prop :=
  f.timestamp = g.timestamp ∧ f.status = g.status ∧
    if f.status = .error then f.error? = g.error?
    else f.total = g.total ∧ f.issues.map Issue.withoutCapture = g.issues.map Issue.withoutCapture

theorem errorJson_inj (f g : Fields) : f.errorJson = g.errorJson ↔ f.error? = g.error? := by
  unfold errorJson
  cases f.error? <;> cases g.error? <;> simp

theorem toJson_eq_iff (f g : Fields) : f.toJson = g.toJson ↔ f.Agree g := by
  by_cases hf : f.status = .error
  · by_cases hg : g.status = .error
    · simp [toJson, Agree, hf, hg, errorJson_inj]
    · simp [toJson, Agree, hf, hg, Ne.symm hg]
  · by_cases hg : g.status = .error
    · simp [toJson, Agree, hf, hg]
    · simp [toJson, Agree, hf, hg, Status.name_inj, Issue.map_toJson_eq_iff]

theorem itemsAll_map {α : Type} (test : Json → Bool) (g : α → Json) (l : List α) :
    itemsAll test (l.map g) = l.all fun a => leavesAll test (g a) := by
  induction l with
  | nil => rfl
  | cons a l ih => rw [List.map_cons, itemsAll, ih, List.all_cons]

def ShortJson (f : Fields) : Prop :=
  f.status = .error ∨ Text.isShort f.total = true ∧ ∀ i ∈ f.issues,
    Text.isShort i.occurrence.line = true ∧ Text.isShort i.occurrence.start = true ∧
      Text.isShort i.occurrence.stop = true

def ShortSarif (f : Fields) : Prop :=
  ∀ i ∈ f.issues, Text.isShort i.occurrence.line = true ∧
    Text.isShort i.occurrence.start = true ∧
      Text.isShort (i.occurrence.stop - i.occurrence.start) = true

theorem leavesAll_errorJson {test : Json → Bool} (hnull : test .null = true)
    (htext : ∀ s, test (.text s) = true) (f : Fields) : leavesAll test f.errorJson = true := by
  unfold errorJson
  cases f.error? with
  | none => exact hnull
  | some s => exact htext s

theorem isExact_toJson (f : Fields) : leavesAll isExact f.toJson = true := by
  have herror : leavesAll isExact f.errorJson = true := leavesAll_errorJson rfl (fun _ => rfl) f
  have hissue (i : Issue) : leavesAll isExact i.toJson = true := rfl
  rw [toJson]
  split
  · simp [leavesAll, membersAll, isExact, herror]
  · simp [leavesAll, membersAll, isExact, itemsAll_map, hissue]

theorem isShort_toJson (f : Fields) : leavesAll isShort f.toJson = true ↔ f.ShortJson := by
  have herror : leavesAll isShort f.errorJson = true := leavesAll_errorJson rfl (fun _ => rfl) f
  rw [toJson, ShortJson]
  split
  · rename_i hstatus
    simp [leavesAll, membersAll, isShort, herror, hstatus]
  · rename_i hstatus
    simp [leavesAll, membersAll, isShort, itemsAll_map, Issue.toJson, hstatus]

theorem isExact_toSarif (f : Fields) (uri : String) :
    leavesAll isExact (f.toSarif uri) = true := by
  have herror : leavesAll isExact f.errorJson = true := leavesAll_errorJson rfl (fun _ => rfl) f
  have hrule (i : Issue) : leavesAll isExact (Sarif.ruleJson i) = true := rfl
  have hresult (i : Issue) : leavesAll isExact (Sarif.resultJson uri i) = true := rfl
  rw [toSarif]
  split <;> simp [leavesAll, membersAll, itemsAll, isExact, itemsAll_map, hrule, hresult,
    Sarif.failureJson, herror]

theorem isShort_toSarif (f : Fields) (uri : String) :
    leavesAll isShort (f.toSarif uri) = true ↔ f.ShortSarif := by
  have herror : leavesAll isShort f.errorJson = true := leavesAll_errorJson rfl (fun _ => rfl) f
  have hrule (i : Issue) : leavesAll isShort (Sarif.ruleJson i) = true := rfl
  have hresult (i : Issue) : leavesAll isShort (Sarif.resultJson uri i) =
      (Text.isShort i.occurrence.line && (Text.isShort i.occurrence.start &&
        Text.isShort (i.occurrence.stop - i.occurrence.start))) := by
    simp [Sarif.resultJson, Sarif.text, leavesAll, membersAll, itemsAll, isShort]
  rw [toSarif, ShortSarif]
  split <;> simp [leavesAll, membersAll, itemsAll, isShort, itemsAll_map, hrule, hresult,
    Sarif.failureJson, herror]

/-- A report has its texts exactly if the numbers in them can be written. Both can be read back, and
the JSON text tells apart what it shows. -/
theorem texts_carry (f : Fields) :
    ((∃ s, f.checkJsonText = .ok s) ↔ f.ShortJson) ∧
    (∀ s, f.checkJsonText = .ok s → Carries s f.toJson) ∧
    (∀ uri, ((∃ s, f.checkSarifText uri = .ok s) ↔ f.ShortSarif) ∧
      ∀ s, f.checkSarifText uri = .ok s → Carries s (f.toSarif uri)) ∧
    ∀ g s t, f.checkJsonText = .ok s → g.checkJsonText = .ok t → (s = t ↔ f.Agree g) := by
  refine ⟨?_, fun s hs => ?_, fun uri => ⟨?_, fun s hs => ?_⟩, fun g s t hs ht => ?_⟩
  · rw [← isShort_toJson]
    exact exists_write_iff
  · exact carries_of_write (isExact_toJson f) hs
  · rw [← isShort_toSarif f uri]
    exact exists_write_iff
  · exact carries_of_write (isExact_toSarif f uri) hs
  · rw [← toJson_eq_iff]
    exact write_inj (isExact_toJson f) (isExact_toJson g) hs ht

/-- The largest number that can be written is too far from the smallest one. -/
theorem isShort_largest {n : Int} (h : n + 1 = (10 ^ Text.digitLimit : Nat)) :
    Text.isShort (-n) = true ∧ Text.isShort n = true ∧ Text.isShort (n - -n) = false := by
  have hbound : 10 ≤ 10 ^ Text.digitLimit := Nat.le_self_pow (by decide) 10
  simp only [Text.isShort, Nat.pow_eq, decide_eq_true_eq, decide_eq_false_iff_not]
  generalize 10 ^ Text.digitLimit = bound at h hbound ⊢
  omega

/-- Two offsets that can be written, but whose distance cannot. -/
theorem checkSarifText_wide :
    let n : Int := (10 ^ Text.digitLimit : Nat) - 1
    let span : Occurrence := { line := 1, snippet := "x", start := -n, stop := n }
    Text.isShort span.start = true ∧ Text.isShort span.stop = true ∧
      Fields.checkSarifText
        { timestamp := "2025-01-31T12:00:00.000Z", status := .issuesFound, total := 1
          issues? := some [⟨"C001", "type", "title", "why", "fix", "Low", span⟩] } "<stdin>" =
        .error .tooManyDigits := by
  intro n span
  obtain ⟨hstart, hstop, hspan⟩ := isShort_largest (n := n) (Int.sub_add_cancel _ 1)
  refine ⟨hstart, hstop, ?_⟩
  rw [checkSarifText, write, if_neg]
  rw [isShort_toSarif]
  intro hshort
  have hdistance := (hshort _ List.mem_cons_self).2.2
  rw [hspan] at hdistance
  cases hdistance

end Report.Fields

end ReactLint
