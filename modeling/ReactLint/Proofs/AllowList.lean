import ReactLint.Proofs.Registry.History

/-!
# What is on the allow-lists

The lists after any number of extensions: under a name stand the values that stood there before and
those that some extension gives for the name, and a name is known when it was known before or some
extension mentions it. So neither the order of the extensions matters, nor how the values are spread
over them, nor whether one is repeated.
-/

namespace ReactLint

namespace Value

theorem text_sameKey (s : String) (v : Value) : (Value.text s).sameKey v = v.isText s := by
  cases v with
  | text u =>
    rw [sameKey, isText_text, Bool.eq_iff_iff, beq_iff_eq, beq_iff_eq]
    exact eq_comm
  | float x => cases hx : x.toInt? <;> simp [sameKey, isText, text?, int?, hx]
  | _ => rfl

theorem sameKey_text (v : Value) (s : String) : v.sameKey (.text s) = v.isText s := by
  cases v with
  | text u => simp [sameKey, isText, text?]
  | float x => cases hx : x.toInt? <;> simp [sameKey, isText, text?, int?, hx]
  | _ => simp [sameKey, isText, text?, int?]

theorem isText_iff {v : Value} {s : String} : v.isText s = true ↔ v = .text s := by
  cases v <;> simp [isText, text?]

end Value

namespace AllowLists

variable {lists : AllowLists} {v : Value}

theorem mem_addMembers_texts {members : List Value} {values : List String} :
    v ∈ addMembers members (values.map .text) ↔ v ∈ members ∨ ∃ s ∈ values, v = .text s := by
  induction values generalizing members with
  | nil => simp [addMembers]
  | cons s values ih =>
    rw [List.map_cons, addMembers, ih]
    split
    · rename_i hknown
      obtain ⟨known, hmem, hsame⟩ := List.any_eq_true.mp hknown
      rw [Value.sameKey_text, Value.isText_iff] at hsame
      rw [hsame] at hmem
      constructor
      · rintro (hv | ⟨u, hu, rfl⟩)
        · exact .inl hv
        · exact .inr ⟨u, List.mem_cons_of_mem s hu, rfl⟩
      · rintro (hv | ⟨u, hu, rfl⟩)
        · exact .inl hv
        · rcases List.mem_cons.mp hu with rfl | hu
          · exact .inl hmem
          · exact .inr ⟨u, hu, rfl⟩
    · simp [or_assoc]

theorem find?_extend_text (name : String) (values : List Value) (lists : AllowLists)
    (other : Value) :
    (lists.extend (.text name) values).find? other =
      if other.isText name then some (addMembers ((lists.find? other).getD []) values)
      else lists.find? other := by
  induction lists with
  | nil => simp only [extend, find?, Value.text_sameKey, Option.getD_none]
  | cons entry rest ih =>
    obtain ⟨n, members⟩ := entry
    rw [extend_cons, Value.sameKey_text]
    by_cases hn : n.isText name = true
    · rw [if_pos hn, find?_cons, find?_cons, Value.isText_iff.mp hn, Value.text_sameKey]
      split <;> rfl
    · rw [if_neg hn, find?_cons, find?_cons, ih]
      by_cases hother : n.sameKey other = true
      · have hne : ¬ other.isText name = true := fun htext => by
          rw [Value.isText_iff.mp htext, Value.sameKey_text] at hother
          exact hn hother
        rw [if_pos hother, if_pos hother, if_neg hne]
      · rw [if_neg hother, if_neg hother]

theorem isSome_find?_extend_text (name : String) (values : List Value) (lists : AllowLists)
    (other : Value) :
    ((lists.extend (.text name) values).find? other).isSome = true ↔
      (lists.find? other).isSome = true ∨ other = .text name := by
  rw [find?_extend_text]
  by_cases hname : other.isText name = true
  · rw [if_pos hname]
    simp [Value.isText_iff.mp hname]
  · have hne : other ≠ .text name := fun heq => hname (Value.isText_iff.mpr heq)
    simp [hname, hne]

theorem mem_find?_extend_text (name : String) (values : List String) (lists : AllowLists)
    (other : Value) :
    v ∈ ((lists.extend (.text name) (values.map .text)).find? other).getD [] ↔
      v ∈ (lists.find? other).getD [] ∨ other = .text name ∧ ∃ s ∈ values, v = .text s := by
  rw [find?_extend_text]
  by_cases hname : other.isText name = true
  · rw [if_pos hname, Option.getD_some, mem_addMembers_texts]
    simp [Value.isText_iff.mp hname]
  · have hne : other ≠ .text name := fun heq => hname (Value.isText_iff.mpr heq)
    simp [hname, hne]

def extendAll (calls : List (String × List String)) (lists : AllowLists) : AllowLists :=
  calls.foldl (fun ls (name, values) => ls.extend (.text name) (values.map .text)) lists

theorem extendAll_cons (call : String × List String) (calls : List (String × List String))
    (lists : AllowLists) :
    lists.extendAll (call :: calls) =
      (lists.extend (.text call.1) (call.2.map .text)).extendAll calls := rfl

theorem isSome_find?_extendAll (calls : List (String × List String)) (lists : AllowLists)
    (other : Value) :
    ((lists.extendAll calls).find? other).isSome = true ↔
      (lists.find? other).isSome = true ∨ ∃ call ∈ calls, other = .text call.1 := by
  induction calls generalizing lists with
  | nil => simp [extendAll]
  | cons call calls ih =>
    rw [extendAll_cons, ih, isSome_find?_extend_text]
    simp [or_assoc]

theorem mem_find?_extendAll (calls : List (String × List String)) (lists : AllowLists)
    (other : Value) :
    v ∈ ((lists.extendAll calls).find? other).getD [] ↔
      v ∈ (lists.find? other).getD [] ∨
        ∃ call ∈ calls, other = .text call.1 ∧ ∃ s ∈ call.2, v = .text s := by
  induction calls generalizing lists with
  | nil => simp [extendAll]
  | cons call calls ih =>
    rw [extendAll_cons, ih, mem_find?_extend_text]
    simp [or_assoc]

structure SameSets (a b : AllowLists) : Prop where
  names : ∀ name, (a.find? name).isSome = (b.find? name).isSome
  members : ∀ name v, v ∈ (a.find? name).getD [] ↔ v ∈ (b.find? name).getD []

/-- Only the names and the pairs of a name and a value that extensions mention count. -/
theorem sameSets_extendAll {calls calls' : List (String × List String)}
    (hnames : ∀ name, (∃ call ∈ calls, call.1 = name) ↔ ∃ call ∈ calls', call.1 = name)
    (hpairs : ∀ name s, (∃ call ∈ calls, call.1 = name ∧ s ∈ call.2) ↔
      ∃ call ∈ calls', call.1 = name ∧ s ∈ call.2) :
    (lists.extendAll calls).SameSets (lists.extendAll calls') := by
  have hnamed (calls : List (String × List String)) (other : Value) :
      (∃ call ∈ calls, other = .text call.1) ↔
        ∃ name, other = .text name ∧ ∃ call ∈ calls, call.1 = name := by
    constructor
    · rintro ⟨call, hcall, rfl⟩
      exact ⟨call.1, rfl, call, hcall, rfl⟩
    · rintro ⟨_, rfl, call, hcall, rfl⟩
      exact ⟨call, hcall, rfl⟩
  have hpaired (calls : List (String × List String)) (other v : Value) :
      (∃ call ∈ calls, other = .text call.1 ∧ ∃ s ∈ call.2, v = .text s) ↔
        ∃ name s, other = .text name ∧ v = .text s ∧
          ∃ call ∈ calls, call.1 = name ∧ s ∈ call.2 := by
    constructor
    · rintro ⟨call, hcall, rfl, s, hs, rfl⟩
      exact ⟨call.1, s, rfl, rfl, call, hcall, rfl, hs⟩
    · rintro ⟨_, s, rfl, rfl, call, hcall, rfl, hs⟩
      exact ⟨call, hcall, rfl, s, hs, rfl⟩
  constructor
  · intro other
    rw [Bool.eq_iff_iff, isSome_find?_extendAll, isSome_find?_extendAll, hnamed, hnamed]
    simp only [hnames]
  · intro other v
    rw [mem_find?_extendAll, mem_find?_extendAll, hpaired, hpaired]
    simp only [hpairs]

end AllowLists

end ReactLint
