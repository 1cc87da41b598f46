import ReactLint.Context
import ReactLint.Proofs.Matching.Language

/-!
# The fact on `memo`

A text wraps something in `memo` if it calls a word that begins with these four letters, with a
boundary of words in front of it and blanks at most behind it. What stands in front of the boundary
does not matter; so a text that goes on keeps the fact, and the optional `React.` decides nothing:
its dot is no word character.
-/

namespace ReactLint

open scoped Computability

variable {t : Array Char} {code : List Char} {p : Nat} {c : Char}

namespace Text

/-- The character in front of an offset, if there is one, is no word character. -/
def IsWordStart (code : List Char) (p : Nat) : Prop :=
  p = 0 ∨ ∃ c, code[p - 1]? = some c ∧ isWord c = false

theorem exists_blanks_prefix_iff (hc : isBlank c = false) :
    (∃ bs ∈ Shape.blanks, bs ++ [c] <+: code) ↔ (code.dropWhile isBlank).head? = some c := by
  constructor
  · rintro ⟨bs, hbs, rest, rfl⟩
    rw [List.append_assoc, List.dropWhile_append_of_pos hbs]
    simp [hc]
  · intro hhead
    obtain ⟨rest, hrest⟩ := List.head?_eq_some_iff.mp hhead
    refine ⟨code.takeWhile isBlank, List.all_eq_true.mp List.all_takeWhile, rest, ?_⟩
    rw [List.append_assoc, List.singleton_append, ← hrest, List.takeWhile_append_dropWhile]

/-- The word `memo` begins at an offset, and the first character behind it that is no blank opens a
parenthesis. -/
structure CallsMemoAt (code : List Char) (p : Nat) : Prop where
  word : (code.drop p).take 4 = "memo".toList
  start : IsWordStart code p
  call : ((code.drop (p + 4)).dropWhile isBlank).head? = some '('

def memoCalls : Language Char := Shape.word "memo" * (Shape.blanks * Shape.word "(")

theorem callsMemoAt_iff :
    CallsMemoAt t.toList p ↔ IsWordStart t.toList p ∧ ∃ cs ∈ memoCalls, Stands t p cs := by
  have hword : Stands t p "memo".toList ↔ (t.toList.drop p).take 4 = "memo".toList := by
    rw [Stands, List.prefix_iff_eq_take, eq_comm]
    rfl
  constructor
  · intro h
    obtain ⟨bs, hbs, hcall⟩ := (exists_blanks_prefix_iff (by decide)).mpr h.call
    exact ⟨h.start, _, Language.append_mem_mul rfl (Language.append_mem_mul hbs rfl),
      stands_append.mpr ⟨hword.mpr h.word, hcall⟩⟩
  · rintro ⟨hstart, _, ⟨_, rfl, _, ⟨bs, hbs, _, rfl, rfl⟩, rfl⟩, hstands⟩
    obtain ⟨hmemo, hcall⟩ := stands_append.mp hstands
    exact ⟨hword.mp hmemo, hstart, (exists_blanks_prefix_iff (by decide)).mp ⟨bs, hbs, hcall⟩⟩

theorem IsWordStart.append (h : IsWordStart code p) (more : List Char) :
    IsWordStart (code ++ more) p := by
  refine h.imp_right ?_
  rintro ⟨c, hc, hword⟩
  exact ⟨c, (List.getElem?_append_left (List.getElem?_eq_some_iff.mp hc).1).trans hc, hword⟩

theorem CallsMemoAt.append (h : CallsMemoAt code p) (more : List Char) :
    CallsMemoAt (code ++ more) p := by
  obtain ⟨hstart, cs, hcs, hstands⟩ := (callsMemoAt_iff (t := code.toArray)).mp h
  refine (callsMemoAt_iff (t := (code ++ more).toArray)).mpr ⟨hstart.append more, cs, hcs, ?_⟩
  rw [Stands, List.drop_append]
  exact List.IsPrefix.trans hstands (List.prefix_append _ _)

end Text

namespace Regex

theorem anchored_iff_isWordStart (hc : t[p]? = some c) (hword : Text.isWord c = true) :
    anchored t p (.boundary false false) = true ↔ Text.IsWordStart t.toList p := by
  have hlt : p < t.size := (Array.getElem?_eq_some_iff.mp hc).1
  have hat : isWordAt t false p = true := by
    rw [isWordAt, hc]
    exact hword
  have hbefore : isWordAt t false (p - 1) = false ↔
      ∃ d, t.toList[p - 1]? = some d ∧ Text.isWord d = false := by
    have hinside : p - 1 < t.size := by omega
    rw [isWordAt, Array.getElem?_toList, Array.getElem?_eq_getElem hinside]
    simp [CharKind.holds]
  rw [Text.IsWordStart, ← hbefore]
  simp [anchored, hat, Nat.ne_zero_of_lt hlt]

theorem isSome_search_anchor {a : Anchor} {rs : List Regex} (h : (Regex.ofList rs).isPlain = true) :
    ((Regex.ofList (.anchor a :: rs)).search t 0).isSome = true ↔ ∃ p ≤ t.size,
      anchored t p a = true ∧ ∃ cs ∈ (Regex.ofList rs).language, Stands t p cs := by
  have hreaches (p : Nat) : (∃ s', Reaches t (.ofList (.anchor a :: rs)) (.start p) s') ↔
      anchored t p a = true ∧ ∃ cs ∈ (Regex.ofList rs).language, Stands t p cs := by
    simp only [reaches_ofList_cons, Reaches, takes_language h _ _]
    constructor
    · rintro ⟨_, _, ⟨ha, rfl⟩, cs, hcs, hstands, rfl⟩
      exact ⟨ha, cs, hcs, hstands⟩
    · rintro ⟨ha, cs, hcs, hstands⟩
      exact ⟨_, _, ⟨ha, rfl⟩, cs, hcs, hstands, rfl⟩
  simp only [isSome_search_iff, hreaches]

def plainMemoCall : Regex :=
  .ofList (.anchor (.boundary false false) :: (word "memo" ++ blanks :: word "("))

theorem language_memoCalls :
    (Regex.ofList (word "memo" ++ blanks :: word "(")).language = Text.memoCalls := by
  rw [language_ofList_append, language_ofList_cons, language_word, language_word, language_blanks]
  rfl

theorem anchored_memoCalls_iff {cs : List Char} (hcs : cs ∈ Text.memoCalls)
    (hstands : Stands t p cs) :
    anchored t p (.boundary false false) = true ↔ Text.IsWordStart t.toList p := by
  obtain ⟨_, rfl, ds, -, rfl⟩ := hcs
  exact anchored_iff_isWordStart (stands_cons.mp hstands).1 (by decide)

theorem isSome_search_plainMemoCall :
    (plainMemoCall.search t 0).isSome = true ↔ ∃ p, Text.CallsMemoAt t.toList p := by
  rw [plainMemoCall, isSome_search_anchor rfl, language_memoCalls]
  simp only [Text.callsMemoAt_iff]
  constructor
  · rintro ⟨p, -, ha, cs, hcs, hstands⟩
    exact ⟨p, (anchored_memoCalls_iff hcs hstands).mp ha, cs, hcs, hstands⟩
  · rintro ⟨p, hstart, cs, hcs, hstands⟩
    have hp : p ≤ t.size := by
      obtain ⟨_, rfl, ds, -, rfl⟩ := hcs
      exact hstands.le_size (Nat.succ_pos _)
    exact ⟨p, hp, (anchored_memoCalls_iff hcs hstands).mpr hstart, cs, hcs, hstands⟩

/-- Behind `React.` the word `memo` begins at a boundary, whatever stands in front of `React.` -/
theorem isSome_search_memoCall :
    (Context.memoCall.search t 0).isSome = true ↔ ∃ p, Text.CallsMemoAt t.toList p := by
  have hlanguage : (Regex.ofList (.loop (.ofList (word "React.")) ⟨0, some 1⟩ .greedy ::
      (word "memo" ++ blanks :: word "("))).language =
        (1 + Shape.word "React.") * Text.memoCalls := by
    rw [language_ofList_cons, language_memoCalls, language_optional, language_word]
  rw [Context.memoCall, isSome_search_anchor rfl, hlanguage]
  constructor
  · rintro ⟨p, hp, ha, _, ⟨_, rfl | rfl, cs, hcs, rfl⟩, hstands⟩
    · exact isSome_search_plainMemoCall.mp ((isSome_search_anchor rfl).mpr
        ⟨p, hp, ha, cs, language_memoCalls ▸ hcs, hstands⟩)
    · obtain ⟨hreact, hstands⟩ := stands_append.mp hstands
      refine ⟨p + 6, Text.callsMemoAt_iff.mpr ⟨.inr ⟨'.', ?_, by decide⟩, cs, hcs, hstands⟩⟩
      exact (Array.getElem?_toList).trans (hreact.getElem? (j := 5) (by decide))
  · intro hcalls
    obtain ⟨p, hp, ha, cs, hcs, hstands⟩ := (isSome_search_anchor rfl).mp
      (isSome_search_plainMemoCall.mpr hcalls)
    exact ⟨p, hp, ha, cs, ⟨[], Or.inl rfl, cs, language_memoCalls ▸ hcs, rfl⟩, hstands⟩

end Regex

namespace Context

def memoFact (code : String) : Option Bool := (detect code.toList.toArray).lookup memoWrapper

theorem memoFact_eq_true_iff {code : String} :
    memoFact code = some true ↔ ∃ p, Text.CallsMemoAt code.toList p := by
  rw [← Regex.isSome_search_memoCall (t := code.toList.toArray)]
  exact Option.some_inj

/-- The fact holds of the texts that call `memo` and of no others. `React.` in front decides
nothing, and the fact holds of a text that goes on if it holds of its front. -/
theorem detect_memoWrapper_iff (code : String) :
    (memoFact code = some true ↔ ∃ p, Text.CallsMemoAt code.toList p) ∧
    memoFact code = some (Regex.plainMemoCall.search code.toList.toArray 0).isSome ∧
    ∀ more, memoFact code = some true → memoFact (code ++ more) = some true := by
  refine ⟨memoFact_eq_true_iff, congrArg some (Bool.eq_iff_iff.mpr ?_), fun more hcode => ?_⟩
  · exact Regex.isSome_search_memoCall.trans Regex.isSome_search_plainMemoCall.symm
  · obtain ⟨p, hp⟩ := memoFact_eq_true_iff.mp hcode
    refine memoFact_eq_true_iff.mpr ⟨p, ?_⟩
    rw [String.toList_append]
    exact hp.append more.toList

theorem detect_memoWrapper_dotted :
    memoFact "React.memo (" = some true ∧ memoFact "React.memo (C)" = some true ∧
    memoFact "useMemo(C)" = some false := by
  have hfact : memoFact "React.memo (" = some true :=
    (detect_memoWrapper_iff "React.memo (").1.mpr
      ⟨6, by decide, .inr ⟨'.', rfl, by decide⟩, by decide⟩
  exact ⟨hfact, (detect_memoWrapper_iff "React.memo (").2.2 "C)" hfact, by decide +kernel⟩

end Context

end ReactLint
