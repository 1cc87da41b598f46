import ReactLint.Proofs.Analysis.SingleRule
import ReactLint.Proofs.Matching.Parts
import ReactLint.Proofs.Snippet

/-!
# State that starts from a bare identifier

The rule on initial state matches `useState(`, blanks, an identifier, blanks and `)`. At one offset
such a text can be read in one way only, since blanks, identifiers and the parenthesis share no
character; and two such texts never overlap, since each has its only opening parenthesis right
behind `useState`. So the rule reports all of them, but for those whose identifier is allowed.
-/

namespace ReactLint

variable {t : Array Char} {p : Nat} {w₁ x w₂ w₁' x' w₂' : List Char}

/-! ## The text -/

def isIdentStart (c : Char) : Bool := c.isAlpha || c == '_' || c == '$'

def isIdentChar (c : Char) : Bool := c.isAlphanum || c == '_' || c == '$'

def IsIdentifier (x : List Char) : Prop :=
  ∃ c cs, x = c :: cs ∧ isIdentStart c = true ∧ ∀ d ∈ cs, isIdentChar d = true

structure IsBareState (w₁ x w₂ : List Char) : Prop where
  front : ∀ c ∈ w₁, Text.isBlank c = true
  name : IsIdentifier x
  back : ∀ c ∈ w₂, Text.isBlank c = true

def bareState (w₁ x w₂ : List Char) : List Char :=
  "useState(".toList ++ (w₁ ++ (x ++ (w₂ ++ [')'])))

theorem length_bareState (w₁ x w₂ : List Char) :
    (bareState w₁ x w₂).length = 9 + (w₁.length + (x.length + (w₂.length + 1))) := by
  unfold bareState
  rw [List.length_append, List.length_append, List.length_append, List.length_append]
  rfl

theorem stands_bareState : Stands t p (bareState w₁ x w₂) ↔
    Stands t p "useState(".toList ∧ Stands t (p + 9) (w₁ ++ (x ++ (w₂ ++ [')']))) :=
  stands_append

theorem isIdentChar_of_isIdentStart {c : Char} (h : isIdentStart c = true) :
    isIdentChar c = true := by
  simp only [isIdentStart, isIdentChar, Char.isAlphanum, Bool.or_eq_true] at h ⊢
  tauto

theorem IsIdentifier.all (h : IsIdentifier x) : ∀ c ∈ x, isIdentChar c = true := by
  obtain ⟨c, cs, rfl, hc, hcs⟩ := h
  exact List.forall_mem_cons.mpr ⟨isIdentChar_of_isIdentStart hc, hcs⟩

theorem isIdentChar_of_isBlank {c : Char} (h : Text.isBlank c = true) : isIdentChar c = false := by
  have hall : ∀ n ∈ Text.blankPoints, isIdentChar (Char.ofNat n) = false := by decide
  rw [← Char.ofNat_toNat c]
  exact hall _ (Text.toNat_mem_blankPoints h)

theorem not_isBlank_of_isIdentStart {c : Char} (h : isIdentStart c = true) :
    Text.isBlank c = false := by
  rw [← Bool.not_eq_true]
  intro hblank
  have hname := isIdentChar_of_isIdentStart h
  rw [isIdentChar_of_isBlank hblank] at hname
  cases hname

/-- A text of this kind at an offset is read in one way only. -/
theorem Stands.bareState_unique (h : Stands t p (bareState w₁ x w₂))
    (h' : Stands t p (bareState w₁' x' w₂')) (hw : IsBareState w₁ x w₂)
    (hw' : IsBareState w₁' x' w₂') : w₁ = w₁' ∧ x = x' ∧ w₂ = w₂' := by
  obtain ⟨-, h⟩ := stands_bareState.mp h
  obtain ⟨-, h'⟩ := stands_bareState.mp h'
  have hname {x w : List Char} (hx : IsIdentifier x) : Stops Text.isBlank (x ++ w) := by
    obtain ⟨c, cs, rfl, hc, -⟩ := hx
    exact ⟨c, cs ++ w, rfl, not_isBlank_of_isIdentStart hc⟩
  have hback {w : List Char} (hw : ∀ c ∈ w, Text.isBlank c = true) :
      Stops isIdentChar (w ++ [')']) := by
    cases w with
    | nil => exact ⟨')', [], rfl, rfl⟩
    | cons c w => exact ⟨c, w ++ [')'], rfl, isIdentChar_of_isBlank (hw c List.mem_cons_self)⟩
  obtain rfl := h.eq_of_stops h' hw.front hw'.front (hname hw.name) (hname hw'.name)
  obtain ⟨-, h⟩ := stands_append.mp h
  obtain ⟨-, h'⟩ := stands_append.mp h'
  obtain rfl := h.eq_of_stops h' hw.name.all hw'.name.all (hback hw.back) (hback hw'.back)
  obtain ⟨-, h⟩ := stands_append.mp h
  obtain ⟨-, h'⟩ := stands_append.mp h'
  exact ⟨rfl, rfl, h.eq_of_stops h' hw.back hw'.back ⟨')', [], rfl, rfl⟩ ⟨')', [], rfl, rfl⟩⟩

/-! ## The expression -/

namespace Regex

variable {s s' c : Cursor}

theorem accepts_identStart (c : Char) :
    (among [lowerItem, upperItem, .char '_', .char '$']).accepts c = isIdentStart c := by
  have halpha : c.isAlpha = (c.isUpper || c.isLower) := rfl
  simp [among, CharTest.accepts, accepts_lowerItem, accepts_upperItem, accepts_charItem,
    isIdentStart, halpha, Bool.or_assoc, Bool.or_left_comm]

theorem accepts_identChar (c : Char) :
    (among [lowerItem, upperItem, digitItem, .char '_', .char '$']).accepts c = isIdentChar c := by
  have halnum : c.isAlphanum = ((c.isUpper || c.isLower) || c.isDigit) := rfl
  simp [among, CharTest.accepts, accepts_lowerItem, accepts_upperItem, accepts_digitItem,
    accepts_charItem, isIdentChar, halnum, Bool.or_assoc, Bool.or_left_comm]

theorem reaches_identifier : Reaches t (.ofList [
      .one (among [lowerItem, upperItem, .char '_', .char '$']),
      many (among [lowerItem, upperItem, digitItem, .char '_', .char '$'])]) s s' ↔
    ∃ x, IsIdentifier x ∧ Stands t s.pos x ∧ s' = s.moveTo (s.pos + x.length) := by
  rw [reaches_ofList_cons, many]
  simp only [reaches_run_cons (g := .greedy) nofun, reaches_ofList_nil, Reaches,
    accepts_identStart, accepts_identChar]
  constructor
  · rintro ⟨_, ⟨c, hc, hstart, rfl⟩, cs, hcs, hall, -, rfl⟩
    refine ⟨c :: cs, ⟨c, cs, rfl, hstart, hall⟩, stands_cons.mpr ⟨(stands_cons.mp hc).1, hcs⟩, ?_⟩
    simp only [Cursor.moveTo, List.length_cons, Nat.add_assoc, Nat.add_comm 1]
  · rintro ⟨_, ⟨c, cs, rfl, hstart, hall⟩, hstands, rfl⟩
    obtain ⟨hc, hcs⟩ := stands_cons.mp hstands
    refine ⟨s.moveTo (s.pos + 1), ⟨c, stands_cons.mpr ⟨hc, stands_nil⟩, hstart, rfl⟩, cs, hcs, hall,
      Nat.zero_le _, ?_⟩
    simp only [Cursor.moveTo, List.length_cons, Nat.add_assoc, Nat.add_comm 1]

theorem reaches_useState : Reaches t Catalog.useStateInitializerRegex s s' ↔
    ∃ w₁ x w₂, IsBareState w₁ x w₂ ∧ Stands t s.pos (bareState w₁ x w₂) ∧
      s' = ⟨s.pos + (bareState w₁ x w₂).length,
        (1, s.pos + 9 + w₁.length, s.pos + 9 + w₁.length + x.length) :: s.groups⟩ := by
  have hopen : "useState(".toList.length = 9 := rfl
  have hclose : ")".toList = [')'] := rfl
  simp only [Catalog.useStateInitializerRegex, reaches_word_append, reaches_blanks_cons,
    reaches_group_cons, reaches_identifier, reaches_word, stands_bareState, length_bareState,
    stands_append, hopen, hclose, Cursor.moveTo, Cursor.close]
  constructor
  · rintro ⟨hword, w₁, hw₁, hfront, _, ⟨x, hx, hxs, rfl⟩, w₂, hw₂, hback, hend, rfl⟩
    refine ⟨w₁, x, w₂, ⟨hfront, hx, hback⟩, ⟨hword, hw₁, hxs, hw₂, hend⟩, ?_⟩
    simp only [Nat.add_assoc, List.length_singleton]
  · rintro ⟨w₁, x, w₂, ⟨hfront, hx, hback⟩, ⟨hword, hw₁, hxs, hw₂, hend⟩, rfl⟩
    refine ⟨hword, w₁, hw₁, hfront, _, ⟨x, hx, hxs, rfl⟩, w₂, hw₂, hback, hend, ?_⟩
    simp only [Nat.add_assoc, List.length_singleton]

theorem matchAt_useState_iff (hp : p ≤ t.size) :
    matchAt t Catalog.useStateInitializerRegex p = some c ↔
      ∃ w₁ x w₂, IsBareState w₁ x w₂ ∧ Stands t p (bareState w₁ x w₂) ∧
        c = ⟨p + (bareState w₁ x w₂).length,
          [(1, p + 9 + w₁.length, p + 9 + w₁.length + x.length)]⟩ := by
  constructor
  · exact fun h => reaches_useState.mp (reaches_of_matchAt hp h)
  · rintro ⟨w₁, x, w₂, hw, hstands, rfl⟩
    have hsome := (isSome_matchAt_iff hp).mpr
      ⟨_, reaches_useState.mpr ⟨w₁, x, w₂, hw, hstands, rfl⟩⟩
    obtain ⟨c, hc⟩ := Option.isSome_iff_exists.mp hsome
    obtain ⟨w₁', x', w₂', hw', hstands', rfl⟩ := reaches_useState.mp (reaches_of_matchAt hp hc)
    obtain ⟨rfl, rfl, rfl⟩ := hstands'.bareState_unique hstands hw' hw
    exact hc

/-- Behind `useState(` there is no opening parenthesis in the text. -/
theorem ne_paren_of_lt (hw : IsBareState w₁ x w₂) (h : Stands t p (bareState w₁ x w₂)) {q : Nat}
    (hq : p + 8 < q) (hlt : q < p + (bareState w₁ x w₂).length) : t[q]? ≠ some '(' := by
  have hbody : ∀ c ∈ w₁ ++ (x ++ (w₂ ++ [')'])), c ≠ '(' := by
    rintro c hc rfl
    simp only [List.mem_append, List.mem_singleton] at hc
    rcases hc with hc | hc | hc | hc
    · exact absurd (hw.front _ hc) (by decide)
    · exact absurd (hw.name.all _ hc) (by decide)
    · exact absurd (hw.back _ hc) (by decide)
    · cases hc
  obtain ⟨-, hbehind⟩ := stands_bareState.mp h
  obtain ⟨j, rfl⟩ := Nat.exists_eq_add_of_le (show p + 9 ≤ q from hq)
  have hj : j < (w₁ ++ (x ++ (w₂ ++ [')']))).length := by
    rw [length_bareState] at hlt
    simp only [List.length_append, List.length_singleton]
    omega
  rw [hbehind.getElem? hj, List.getElem?_eq_getElem hj]
  exact fun heq => hbody _ (List.getElem_mem hj) (Option.some.inj heq)

/-- Two texts of the kind do not overlap: the parenthesis that opens the second would stand behind
the one that closes the first, which is no character of `useState(`. -/
theorem keepsApart_useState : KeepsApart t Catalog.useStateInitializerRegex := by
  intro p c q hp hat hlt hstop
  obtain ⟨w₁, x, w₂, hw, hstands, rfl⟩ := (matchAt_useState_iff hp).mp hat
  have hsize := (matchAt_bounds hp hat).2
  rw [← Option.not_isSome_iff_eq_none]
  intro hsome
  obtain ⟨d, hd⟩ := Option.isSome_iff_exists.mp hsome
  have hq : q ≤ t.size := Nat.le_trans (Nat.le_of_lt hstop) hsize
  obtain ⟨v₁, y, v₂, -, hstands', -⟩ := (matchAt_useState_iff hq).mp hd
  obtain ⟨hopen, -⟩ := stands_bareState.mp hstands'
  have hlast : t[p + (bareState w₁ x w₂).length - 1]? = some ')' := by
    have hend := (stands_append.mp (stands_append.mp (stands_append.mp
      (stands_bareState.mp hstands).2).2).2).2
    rw [← (stands_cons.mp hend).1, length_bareState]
    congr 1
    omega
  by_cases hinside : q + 8 < p + (bareState w₁ x w₂).length
  · exact ne_paren_of_lt hw hstands (by omega) hinside (hopen.getElem? (j := 8) (by decide))
  · obtain ⟨j, hj⟩ : ∃ j, p + (bareState w₁ x w₂).length - 1 = q + j := ⟨_, by
      exact (Nat.add_sub_cancel' (by dsimp only at hstop; omega)).symm⟩
    have hshort : j < "useState(".toList.length := by
      have hlen : "useState(".toList.length = 9 := rfl
      omega
    rw [hj, hopen.getElem? hshort, List.getElem?_eq_getElem hshort] at hlast
    have hmem : ')' ∈ "useState(".toList := Option.some.inj hlast ▸ List.getElem_mem hshort
    exact absurd hmem (by decide)

end Regex

/-! ## What is reported -/

theorem trim_bareState (w₁ x w₂ : List Char) :
    Text.trim (bareState w₁ x w₂) = bareState w₁ x w₂ := by
  have hfirst : Stops Text.isBlank (bareState w₁ x w₂) := by
    unfold bareState
    exact Stops.append ⟨'u', "seState(".toList, by decide, by decide⟩
  have hlast : Stops Text.isBlank (bareState w₁ x w₂).reverse := by
    unfold bareState
    simp only [List.reverse_append, List.append_assoc]
    exact ⟨')', _, rfl, by decide⟩
  have hnone : ∀ b ∈ ([] : List Char), Text.isBlank b = true := by simp
  simpa using Text.trim_append hfirst hlast hnone

theorem Stands.ofMatch_bareState (h : Stands t p (bareState w₁ x w₂)) :
    Occurrence.ofMatch t ⟨p, p + (bareState w₁ x w₂).length,
        [(1, p + 9 + w₁.length, p + 9 + w₁.length + x.length)]⟩ =
      ⟨lineAt t p, String.ofList (bareState w₁ x w₂), p, p + (bareState w₁ x w₂).length,
        some (String.ofList x)⟩ := by
  have hname : Stands t (p + 9 + w₁.length) x :=
    (stands_append.mp (stands_append.mp (stands_bareState.mp h).2).2).1
  rw [Occurrence.ofMatch_of_stands h, trim_bareState, List.lookup_cons_self, Option.map_some]
  simp only [hname.slice_eq]

namespace Registry

variable {g : Registry}

/-- The rule on initial state reports `useState(` around a bare identifier wherever it stands, in
the order of the text, unless the identifier is on the allow-list of the registry. The whole
identifier is captured, and the range ends behind the closing parenthesis. -/
theorem analyze_useState (hg : g.Reachable) (hr : Catalog.useStateInitializer ∈ g.rules)
    (hon : g.isEnabled "A003" = true) (now : Moment) (code : String) :
    let issues := (g.analyze now (.text code)).1.issues.filter (·.id == "A003")
    ∃ members, g.lists.find? (.text "safe_state_initializers") = some members ∧
      issues.Pairwise (fun a b => a.occurrence.start < b.occurrence.start) ∧
      ∀ i, i ∈ issues ↔ ∃ (p : Nat) (w₁ x w₂ : List Char), IsBareState w₁ x w₂ ∧
        bareState w₁ x w₂ <+: code.toList.drop p ∧ Value.text (String.ofList x) ∉ members ∧
        i = Issue.ofRule Catalog.useStateInitializer
          ⟨lineAt code.toList.toArray p, String.ofList (bareState w₁ x w₂), p,
            p + (bareState w₁ x w₂).length, some (String.ofList x)⟩ := by
  have henabled : Catalog.useStateInitializer ∈ g.enabled := mem_enabled_iff.mpr ⟨hr, hon⟩
  obtain ⟨-, members, hmembers⟩ := hg.sound.listed _ hr (.text "safe_state_initializers") rfl
  refine ⟨members, hmembers, hg.sound.pairwise_reportedFor henabled, fun i => ?_⟩
  have hkept (x : List Char) : g.lists.suppresses Catalog.useStateInitializer
      (some (String.ofList x)) = false ↔ Value.text (String.ofList x) ∉ members := by
    have hallows : g.lists.suppresses Catalog.useStateInitializer (some (String.ofList x)) =
        g.lists.allows (.text "safe_state_initializers") (String.ofList x) := rfl
    rw [hallows, ← Bool.not_eq_true, AllowLists.allows_iff, hmembers]
    simp
  refine (hg.sound.mem_reportedFor henabled rfl Regex.keepsApart_useState).trans ?_
  constructor
  · rintro ⟨p, c, hp, hat, hsuppressed, rfl⟩
    obtain ⟨w₁, x, w₂, hw, hstands, rfl⟩ := (Regex.matchAt_useState_iff hp).mp hat
    rw [hstands.ofMatch_bareState] at hsuppressed ⊢
    exact ⟨p, w₁, x, w₂, hw, hstands, (hkept x).mp hsuppressed, rfl⟩
  · rintro ⟨p, w₁, x, w₂, hw, htext, hlisted, rfl⟩
    have hstands : Stands code.toList.toArray p (bareState w₁ x w₂) := htext
    have hp : p ≤ code.toList.toArray.size := hstands.le_size (by rw [length_bareState]; omega)
    refine ⟨p, _, hp, (Regex.matchAt_useState_iff hp).mpr ⟨w₁, x, w₂, hw, hstands, rfl⟩, ?_, ?_⟩
    · rw [hstands.ofMatch_bareState]
      exact (hkept x).mpr hlisted
    · rw [hstands.ofMatch_bareState]

theorem analyze_useState_load :
    let issues := (Registry.default.analyze ⟨⟨2025, 1, 31⟩, ⟨12, 0, 0, 0⟩, some 0⟩
      (.text "useState(Number); useState( load )")).1.issues.filter (·.id == "A003")
    Registry.default.Reachable ∧ Catalog.useStateInitializer ∈ Registry.default.rules ∧
    Registry.default.isEnabled "A003" = true ∧
    Issue.ofRule Catalog.useStateInitializer
      ⟨1, "useState( load )", 18, 34, some "load"⟩ ∈ issues ∧
    ∀ i ∈ issues, i.occurrence.capture ≠ some "Number" := by
  intro issues
  have hr : Catalog.useStateInitializer ∈ Registry.default.rules := by
    simp [Registry.default, Catalog.rules]
  have hon : Registry.default.isEnabled "A003" = true := by decide +kernel
  obtain ⟨members, hmembers, -, hissues⟩ := analyze_useState reachable_default hr hon
    ⟨⟨2025, 1, 31⟩, ⟨12, 0, 0, 0⟩, some 0⟩ "useState(Number); useState( load )"
  obtain rfl : AllowLists.safeStateInitializers = members := Option.some.inj hmembers
  refine ⟨reachable_default, hr, hon, (hissues _).mpr ⟨18, [' '], "load".toList, [' '],
    ⟨List.all_eq_true.mp (by decide), ⟨'l', "oad".toList, by decide, by decide,
      List.all_eq_true.mp (by decide)⟩, List.all_eq_true.mp (by decide)⟩, ?_, ?_, ?_⟩, ?_⟩
  · decide +kernel
  · simp [AllowLists.safeStateInitializers]
  · decide +kernel
  · intro i hi
    obtain ⟨p, w₁, x, w₂, -, -, hlisted, rfl⟩ := (hissues i).mp hi
    rintro hcapture
    rw [Option.some.inj hcapture] at hlisted
    exact hlisted (by simp [AllowLists.safeStateInitializers])

end Registry

end ReactLint
