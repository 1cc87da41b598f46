import Mathlib.Tactic.IntervalCases
import ReactLint.Json.Render
import ReactLint.Proofs.Json.Grammar

/-!
# The written form of JSON

What the writer makes of a value without floating-point numbers is a text of the grammar, and it
stands for that value. The text holds printable ASCII characters and newlines, and no newline stands
inside of a text.
-/

namespace ReactLint.Text

theorem hexValue?_digitChar {d : Nat} (h : d < 16) : hexValue? d.digitChar = some d := by
  interval_cases d <;> decide

theorem ofHex?_concat {cs : List Char} {c : Char} {n d : Nat} (hcs : ofHex? cs = some n)
    (hc : hexValue? c = some d) : ofHex? (cs ++ [c]) = some (n * 16 + d) := by
  obtain ⟨ds, hds, rfl⟩ := Option.map_eq_some_iff.mp hcs
  simp [ofHex?, List.mapM_append, hds, hc, ofDigits]

theorem ofHex?_toDigits (n : Nat) : ofHex? (Nat.toDigits 16 n) = some n := by
  induction n using Nat.strongRecOn with
  | ind n ih =>
    by_cases h : n < 16
    · rw [Nat.toDigits_of_lt_base h]
      simp [ofHex?, hexValue?_digitChar h, ofDigits]
    · rw [Nat.toDigits_of_base_le (by decide) (by omega)]
      rw [ofHex?_concat (ih (n / 16) (by omega)) (hexValue?_digitChar (by omega))]
      congr 1
      omega

theorem ofHex?_cons_zero (cs : List Char) : ofHex? ('0' :: cs) = ofHex? cs := by
  have hzero : hexValue? '0' = some 0 := rfl
  cases h : cs.mapM hexValue? <;> simp [ofHex?, hzero, h, ofDigits]

theorem ofHex?_hexDigits (width n : Nat) : ofHex? (hexDigits width n) = some n := by
  rw [hexDigits]
  induction width - (Nat.toDigits 16 n).length with
  | zero => exact ofHex?_toDigits n
  | succ k ih => rw [List.replicate_succ, List.cons_append, ofHex?_cons_zero, ih]

theorem length_hexDigits {width n : Nat} (hwidth : 0 < width) (hn : n < 16 ^ width) :
    (hexDigits width n).length = width := by
  have hle := (Nat.length_toDigits_le_iff (by decide) hwidth).mpr hn
  rw [hexDigits, List.length_append, List.length_replicate]
  omega

end ReactLint.Text

namespace ReactLint.Json

open Grammar

/-! ## Numbers -/

theorem decimalValue_natChars (n : Nat) : decimalValue (natChars n) = n := by
  have hread := Nat.ofDigitChars_ten_toDigits (n := n)
  rw [Nat.ofDigitChars_eq_foldl] at hread
  simp only [Nat.mul_comm 10] at hread
  rw [decimalValue, natChars, Text.ofDigits, List.foldl_map]
  exact hread

theorem digits_natChars (n : Nat) : Digits (natChars n) :=
  ⟨Nat.toDigits_ne_nil, fun _ hd => Nat.isDigit_of_mem_toDigits (by decide) (by decide) hd⟩

theorem natChars_head {n : Nat} (hn : 0 < n) : ∃ d ds, natChars n = d :: ds ∧ d ≠ '0' := by
  induction n using Nat.strongRecOn with
  | ind n ih =>
    rw [natChars]
    by_cases h : n < 10
    · rw [Nat.toDigits_of_lt_base h]
      exact ⟨_, [], rfl, fun heq => by rw [Nat.digitChar_eq_zero] at heq; omega⟩
    · obtain ⟨d, ds, hds, hd⟩ := ih (n / 10) (by omega) (by omega)
      rw [Nat.toDigits_of_base_le (by decide) (by omega), ← natChars, hds]
      exact ⟨d, _, rfl, hd⟩

theorem whole_natChars (n : Nat) : Whole (natChars n) := by
  rcases Nat.eq_zero_or_pos n with rfl | hn
  · exact .zero
  · obtain ⟨d, ds, hds, hd⟩ := natChars_head hn
    have hdigits := digits_natChars n
    rw [hds] at hdigits ⊢
    exact .digits hd hdigits

theorem value_intChars (n : Int) : Grammar.Value (intChars n) (.int n) := by
  cases n with
  | ofNat n =>
    have h := Grammar.Value.number false (whole_natChars n) .absent .absent
    simpa [numberOf, signed, decimalValue_natChars, intChars] using h
  | negSucc n =>
    have h := Grammar.Value.number true (whole_natChars (n + 1)) .absent .absent
    simpa [numberOf, signed, decimalValue_natChars, intChars, Int.negSucc_eq] using h

/-! ## Texts -/

theorem units_escapeUnit {n : Nat} {cs : List Char} {us : List Nat} (hn : n < 0x10000)
    (h : Units cs us) : Units (escapeUnit n ++ cs) (n :: us) := by
  have hread := Text.ofHex?_hexDigits 4 n
  have hlength := Text.length_hexDigits (by decide : 0 < 4) hn
  rw [escapeUnit]
  match Text.hexDigits 4 n, hlength, hread with
  | [a, b, c, d], _, hread => exact .escaped hread h

theorem toNat_valid (c : Char) :
    c.toNat < 0xD800 ∨ 0xDFFF < c.toNat ∧ c.toNat < 0x110000 := c.valid

theorem lt_of_mem_units {n u : Nat} (hn : n < 0x110000) (hu : u ∈ units n) : u < 0x10000 := by
  rw [units] at hu
  split at hu <;> grind

theorem units_flatMap_escapeUnit {ns : List Nat} {cs : List Char} {us : List Nat}
    (hns : ∀ n ∈ ns, n < 0x10000) (h : Units cs us) :
    Units (ns.flatMap escapeUnit ++ cs) (ns ++ us) := by
  induction ns with
  | nil => exact h
  | cons n ns ih =>
    rw [List.flatMap_cons, List.append_assoc]
    exact units_escapeUnit (hns n List.mem_cons_self)
      (ih fun m hm => hns m (List.mem_cons_of_mem n hm))

theorem units_escapeChar (c : Char) {cs : List Char} {us : List Nat} (h : Units cs us) :
    Units (escapeChar c ++ cs) (units c.toNat ++ us) := by
  have hlt : c.toNat < 0x110000 := by
    have hvalid := toNat_valid c
    omega
  rw [escapeChar]
  split_ifs with hquote hslash hn hr ht hb hf hplain
  -- the characters with a short escape
  iterate 7 subst c; exact .short rfl h
  · rw [units, if_pos (by omega)]
    exact .plain hquote hslash hplain.1 h
  · exact units_flatMap_escapeUnit (fun u hu => lt_of_mem_units hlt hu) h

theorem units_flatMap_escapeChar (cs : List Char) :
    Units (cs.flatMap escapeChar) (cs.flatMap fun c => units c.toNat) := by
  induction cs with
  | nil => exact .done
  | cons c cs ih => exact units_escapeChar c ih

theorem isCharacter_toNat (c : Char) : isCharacter c.toNat = true := by
  have hvalid := toNat_valid c
  simp only [isCharacter, isHigh, isLow, Bool.and_eq_true, Bool.not_eq_true', Bool.and_eq_false_iff,
    decide_eq_false_iff_not]
  omega

theorem joinUnits_units (c : Char) (us : List Nat) :
    joinUnits (units c.toNat ++ us) = c.toNat :: joinUnits us := by
  have hvalid := toNat_valid c
  rw [units]
  split_ifs with h
  · have hhigh : isHigh c.toNat = false := by
      simp only [isHigh, Bool.and_eq_false_iff, decide_eq_false_iff_not]
      omega
    cases us with
    | nil => rfl
    | cons v us => simp [joinUnits, hhigh]
  · have hhigh : isHigh (0xD800 + (c.toNat - 0x10000) / 0x400) = true := by
      simp only [isHigh, Bool.and_eq_true, decide_eq_true_eq]
      omega
    have hlow : isLow (0xDC00 + (c.toNat - 0x10000) % 0x400) = true := by
      simp only [isLow, Bool.and_eq_true, decide_eq_true_eq]
      omega
    have hpair : 0x10000 + (0xD800 + (c.toNat - 0x10000) / 0x400 - 0xD800) * 0x400 +
        (0xDC00 + (c.toNat - 0x10000) % 0x400 - 0xDC00) = c.toNat := by omega
    rw [List.cons_append, List.singleton_append, joinUnits, hhigh, hlow, Bool.and_self, if_pos rfl,
      hpair]

theorem joinUnits_flatMap_units (cs : List Char) :
    joinUnits (cs.flatMap fun c => units c.toNat) = cs.map Char.toNat := by
  induction cs with
  | nil => rfl
  | cons c cs ih => rw [List.flatMap_cons, joinUnits_units, ih, List.map_cons]

theorem quoted_textChars (s : String) : Quoted (textChars s) (s.toList.map Char.toNat) :=
  ⟨s.toList.flatMap escapeChar, _, rfl, units_flatMap_escapeChar s.toList,
    joinUnits_flatMap_units s.toList⟩

theorem ofPoints_toNat (s : String) : ofPoints (s.toList.map Char.toNat) = .text s := by
  have hall : (s.toList.map Char.toNat).all isCharacter = true := by
    simp [List.all_map, isCharacter_toNat]
  rw [ofPoints, if_pos hall, List.map_map]
  simp [Function.comp_def, Char.ofNat_toNat]

theorem nameOf_toNat (s : String) : nameOf (s.toList.map Char.toNat) = s := by
  rw [nameOf, List.map_map]
  simp [Function.comp_def, isCharacter_toNat, Char.ofNat_toNat]

theorem value_textChars (s : String) : Grammar.Value (textChars s) (.text s) :=
  ofPoints_toNat s ▸ .text (quoted_textChars s)

/-! ## Values -/

/-- Floating-point numbers may be rounded when they are read back, and units without a partner may
find one. -/
def isExact : Json → Bool
  | .float _ => false
  | .broken _ => false
  | _ => true

theorem blanks_nil : Blanks [] := nofun

theorem blanks_space : Blanks [' '] := List.forall_mem_singleton.mpr rfl

theorem blanks_newline (level : Nat) : Blanks (newline level) := by
  intro c hc
  rw [newline, List.mem_cons, List.mem_replicate] at hc
  rcases hc with rfl | ⟨-, rfl⟩ <;> rfl

mutual

theorem value_chars (level : Nat) : ∀ j : Json, leavesAll isExact j = true →
    Grammar.Value (chars level j) j
  | .null, _ => .null
  | .bool true, _ => .yes
  | .bool false, _ => .no
  | .int n, _ => value_intChars n
  | .text s, _ => value_textChars s
  | .list [], _ => .noItems blanks_nil
  | .list (j :: js), h => by
    rw [leavesAll, itemsAll, Bool.and_eq_true] at h
    have hitems := items_chars (level + 1) (blanks_newline level) js h.2
      (value_chars (level + 1) j h.1)
    simpa only [chars, List.cons_append, List.append_assoc] using Grammar.Value.list hitems
  | .object [], _ => .noMembers blanks_nil
  | .object ((name, j) :: rest), h => by
    rw [leavesAll, membersAll, Bool.and_eq_true] at h
    have hmembers := members_chars (level + 1) (blanks_newline level) rest h.2 name
      (value_chars (level + 1) j h.1)
    simpa only [chars, List.cons_append, List.append_assoc, List.nil_append] using
      Grammar.Value.object hmembers

theorem items_chars (level : Nat) {w : List Char} (hw : Blanks w) :
    ∀ (js : List Json) {j : Json}, itemsAll isExact js = true → Grammar.Value (chars level j) j →
      Items (newline level ++ (chars level j ++ (itemChars level js ++ w))) (j :: js)
  | [], j, _, hj => .last (blanks_newline level) hj hw
  | k :: ks, j, h, hj => by
    rw [itemsAll, Bool.and_eq_true] at h
    have hrest := items_chars level hw ks h.2 (value_chars level k h.1)
    simpa only [itemChars, List.cons_append, List.append_assoc, List.nil_append] using
      Items.more (blanks_newline level) hj blanks_nil hrest

theorem members_chars (level : Nat) {w : List Char} (hw : Blanks w) :
    ∀ (ms : List (String × Json)) {j : Json}, membersAll isExact ms = true → ∀ name,
      Grammar.Value (chars level j) j →
      Members (newline level ++ (textChars name ++ (':' :: ' ' :: (chars level j ++
        (memberChars level ms ++ w))))) ((name, j) :: ms)
  | [], j, _, name, hj => by
    have hmember := Members.last (blanks_newline level) (quoted_textChars name) blanks_nil
      blanks_space hj hw
    simpa only [nameOf_toNat, memberChars, List.nil_append, List.cons_append] using hmember
  | (name', k) :: ms, j, h, name, hj => by
    rw [membersAll, Bool.and_eq_true] at h
    have hrest := members_chars level hw ms h.2 name' (value_chars level k h.1)
    simpa only [nameOf_toNat, memberChars, List.cons_append, List.append_assoc,
      List.nil_append] using
      Members.more (blanks_newline level) (quoted_textChars name) blanks_nil blanks_space hj
        blanks_nil hrest

end

/-! ## Printable characters -/

def isPrintable (c : Char) : Bool := 32 ≤ c.toNat && c.toNat < 127

def isPlain (c : Char) : Bool := c == '\n' || isPrintable c

theorem isPrintable_of_le {a b c : Char} (ha : a ≤ c) (hb : c ≤ b) (hlow : 32 ≤ a.toNat)
    (hhigh : b.toNat < 127) : isPrintable c = true := by
  have hac : a.toNat ≤ c.toNat := UInt32.le_iff_toNat_le.mp ha
  have hcb : c.toNat ≤ b.toNat := UInt32.le_iff_toNat_le.mp hb
  simp only [isPrintable, Bool.and_eq_true, decide_eq_true_eq]
  omega

theorem isPrintable_of_isDigit {c : Char} (h : c.isDigit = true) : isPrintable c = true := by
  simp only [Char.isDigit, Bool.and_eq_true, decide_eq_true_eq] at h
  exact isPrintable_of_le (a := '0') (b := '9') h.1 h.2 (by decide) (by decide)

theorem isPrintable_of_hexValue? {c : Char} {d : Nat} (h : Text.hexValue? c = some d) :
    isPrintable c = true := by
  rw [Text.hexValue?] at h
  split_ifs at h with hdigit hlower hupper
  · exact isPrintable_of_isDigit hdigit
  · exact isPrintable_of_le hlower.1 hlower.2 (by decide) (by decide)
  · exact isPrintable_of_le hupper.1 hupper.2 (by decide) (by decide)

theorem isPrintable_of_ofHex? {cs : List Char} {n : Nat} (h : Text.ofHex? cs = some n) :
    cs.all isPrintable = true := by
  obtain ⟨ds, hds, -⟩ := Option.map_eq_some_iff.mp h
  clear h
  induction cs generalizing ds with
  | nil => rfl
  | cons c cs ih =>
    simp only [List.mapM_cons, Option.bind_eq_bind, Option.bind_eq_some_iff] at hds
    obtain ⟨d, hd, ds', hds', -⟩ := hds
    simp [isPrintable_of_hexValue? hd, ih ds' hds']

theorem isPrintable_escapeUnit (n : Nat) : (escapeUnit n).all isPrintable = true := by
  rw [escapeUnit, List.all_append, isPrintable_of_ofHex? (Text.ofHex?_hexDigits 4 n)]
  rfl

theorem isPrintable_escapeChar (c : Char) : (escapeChar c).all isPrintable = true := by
  rw [escapeChar]
  split_ifs with hquote hslash hn hr ht hb hf hplain
  iterate 7 rfl
  · simpa [isPrintable] using hplain
  · simp [List.all_flatMap, isPrintable_escapeUnit]

theorem isPrintable_textChars (s : String) : (textChars s).all isPrintable = true := by
  have hquote : isPrintable '"' = true := rfl
  simp [textChars, List.all_flatMap, isPrintable_escapeChar, hquote]

theorem isPrintable_intChars (n : Int) : (intChars n).all isPrintable = true := by
  have hnat (n : Nat) : (natChars n).all isPrintable = true :=
    List.all_eq_true.mpr fun c hc => isPrintable_of_isDigit ((digits_natChars n).2 c hc)
  cases n with
  | ofNat n => exact hnat n
  | negSucc n => rw [intChars, List.all_cons, hnat]; rfl

theorem isPlain_of_isPrintable {cs : List Char} (h : cs.all isPrintable = true) :
    cs.all isPlain = true := by
  rw [List.all_eq_true] at h ⊢
  intro c hc
  rw [isPlain, h c hc, Bool.or_true]

@[simp]
theorem isPlain_textChars (s : String) : (textChars s).all isPlain = true :=
  isPlain_of_isPrintable (isPrintable_textChars s)

@[simp]
theorem isPlain_newline (level : Nat) : (newline level).all isPlain = true := by
  have hspace : isPlain ' ' = true := rfl
  have hbreak : isPlain '\n' = true := rfl
  simp [newline, hspace, hbreak]

mutual

theorem isPlain_chars (level : Nat) : ∀ j : Json, leavesAll isExact j = true →
    (chars level j).all isPlain = true
  | .null, _ => rfl
  | .bool true, _ => rfl
  | .bool false, _ => rfl
  | .int n, _ => isPlain_of_isPrintable (isPrintable_intChars n)
  | .text s, _ => isPlain_textChars s
  | .list [], _ => rfl
  | .list (j :: js), h => by
    rw [leavesAll, itemsAll, Bool.and_eq_true] at h
    have hopen : isPlain '[' = true := rfl
    have hclose : isPlain ']' = true := rfl
    simp only [chars, List.cons_append, List.all_cons, List.all_append, hopen, hclose,
      isPlain_newline, isPlain_chars (level + 1) j h.1, isPlain_itemChars (level + 1) js h.2]
    rfl
  | .object [], _ => rfl
  | .object ((name, j) :: rest), h => by
    rw [leavesAll, membersAll, Bool.and_eq_true] at h
    have hopen : isPlain '\x7b' = true := rfl
    have hclose : isPlain '\x7d' = true := rfl
    have hcolon : [':', ' '].all isPlain = true := rfl
    simp only [chars, List.cons_append, List.all_cons, List.all_append, hopen, hclose, hcolon,
      isPlain_newline, isPlain_textChars, isPlain_chars (level + 1) j h.1,
      isPlain_memberChars (level + 1) rest h.2]
    rfl

theorem isPlain_itemChars (level : Nat) : ∀ js : List Json, itemsAll isExact js = true →
    (itemChars level js).all isPlain = true
  | [], _ => rfl
  | j :: js, h => by
    rw [itemsAll, Bool.and_eq_true] at h
    have hcomma : isPlain ',' = true := rfl
    simp only [itemChars, List.cons_append, List.all_cons, List.all_append, hcomma,
      isPlain_newline, isPlain_chars level j h.1, isPlain_itemChars level js h.2]
    rfl

theorem isPlain_memberChars (level : Nat) : ∀ ms : List (String × Json),
    membersAll isExact ms = true → (memberChars level ms).all isPlain = true
  | [], _ => rfl
  | (name, j) :: rest, h => by
    rw [membersAll, Bool.and_eq_true] at h
    have hcomma : isPlain ',' = true := rfl
    have hcolon : [':', ' '].all isPlain = true := rfl
    simp only [memberChars, List.cons_append, List.all_cons, List.all_append, hcomma, hcolon,
      isPlain_newline, isPlain_textChars, isPlain_chars level j h.1,
      isPlain_memberChars level rest h.2]
    rfl

end

/-! ## Whole texts -/

/-- A text carries a value: it is a document of that value and of no other, the reader finds the
value, and the text holds ASCII characters only, of which no control character but newlines. -/
structure Carries (s : String) (j : Json) : Prop where
  document : ∀ k, Document s.toList k ↔ k = j
  decode : Json.decode s = some j
  ascii : ∀ c ∈ s.toList, c.toNat < 128
  control : ∀ c ∈ s.toList, c.toNat < 32 → c = '\n'

theorem carries_render {j : Json} (h : leavesAll isExact j = true) : Carries j.render j := by
  have hdocument : Document j.render.toList j :=
    ⟨[], chars 0 j, [], by simp [render], blanks_nil, value_chars 0 j h, blanks_nil⟩
  have hplain (c : Char) (hc : c ∈ j.render.toList) : c = '\n' ∨ 32 ≤ c.toNat ∧ c.toNat < 127 := by
    rw [render, String.toList_ofList] at hc
    simpa [isPlain, isPrintable] using List.all_eq_true.mp (isPlain_chars 0 j h) c hc
  refine ⟨fun k => ⟨fun hk => hk.unique hdocument, fun hk => hk ▸ hdocument⟩,
    decodeChars_eq_some hdocument, fun c hc => ?_, fun c hc hlow => ?_⟩
  · obtain rfl | ⟨-, hlt⟩ := hplain c hc
    · decide
    · omega
  · obtain rfl | ⟨hle, -⟩ := hplain c hc
    · rfl
    · omega

theorem Carries.inj {s : String} {j k : Json} (hj : Carries s j) (hk : Carries s k) : j = k :=
  Option.some.inj (hj.decode.symm.trans hk.decode)

theorem write_eq_ok {j : Json} {s : String} :
    j.write = .ok s ↔ leavesAll isShort j = true ∧ s = j.render := by
  rw [write]
  split
  · rename_i hshort
    simp [hshort, eq_comm]
  · rename_i hshort
    simp [hshort]

theorem exists_write_iff {j : Json} :
    (∃ s, j.write = .ok s) ↔ leavesAll isShort j = true := by
  simp [write_eq_ok]

theorem carries_of_write {j : Json} {s : String} (h : leavesAll isExact j = true)
    (hs : j.write = .ok s) : Carries s j := by
  obtain ⟨-, rfl⟩ := write_eq_ok.mp hs
  exact carries_render h

theorem write_inj {j k : Json} {s t : String} (hj : leavesAll isExact j = true)
    (hk : leavesAll isExact k = true) (hs : j.write = .ok s) (ht : k.write = .ok t) :
    s = t ↔ j = k := by
  have hcarries := carries_of_write hj hs
  constructor
  · rintro rfl
    exact hcarries.inj (carries_of_write hk ht)
  · rintro rfl
    exact Except.ok.inj (hs.symm.trans ht)

end ReactLint.Json
