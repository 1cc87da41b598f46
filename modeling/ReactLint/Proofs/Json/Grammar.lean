import ReactLint.Json.Decode

/-!
# The grammar of JSON

The productions of RFC 8259, each with the value that it stands for: blanks around the six
structural characters, numbers, texts with their escapes, lists and objects. A text is read as
UTF-16 units, of which two escaped ones may form a pair.

The reader finds every value that the grammar gives to a text. So no text has two of them.
-/

namespace ReactLint.Json.Grammar

/-! ## The productions -/

def Blanks (cs : List Char) : Prop := ∀ c ∈ cs, isSpace c = true

def Digits (ds : List Char) : Prop := ds ≠ [] ∧ ∀ d ∈ ds, d.isDigit = true

/-- The whole part of a number: a zero, or digits of which the first is none. -/
inductive Whole : List Char → Prop where
  | zero : Whole ['0']
  | digits {d : Char} {ds : List Char} : d ≠ '0' → Digits (d :: ds) → Whole (d :: ds)

inductive Fraction : List Char → Option (List Char) → Prop where
  | absent : Fraction [] none
  | present {ds : List Char} : Digits ds → Fraction ('.' :: ds) (some ds)

inductive Sign : List Char → Bool → Prop where
  | absent : Sign [] false
  | plus : Sign ['+'] false
  | minus : Sign ['-'] true

def signed (negative : Bool) (n : Nat) : Int := if negative then -(n : Int) else n

inductive Exponent : List Char → Option Int → Prop where
  | absent : Exponent [] none
  | present {e : Char} {sign ds : List Char} {negative : Bool} : e = 'e' ∨ e = 'E' →
      Sign sign negative → Digits ds →
      Exponent (e :: sign ++ ds) (some (signed negative (decimalValue ds)))

/-- The value of a number. One with a fraction or an exponent is a floating-point number. -/
def numberOf (negative : Bool) (whole : List Char) (fraction : Option (List Char))
    (exponent : Option Int) : Json :=
  match fraction, exponent with
  | none, none => .int (signed negative (decimalValue whole))
  | _, _ =>
    .float (.ofDecimal negative (decimalValue (whole ++ fraction.getD []))
      (exponent.getD 0 - (fraction.getD []).length))

inductive Units : List Char → List Nat → Prop where
  | done : Units [] []
  | plain {c : Char} {cs : List Char} {us : List Nat} : c ≠ '"' → c ≠ '\\' → 32 ≤ c.toNat →
      Units cs us → Units (c :: cs) (c.toNat :: us)
  | short {e : Char} {u : Nat} {cs : List Char} {us : List Nat} : shortEscape? e = some u →
      Units cs us → Units ('\\' :: e :: cs) (u :: us)
  | escaped {a b c d : Char} {u : Nat} {cs : List Char} {us : List Nat} : unit? a b c d = some u →
      Units cs us → Units ('\\' :: 'u' :: a :: b :: c :: d :: cs) (u :: us)

def Quoted (cs : List Char) (points : List Nat) : Prop :=
  ∃ inner us, cs = '"' :: inner ++ ['"'] ∧ Units inner us ∧ joinUnits us = points

mutual

inductive Value : List Char → Json → Prop where
  | null : Value ['n', 'u', 'l', 'l'] .null
  | yes : Value ['t', 'r', 'u', 'e'] (.bool true)
  | no : Value ['f', 'a', 'l', 's', 'e'] (.bool false)
  | number {whole fraction exponent : List Char} {ds : Option (List Char)} {n : Option Int}
      (negative : Bool) : Whole whole → Fraction fraction ds → Exponent exponent n →
      Value ((if negative then ['-'] else []) ++ (whole ++ (fraction ++ exponent)))
        (numberOf negative whole ds n)
  | text {cs : List Char} {points : List Nat} : Quoted cs points → Value cs (ofPoints points)
  | noItems {w : List Char} : Blanks w → Value ('[' :: (w ++ [']'])) (.list [])
  | list {cs : List Char} {js : List Json} : Items cs js → Value ('[' :: (cs ++ [']'])) (.list js)
  | noMembers {w : List Char} : Blanks w → Value ('\x7b' :: (w ++ ['\x7d'])) (.object [])
  | object {cs : List Char} {ms : List (String × Json)} : Members cs ms →
      Value ('\x7b' :: (cs ++ ['\x7d'])) (.object ms)

inductive Items : List Char → List Json → Prop where
  | last {w cs w' : List Char} {j : Json} : Blanks w → Value cs j → Blanks w' →
      Items (w ++ (cs ++ w')) [j]
  | more {w cs w' rest : List Char} {j : Json} {js : List Json} : Blanks w → Value cs j →
      Blanks w' → Items rest js → Items (w ++ (cs ++ (w' ++ ',' :: rest))) (j :: js)

inductive Members : List Char → List (String × Json) → Prop where
  | last {w name w₁ w₂ cs w' : List Char} {points : List Nat} {j : Json} : Blanks w →
      Quoted name points → Blanks w₁ → Blanks w₂ → Value cs j → Blanks w' →
      Members (w ++ (name ++ (w₁ ++ ':' :: (w₂ ++ (cs ++ w'))))) [(nameOf points, j)]
  | more {w name w₁ w₂ cs w' rest : List Char} {points : List Nat} {j : Json}
      {ms : List (String × Json)} : Blanks w → Quoted name points → Blanks w₁ → Blanks w₂ →
      Value cs j → Blanks w' → Members rest ms →
      Members (w ++ (name ++ (w₁ ++ ':' :: (w₂ ++ (cs ++ (w' ++ ',' :: rest))))))
        ((nameOf points, j) :: ms)

end

def Document (cs : List Char) (j : Json) : Prop :=
  ∃ w inner w', cs = w ++ (inner ++ w') ∧ Blanks w ∧ Value inner j ∧ Blanks w'

/-! ## Blanks and digits -/

theorem skipSpace_blanks {w cs : List Char} (h : Blanks w) :
    skipSpace (w ++ cs) = skipSpace cs := by
  rw [skipSpace, List.dropWhile_append_of_pos h]
  rfl

theorem skipSpace_cons {c : Char} {cs : List Char} (h : isSpace c = false) :
    skipSpace (c :: cs) = c :: cs := by
  rw [skipSpace, List.dropWhile_cons_of_neg (by rw [h]; exact Bool.false_ne_true)]

theorem skipSpace_skipSpace (cs : List Char) : skipSpace (skipSpace cs) = skipSpace cs := by
  induction cs with
  | nil => rfl
  | cons c cs ih =>
    by_cases hc : isSpace c = true
    · simp only [skipSpace, List.dropWhile_cons_of_pos hc] at ih ⊢
      exact ih
    · rw [skipSpace_cons (by simpa using hc), skipSpace_cons (by simpa using hc)]

/-- What may follow a number: nothing that would make it longer. -/
def Ends (cs : List Char) : Prop :=
  ∀ c ∈ cs.head?, c.isDigit = false ∧ c ≠ '.' ∧ c ≠ 'e' ∧ c ≠ 'E'

theorem spanDigits_append {ds rest : List Char} (hds : ∀ d ∈ ds, d.isDigit = true)
    (hrest : ∀ c ∈ rest.head?, c.isDigit = false) : spanDigits (ds ++ rest) = (ds, rest) := by
  induction ds with
  | nil =>
    cases rest with
    | nil => rfl
    | cons c cs => simp [spanDigits, hrest c rfl]
  | cons d ds ih =>
    have htail := ih fun c hc => hds c (List.mem_cons_of_mem d hc)
    simp [spanDigits, hds d List.mem_cons_self, htail]

theorem ne_of_isDigit {c d : Char} (hc : c.isDigit = true) (hd : d.isDigit = false) : c ≠ d := by
  rintro rfl
  rw [hc] at hd
  cases hd

theorem readSign_append {sign ds rest : List Char} {negative : Bool} (hsign : Sign sign negative)
    (hds : Digits ds) : readSign (sign ++ (ds ++ rest)) = (negative, ds ++ rest) := by
  cases hsign with
  | plus => rfl
  | minus => rfl
  | absent =>
    obtain ⟨hne, hall⟩ := hds
    obtain ⟨d, ds', rfl⟩ := List.exists_cons_of_ne_nil hne
    have hminus := ne_of_isDigit (hall d List.mem_cons_self) (d := '-') rfl
    have hplus := ne_of_isDigit (hall d List.mem_cons_self) (d := '+') rfl
    simp [readSign, hminus, hplus]

theorem readExponent_append {cs rest : List Char} {n : Option Int} (h : Exponent cs n)
    (hrest : Ends rest) : readExponent (cs ++ rest) = (n, rest) := by
  cases h with
  | absent =>
    cases rest with
    | nil => rfl
    | cons c cs =>
      obtain ⟨-, -, hlower, hupper⟩ := hrest c rfl
      simp [readExponent, hlower, hupper]
  | @present e sign ds negative he hsign hds =>
    have hspan := spanDigits_append hds.2 fun c hc => (hrest c hc).1
    have hread : readSign (sign ++ (ds ++ rest)) = (negative, ds ++ rest) :=
      readSign_append hsign hds
    obtain ⟨d, ds', rfl⟩ := List.exists_cons_of_ne_nil hds.1
    simp only [List.cons_append, List.append_assoc, readExponent, if_pos he] at hread hspan ⊢
    simp only [hread, hspan, signed]

theorem readFraction_append {cs rest : List Char} {ds : Option (List Char)} (h : Fraction cs ds)
    (hrest : ∀ c ∈ rest.head?, c.isDigit = false ∧ c ≠ '.') :
    readFraction (cs ++ rest) = (ds, rest) := by
  cases h with
  | absent =>
    cases rest with
    | nil => rfl
    | cons c cs => simp [readFraction, (hrest c rfl).2]
  | @present ds hds =>
    have hspan := spanDigits_append hds.2 fun c hc => (hrest c hc).1
    obtain ⟨d, ds', rfl⟩ := List.exists_cons_of_ne_nil hds.1
    simp only [List.cons_append, readFraction] at hspan ⊢
    rw [hspan]

theorem Exponent.ends {cs rest : List Char} {n : Option Int} (h : Exponent cs n)
    (hrest : Ends rest) : ∀ c ∈ (cs ++ rest).head?, c.isDigit = false ∧ c ≠ '.' := by
  intro c hc
  cases h with
  | absent => exact ⟨(hrest c hc).1, (hrest c hc).2.1⟩
  | present he hsign hds =>
    obtain rfl : _ = c := Option.some.inj hc
    rcases he with rfl | rfl <;> decide

theorem Fraction.ends {cs rest : List Char} {ds : Option (List Char)} (h : Fraction cs ds)
    (hrest : ∀ c ∈ rest.head?, c.isDigit = false ∧ c ≠ '.') :
    ∀ c ∈ (cs ++ rest).head?, c.isDigit = false := by
  intro c hc
  cases h with
  | absent => exact (hrest c hc).1
  | present hds =>
    obtain rfl : _ = c := Option.some.inj hc
    rfl

theorem readWhole_append {whole rest : List Char} (h : Whole whole)
    (hrest : ∀ c ∈ rest.head?, c.isDigit = false) : readWhole (whole ++ rest) = (whole, rest) := by
  cases h with
  | zero => rfl
  | @digits d ds hd hds =>
    have hspan := spanDigits_append hds.2 hrest
    simp only [List.cons_append] at hspan ⊢
    rw [readWhole.eq_2 _ fun cs heq => hd (List.cons.inj heq).1, hspan]

theorem readMagnitude_append {whole fraction exponent rest : List Char} {ds : Option (List Char)}
    {n : Option Int} (negative : Bool) (hwhole : Whole whole) (hfraction : Fraction fraction ds)
    (hexponent : Exponent exponent n) (hrest : Ends rest) :
    readMagnitude negative (whole ++ (fraction ++ (exponent ++ rest))) =
      some (numberOf negative whole ds n, rest) := by
  have htail := hexponent.ends hrest
  have hspan := readWhole_append hwhole (hfraction.ends htail)
  have hfrac := readFraction_append hfraction htail
  have hexp := readExponent_append hexponent hrest
  have hne : whole.isEmpty = false := by cases hwhole <;> rfl
  simp only [readMagnitude, hspan, hne, hfrac, hexp, Bool.false_eq_true, if_false]
  cases ds <;> cases n <;> rfl

theorem Whole.head {whole : List Char} (h : Whole whole) :
    ∃ d ds, whole = d :: ds ∧ d.isDigit = true := by
  cases h with
  | zero => exact ⟨'0', [], rfl, rfl⟩
  | digits hd hds => exact ⟨_, _, rfl, hds.2 _ List.mem_cons_self⟩

theorem readNumber_append {whole fraction exponent rest : List Char} {ds : Option (List Char)}
    {n : Option Int} (negative : Bool) (hwhole : Whole whole) (hfraction : Fraction fraction ds)
    (hexponent : Exponent exponent n) (hrest : Ends rest) :
    readNumber ((if negative then ['-'] else []) ++ (whole ++ (fraction ++ (exponent ++ rest)))) =
      some (numberOf negative whole ds n, rest) := by
  have hread := readMagnitude_append negative hwhole hfraction hexponent hrest
  cases negative with
  | true => exact hread
  | false =>
    obtain ⟨d, ds', rfl, hd⟩ := hwhole.head
    have hminus := ne_of_isDigit hd (d := '-') rfl
    simp only [Bool.false_eq_true, if_false, List.nil_append, List.cons_append] at hread ⊢
    rw [readNumber.eq_2 _ fun cs heq => hminus (List.cons.inj heq).1, hread]

/-! ## Texts -/

theorem readUnits_append {cs rest : List Char} {us : List Nat} (h : Units cs us) :
    readUnits (cs ++ '"' :: rest) = some (us, rest) := by
  induction h with
  | done => rfl
  | @plain c cs us hquote hslash hprint _ ih =>
    have hlow : ¬ c.toNat < 32 := by omega
    rw [List.cons_append, readUnits.eq_5]
    all_goals simp [hlow, ih, hslash, hquote]
  | @short e u cs us he _ ih =>
    have hne : e ≠ 'u' := by
      rintro rfl
      cases he
    simp [readUnits, hne, he, ih]
  | @escaped a b c d u cs us hu _ ih =>
    simp only [List.cons_append, readUnits, hu, ih, Option.bind_eq_bind, Option.bind_some]
    rfl

theorem readText_append {cs rest : List Char} {points : List Nat}
    (h : Quoted ('"' :: cs) points) : readText (cs ++ rest) = some (points, rest) := by
  obtain ⟨inner, us, hcs, hunits, hjoin⟩ := h
  obtain rfl : cs = inner ++ ['"'] := (List.cons.inj hcs).2
  rw [List.append_assoc, List.singleton_append, readText, readUnits_append hunits, ← hjoin]
  rfl

/-! ## Values -/

theorem ends_cons {c : Char} {cs : List Char}
    (h : c.isDigit = false ∧ c ≠ '.' ∧ c ≠ 'e' ∧ c ≠ 'E') : Ends (c :: cs) := by
  intro d hd
  rw [← Option.some.inj hd]
  exact h

theorem ends_blanks {w rest : List Char} (hw : Blanks w) (hrest : Ends rest) :
    Ends (w ++ rest) := by
  cases w with
  | nil => exact hrest
  | cons c cs =>
    refine ends_cons ?_
    have hc := hw c List.mem_cons_self
    simp only [isSpace, Bool.or_eq_true, beq_iff_eq] at hc
    rcases hc with ((rfl | rfl) | rfl) | rfl <;> decide

theorem Value.head {cs : List Char} {j : Json} (h : Value cs j) :
    ∃ c cs', cs = c :: cs' ∧ isSpace c = false ∧ c ≠ ']' := by
  cases h with
  | null => exact ⟨_, _, rfl, by decide⟩
  | yes => exact ⟨_, _, rfl, by decide⟩
  | no => exact ⟨_, _, rfl, by decide⟩
  | @number whole fraction exponent ds n negative hwhole _ _ =>
    cases negative with
    | true => exact ⟨'-', _, rfl, by decide⟩
    | false =>
      obtain ⟨d, ds', rfl, hd⟩ := hwhole.head
      refine ⟨d, _, rfl, ?_, ne_of_isDigit hd rfl⟩
      have hspace := fun c hc => ne_of_isDigit hd (d := c) hc
      simp [isSpace, hspace ' ' rfl, hspace '\t' rfl, hspace '\n' rfl, hspace '\r' rfl]
  | text h =>
    obtain ⟨inner, us, rfl, -, -⟩ := h
    exact ⟨_, _, rfl, by decide⟩
  | noItems _ => exact ⟨_, _, rfl, by decide⟩
  | list _ => exact ⟨_, _, rfl, by decide⟩
  | noMembers _ => exact ⟨_, _, rfl, by decide⟩
  | object _ => exact ⟨_, _, rfl, by decide⟩

theorem Value.skipSpace_append {cs w : List Char} {j : Json} (h : Value cs j) (hw : Blanks w)
    (rest : List Char) : skipSpace (w ++ (cs ++ rest)) = cs ++ rest := by
  obtain ⟨c, cs', rfl, hc, -⟩ := h.head
  rw [skipSpace_blanks hw, List.cons_append, skipSpace_cons hc]

theorem dropName?_eq_none {c d : Char} {name cs : List Char} (h : d ≠ c) :
    dropName? (c :: name) (d :: cs) = none := by
  have hne : (c == d) = false := by simpa using h.symm
  simp [dropName?, List.isPrefixOf, hne]

theorem readConstant_digit {d : Char} (cs : List Char) (hd : d.isDigit = true) (negative : Bool) :
    readConstant ((if negative then ['-'] else []) ++ d :: cs) = none := by
  have hne := fun c hc => ne_of_isDigit hd (d := c) hc
  simp only [readConstant, List.findSome?_eq_none_iff, constants, List.forall_mem_cons,
    Option.map_eq_none_iff]
  cases negative with
  | true =>
    refine ⟨rfl, rfl, rfl, rfl, rfl, ?_, nofun⟩
    have hfst : ('I' == d) = false := by simpa using (hne 'I' rfl).symm
    simp [dropName?, List.isPrefixOf, hfst]
  | false =>
    exact ⟨dropName?_eq_none (hne 'n' rfl), dropName?_eq_none (hne 't' rfl),
      dropName?_eq_none (hne 'f' rfl), dropName?_eq_none (hne 'N' rfl),
      dropName?_eq_none (hne 'I' rfl), dropName?_eq_none (hne '-' rfl), nofun⟩

theorem readValue_digit {w : List Char} {d : Char} {cs : List Char} (fuel : Nat) (hw : Blanks w)
    (hd : d.isDigit = true) (negative : Bool) :
    readValue (fuel + 1) (w ++ ((if negative then ['-'] else []) ++ d :: cs)) =
      readNumber ((if negative then ['-'] else []) ++ d :: cs) := by
  have hconstant := readConstant_digit cs hd negative
  have hne := fun c hc => ne_of_isDigit hd (d := c) hc
  have hspace : isSpace d = false := by
    simp [isSpace, hne ' ' rfl, hne '\t' rfl, hne '\n' rfl, hne '\r' rfl]
  cases negative with
  | true =>
    have hconstant : readConstant ('-' :: d :: cs) = none := hconstant
    simp [readValue, skipSpace_blanks hw, skipSpace_cons (c := '-') rfl, hconstant]
  | false =>
    have hconstant : readConstant (d :: cs) = none := hconstant
    simp [readValue, skipSpace_blanks hw, skipSpace_cons hspace, hconstant, hne]

theorem readItems_skipSpace (fuel : Nat) (cs : List Char) :
    readItems fuel (skipSpace cs) = readItems fuel cs := by
  cases fuel with
  | zero => rfl
  | succ fuel =>
    have hvalue : readValue fuel (skipSpace cs) = readValue fuel cs := by
      cases fuel with
      | zero => rfl
      | succ fuel => rw [readValue, readValue, skipSpace_skipSpace]
    rw [readItems, readItems, hvalue]

theorem readMembers_skipSpace (fuel : Nat) (cs : List Char) :
    readMembers fuel (skipSpace cs) = readMembers fuel cs := by
  cases fuel with
  | zero => rfl
  | succ fuel => rw [readMembers, readMembers, skipSpace_skipSpace]

theorem Items.head {cs : List Char} {js : List Json} (h : Items cs js) (rest : List Char) :
    ∃ c cs', skipSpace (cs ++ rest) = c :: cs' ∧ c ≠ ']' := by
  cases h with
  | last hw hvalue _ | more hw hvalue _ _ =>
    obtain ⟨c, cs', hcs, -, hc⟩ := hvalue.head
    rw [List.append_assoc, List.append_assoc, hvalue.skipSpace_append hw, hcs]
    exact ⟨c, _, rfl, hc⟩

theorem Quoted.skipSpace_append {cs w : List Char} {points : List Nat} (h : Quoted cs points)
    (hw : Blanks w) (rest : List Char) : skipSpace (w ++ (cs ++ rest)) = cs ++ rest :=
  (Value.text h).skipSpace_append hw rest

theorem Members.head {cs : List Char} {ms : List (String × Json)} (h : Members cs ms)
    (rest : List Char) : ∃ cs', skipSpace (cs ++ rest) = '"' :: cs' := by
  cases h with
  | last hw hname | more hw hname =>
    obtain ⟨inner, us, hcs, -, -⟩ := id hname
    rw [List.append_assoc, List.append_assoc, hname.skipSpace_append hw, hcs]
    exact ⟨_, rfl⟩

theorem ends_blanks_cons {w rest : List Char} {c : Char} (hw : Blanks w)
    (hc : c.isDigit = false ∧ c ≠ '.' ∧ c ≠ 'e' ∧ c ≠ 'E') : Ends (w ++ c :: rest) :=
  ends_blanks hw (ends_cons hc)

/-- What reading does behind the value of a member. -/
def readAfter (fuel : Nat) (name : String) (j : Json) :
    List Char → Option (List (String × Json) × List Char)
  | ',' :: rest => (readMembers fuel rest).map fun (ms, rest) => ((name, j) :: ms, rest)
  | '\x7d' :: rest => some ([(name, j)], rest)
  | _ => none

theorem readMembers_member {w name w₁ value tail : List Char} {points : List Nat} {j : Json}
    {fuel : Nat} (hw : Blanks w) (hname : Quoted name points) (hw₁ : Blanks w₁)
    (hread : readValue fuel value = some (j, tail)) :
    readMembers (fuel + 1) (w ++ (name ++ (w₁ ++ ':' :: value))) =
      readAfter fuel (nameOf points) j (skipSpace tail) := by
  rw [readMembers, hname.skipSpace_append hw]
  obtain ⟨inner, us, rfl, -⟩ := id hname
  have htext : readText (inner ++ ['"'] ++ (w₁ ++ ':' :: value)) = _ := readText_append hname
  simp only [List.cons_append, htext, skipSpace_blanks hw₁, skipSpace_cons (c := ':') rfl, hread]
  rfl

-- The three readers call each other with less fuel, and every step into a part leaves at least one
-- character of the whole behind: the length of the text is fuel enough.
mutual

theorem readValue_append {cs w : List Char} {j : Json} (fuel : Nat) (rest : List Char)
    (h : Value cs j) (hfuel : cs.length ≤ fuel) (hw : Blanks w) (hrest : Ends rest) :
    readValue fuel (w ++ (cs ++ rest)) = some (j, rest) := by
  obtain ⟨c, cs', hcs, -⟩ := h.head
  obtain ⟨fuel, rfl⟩ : ∃ n, fuel = n + 1 := Nat.exists_eq_add_one.mpr (by grind)
  clear hcs
  have hskip := h.skipSpace_append hw rest
  cases h with
  | null => rw [readValue, hskip]; rfl
  | yes => rw [readValue, hskip]; rfl
  | no => rw [readValue, hskip]; rfl
  | number negative hwhole hfraction hexponent =>
    have hread := readNumber_append negative hwhole hfraction hexponent hrest
    obtain ⟨d, ds, rfl, hd⟩ := hwhole.head
    simp only [List.append_assoc, List.cons_append] at hread ⊢
    rw [readValue_digit fuel hw hd, hread]
  | text h =>
    obtain ⟨inner, us, rfl, _⟩ := id h
    have hread : readText (inner ++ ['"'] ++ rest) = _ := readText_append h
    rw [readValue, hskip]
    simp only [List.cons_append, hread, Option.map_some]
  | noItems hw =>
    rw [readValue, hskip]
    simp only [List.cons_append, List.append_assoc, List.nil_append, skipSpace_blanks hw,
      skipSpace_cons (c := ']') rfl]
  | @list cs js h =>
    obtain ⟨c, cs', hinner, hc⟩ := h.head (']' :: rest)
    have hread := readItems_append fuel rest h (by grind)
    rw [← readItems_skipSpace, hinner] at hread
    rw [readValue, hskip]
    simp only [List.cons_append, List.append_assoc, List.nil_append, hinner]
    simp [hc, hread]
  | noMembers hw =>
    rw [readValue, hskip]
    simp only [List.cons_append, List.append_assoc, List.nil_append, skipSpace_blanks hw,
      skipSpace_cons (c := '\x7d') rfl]
  | @object cs ms h =>
    obtain ⟨cs', hinner⟩ := h.head ('\x7d' :: rest)
    have hread := readMembers_append fuel rest h (by grind)
    rw [← readMembers_skipSpace, hinner] at hread
    rw [readValue, hskip]
    simp only [List.cons_append, List.append_assoc, List.nil_append, hinner]
    simp [hread]
termination_by fuel

theorem readItems_append {cs : List Char} {js : List Json} (fuel : Nat) (rest : List Char)
    (h : Items cs js) (hfuel : cs.length < fuel) :
    readItems fuel (cs ++ ']' :: rest) = some (js, rest) := by
  obtain ⟨fuel, rfl⟩ : ∃ n, fuel = n + 1 := Nat.exists_eq_add_one.mpr (by omega)
  cases h with
  | @last w cs w' j hw hvalue hw' =>
    have hread := readValue_append fuel (w' ++ ']' :: rest) hvalue (by grind) hw
      (ends_blanks_cons hw' (by decide))
    simp only [List.append_assoc, readItems, hread, skipSpace_blanks hw',
      skipSpace_cons (c := ']') rfl]
  | @more w cs w' others j js hw hvalue hw' hitems =>
    have hread := readValue_append fuel (w' ++ ',' :: (others ++ ']' :: rest)) hvalue (by grind) hw
      (ends_blanks_cons hw' (by decide))
    have hothers := readItems_append fuel rest hitems (by grind)
    simp only [List.append_assoc, List.cons_append, readItems, hread, skipSpace_blanks hw',
      skipSpace_cons (c := ',') rfl, hothers]
    rfl
termination_by fuel

theorem readMembers_append {cs : List Char} {ms : List (String × Json)} (fuel : Nat)
    (rest : List Char) (h : Members cs ms) (hfuel : cs.length < fuel) :
    readMembers fuel (cs ++ '\x7d' :: rest) = some (ms, rest) := by
  obtain ⟨fuel, rfl⟩ : ∃ n, fuel = n + 1 := Nat.exists_eq_add_one.mpr (by omega)
  cases h with
  | @last w name w₁ w₂ cs w' points j hw hname hw₁ hw₂ hvalue hw' =>
    have hread := readValue_append fuel (w' ++ '\x7d' :: rest) hvalue (by grind) hw₂
      (ends_blanks_cons hw' (by decide))
    simp only [List.append_assoc, List.cons_append]
    rw [readMembers_member hw hname hw₁ hread, skipSpace_blanks hw', skipSpace_cons rfl, readAfter]
  | @more w name w₁ w₂ cs w' others points j ms hw hname hw₁ hw₂ hvalue hw' hmembers =>
    have hread := readValue_append fuel (w' ++ ',' :: (others ++ '\x7d' :: rest)) hvalue (by grind)
      hw₂ (ends_blanks_cons hw' (by decide))
    have hothers := readMembers_append fuel rest hmembers (by grind)
    simp only [List.append_assoc, List.cons_append]
    rw [readMembers_member hw hname hw₁ hread, skipSpace_blanks hw', skipSpace_cons rfl, readAfter,
      hothers, Option.map_some]
termination_by fuel

end

theorem decodeChars_eq_some {cs : List Char} {j : Json} (h : Document cs j) :
    decodeChars cs = some j := by
  obtain ⟨w, inner, w', rfl, hw, hvalue, hw'⟩ := h
  have hends : Ends (w' ++ []) := ends_blanks hw' nofun
  rw [List.append_nil] at hends
  have hread := readValue_append (2 * (w ++ (inner ++ w')).length + 2) w' hvalue
    (by simp only [List.length_append]; omega) hw hends
  have hskip : skipSpace (w' ++ []) = [] := skipSpace_blanks hw'
  rw [List.append_nil] at hskip
  rw [decodeChars, hread]
  simp [hskip]

theorem Document.unique {cs : List Char} {j j' : Json} (h : Document cs j) (h' : Document cs j') :
    j = j' :=
  Option.some.inj ((decodeChars_eq_some h).symm.trans (decodeChars_eq_some h'))

end ReactLint.Json.Grammar
