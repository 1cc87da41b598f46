/-!
# Lines and parts of a text

A text file may end its lines by a newline, by a carriage return or by both; a text that is read
has newlines only. The parts of a text stand between the places of a character: there is always at
least one part, the character stands in none of them, and joining the parts with it gives back the
text.
-/

namespace ReactLint.Text

/-! ## Line ends -/

def unifyLines : List Char → List Char
  | '\r' :: '\n' :: cs => '\n' :: unifyLines cs
  | c :: cs => (if c = '\r' then '\n' else c) :: unifyLines cs
  | [] => []

def unifyLineEnds (s : String) : String := String.ofList (unifyLines s.toList)

/-! ## Parts -/

def parts (sep : Char) : List Char → List (List Char)
  | [] => [[]]
  | c :: cs =>
    match parts sep cs with
    | first :: more => if c = sep then [] :: first :: more else (c :: first) :: more
    | [] => [[c]]

theorem parts_ne_nil (sep : Char) (cs : List Char) : parts sep cs ≠ [] := by
  cases cs with
  | nil => simp [parts]
  | cons c cs =>
    simp only [parts]
    split
    · split <;> simp
    · simp

theorem not_mem_parts (sep : Char) (cs : List Char) : ∀ part ∈ parts sep cs, sep ∉ part := by
  induction cs with
  | nil => simp [parts]
  | cons c cs ih =>
    obtain ⟨first, more, hparts⟩ := List.exists_cons_of_ne_nil (parts_ne_nil sep cs)
    rw [hparts] at ih
    obtain ⟨hfirst, hmore⟩ := List.forall_mem_cons.mp ih
    simp only [parts, hparts]
    split
    · exact List.forall_mem_cons.mpr ⟨List.not_mem_nil, ih⟩
    · rename_i hne
      exact List.forall_mem_cons.mpr
        ⟨List.not_mem_cons_of_ne_of_not_mem (Ne.symm hne) hfirst, hmore⟩

def join (sep : Char) : List (List Char) → List Char
  | [] => []
  | [part] => part
  | part :: more => part ++ sep :: join sep more

theorem join_cons_cons (sep : Char) (first second : List Char) (more : List (List Char)) :
    join sep (first :: second :: more) = first ++ sep :: join sep (second :: more) := rfl

theorem join_parts (sep : Char) (cs : List Char) : join sep (parts sep cs) = cs := by
  induction cs with
  | nil => rfl
  | cons c cs ih =>
    obtain ⟨first, more, h⟩ := List.exists_cons_of_ne_nil (parts_ne_nil sep cs)
    rw [h] at ih
    simp only [parts, h]
    split
    · next hc => simp [join, ih, hc]
    · cases more with
      | nil => simpa [join] using ih
      | cons second more => simpa [join] using ih

end ReactLint.Text
