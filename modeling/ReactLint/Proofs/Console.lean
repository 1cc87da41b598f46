import ReactLint.CommandLine.Run

/-!
# What a console takes

Printing gets to its end exactly if everything that is to be printed is taken. Else it stops at the
first thing that is refused, and what was in front of it has been shown. Notices and empty lines are
always taken.
-/

namespace ReactLint

theorem Fault.ofResult?_eq_none_iff {α : Type} {x : Except Fault α} :
    Fault.ofResult? x = none ↔ ∃ a, x = .ok a := by
  cases x with
  | ok a => exact ⟨fun _ => ⟨a, rfl⟩, fun _ => rfl⟩
  | error f => exact ⟨nofun, nofun⟩

namespace Console

variable {K : Console} {ps qs : List Printed} {f : Fault}

def Takes (K : Console) (ps : List Printed) : Prop := ∀ p ∈ ps, K.refusal? p = none

theorem refusal?_notice (n : Markup.Notice) : K.refusal? (.notice n) = none := by
  obtain ⟨t, ht⟩ := K.takes_notice n
  rw [Printed.notice, refusal?, ht]
  rfl

theorem refusal?_empty : K.refusal? (.line "") = none := by
  rw [refusal?, K.shown_simple "" (by decide)]
  rfl

theorem takes_nil : K.Takes [] := fun _ hp => nomatch hp

theorem takes_append : K.Takes (ps ++ qs) ↔ K.Takes ps ∧ K.Takes qs := List.forall_mem_append

theorem takes_singleton {p : Printed} : K.Takes [p] ↔ K.refusal? p = none := by
  simp [Takes]

theorem print_of_takes (h : K.Takes ps) : K.print ps = (ps, none) := by
  induction ps with
  | nil => rfl
  | cons p ps ih =>
    obtain ⟨hp, hps⟩ := List.forall_mem_cons.mp h
    rw [print, hp, ih hps]

theorem print_of_not_takes (h : ¬ K.Takes ps) :
    ∃ before p after f, ps = before ++ p :: after ∧ K.Takes before ∧ K.refusal? p = some f ∧
      K.print ps = (before, some f) := by
  induction ps with
  | nil => exact absurd takes_nil h
  | cons p ps ih =>
    cases hp : K.refusal? p with
    | some f => exact ⟨[], p, ps, f, rfl, takes_nil, hp, by rw [print, hp]⟩
    | none =>
      obtain ⟨before, q, after, f, rfl, hbefore, hq, hprint⟩ :=
        ih fun hps => h (List.forall_mem_cons.mpr ⟨hp, hps⟩)
      refine ⟨p :: before, q, after, f, rfl, List.forall_mem_cons.mpr ⟨hp, hbefore⟩, hq, ?_⟩
      rw [print, hp, hprint]

theorem print_eq_none_iff : (K.print ps).2 = none ↔ K.Takes ps := by
  constructor
  · intro hnone
    refine Classical.byContradiction fun hno => ?_
    obtain ⟨before, p, after, f, -, -, -, hprint⟩ := print_of_not_takes hno
    rw [hprint] at hnone
    cases hnone
  · intro h
    rw [print_of_takes h]

end Console

namespace CommandLine.Outcome

variable {K : Console} {o : Outcome} {ps : List Printed}

theorem say_of_takes (h : K.Takes ps) :
    o.say K ps = .ok { o with messages := o.messages ++ ps } := by
  rw [say, Console.print_of_takes h]

/-- What is refused ends a run with 1; nothing but messages has come to what it leaves. -/
theorem say_of_not_takes (h : ¬ K.Takes ps) :
    ∃ shown f, o.say K ps = .error ({ o with messages := o.messages ++ shown }.fail f) := by
  obtain ⟨before, p, after, f, -, -, -, hprint⟩ := Console.print_of_not_takes h
  exact ⟨before, f, by rw [say, hprint]⟩

theorem exit_final_say (K : Console) (o : Outcome) (ps : List Printed) :
    (final (o.say K ps)).exit = o.exit ∨ (final (o.say K ps)).exit = 1 := by
  by_cases h : K.Takes ps
  · rw [say_of_takes h]
    exact .inl rfl
  · obtain ⟨shown, f, hsay⟩ := say_of_not_takes (o := o) h
    rw [hsay]
    exact .inr rfl

theorem stop_notice (K : Console) (o : Outcome) (n : Markup.Notice) :
    o.stop K (.refuse (.notice n)) =
      { o with messages := o.messages ++ [.notice n], exit := 2 } := by
  rw [stop, say_of_takes (Console.takes_singleton.mpr (Console.refusal?_notice n))]

/-- A run that does not go on has exit code 2 if it is refused with a message that the console
takes, and else 1 and a fault. -/
theorem stop_cases (K : Console) (o : Outcome) (why : Stop) :
    (∃ m, why = .refuse m ∧ K.refusal? m = none ∧
      o.stop K why = { o with messages := o.messages ++ [m], exit := 2 }) ∨
    (∀ m, why = .refuse m → K.refusal? m ≠ none) ∧
      ∃ shown f, o.stop K why = { o with messages := o.messages ++ shown }.fail f := by
  cases why with
  | fail f => exact .inr ⟨nofun, [], f, by rw [stop, List.append_nil]⟩
  | refuse m =>
    by_cases hm : K.refusal? m = none
    · exact .inl ⟨m, rfl, hm, by rw [stop, say_of_takes (Console.takes_singleton.mpr hm)]⟩
    · obtain ⟨shown, f, hsay⟩ := say_of_not_takes (o := o) (mt Console.takes_singleton.mp hm)
      refine .inr ⟨fun m' heq => ?_, shown, f, by rw [stop, hsay]⟩
      cases heq
      exact hm

end CommandLine.Outcome

end ReactLint
