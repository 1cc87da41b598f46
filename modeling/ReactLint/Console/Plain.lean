import ReactLint.Console

/-!
# The console without styles

A console without styles shows markup without its tags. It takes every notice: escaping puts each
tag behind an odd number of backslashes, behind which a tag opens and closes nothing, and the tag
that closes a notice has the name of the one that opens it.
-/

namespace ReactLint

namespace Markup

variable {cs rest : List Char} {c : Char}

/-! ## Scanning -/

theorem scan_skip (n slashes : Nat) (cs : List Char) :
    scan n slashes cs = scan 0 slashes (cs.drop n) := by
  induction n generalizing cs with
  | zero => rfl
  | succ n ih =>
    cases cs with
    | nil => simp [scan]
    | cons c cs => rw [scan, ih, List.drop_succ_cons]

theorem scan_backslashes (n slashes : Nat) (cs : List Char) :
    scan 0 slashes (backslashes n ++ cs) = scan 0 (slashes + n) cs := by
  induction n generalizing slashes with
  | zero => rfl
  | succ n ih =>
    rw [backslashes, List.replicate_succ, List.cons_append, scan, if_pos rfl, ← backslashes, ih]
    congr 1
    omega

theorem scan_other (slashes : Nat) (hslash : c ≠ '\\') (hopen : c ≠ '[') :
    scan 0 slashes (c :: cs) = .text (backslashes slashes ++ [c]) :: scan 0 0 cs := by
  rw [scan, if_neg hslash, if_neg hopen]

theorem scan_bracket (slashes : Nat) (h : tag? cs = none) :
    scan 0 slashes ('[' :: cs) = .bracket slashes :: scan 0 0 cs := by
  rw [scan, if_neg (by decide), if_pos rfl, h]

/-- The inside of a tag: no bracket, and a character at the front that tags start with. -/
def IsInside (inside : List Char) : Prop :=
  inside.head?.any isTagStart = true ∧ ∀ c ∈ inside, isBracket c = false

theorem tag?_inside {inside : List Char} (h : IsInside inside) (rest : List Char) :
    tag? (inside ++ ']' :: rest) = some inside := by
  obtain ⟨hhead, hall⟩ := h
  have hstart : (inside ++ ']' :: rest).head?.any isTagStart = true := by
    cases inside with
    | nil => cases hhead
    | cons c cs => exact hhead
  have hfind : (inside ++ ']' :: rest).find? isBracket = some ']' := by
    rw [List.find?_append, List.find?_eq_none.mpr (by simpa using hall)]
    rfl
  have htake : (inside ++ ']' :: rest).takeWhile (fun c => !isBracket c) = inside := by
    rw [List.takeWhile_append_of_pos (by simpa using hall), List.takeWhile_cons_of_neg (by decide),
      List.append_nil]
  rw [tag?, hstart, hfind, htake]
  rfl

theorem scan_tag (slashes : Nat) {inside : List Char} (h : IsInside inside) (rest : List Char) :
    scan 0 slashes ('[' :: (inside ++ ']' :: rest)) = .tag slashes inside :: scan 0 0 rest := by
  rw [scan, if_neg (by decide), if_pos rfl, tag?_inside h]
  dsimp only
  rw [scan_skip, List.append_cons, List.drop_left' (by simp)]

theorem isInside_of_tag? {inside : List Char} (h : tag? cs = some inside) : IsInside inside := by
  rw [tag?] at h
  split at h
  · rename_i htag
    cases h
    obtain ⟨hstart, -⟩ := Bool.and_eq_true_iff.mp htag
    refine ⟨?_, fun c hc => by simpa using List.all_eq_true.mp List.all_takeWhile c hc⟩
    cases cs with
    | nil => cases hstart
    | cons c cs =>
      have hc : isTagStart c = true := hstart
      have hplain : isBracket c = false := by
        rw [← Bool.not_eq_true]
        intro hbracket
        simp only [isBracket, Bool.or_eq_true, beq_iff_eq] at hbracket
        rcases hbracket with rfl | rfl <;> revert hc <;> decide
      simpa [List.takeWhile_cons, hplain] using hc
  · cases h

/-! ## Escaping -/

theorem find?_backslashes (n : Nat) (cs : List Char) :
    (backslashes n ++ cs).find? isBracket = cs.find? isBracket := by
  rw [List.find?_append, List.find?_eq_none.mpr]
  · rfl
  · intro c hc
    rw [List.eq_of_mem_replicate hc]
    decide

def escaped (ps : List Piece) : List Char := ps.flatMap Piece.escaped

/-- Escaping puts nothing but backslashes in front of a bracket. -/
theorem find?_escaped (n slashes : Nat) (cs : List Char) :
    (escaped (scan n slashes cs)).find? isBracket = (cs.drop n).find? isBracket := by
  fun_induction scan n slashes cs with
  | case1 n slashes => simpa [escaped, Piece.escaped] using find?_backslashes slashes []
  | case2 slashes c cs n ih => exact ih
  | case3 slashes cs ih => exact ih
  | case4 slashes cs inside hinside hne ih =>
    simp only [escaped, List.flatMap_cons, Piece.escaped, List.append_assoc, find?_backslashes]
    rfl
  | case5 slashes cs hnone hne ih =>
    simp only [escaped, List.flatMap_cons, Piece.escaped, List.append_assoc, find?_backslashes]
    rfl
  | case6 slashes c cs hslash hopen ih =>
    simp only [escaped, List.flatMap_cons, Piece.escaped, List.append_assoc, find?_backslashes]
    rw [List.drop_zero] at ih ⊢
    rw [List.singleton_append, List.find?_cons, List.find?_cons, ← escaped, ih]

theorem backslashes_append_cons (n : Nat) (cs : List Char) :
    backslashes n ++ '\\' :: cs = backslashes (n + 1) ++ cs := by
  rw [backslashes, backslashes, List.replicate_succ', List.append_assoc, List.singleton_append]

/-- The backslashes that were read come first. -/
theorem escaped_backslashes (slashes : Nat) (cs : List Char) :
    ∃ more, escaped (scan 0 slashes cs) = backslashes slashes ++ more := by
  induction cs generalizing slashes with
  | nil => exact ⟨[], by simp [scan, escaped, Piece.escaped]⟩
  | cons c cs ih =>
    by_cases hslash : c = '\\'
    · obtain ⟨more, hmore⟩ := ih (slashes + 1)
      exact ⟨'\\' :: more, by rw [hslash, scan, if_pos rfl, hmore, backslashes_append_cons]⟩
    · by_cases hopen : c = '['
      · subst hopen
        cases htag : tag? cs with
        | none =>
          rw [scan_bracket _ htag]
          exact ⟨_, List.append_assoc ..⟩
        | some inside =>
          rw [scan, if_neg hslash, if_pos rfl, htag]
          have hsum : 2 * slashes + 1 = slashes + (slashes + 1) := by omega
          have hsplit : backslashes (2 * slashes + 1) =
              backslashes slashes ++ backslashes (slashes + 1) := by
            rw [hsum, backslashes, backslashes, backslashes, List.replicate_append_replicate]
          simp only [escaped, List.flatMap_cons, Piece.escaped, hsplit, List.append_assoc]
          exact ⟨_, rfl⟩
      · rw [scan_other _ hslash hopen]
        simp only [escaped, List.flatMap_cons, Piece.escaped, List.append_assoc]
        exact ⟨_, rfl⟩

/-- A bracket that opens no tag opens none after escaping what stands behind it. -/
theorem tag?_escaped (h : tag? cs = none) (hrest : rest.find? isBracket ≠ some ']') :
    tag? (escaped (scan 0 0 cs) ++ rest) = none := by
  have hfind := find?_escaped 0 0 cs
  rw [List.drop_zero] at hfind
  have hnone : ¬ ((escaped (scan 0 0 cs) ++ rest).head?.any isTagStart = true ∧
      (escaped (scan 0 0 cs) ++ rest).find? isBracket = some ']') := by
    rintro ⟨hstart, hclose⟩
    rw [List.find?_append, hfind] at hclose
    cases cs with
    | nil => exact hrest hclose
    | cons c cs =>
      by_cases hc : isTagStart c = true
      · have hopen : (c :: cs).find? isBracket ≠ some ']' := fun hfound => by
          rw [tag?, hfound, List.head?_cons, Option.any_some, hc] at h
          cases h
        cases hfound : (c :: cs).find? isBracket with
        | none => exact hrest (by rwa [hfound] at hclose)
        | some d => exact hopen (by rwa [hfound] at hclose ⊢)
      · -- what is put in front of a character that starts no tag starts none either
        refine absurd hstart ?_
        by_cases hslash : c = '\\'
        · obtain ⟨more, hmore⟩ := escaped_backslashes 1 cs
          rw [hslash, scan, if_pos rfl, hmore]
          exact (by decide : ¬ isTagStart '\\' = true)
        · by_cases hbracket : c = '['
          · subst hbracket
            cases htag : tag? cs with
            | none =>
              rw [scan_bracket _ htag]
              exact (by decide : ¬ isTagStart '[' = true)
            | some inside =>
              rw [scan, if_neg hslash, if_pos rfl, htag]
              exact (by decide : ¬ isTagStart '\\' = true)
          · rw [scan_other _ hslash hbracket]
            exact hc
  rw [tag?, if_neg (by simpa using hnone)]

def Piece.IsCalm : Piece → Prop
  | .tag slashes _ => slashes % 2 = 1
  | _ => True

/-- Reading a text in front of `rest` opens and closes nothing; the backslashes at its end are read
together with `rest`. -/
def Passes (slashes : Nat) (cs rest : List Char) : Prop :=
  ∃ ps left, (∀ p ∈ ps, p.IsCalm) ∧ scan 0 slashes (cs ++ rest) = ps ++ scan 0 left rest

theorem passes_nil (slashes : Nat) (rest : List Char) : Passes slashes [] rest :=
  ⟨[], slashes, by simp, rfl⟩

/-- One calm piece and what passes behind it. -/
theorem Passes.piece {slashes : Nat} {p : Piece} {more : List Char} (hp : p.IsCalm)
    (hscan : scan 0 slashes (cs ++ rest) = p :: scan 0 0 (more ++ rest))
    (h : Passes 0 more rest) : Passes slashes cs rest := by
  obtain ⟨ps, left, hcalm, hps⟩ := h
  exact ⟨p :: ps, left, List.forall_mem_cons.mpr ⟨hp, hcalm⟩, by rw [hscan, hps, List.cons_append]⟩

theorem passes_backslashes {slashes n : Nat} (h : Passes (slashes + n) cs rest) :
    Passes slashes (backslashes n ++ cs) rest := by
  rwa [Passes, List.append_assoc, scan_backslashes]

theorem passes_escaped (hrest : rest.find? isBracket ≠ some ']') (n slashes : Nat)
    (cs : List Char) : Passes 0 (escaped (scan n slashes cs)) rest := by
  fun_induction scan n slashes cs with
  | case1 n slashes => simpa [escaped, Piece.escaped] using passes_backslashes (passes_nil _ rest)
  | case2 slashes c cs n ih => exact ih
  | case3 slashes cs ih => exact ih
  | case4 slashes cs inside hinside hne ih =>
    rw [escaped, List.flatMap_cons, Piece.escaped, List.append_assoc]
    refine passes_backslashes (.piece (p := .tag (2 * slashes + 1) inside) ?_ ?_ ih)
    · simp only [Piece.IsCalm]
      omega
    · simpa [escaped] using scan_tag (2 * slashes + 1) (isInside_of_tag? hinside) _
  | case5 slashes cs hnone hne ih =>
    rw [escaped, List.flatMap_cons, Piece.escaped, List.append_assoc]
    refine passes_backslashes (.piece (p := .bracket slashes) trivial ?_ ih)
    simpa [escaped] using scan_bracket slashes (tag?_escaped hnone hrest)
  | case6 slashes c cs hslash hopen ih =>
    rw [escaped, List.flatMap_cons, Piece.escaped, List.append_assoc]
    refine passes_backslashes (.piece (p := .text (backslashes slashes ++ [c])) trivial ?_ ih)
    simpa [escaped] using scan_other slashes hslash hopen

theorem closeEnd_cases (cs : List Char) : closeEnd cs = cs ∨ closeEnd cs = cs ++ ['\\'] := by
  rw [closeEnd]
  split
  · exact .inr rfl
  · split
    · exact .inl rfl
    · exact .inr rfl
  · exact .inl rfl

theorem passes_escape (s : String) (hrest : rest.find? isBracket ≠ some ']') :
    Passes 0 (escape s).toList rest := by
  rw [escape, String.toList_ofList, escapeTags]
  rcases closeEnd_cases ((scan 0 0 s.toList).flatMap Piece.escaped) with hclose | hclose
  · rw [hclose]
    exact passes_escaped hrest 0 0 s.toList
  · rw [hclose]
    -- the backslash that closes the text is read together with what follows
    obtain ⟨ps, left, hcalm, hps⟩ :=
      @passes_escaped ('\\' :: rest) (by simpa [isBracket] using hrest) 0 0 s.toList
    refine ⟨ps, left + 1, hcalm, ?_⟩
    rw [List.append_assoc, List.singleton_append]
    exact hps

/-! ## Showing -/

theorem showPieces_append_calm {names : List (List Char)} {ps qs : List Piece}
    (hps : ∀ p ∈ ps, p.IsCalm) (hqs : ∃ shown, showPieces names qs = .ok shown) :
    ∃ shown, showPieces names (ps ++ qs) = .ok shown := by
  induction ps with
  | nil => exact hqs
  | cons p ps ih =>
    obtain ⟨hp, hrest⟩ := List.forall_mem_cons.mp hps
    obtain ⟨shown, hshown⟩ := ih hrest
    cases p with
    | tag slashes inside =>
      have hodd : slashes % 2 = 1 := hp
      exact ⟨_, by rw [List.cons_append, showPieces, if_pos hodd, hshown]; rfl⟩
    | _ => exact ⟨_, by rw [List.cons_append, showPieces, hshown]; rfl⟩

theorem Passes.shown {slashes : Nat} {names : List (List Char)} (h : Passes slashes cs rest)
    (hrest : ∀ left, ∃ shown, showPieces names (scan 0 left rest) = .ok shown) :
    ∃ shown, showPieces names (scan 0 slashes (cs ++ rest)) = .ok shown := by
  obtain ⟨ps, left, hcalm, hscan⟩ := h
  rw [hscan]
  exact showPieces_append_calm hcalm (hrest left)

/-- As `Passes.shown`, for a text without brackets and backslashes, which leaves no further
backslashes to be read. -/
theorem shown_plain_append {slashes : Nat} {names : List (List Char)}
    (h : ∀ c ∈ cs, isBracket c = false ∧ c ≠ '\\')
    (hrest : ∀ left ≤ slashes, ∃ shown, showPieces names (scan 0 left rest) = .ok shown) :
    ∃ shown, showPieces names (scan 0 slashes (cs ++ rest)) = .ok shown := by
  induction cs generalizing slashes with
  | nil => exact hrest slashes (Nat.le_refl slashes)
  | cons c cs ih =>
    obtain ⟨⟨hbracket, hslash⟩, hcs⟩ := List.forall_mem_cons.mp h
    have hopen : c ≠ '[' := by
      rintro rfl
      cases hbracket
    obtain ⟨shown, hshown⟩ := ih hcs fun left hleft =>
      hrest left (Nat.le_trans hleft (Nat.zero_le slashes))
    exact ⟨_, by rw [List.cons_append, scan_other slashes hslash hopen, showPieces, hshown]; rfl⟩

theorem shown_tag {slashes : Nat} {names names' : List (List Char)} {inside : List Char}
    {ps : List Piece} (htag : openTags? names inside = some names')
    (heven : ∃ shown, showPieces names' ps = .ok shown)
    (hodd : slashes % 2 = 1 → ∃ shown, showPieces names ps = .ok shown) :
    ∃ shown, showPieces names (.tag slashes inside :: ps) = .ok shown := by
  by_cases hslashes : slashes % 2 = 1
  · obtain ⟨shown, hshown⟩ := hodd hslashes
    exact ⟨_, by rw [showPieces, if_pos hslashes, hshown]; rfl⟩
  · obtain ⟨shown, hshown⟩ := heven
    exact ⟨_, by simp only [showPieces, if_neg hslashes, htag, hshown]; rfl⟩

theorem showPieces_plain (h : ∀ c ∈ cs, isBracket c = false ∧ c ≠ '\\')
    (names : List (List Char)) : showPieces names (scan 0 0 cs) = .ok cs := by
  induction cs with
  | nil => rfl
  | cons c cs ih =>
    obtain ⟨⟨hbracket, hslash⟩, hcs⟩ := List.forall_mem_cons.mp h
    have hopen : c ≠ '[' := by
      rintro rfl
      cases hbracket
    rw [scan_other 0 hslash hopen, showPieces, ih hcs]
    rfl

/-! ## Notices -/

/-- The style of a notice is the name of its tag, and the closing tag has this name. -/
theorem isInside_style (s : Style) :
    (IsInside s.name.toList ∧ IsInside ('/' :: s.name.toList)) ∧
      openTags? [] s.name.toList = some [s.name.toList] ∧
      openTags? [s.name.toList] ('/' :: s.name.toList) = some [] := by
  have hstart : s.name.toList.head?.any isTagStart = true := by cases s <;> decide
  have hplain : s.name.toList.all (fun c => isBracket c == false) = true := by cases s <;> decide
  have hinside : ∀ c ∈ s.name.toList, isBracket c = false := by simpa using hplain
  refine ⟨⟨⟨hstart, hinside⟩, rfl, List.forall_mem_cons.mpr ⟨rfl, hinside⟩⟩, ?_⟩
  cases s <;> decide

theorem plain_of_isPlain {s : String} (h : isPlain s = true) :
    ∀ c ∈ s.toList, isBracket c = false ∧ c ≠ '\\' := by
  intro c hc
  simpa using List.all_eq_true.mp h c hc

theorem find?_plain_append {s : String} (h : isPlain s = true) (rest : List Char) :
    (s.toList ++ rest).find? isBracket = rest.find? isBracket := by
  rw [List.find?_append, List.find?_eq_none.mpr fun c hc => by simp [(plain_of_isPlain h c hc).1]]
  rfl

theorem plain_notice (n : Notice) : ∃ t, plain n.markup = .ok t := by
  obtain ⟨⟨hopen, hclose⟩, hopened, hclosed⟩ := isInside_style n.style
  have hfixed := n.isFixed
  simp only [Bool.and_eq_true] at hfixed
  obtain ⟨⟨hlabel, hstop⟩, hgap⟩ := hfixed
  have hmarkup : n.markup.toList =
      '[' :: (n.style.name.toList ++ ']' :: (n.label.toList ++ ((escape n.name).toList ++
        (n.stop.toList ++ '[' :: (('/' :: n.style.name.toList) ++ ']' :: (n.gap.toList ++
          ((escape n.text).toList ++ []))))))) := by
    simp [Notice.markup]
  have hend (names : List (List Char)) : ∃ shown, showPieces names
      (scan 0 0 (n.gap.toList ++ ((escape n.text).toList ++ []))) = .ok shown := by
    refine shown_plain_append (plain_of_isPlain hgap) fun left hleft => ?_
    obtain rfl := Nat.le_zero.mp hleft
    exact (passes_escape n.text (by simp)).shown fun left => ⟨_, rfl⟩
  have hshown : ∃ shown, showPieces [] (scan 0 0 n.markup.toList) = .ok shown := by
    rw [hmarkup, scan_tag 0 hopen]
    refine shown_tag hopened ?_ nofun
    refine shown_plain_append (plain_of_isPlain hlabel) fun left hleft => ?_
    obtain rfl := Nat.le_zero.mp hleft
    refine (passes_escape n.name ?_).shown fun left => ?_
    · rw [find?_plain_append hstop]
      exact (by decide : some '[' ≠ some ']')
    · refine shown_plain_append (plain_of_isPlain hstop) fun left _ => ?_
      rw [scan_tag left hclose]
      exact shown_tag hclosed (hend []) fun _ => hend _
  obtain ⟨shown, hshown⟩ := hshown
  exact ⟨_, by rw [plain, hshown]; rfl⟩

theorem plain_of_isSimple {s : String} (h : isSimple s = true) : plain s = .ok s := by
  have hplain : ∀ c ∈ s.toList, isBracket c = false ∧ c ≠ '\\' := by
    intro c hc
    have hsimple := List.all_eq_true.mp h c hc
    constructor
    · rw [← Bool.not_eq_true]
      intro hbracket
      simp only [isBracket, Bool.or_eq_true, beq_iff_eq] at hbracket
      rcases hbracket with rfl | rfl <;> revert hsimple <;> decide
    · rintro rfl
      revert hsimple
      decide
  rw [plain, showPieces_plain hplain]
  exact congrArg Except.ok (String.ofList_toList)

end Markup

namespace Console

def plain : Console where
  shown := Markup.plain
  shown_simple _ := Markup.plain_of_isSimple
  takes_notice := Markup.plain_notice

end Console

end ReactLint
