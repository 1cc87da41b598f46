import ReactLint.Disk.Basic

/-!
# Listing a folder

A disk lists the names in a folder in some order of its own. They are sorted before use, so two
places that hold the same under every location and list every folder with the same names, in
whatever order, cannot be told apart by reading files or going through folders.
-/

namespace ReactLint

namespace Disk

variable {d d' : Disk}

def listing (d : Disk) (folder : Location) : List String := d.entries.filterMap (nameIn? folder)

theorem names_perm (d : Disk) (folder : Location) :
    (d.names folder).Perm (d.listing folder) := List.mergeSort_perm _ _

theorem names_pairwise (d : Disk) (folder : Location) :
    (d.names folder).Pairwise (· ≤ ·) := by
  have hsorted : (d.names folder).Pairwise fun a b => decide (a ≤ b) = true := by
    apply List.pairwise_mergeSort
    · intro a b c hab hbc
      exact decide_eq_true (String.le_trans (of_decide_eq_true hab) (of_decide_eq_true hbc))
    · intro a b
      simpa using String.le_total a b
  exact hsorted.imp of_decide_eq_true

theorem names_of_sorted {folder : Location} {names : List String}
    (hperm : names.Perm (d.listing folder)) (hsorted : names.Pairwise (· ≤ ·)) :
    d.names folder = names :=
  ((d.names_perm folder).trans hperm.symm).eq_of_pairwise (fun _ _ _ _ => String.le_antisymm)
    (d.names_pairwise folder) hsorted

/-- Disks that hold the same, and may list it in different orders. -/
structure Reordered (d d' : Disk) : Prop where
  find? : ∀ loc, d'.find? loc = d.find? loc
  listing : ∀ folder, (d'.listing folder).Perm (d.listing folder)

theorem Reordered.names_eq (h : d.Reordered d') (folder : Location) :
    d'.names folder = d.names folder :=
  names_of_sorted ((d.names_perm folder).trans (h.listing folder).symm) (d.names_pairwise folder)

theorem Reordered.isFolder_eq (h : d.Reordered d') (loc : Location) :
    d'.isFolder loc = d.isFolder loc := by rw [isFolder, isFolder, h.find?]

theorem Reordered.locate_eq (h : d.Reordered d') (start : Location) (names : List String) :
    d'.locate start names = d.locate start names := by
  induction names generalizing start with
  | nil => rfl
  | cons name names ih => simp only [locate, h.find?, ih]

theorem lookup_eq_of_perm {es es' : List (Location × Entry)} (hperm : es'.Perm es)
    (hlocs : (es'.map Prod.fst).Nodup) (loc : Location) : es'.lookup loc = es.lookup loc := by
  induction hperm with
  | nil => rfl
  | cons e _ ih =>
    obtain ⟨l, x⟩ := e
    rw [List.map_cons, List.nodup_cons] at hlocs
    rw [List.lookup_cons, List.lookup_cons, ih hlocs.2]
  | swap e e' es =>
    obtain ⟨l, x⟩ := e
    obtain ⟨l', x'⟩ := e'
    have hne : l' ≠ l := by
      rintro rfl
      simp at hlocs
    by_cases hl : loc = l
    · simp [List.lookup_cons, hl, beq_false_of_ne hne.symm]
    · simp [List.lookup_cons, beq_false_of_ne hl]
  | trans hleft _ ih ih' => exact (ih hlocs).trans (ih' ((hleft.map Prod.fst).nodup_iff.mp hlocs))

/-- Where every location stands once, the order of the entries is free. -/
theorem reordered_of_perm (hperm : d'.entries.Perm d.entries)
    (hlocs : (d'.entries.map Prod.fst).Nodup) : d.Reordered d' where
  find? loc := by rw [find?, find?, lookup_eq_of_perm hperm hlocs]
  listing folder := hperm.filterMap (nameIn? folder)

end Disk

namespace Place

variable {w w' : Place}

def listing (w : Place) (p : Path) : List String :=
  match w.locate p with
  | .ok loc => if w.disk.isFolder loc then w.disk.listing loc else []
  | .error _ => []

theorem isFile_cases (w : Place) (p : Path) :
    (∃ found, w.isFile p = .ok found ∧ w.locate p ≠ .error .nameTooLong) ∨
    w.isFile p = .error .nameTooLong ∧ w.locate p = .error .nameTooLong := by
  rw [isFile, entry?, seek]
  cases hloc : w.locate p with
  | ok loc => exact .inl ⟨_, rfl, nofun⟩
  | error f =>
    by_cases hlong : f = .nameTooLong
    · exact .inr (by simp [hlong, Except.map])
    · refine .inl ⟨false, ?_, by simpa using hlong⟩
      cases f <;> first | rfl | exact absurd rfl hlong

theorem namesIn_cases (w : Place) (p : Path) :
    (∃ names, w.namesIn p = .ok names ∧ w.locate p ≠ .error .nameTooLong ∧
      names.Perm (w.listing p) ∧ names.Pairwise (· ≤ ·)) ∨
    w.namesIn p = .error .nameTooLong ∧ w.locate p = .error .nameTooLong := by
  rw [namesIn, seek, listing]
  cases hloc : w.locate p with
  | ok loc =>
    refine .inl ⟨_, rfl, nofun, ?_⟩
    dsimp only
    split
    · exact ⟨w.disk.names_perm loc, w.disk.names_pairwise loc⟩
    · exact ⟨.refl [], .nil⟩
  | error f =>
    by_cases hlong : f = .nameTooLong
    · exact .inr (by simp [hlong, Except.map])
    · refine .inl ⟨[], ?_, by simpa using hlong, .refl [], .nil⟩
      cases f <;> first | rfl | exact absurd rfl hlong

structure Reordered (w w' : Place) : Prop where
  home : w'.home = w.home
  label : w'.label = w.label
  disk : w.disk.Reordered w'.disk

namespace Reordered

variable (h : w.Reordered w') (p : Path)

include h

theorem locate_eq : w'.locate p = w.locate p := by
  rw [locate, locate, h.home, h.disk.locate_eq]

theorem readBytes_eq : w'.readBytes p = w.readBytes p := by
  simp only [readBytes, h.locate_eq, h.disk.find?]

theorem namesIn_eq : w'.namesIn p = w.namesIn p := by
  simp only [namesIn, seek, h.locate_eq, h.disk.isFolder_eq, h.disk.names_eq]

theorem shown_eq : w'.shown p = w.shown p := by
  rw [shown, shown, h.label]

end Reordered

end Place

end ReactLint
