import ReactLint.Disk.Basic
import ReactLint.Proofs.Rule

/-!
# Writing a file

A file can be written where the way to it goes through folders and leads to no folder. What was
written is then found on the same way, and everything else on the disk is as before.
-/

namespace ReactLint

/-- An entry that takes the place of no folder stands in nobody's way. -/
theorem Disk.locate_put {d : Disk} {loc : Location} (h : d.find? loc ≠ some .folder) (e : Entry)
    {start found : Location} {names : List String} (hfound : d.locate start names = .ok found) :
    (d.put loc e).locate start names = .ok found := by
  induction names generalizing start with
  | nil => exact hfound
  | cons name names ih =>
    rw [locate] at hfound ⊢
    split at hfound
    · rename_i hfolder
      have hne : start ≠ loc := fun heq => h (heq ▸ hfolder)
      rw [find?_put_of_ne d hne, hfolder]
      dsimp only
      split at hfound
      · cases hfound
      · rename_i hshort
        rw [if_neg hshort]
        exact ih hfound
    · cases hfound
    · cases hfound

namespace Place

variable {w w' : Place} {p : Path} {s : String}

def CanWrite (w : Place) (p : Path) : Prop :=
  ∃ loc, w.locate p = .ok loc ∧ w.disk.find? loc ≠ some .folder

/-- Whether two places differ at most in what stands where a path leads to. -/
def SameBut (w : Place) (p : Path) (w' : Place) : Prop :=
  w'.home = w.home ∧ w'.label = w.label ∧
    ∀ other, w.locate p ≠ .ok other → w'.disk.find? other = w.disk.find? other

theorem writeText_eq_ok :
    w.writeText p s = .ok w' ↔ ∃ loc, w.locate p = .ok loc ∧ w.disk.find? loc ≠ some .folder ∧
      w' = { w with disk := w.disk.put loc (.file s.toUTF8) } := by
  rw [writeText, bind_eq_ok]
  refine exists_congr fun loc => and_congr_right fun _ => ?_
  split
  · rename_i hfolder
    simp [hfolder, throw, throwThe, MonadExceptOf.throw]
  · rename_i hfile
    have hne : w.disk.find? loc ≠ some .folder := hfile
    simp only [pure, Except.pure, Except.ok.injEq, ne_eq, hne, not_false_eq_true, true_and]
    exact eq_comm

theorem CanWrite.writeText (h : w.CanWrite p) (s : String) : ∃ w', w.writeText p s = .ok w' := by
  obtain ⟨loc, hloc, hfree⟩ := h
  exact ⟨_, writeText_eq_ok.mpr ⟨loc, hloc, hfree, rfl⟩⟩

theorem readBytes_of_writeText (h : w.writeText p s = .ok w') : w'.readBytes p = .ok s.toUTF8 := by
  obtain ⟨loc, hloc, hfree, rfl⟩ := writeText_eq_ok.mp h
  have hroot : loc ≠ [] := by
    rintro rfl
    exact hfree rfl
  have hfound : Place.locate { w with disk := w.disk.put loc (.file s.toUTF8) } p = .ok loc := by
    rw [locate] at hloc ⊢
    split at hloc
    · cases hloc
    · rename_i hshort
      rw [if_neg hshort]
      exact Disk.locate_put hfree _ hloc
  rw [readBytes, hfound]
  simp only [bind, Except.bind, Disk.find?_put_self w.disk hroot]
  rfl

theorem sameBut_of_writeText (h : w.writeText p s = .ok w') : w.SameBut p w' := by
  obtain ⟨loc, hloc, -, rfl⟩ := writeText_eq_ok.mp h
  refine ⟨rfl, rfl, fun other hother => Disk.find?_put_of_ne w.disk ?_ _⟩
  rintro rfl
  exact hother hloc

end Place

end ReactLint
