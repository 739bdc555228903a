import Mathlib.Tactic.Lemma
import JavaHome.Installation.Discovery
import JavaHome.Proofs.Machine

/-!
# Supplied directories

A directory that somebody supplies is taken for an installation if it is there, and refused if it is
blank or not there. Only a path that is too long leaves this open (`supplies`).
-/

namespace JavaHome.Context

variable {c : Context} {m : Machine} {directory : String}

/-- The installation that a supplied directory is taken for. -/
def suppliedAt (c : Context) (directory : String) : Installation :=
  ⟨.ofString directory, .ofString directory, c.vendor, true⟩

/-- What a supplied directory is taken for: nothing if it is blank or no directory, an installation
if it is one, and nobody can tell if its path is too long. -/
inductive Supplies (c : Context) (m : Machine) (directory : String) :
    Except Failure Installation → Prop where
  | refused :
    Text.isBlankText directory = true ∨
      ¬m.Overlong (.ofString directory) ∧ ¬m.HoldsDirectory (.ofString directory) →
    Supplies c m directory (.error (.invalidHome (some directory)))
  | overlong :
    Text.isBlankText directory = false →
    m.Overlong (.ofString directory) →
    Supplies c m directory (.error (.nameTooLong (Path.ofString directory).text))
  | accepted :
    Text.isBlankText directory = false →
    m.HoldsDirectory (.ofString directory) →
    Supplies c m directory (.ok (c.suppliedAt directory))

/-- A supplied directory that is not blank is asked for. -/
lemma supplied_eq : c.supplied m directory =
    if Text.isBlankText directory then .error (.invalidHome (some directory))
    else m.isDirectory (.ofString directory) >>= fun found =>
      if found then .ok (c.suppliedAt directory) else .error (.invalidHome (some directory)) := by
  unfold supplied
  split <;> rfl

/-- Every supplied directory is taken for one of these. -/
lemma supplies (c : Context) (m : Machine) (directory : String) :
    Supplies c m directory (c.supplied m directory) := by
  rw [supplied_eq]
  cases hblank : Text.isBlankText directory with
  | true => exact .refused (.inl hblank)
  | false =>
    rw [Machine.isDirectory_eq_answer]
    rcases Machine.answer_cases m Node.isDirectory (.ofString directory) with
      ⟨hanswer, hholds⟩ | ⟨hanswer, hholds, hshort⟩ | ⟨hanswer, hlong⟩
    · rw [hanswer]
      exact .accepted hblank hholds
    · rw [hanswer]
      exact .refused (.inr ⟨hshort, hholds⟩)
    · rw [hanswer]
      exact .overlong hblank hlong

end JavaHome.Context
