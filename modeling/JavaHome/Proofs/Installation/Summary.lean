import Mathlib.Tactic.Lemma
import JavaHome.Installation.Summary
import JavaHome.Proofs.Installation.Home

/-!
# When an installation can be described

A summary needs the development archive and the runtime archive, found or not. It fails only where
the search for one of them comes to a path that is too long (`exists_summary_iff`,
`tellsOverlong_of_summarize`). For a reported installation the first search has been made before,
for its home, so that only the second can fail (`exists_summary_iff_of_current`).
-/

namespace JavaHome

variable {c : Context} {m : Machine} {i : Installation} {java : Executable} {e : Failure}

namespace Machine

/-- Asking whether something is at a path has an answer if and only if the path is not too long. -/
lemma exists_existing_iff {p : Path} : (∃ found, m.existing? p = .ok found) ↔ ¬m.Overlong p := by
  unfold existing?
  rw [pathExists_eq_answer]
  rcases answer_cases m (fun _ => true) p with ⟨h, hholds⟩ | ⟨h, -, hshort⟩ | ⟨h, hlong⟩
  · simp [h, Except.map, hholds.not_overlong]
  · simp [h, Except.map, hshort]
  · simp [h, Except.map, hlong]

/-- What asking whether something is at a path fails with tells of the path. -/
lemma tellsOverlong_of_existing {p : Path} (h : m.existing? p = .error e) :
    m.TellsOverlong e := by
  rw [← firstExisting_singleton] at h
  exact tellsOverlong_of_firstExisting h

end Machine

namespace Installation

/-- The summary of an installation, from its archives. -/
lemma summarize_eq_ok_iff {s : Summary} :
    i.summarize c m java = .ok s ↔
      ∃ toolsArchive runtimeArchive,
        i.toolsArchive c m = .ok toolsArchive ∧ i.runtimeArchive m = .ok runtimeArchive ∧
          s = ⟨i.describe c, i.base, i.home, i.vendor, i.userSupplied, java, toolsArchive,
            runtimeArchive, i.vendor.supportsAppleScript⟩ := by
  unfold summarize
  constructor
  · intro h
    obtain ⟨toolsArchive, htools, h⟩ := bind_eq_ok_iff.1 h
    obtain ⟨runtimeArchive, hruntime, h⟩ := bind_eq_ok_iff.1 h
    cases h
    exact ⟨toolsArchive, runtimeArchive, htools, hruntime, rfl⟩
  · rintro ⟨toolsArchive, runtimeArchive, htools, hruntime, rfl⟩
    rw [htools, hruntime]
    rfl

/-- Once the archives of the kits and the runtime archive can be asked for, there is an answer about
the development archive. -/
lemma exists_toolsArchive (hkits : ∃ found, c.developmentArchive m i.base = .ok found)
    (hruntime : ∃ found, i.runtimeArchive m = .ok found) :
    ∃ found, i.toolsArchive c m = .ok found := by
  obtain ⟨found, hfound⟩ := hkits
  unfold toolsArchive
  rw [hfound]
  cases found with
  | some archive => exact ⟨some archive, rfl⟩
  | none =>
    cases i.vendor with
    | generic => exact ⟨none, rfl⟩
    -- Apple has no archive of its own for development, the runtime archive stands in for it.
    | apple => exact hruntime
    | ibm => exact ⟨none, rfl⟩

/-- An answer about the development archive comes from asking the kits. -/
lemma exists_developmentArchive (h : ∃ found, i.toolsArchive c m = .ok found) :
    ∃ found, c.developmentArchive m i.base = .ok found := by
  obtain ⟨found, hfound⟩ := h
  obtain ⟨archive, harchive, -⟩ := bind_eq_ok_iff.1 hfound
  exact ⟨archive, harchive⟩

/-- An installation has a summary if and only if neither the search through its kits nor the
question for its runtime archive comes to a path that is too long. -/
theorem exists_summary_iff (java : Executable) :
    (∃ s, i.summarize c m java = .ok s) ↔
      (∀ p, ¬m.Stumbles ((c.kits i.base).map Context.archiveOf) p) ∧
        ¬m.Overlong i.runtimeArchivePath := by
  rw [← Machine.exists_firstExisting_iff, ← Context.developmentArchive_eq_firstExisting,
    ← Machine.exists_existing_iff]
  constructor
  · rintro ⟨s, hs⟩
    obtain ⟨toolsArchive, runtimeArchive, htools, hruntime, -⟩ := summarize_eq_ok_iff.1 hs
    exact ⟨exists_developmentArchive ⟨_, htools⟩, runtimeArchive, hruntime⟩
  · rintro ⟨hkits, hruntime⟩
    obtain ⟨toolsArchive, htools⟩ := exists_toolsArchive hkits hruntime
    obtain ⟨runtimeArchive, hruntime⟩ := hruntime
    exact ⟨_, summarize_eq_ok_iff.2 ⟨toolsArchive, runtimeArchive, htools, hruntime, rfl⟩⟩

/-- The question for the development archive fails only by coming to a path that is too long. -/
lemma tellsOverlong_of_toolsArchive (h : i.toolsArchive c m = .error e) : m.TellsOverlong e := by
  rcases bind_eq_error_iff.1 h with h | ⟨found, -, h⟩
  · rw [Context.developmentArchive_eq_firstExisting] at h
    exact Machine.tellsOverlong_of_firstExisting h
  · cases found with
    | some archive => cases h
    | none =>
      cases hvendor : i.vendor with
      | generic => rw [hvendor] at h; cases h
      | apple => rw [hvendor] at h; exact Machine.tellsOverlong_of_existing h
      | ibm => rw [hvendor] at h; cases h

/-- An installation that has no summary has a path that is too long. -/
lemma tellsOverlong_of_summarize (h : i.summarize c m java = .error e) : m.TellsOverlong e := by
  rcases bind_eq_error_iff.1 h with h | ⟨toolsArchive, -, h⟩
  · exact tellsOverlong_of_toolsArchive h
  · rcases bind_eq_error_iff.1 h with h | ⟨runtimeArchive, -, h⟩
    · exact Machine.tellsOverlong_of_existing h
    · cases h

/-- A reported installation has a summary if and only if its runtime archive can be asked for. -/
theorem exists_summary_iff_of_current (h : (c.current m).result = .ok i) (java : Executable) :
    (∃ s, i.summarize c m java = .ok s) ↔ ¬m.Overlong i.runtimeArchivePath := by
  obtain ⟨base, home, -, hhome, rfl⟩ := Context.current_eq_ok_iff.1 h
  obtain ⟨found, -, harchive⟩ := Context.exists_found_of_findHome hhome
  rw [exists_summary_iff, ← Machine.exists_firstExisting_iff,
    ← Context.developmentArchive_eq_firstExisting]
  exact ⟨fun h => h.2, fun h => ⟨⟨_, harchive⟩, h⟩⟩

end Installation

end JavaHome
