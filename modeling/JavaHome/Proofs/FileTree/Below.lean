import Mathlib.Tactic.Lemma
import JavaHome.Proofs.FileTree.Lookup
import JavaHome.Proofs.Path.Below

/-!
# Lookups in two parts

Fields lead where their first ones lead to and the others from there (`reaches_append_iff`). Those
that are no steps can be left out and put back around a directory, so a text leads into the same
directories as the path that is read from it (`leadsInto_ofString_iff`). A text of short names is
too long to be looked up only where a link has a target with a name that is too long
(`Overlong.hasLongTarget`).
-/

namespace JavaHome.FileTree

variable {t : FileTree} {cwd here mid there : Location} {field : String}
  {fields blanks rest : List String} {n : Nat}

/-! ## Fields in two parts -/

/-- Where fields start, no fields lead to. -/
lemma Reaches.start (h : t.Reaches here fields there n) : t.Reaches here [] here 0 := by
  cases fields with
  | nil =>
    cases h with
    | nil hnode => exact .nil hnode
  | cons field rest =>
    obtain ⟨entries, hnode⟩ := h.isDirectoryAt_start
    exact .nil hnode

lemma Reaches.split (h : t.Reaches here (fields ++ rest) there n) :
    ∃ mid k i, t.Reaches here fields mid k ∧ t.Reaches mid rest there i ∧ n = k + i := by
  induction fields generalizing here n with
  | nil => exact ⟨here, 0, n, h.start, h, (Nat.zero_add n).symm⟩
  | cons field fields ih =>
    cases h with
    | stay hdir hstep h =>
      obtain ⟨mid, k, i, h1, h2, rfl⟩ := ih h
      exact ⟨mid, k, i, .stay hdir hstep h1, h2, rfl⟩
    | up hdir h =>
      obtain ⟨mid, k, i, h1, h2, rfl⟩ := ih h
      exact ⟨mid, k, i, .up hdir h1, h2, rfl⟩
    | name hold hlink h =>
      obtain ⟨mid, k, i, h1, h2, rfl⟩ := ih h
      exact ⟨mid, k, i, .name hold hlink h1, h2, rfl⟩
    | link hold htarget h =>
      obtain ⟨mid, k, i, h1, h2, rfl⟩ := ih h
      exact ⟨mid, _, i, .link hold htarget h1, h2, (Nat.add_assoc ..).symm⟩

/-- Fields lead where the first of them lead to and the others from there. -/
lemma reaches_append_iff : t.Reaches here (fields ++ rest) there n ↔
    ∃ mid k i, t.Reaches here fields mid k ∧ t.Reaches mid rest there i ∧ n = k + i := by
  constructor
  · exact Reaches.split
  · rintro ⟨mid, k, i, h1, h2, rfl⟩
    exact h1.append h2

/-- Fields that are no steps can be put back where directories are. -/
lemma Reaches.of_filter (h : t.Reaches here (fields.filter Path.isStep) there n)
    (hdir : t.IsDirectoryAt there) : t.Reaches here fields there n := by
  induction fields generalizing here n with
  | nil => exact h
  | cons field fields ih =>
    by_cases hstep : Path.isStep field = true
    · rw [List.filter_cons_of_pos hstep] at h
      cases h with
      | stay _ hblank => exact absurd hstep (by simp [hblank])
      | up hup h => exact .up hup (ih h)
      | name hold hlink h => exact .name hold hlink (ih h)
      | link hold htarget h => exact .link hold htarget (ih h)
    · rw [List.filter_cons_of_neg hstep] at h
      refine .stay ?_ (by simpa using hstep) (ih h)
      cases hrest : fields.filter Path.isStep with
      | nil =>
        rw [hrest] at h
        cases h with
        | nil => exact hdir
      | cons next others =>
        rw [hrest] at h
        exact h.isDirectoryAt_start

/-- Into a directory lead the fields of a text and the names of the path that is read from it. -/
lemma reaches_parts_iff {s : String} (hdir : t.IsDirectoryAt there) :
    t.Reaches here (Path.ofString s).parts there n ↔ t.Reaches here (Text.fields '/' s) there n :=
  ⟨fun h => Reaches.of_filter h hdir, Reaches.filter⟩

/-! ## Directories and what is below them -/

/-- The lookup of a text, as written, leads into a directory. -/
def LeadsInto (t : FileTree) (cwd : Location) (s : String) (here : Location) : Prop :=
  ∃ entries, t.lookup cwd true s = .ok ⟨here, .directory entries⟩

/-- A text leads to a place from which names lead on to a regular file, through no more links in all
than one lookup follows. -/
def HoldsFileBelow (t : FileTree) (cwd : Location) (s : String) (names : List String) : Prop :=
  ∃ here k there i bytes executable, t.Reaches (startOf cwd s) (Text.fields '/' s) here k ∧
    t.Reaches here names there i ∧ k + i ≤ linkLimit ∧
    t.node? there = some (.file bytes executable)

lemma leadsInto_iff {s : String} : t.LeadsInto cwd s here ↔
    Usable s ∧ s ≠ "" ∧ t.IsDirectoryAt here ∧
      ∃ n, n ≤ linkLimit ∧ t.Reaches (startOf cwd s) (Text.fields '/' s) here n := by
  unfold LeadsInto IsDirectoryAt
  simp only [lookup_eq_ok_iff]
  constructor
  · rintro ⟨entries, hu, hne, hnode, hreach⟩
    exact ⟨hu, hne, ⟨entries, hnode⟩, hreach⟩
  · rintro ⟨hu, hne, ⟨entries, hnode⟩, hreach⟩
    exact ⟨entries, hu, hne, hnode, hreach⟩

/-- The path that is read from a text is followed from where the text is followed from. -/
lemma startOf_text {p : Path} {s : String} (hp : p.Proper)
    (h : p.anchor = (Path.ofString s).anchor) : startOf cwd p.text = startOf cwd s := by
  have hslash : p.text.toList.head? = some '/' ↔ s.toList.head? = some '/' := by
    rw [hp.head?_text, ← Path.isAbsolute_ofString, Path.isAbsolute, Path.isAbsolute, h]
  unfold startOf
  simp only [hslash]

/-- The path that is read from a text leads into the directories that the text leads into. -/
lemma leadsInto_ofString_iff {s : String} (hne : s ≠ "") (hs : Text.byteLength s < pathLimit)
    (htext : Text.byteLength (Path.ofString s).text < pathLimit) :
    t.LeadsInto cwd (Path.ofString s).text here ↔ t.LeadsInto cwd s here := by
  have hproper := Path.proper_ofString s
  have husable : Usable (Path.ofString s).text ↔ Usable s := by
    have hnull := Path.mem_text_ofString (s := s) (c := '\x00') (by decide) (by decide)
    exact ⟨fun h => ⟨fun hmem => h.noNull (hnull.2 hmem), hs⟩,
      fun h => ⟨fun hmem => h.noNull (hnull.1 hmem), htext⟩⟩
  rw [leadsInto_iff, leadsInto_iff, husable, startOf_text hproper rfl]
  simp only [hproper.text_ne_empty, hne, ne_eq, not_false_eq_true, true_and]
  refine and_congr_right fun _ => and_congr_right fun hdir => ?_
  have hsame : ∀ n, t.Reaches (startOf cwd s) (Text.fields '/' (Path.ofString s).text) here n ↔
      t.Reaches (startOf cwd s) (Text.fields '/' s) here n := by
    intro n
    have hfields : (Text.fields '/' (Path.ofString s).text).filter Path.isStep =
        (Path.ofString s).parts :=
      hproper.filter_fields_text
    have hparts : t.Reaches (startOf cwd s) (Text.fields '/' (Path.ofString s).text) here n ↔
        t.Reaches (startOf cwd s) (Path.ofString s).parts here n := by
      rw [← hfields]
      exact ⟨Reaches.filter, fun h => h.of_filter hdir⟩
    exact hparts.trans (reaches_parts_iff hdir)
  simp only [hsame]

/-- A path with its names leads where the names lead from a directory. -/
lemma reaches_text_iff {p : Path} (hp : p.Proper) (hdir : t.IsDirectoryAt here) :
    t.Reaches here (Text.fields '/' p.text) there n ↔ t.Reaches here p.parts there n := by
  constructor
  · intro h
    rw [← hp.filter_fields_text]
    exact h.filter
  · intro h
    obtain ⟨blanks, hblank, hfields⟩ := hp.fields_text
    rw [hfields]
    exact h.blanks hdir hblank

lemma isDirectoryAt_startOf (hcwd : t.IsDirectoryAt cwd) (s : String) :
    t.IsDirectoryAt (startOf cwd s) := by
  unfold startOf
  split
  · exact isDirectoryAt_root t
  · exact hcwd

/-- A path that adds names to those of a text leads to a regular file if and only if the names do
from where the text leads. -/
lemma stat_eq_file_iff_below {q : Path} {s name : String} {names : List String}
    (hcwd : t.IsDirectoryAt cwd) (hq : q.Proper) (hanchor : q.anchor = (Path.ofString s).anchor)
    (hparts : q.parts = (Path.ofString s).parts ++ name :: names) (hu : Usable q.text) :
    (∃ bytes executable, t.stat cwd q.text = .ok (.file bytes executable)) ↔
      t.HoldsFileBelow cwd s (name :: names) := by
  have hreach : ∀ {there n}, t.Reaches (startOf cwd q.text) (Text.fields '/' q.text) there n ↔
      ∃ here k i, t.Reaches (startOf cwd s) (Text.fields '/' s) here k ∧
        t.Reaches here (name :: names) there i ∧ n = k + i := by
    intro there n
    rw [startOf_text hq hanchor, reaches_text_iff hq (isDirectoryAt_startOf hcwd s), hparts,
      reaches_append_iff]
    -- The names lead on from a directory, to which the text leads as its path does.
    constructor
    · rintro ⟨here, k, i, h1, h2, hn⟩
      exact ⟨here, k, i, (reaches_parts_iff h2.isDirectoryAt_start).1 h1, h2, hn⟩
    · rintro ⟨here, k, i, h1, h2, hn⟩
      exact ⟨here, k, i, (reaches_parts_iff h2.isDirectoryAt_start).2 h1, h2, hn⟩
  constructor
  · rintro ⟨bytes, executable, hstat⟩
    obtain ⟨there, hlookup⟩ := stat_eq_ok_iff.1 hstat
    obtain ⟨-, -, hnode, n, hn, h⟩ := lookup_eq_ok_iff.1 hlookup
    obtain ⟨here, k, i, h1, h2, rfl⟩ := hreach.1 h
    exact ⟨here, k, there, i, bytes, executable, h1, h2, hn, hnode⟩
  · rintro ⟨here, k, there, i, bytes, executable, h1, h2, hn, hnode⟩
    refine ⟨bytes, executable, stat_eq_ok_iff.2 ⟨there, ?_⟩⟩
    exact lookup_eq_ok_iff.2
      ⟨hu, hq.text_ne_empty, hnode, k + i, hn, hreach.2 ⟨here, k, i, h1, h2, rfl⟩⟩

/-- No path has a longer text than its absolute form. -/
lemma byteLength_text_le_absolute (cwd : Location) (p : Path) :
    Text.byteLength p.text ≤ Text.byteLength (p.absolute cwd).text := by
  by_cases hrel : p.anchor = .relative
  · exact byteLength_text_le cwd hrel
  · have habs : p.isAbsolute = true := by simpa [Path.isAbsolute] using hrel
    exact Nat.le_of_eq (by rw [Path.absolute, Path.join_of_isAbsolute habs])

/-- A path leads to what its absolute form leads to, unless that is too long as a whole. -/
lemma stat_absolute {p : Path} (hcwd : t.IsWorkingDirectory cwd) (hp : p.Proper)
    (hshort : Text.byteLength (p.absolute cwd).text < pathLimit) :
    t.stat cwd (p.absolute cwd).text = t.stat cwd p.text := by
  by_cases hrel : p.anchor = .relative
  · rw [stat, stat, lookup_relative hcwd hp hrel fun _ => hshort]
  · rw [Path.absolute, Path.join_of_isAbsolute (by simpa [Path.isAbsolute] using hrel)]

/-! ## Names that are too long -/

/-- A text that is short as a whole and in each of its fields. -/
structure IsShort (path : String) : Prop where
  whole : Text.byteLength path < pathLimit
  names : ∀ field ∈ Text.fields '/' path, Text.byteLength field ≤ nameLimit

/-- Some link has a target with a name that is too long for every directory. -/
def HasLongTarget (t : FileTree) : Prop :=
  ∃ here name target, t.Holds here name (.link target) ∧
    ∃ field ∈ Text.fields '/' target, nameLimit < Text.byteLength field

/-- Where fields overrun, one of them is too long or one in the target of a link. -/
lemma Overruns.exists_long (h : t.Overruns here fields n) :
    (∃ field ∈ fields, nameLimit < Text.byteLength field) ∨ t.HasLongTarget := by
  induction h with
  | long _ hlong => exact .inl ⟨_, List.mem_cons_self .., hlong⟩
  | within hold _ ih =>
    rcases ih with htarget | htarget
    · exact .inr ⟨_, _, _, hold, htarget⟩
    · exact .inr htarget
  | beyond _ _ ih =>
    rcases ih with ⟨field, hmem, hlong⟩ | htarget
    · exact .inl ⟨field, List.mem_cons_of_mem _ hmem, hlong⟩
    · exact .inr htarget

/-- A short text is too long only for the target of a link. -/
lemma Overlong.hasLongTarget {path : String} (h : t.Overlong cwd path) (hshort : IsShort path) :
    t.HasLongTarget := by
  obtain ⟨-, hlong | ⟨n, -, hover⟩⟩ := h
  · exact absurd hlong (Nat.not_le.2 hshort.whole)
  · rcases hover.exists_long with ⟨field, hmem, hlong⟩ | htarget
    · exact absurd hlong (Nat.not_lt.2 (hshort.names field hmem))
    · exact htarget

end JavaHome.FileTree
