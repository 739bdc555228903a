import Mathlib.Tactic.Lemma
import JavaHome.Proofs.Installation.Archive
import JavaHome.Proofs.Machine

/-!
# Evidence for a home

The home of a base is decided by the first thing that is found on a list of paths, the evidence: the
development archives of the kits, and last the `java` of a directory around a run-time environment.
Whatever is found, the home is the directory two names above it (`findHome_eq_firstExisting`). So
the search for a home fails if and only if it comes to a path that is too long, before anything is
found (`exists_home_iff`), and an installation is reported if and only if the reported home has a
canonical form and the search from there does not fail (`exists_current_iff`).
-/

namespace JavaHome

variable {c : Context} {m : Machine} {base p : Path} {paths : List Path} {e : Failure}

namespace Machine

/-- Asking for paths one after the other, up to the first at which something is, comes to a path
that is too long. -/
inductive Stumbles (m : Machine) : List Path → Path → Prop where
  | here {p others} :
    m.Overlong p →
    Stumbles m (p :: others) p
  | later {p q others} :
    ¬m.Overlong p →
    ¬m.HoldsAnything p →
    Stumbles m others q →
    Stumbles m (p :: others) q

/-- What is stumbled over is too long. -/
lemma Stumbles.overlong (h : m.Stumbles paths p) : m.Overlong p := by
  induction h with
  | here hlong => exact hlong
  | later _ _ _ ih => exact ih

/-- A search ends in a failure if and only if it stumbles. -/
theorem firstExisting_eq_error_iff :
    m.firstExisting paths = .error e ↔ ∃ p, m.Stumbles paths p ∧ e = .nameTooLong p.text := by
  induction paths with
  | nil =>
    constructor
    · intro h
      cases h
    · rintro ⟨p, h, -⟩
      cases h
  | cons p rest ih =>
    have hquestion := pathExists_eq_answer (m := m) p
    rcases answer_cases m (fun _ => true) p with
      ⟨h, hholds⟩ | ⟨h, hholds, hshort⟩ | ⟨h, hlong⟩
    · rw [firstExisting_cons_of_exists (hquestion.trans h)]
      constructor
      · intro h
        cases h
      · rintro ⟨q, hstumble, -⟩
        cases hstumble with
        | here hlong => exact absurd hlong hholds.not_overlong
        | later _ hnone => exact absurd hholds hnone
    · rw [firstExisting_cons_of_not_exists (hquestion.trans h), ih]
      constructor
      · rintro ⟨q, hstumble, he⟩
        exact ⟨q, .later hshort hholds hstumble, he⟩
      · rintro ⟨q, hstumble, he⟩
        cases hstumble with
        | here hlong => exact absurd hlong hshort
        | later _ _ hstumble => exact ⟨q, hstumble, he⟩
    · rw [firstExisting_cons_of_error (hquestion.trans h)]
      constructor
      · intro h
        cases h
        exact ⟨p, .here hlong, rfl⟩
      · rintro ⟨q, hstumble, rfl⟩
        cases hstumble with
        | here => rfl
        | later hshort => exact absurd hlong hshort

/-- Where a search finds a path, something is. -/
lemma holdsAnything_of_firstExisting (h : m.firstExisting paths = .ok (some p)) :
    p ∈ paths ∧ m.HoldsAnything p := by
  obtain ⟨hmem, hexists⟩ := mem_of_firstExisting h
  rw [pathExists_eq_answer] at hexists
  exact ⟨hmem, answer_eq_true_iff.1 hexists⟩

/-- Where a search finds nothing, nothing is at any of its paths. -/
lemma not_holdsAnything_of_firstExisting (h : m.firstExisting paths = .ok none)
    (hmem : p ∈ paths) : ¬m.HoldsAnything p := by
  have hnone := firstExisting_eq_none_iff.1 h p hmem
  rw [pathExists_eq_answer] at hnone
  exact (answer_eq_false_iff.1 hnone).1

/-- A search that fails tells of a path that is too long. -/
lemma tellsOverlong_of_firstExisting (h : m.firstExisting paths = .error e) :
    m.TellsOverlong e := by
  obtain ⟨p, hstumble, he⟩ := firstExisting_eq_error_iff.1 h
  exact ⟨p, hstumble.overlong, he⟩

/-- A search has an answer if and only if it does not stumble. -/
lemma exists_firstExisting_iff :
    (∃ found, m.firstExisting paths = .ok found) ↔ ∀ p, ¬m.Stumbles paths p := by
  constructor
  · rintro ⟨found, hfound⟩ p hstumble
    cases hfound.symm.trans (firstExisting_eq_error_iff.2 ⟨p, hstumble, rfl⟩)
  · intro h
    cases hfound : m.firstExisting paths with
    | ok found => exact ⟨found, rfl⟩
    | error e =>
      obtain ⟨p, hstumble, -⟩ := firstExisting_eq_error_iff.1 hfound
      exact absurd hstumble (h p)

/-- Two lists are searched one after the other. -/
lemma firstExisting_append (paths others : List Path) :
    m.firstExisting (paths ++ others) =
      m.firstExisting paths >>= fun
        | some p => .ok (some p)
        | none => m.firstExisting others := by
  induction paths with
  | nil => rfl
  | cons p rest ih =>
    rw [List.cons_append, firstExisting_cons, firstExisting_cons, ih]
    rcases m.existing? p with e | (_ | q) <;> rfl

end Machine

namespace Context

/-- The paths at which something speaks for a home of the base: the development archives of the
kits, and the `java` of a directory around a run-time environment. -/
def evidence (c : Context) (base : Path) : List Path :=
  (c.kits base).map archiveOf ++
    if base.isJre then [(base.parent.child "bin").child "java"] else []

/-- The home that follows from what was found: the directory two names above it, or the base. -/
def homeFrom (base : Path) : Option Path → Path
  | some found => found.parent.parent
  | none => base

/-- The home of a base follows from the first of the evidence. -/
theorem findHome_eq_firstExisting (base : Path) :
    (c.findHome m base).result = (m.firstExisting (c.evidence base)).map (homeFrom base) := by
  unfold findHome evidence
  rw [Traced.result_bind, Traced.result_ofExcept, developmentArchive_eq_firstExisting,
    Machine.firstExisting_append]
  rcases m.firstExisting ((c.kits base).map archiveOf) with e | (_ | archive)
  · rfl
  · cases base.isJre with
    | false => rfl
    | true =>
      simp only [if_true]
      rw [Machine.firstExisting_singleton, Machine.existing?]
      cases m.pathExists ((base.parent.child "bin").child "java") with
      | error e => rfl
      | ok found =>
        cases found with
        | false => rfl
        | true =>
          change _ = Except.ok ((base.parent.child "bin").child "java").parent.parent
          rw [Path.parent_child, Path.parent_child]
          rfl
  · rfl

/-- A base has a home if and only if the search through the evidence does not stumble. -/
theorem exists_home_iff :
    (∃ home, (c.findHome m base).result = .ok home) ↔ ∀ p, ¬m.Stumbles (c.evidence base) p := by
  rw [← Machine.exists_firstExisting_iff, findHome_eq_firstExisting, exists_map_eq_ok_iff]

/-- The search for a home fails only by coming to a path that is too long. -/
lemma findHome_eq_error (h : (c.findHome m base).result = .error e) : m.TellsOverlong e := by
  rw [findHome_eq_firstExisting, map_eq_error_iff] at h
  exact Machine.tellsOverlong_of_firstExisting h

/-- An installation is reported if and only if the reported home has a canonical form and the search
for a home from there does not stumble. -/
theorem exists_current_iff :
    (∃ i, (c.current m).result = .ok i) ↔
      ∃ base, m.canonicalize (.ofString c.properties.home) = .ok base ∧
        ∀ p, ¬m.Stumbles (c.evidence base) p := by
  constructor
  · rintro ⟨i, hi⟩
    obtain ⟨base, home, hbase, hhome, -⟩ := current_eq_ok_iff.1 hi
    exact ⟨base, hbase, exists_home_iff.1 ⟨home, hhome⟩⟩
  · rintro ⟨base, hbase, hstumble⟩
    obtain ⟨home, hhome⟩ := exists_home_iff.2 hstumble
    exact ⟨_, current_eq_ok_iff.2 ⟨base, home, hbase, hhome, rfl⟩⟩

/-- Where no installation is reported, the reported home has no canonical form or a path is too
long. -/
lemma current_eq_error (h : (c.current m).result = .error e) :
    m.LacksForm (.ofString c.properties.home) e ∨ m.TellsOverlong e := by
  rcases Traced.result_bind_eq_error_iff.1 h with h | ⟨base, -, h⟩
  · exact .inl (Machine.lacksForm_of_canonicalize h)
  · rcases Traced.result_bind_eq_error_iff.1 h with h | ⟨home, -, h⟩
    · exact .inr (findHome_eq_error h)
    · cases h

end Context

end JavaHome
