import Mathlib.Tactic.Lemma
import JavaHome.Path.Basic
import JavaHome.Proofs.Text.Fields

/-!
# Paths below a directory

A path is within a directory if it spells the directory and then some names, none of which goes up,
and below it if there is at least one such name. Links do not count: this is about how a path is
spelled. Paths taken from one another are associative (`join_assoc`), so a path may be made absolute
before or after others are taken from it.
-/

namespace JavaHome.Path

variable {p q directory : Path} {name : String} {names cwd : List String}

/-! ## Paths taken from one another -/

lemma join_of_isAbsolute (habs : q.isAbsolute = true) : p.join q = q := by
  rw [join, if_pos habs]

lemma join_of_relative (hrel : q.isAbsolute = false) :
    p.join q = { p with parts := p.parts ++ q.parts } := by
  rw [join, hrel]
  rfl

lemma join_assoc (p q r : Path) : (p.join q).join r = p.join (q.join r) := by
  cases hr : r.isAbsolute with
  | true => rw [join_of_isAbsolute hr, join_of_isAbsolute hr, join_of_isAbsolute hr]
  | false =>
    cases hq : q.isAbsolute with
    | true =>
      have hboth : (q.join r).isAbsolute = true := by
        rw [join_of_relative hr]
        exact hq
      rw [join_of_isAbsolute hq, join_of_isAbsolute hboth]
    | false =>
      have hboth : (q.join r).isAbsolute = false := by
        rw [join_of_relative hr]
        exact hq
      rw [join_of_relative hq, join_of_relative hboth, join_of_relative hr, join_of_relative hr]
      simp only [List.append_assoc]

/-- To add a name is to take the path of that name. -/
lemma child_eq_join (p : Path) (name : String) : p.child name = p.join ⟨.relative, [name]⟩ := rfl

lemma child_inj {other : String} : p.child name = q.child other ↔ p = q ∧ name = other := by
  constructor
  · intro h
    have hparent := congrArg parent h
    have hname := congrArg Path.name h
    rw [parent_child, parent_child] at hparent
    rw [name_child, name_child] at hname
    exact ⟨hparent, hname⟩
  · rintro ⟨rfl, rfl⟩
    rfl

lemma join_child (p q : Path) (name : String) : p.join (q.child name) = (p.join q).child name := by
  rw [child_eq_join, child_eq_join, join_assoc]

lemma child_absolute (p : Path) (name : String) :
    (p.child name).absolute cwd = (p.absolute cwd).child name :=
  join_child ..

lemma join_absolute (p q : Path) : (p.join q).absolute cwd = (p.absolute cwd).join q :=
  (join_assoc ..).symm

/-- A path that has names has a last one. -/
lemma exists_child_of_parts_ne_nil (h : p.parts ≠ []) :
    ∃ last, p = p.parent.child last ∧ last ∈ p.parts := by
  refine ⟨p.parts.getLast h, ?_, List.getLast_mem h⟩
  simp only [parent, child, List.dropLast_concat_getLast h]

/-- The text of a path ends in its last name. -/
lemma getLast?_fields_text_child (p : Path) (hslash : '/' ∉ name.toList) :
    (Text.fields '/' (p.child name).text).getLast? = some name := by
  have htext : (p.child name).text = name ∨
      ∃ front, (p.child name).text = front ++ "/" ++ name := by
    have hnone : ¬((p.child name).anchor = .relative ∧ (p.child name).parts = []) := by
      simp [child]
    rw [text, if_neg hnone]
    change p.anchor.text ++ "/".intercalate (p.parts ++ [name]) = name ∨
      ∃ front, p.anchor.text ++ "/".intercalate (p.parts ++ [name]) = front ++ "/" ++ name
    by_cases hparts : p.parts = []
    · rw [hparts, List.nil_append, String.intercalate_singleton]
      cases p.anchor with
      | relative => exact .inl String.empty_append
      | root => exact .inr ⟨"", rfl⟩
      | doubleRoot => exact .inr ⟨"/", rfl⟩
    · rw [String.intercalate_append_of_ne_nil hparts (by simp), String.intercalate_singleton]
      exact .inr ⟨p.anchor.text ++ "/".intercalate p.parts, by simp only [String.append_assoc]⟩
  rcases htext with htext | ⟨front, htext⟩
  · rw [htext]
    simp [Text.fields, Text.fieldsOf_of_notMem hslash]
  · rw [htext]
    exact Text.getLast?_fields_append front hslash

/-! ## Within and below -/

/-- A path spells a directory and then some names, without going up from there. -/
def IsWithin (p directory : Path) : Prop :=
  ∃ names, ".." ∉ names ∧ p = directory.join ⟨.relative, names⟩

/-- A path spells a directory and then at least one more name, without going up from there. -/
def IsBelow (p directory : Path) : Prop :=
  ∃ names, names ≠ [] ∧ ".." ∉ names ∧ p = directory.join ⟨.relative, names⟩

lemma join_names (directory : Path) (names : List String) :
    directory.join ⟨.relative, names⟩ = { directory with parts := directory.parts ++ names } := rfl

lemma IsBelow.isWithin (h : p.IsBelow directory) : p.IsWithin directory := by
  obtain ⟨names, -, hup, hp⟩ := h
  exact ⟨names, hup, hp⟩

/-- What is within a directory has at least the names of that directory. -/
lemma IsWithin.length_le (h : p.IsWithin directory) : directory.parts.length ≤ p.parts.length := by
  obtain ⟨names, -, rfl⟩ := h
  rw [join_names, List.length_append]
  exact Nat.le_add_right ..

/-- A path without names is not within a directory that has one. -/
lemma IsWithin.parts_ne_nil (h : p.IsWithin (directory.child name)) : p.parts ≠ [] := by
  intro hparts
  have hlength := h.length_le
  rw [hparts, child, List.length_append] at hlength
  cases hlength

/-- What a directory is in is not within that directory. -/
lemma not_isWithin_child (p : Path) (name : String) : ¬p.IsWithin (p.child name) := by
  intro h
  have hlength := h.length_le
  rw [child, List.length_append, List.length_singleton] at hlength
  exact Nat.not_succ_le_self _ hlength

/-- Names that are taken from a directory stay in it if and only if none of them goes up. -/
lemma isWithin_join_iff :
    (directory.join ⟨.relative, names⟩).IsWithin directory ↔ ".." ∉ names := by
  constructor
  · rintro ⟨others, hup, h⟩
    rw [join_names, join_names] at h
    cases List.append_cancel_left (Path.mk.inj h).2
    exact hup
  · intro hup
    exact ⟨names, hup, rfl⟩

/-- A name within a directory is below it, unless the name goes up. -/
lemma isBelow_child_iff : (p.child name).IsBelow directory ↔
    p.IsWithin directory ∧ name ≠ ".." := by
  constructor
  · rintro ⟨names, hne, hup, h⟩
    obtain ⟨front, last, rfl⟩ := (List.eq_nil_or_concat names).resolve_left hne
    rw [List.concat_eq_append] at h hup
    have hchild : p.child name = (directory.join ⟨.relative, front⟩).child last := by
      rw [h, child_eq_join _ last, join_assoc]
      rfl
    obtain ⟨rfl, rfl⟩ := child_inj.1 hchild
    rw [List.mem_append, List.mem_singleton, not_or] at hup
    exact ⟨⟨front, hup.1, rfl⟩, Ne.symm hup.2⟩
  · rintro ⟨⟨names, hup, rfl⟩, hname⟩
    refine ⟨names ++ [name], by simp, by simp [hup, Ne.symm hname], ?_⟩
    rw [child_eq_join, join_assoc]
    rfl

end JavaHome.Path
