import Mathlib.Tactic.Lemma
import JavaHome.Path.Basic
import JavaHome.Proofs.Text.Fields

/-!
# The text of a path

A path is proper if its names are steps without slashes, as those of every path that was read from a
text (`proper_ofString`). The text of a proper path says again what the path is: its fields are the
names after some blank ones (`Proper.fields_text`), and it begins with a slash if and only if the
path is absolute (`Proper.head?_text`).
-/

namespace JavaHome.Path

/-- The names of a path are steps and hold no slash. -/
def Proper (p : Path) : Prop :=
  ∀ part ∈ p.parts, isStep part = true ∧ '/' ∉ part.toList

lemma proper_ofString (s : String) : (ofString s).Proper := by
  intro part hmem
  obtain ⟨hfield, hstep⟩ := List.mem_filter.1 hmem
  exact ⟨hstep, Text.notMem_of_mem_fields hfield⟩

lemma Proper.join {p q : Path} (hp : p.Proper) (hq : q.Proper) : (p.join q).Proper := by
  unfold Path.join
  split
  · exact hq
  · intro part hmem
    cases List.mem_append.1 hmem with
    | inl hmem => exact hp part hmem
    | inr hmem => exact hq part hmem

lemma Proper.child {p : Path} (hp : p.Proper) {name : String}
    (hstep : isStep name = true) (hslash : '/' ∉ name.toList) : (p.child name).Proper := by
  intro part hmem
  rcases List.mem_append.1 hmem with hmem | hmem
  · exact hp part hmem
  · cases List.mem_singleton.1 hmem
    exact ⟨hstep, hslash⟩

lemma Proper.ne_empty {p : Path} (h : p.Proper) {part : String} (hmem : part ∈ p.parts) :
    part ≠ "" := by
  have hstep := (h part hmem).1
  simp only [isStep, Bool.and_eq_true, decide_eq_true_eq] at hstep
  exact hstep.1

/-- A path that was read from a text has no last name if and only if none of the fields is a step.
-/
lemma name_ofString_eq_empty_iff {s : String} :
    (ofString s).name = "" ↔ ∀ field ∈ Text.fields '/' s, isStep field = false := by
  have hparts : (ofString s).name = "" ↔ (ofString s).parts = [] := by
    unfold Path.name
    cases hlast : (ofString s).parts.getLast? with
    | none => simp [List.getLast?_eq_none_iff.1 hlast]
    | some last =>
      have hmem := List.mem_of_getLast? hlast
      constructor
      · intro h
        exact absurd h ((proper_ofString s).ne_empty hmem)
      · intro h
        rw [h] at hmem
        cases hmem
  rw [hparts]
  simp only [ofString, List.filter_eq_nil_iff, Bool.not_eq_true]

/-- A text taken from a path that has a name leads to a path without one if and only if the text is
absolute and has none. -/
lemma name_join_ofString_eq_empty_iff {p : Path} {s : String} (hp : p.name ≠ "") :
    (p.join (ofString s)).name = "" ↔
      (ofString s).isAbsolute = true ∧ (ofString s).name = "" := by
  unfold Path.join
  split
  · rename_i habs
    simp [habs]
  · rename_i hrel
    simp only [hrel, Bool.false_eq_true, false_and, iff_false]
    unfold Path.name
    rw [List.getLast?_append]
    cases hlast : (ofString s).parts.getLast? with
    | none => exact hp
    | some last => exact (proper_ofString s).ne_empty (List.mem_of_getLast? hlast)

/-- The text of names with slashes between them begins with no slash. -/
private lemma head?_intercalate {parts : List String}
    (h : ∀ part ∈ parts, isStep part = true ∧ '/' ∉ part.toList) :
    ("/".intercalate parts).toList.head? ≠ some '/' := by
  cases parts with
  | nil => simp
  | cons part rest =>
    obtain ⟨hstep, hslash⟩ := h part (List.mem_cons_self ..)
    simp only [isStep, Bool.and_eq_true, decide_eq_true_eq] at hstep
    have hhead : ∃ c others, part.toList = c :: others := by
      cases e : part.toList with
      | nil => exact absurd (String.toList_eq_nil_iff.1 e) hstep.1
      | cons c others => exact ⟨c, others, rfl⟩
    obtain ⟨c, others, e⟩ := hhead
    have htext : ("/".intercalate (part :: rest)).toList.head? = some c := by
      cases rest <;> simp [e]
    rw [htext]
    rintro ⟨⟩
    exact hslash (e ▸ List.mem_cons_self ..)

/-- The text of a path begins with a slash if and only if the path is absolute. -/
lemma Proper.head?_text {p : Path} (h : p.Proper) :
    p.text.toList.head? = some '/' ↔ p.isAbsolute = true := by
  obtain ⟨anchor, parts⟩ := p
  cases anchor with
  | relative =>
    have hrel : isAbsolute ⟨.relative, parts⟩ = false := rfl
    rw [hrel, text]
    split
    · decide
    · simp only [Anchor.text, String.empty_append, Bool.false_eq_true, iff_false]
      exact head?_intercalate h
  | root => simp [text, Anchor.text, isAbsolute]
  | doubleRoot => simp [text, Anchor.text, isAbsolute]

/-- A path has a text. -/
lemma Proper.text_ne_empty {p : Path} (h : p.Proper) : p.text ≠ "" := by
  obtain ⟨anchor, parts⟩ := p
  cases anchor with
  | relative =>
    cases parts with
    | nil => decide
    | cons part rest =>
      have hne := h.ne_empty (List.mem_cons_self ..)
      intro e
      apply hne
      cases rest <;> simp_all [text, Anchor.text]
  | root => intro e; simpa [text, Anchor.text] using congrArg String.toList e
  | doubleRoot => intro e; simpa [text, Anchor.text] using congrArg String.toList e

/-- The fields of a text after a slash. -/
private lemma fields_slash (s : String) :
    Text.fields '/' ("/" ++ s) = "" :: Text.fields '/' s :=
  Text.fields_append '/' "" s

/-- The fields of names with slashes between them are the names, or one empty field. -/
private lemma fields_names {parts : List String} (h : ∀ part ∈ parts, '/' ∉ part.toList) :
    ∃ blanks, (∀ field ∈ blanks, isStep field = false) ∧
      Text.fields '/' ("/".intercalate parts) = blanks ++ parts := by
  cases parts with
  | nil => exact ⟨[""], by decide, by rw [String.intercalate_nil]; rfl⟩
  | cons part rest => exact ⟨[], by simp, Text.fields_intercalate (by simp) h⟩

/-- The fields of the text of a path are its names, after some that are no steps. -/
lemma Proper.fields_text {p : Path} (h : p.Proper) :
    ∃ blanks, (∀ field ∈ blanks, isStep field = false) ∧
      Text.fields '/' p.text = blanks ++ p.parts := by
  obtain ⟨anchor, parts⟩ := p
  obtain ⟨blanks, hblank, hfields⟩ := fields_names fun part hmem => (h part hmem).2
  cases anchor with
  | relative =>
    rw [text]
    split
    · rename_i hnone
      exact ⟨["."], by decide, by rw [hnone.2]; rfl⟩
    · exact ⟨blanks, hblank, by rw [Anchor.text, String.empty_append, hfields]⟩
  | root =>
    refine ⟨"" :: blanks, ?_, ?_⟩
    · simpa [isStep] using hblank
    · simp only [text, Anchor.text, reduceCtorEq, false_and, if_false]
      rw [fields_slash, hfields, List.cons_append]
  | doubleRoot =>
    refine ⟨"" :: "" :: blanks, ?_, ?_⟩
    · simpa [isStep] using hblank
    · simp only [text, Anchor.text, reduceCtorEq, false_and, if_false]
      rw [show "//" = "/" ++ "/" from rfl, String.append_assoc, fields_slash, fields_slash, hfields,
        List.cons_append, List.cons_append]

/-- The steps in the text of a path are its names. -/
lemma Proper.filter_fields_text {p : Path} (h : p.Proper) :
    (Text.fields '/' p.text).filter isStep = p.parts := by
  obtain ⟨blanks, hblank, hfields⟩ := h.fields_text
  rw [hfields, List.filter_append, List.filter_eq_nil_iff.2 fun field hmem => by
      simp [hblank field hmem],
    List.nil_append, List.filter_eq_self.2 fun part hmem => (h part hmem).1]

/-- The text of a path is read as that path. -/
theorem Proper.ofString_text {p : Path} (h : p.Proper) : ofString p.text = p := by
  have hnone : ∀ s : List Char, s.head? ≠ some '/' → s.takeWhile (· == '/') = [] := by
    intro s hhead
    cases s with
    | nil => rfl
    | cons c rest => exact List.takeWhile_cons_of_neg (by simpa using hhead)
  have hanchor : Anchor.ofSlashes (p.text.toList.takeWhile (· == '/')).length = p.anchor := by
    have hnames := hnone _ (head?_intercalate h)
    obtain ⟨anchor, parts⟩ := p
    cases anchor with
    | relative =>
      have hhead : (Path.mk .relative parts).text.toList.head? ≠ some '/' := by
        rw [Ne, h.head?_text]
        exact nofun
      rw [hnone _ hhead]
      rfl
    | root =>
      simp only [text, Anchor.text, reduceCtorEq, false_and, if_false, String.toList_append] at *
      rw [show "/".toList = ['/'] from rfl, List.singleton_append,
        List.takeWhile_cons_of_pos (by decide), hnames]
      rfl
    | doubleRoot =>
      simp only [text, Anchor.text, reduceCtorEq, false_and, if_false, String.toList_append] at *
      rw [show "//".toList = ['/', '/'] from rfl, List.cons_append, List.singleton_append,
        List.takeWhile_cons_of_pos (by decide), List.takeWhile_cons_of_pos (by decide), hnames]
      rfl
  rw [ofString, hanchor, h.filter_fields_text]

/-- The path of a single name. -/
lemma ofString_name {name : String} (hstep : isStep name = true) (hslash : '/' ∉ name.toList) :
    ofString name = ⟨.relative, [name]⟩ := by
  have hproper : (Path.mk .relative [name]).Proper := by
    intro part hmem
    cases List.mem_singleton.1 hmem
    exact ⟨hstep, hslash⟩
  have htext : (Path.mk .relative [name]).text = name := by
    simp [text, Anchor.text]
  rw [← hproper.ofString_text, htext]

/-- A path read from a text is absolute if and only if the text begins with a slash. -/
lemma isAbsolute_ofString (s : String) :
    (ofString s).isAbsolute = true ↔ s.toList.head? = some '/' := by
  have hslashes : ∀ n, Anchor.ofSlashes n ≠ .relative ↔ n ≠ 0
    | 0 => by decide
    | 1 => by decide
    | 2 => by decide
    | n + 3 => by simp [Anchor.ofSlashes]
  rw [isAbsolute, decide_eq_true_iff, ofString, hslashes]
  cases s.toList with
  | nil => simp
  | cons c rest => by_cases hc : c = '/' <;> simp [hc]

/-- The characters of the text of a path are those of its names, slashes and dots. -/
lemma mem_text {p : Path} {c : Char} (h : c ∈ p.text.toList) :
    c = '/' ∨ c = '.' ∨ ∃ part ∈ p.parts, c ∈ part.toList := by
  have hnames : ∀ parts : List String, c ∈ ("/".intercalate parts).toList →
      c = '/' ∨ c = '.' ∨ ∃ part ∈ parts, c ∈ part.toList := by
    intro parts hc
    induction parts with
    | nil => simp at hc
    | cons part rest ih =>
      by_cases hrest : rest = []
      · subst hrest
        rw [String.intercalate_singleton] at hc
        exact .inr (.inr ⟨part, List.mem_singleton_self _, hc⟩)
      · rw [String.intercalate_cons_of_ne_nil hrest, String.toList_append, String.toList_append,
          List.mem_append, List.mem_append] at hc
        rcases hc with (hc | hc) | hc
        · exact .inr (.inr ⟨part, List.mem_cons_self .., hc⟩)
        · exact .inl (by simpa using hc)
        · rcases ih hc with hc | hc | ⟨other, hmem, hc⟩
          · exact .inl hc
          · exact .inr (.inl hc)
          · exact .inr (.inr ⟨other, List.mem_cons_of_mem _ hmem, hc⟩)
  rw [text] at h
  split at h
  · exact .inr (.inl (by simpa using h))
  · rw [String.toList_append, List.mem_append] at h
    rcases h with h | h
    · cases e : p.anchor <;> simp_all [Anchor.text]
    · exact hnames p.parts h

/-- The characters of a name are in the text of a path. -/
lemma mem_text_of_part {p : Path} {part : String} {c : Char} (hmem : part ∈ p.parts)
    (h : c ∈ part.toList) : c ∈ p.text.toList := by
  have hnames : ∀ parts : List String, part ∈ parts → c ∈ ("/".intercalate parts).toList := by
    intro parts hmem
    induction parts with
    | nil => cases hmem
    | cons other rest ih =>
      by_cases hrest : rest = []
      · subst hrest
        rw [String.intercalate_singleton, ← List.mem_singleton.1 hmem]
        exact h
      · rw [String.intercalate_cons_of_ne_nil hrest, String.toList_append]
        rcases List.mem_cons.1 hmem with rfl | hmem
        · rw [String.toList_append]
          exact List.mem_append_left _ (List.mem_append_left _ h)
        · exact List.mem_append_right _ (ih hmem)
  have hne : ¬(p.anchor = .relative ∧ p.parts = []) := by
    rintro ⟨-, hnone⟩
    rw [hnone] at hmem
    cases hmem
  rw [text, if_neg hne, String.toList_append]
  exact List.mem_append_right _ (hnames p.parts hmem)

/-- The text of a path that was read from a text has the same characters, slashes and dots apart. -/
lemma mem_text_ofString {s : String} {c : Char} (hslash : c ≠ '/') (hdot : c ≠ '.') :
    c ∈ (ofString s).text.toList ↔ c ∈ s.toList := by
  constructor
  · intro h
    rcases mem_text h with hc | hc | ⟨part, hpart, hc⟩
    · exact absurd hc hslash
    · exact absurd hc hdot
    · exact Text.mem_of_mem_fields (List.mem_filter.1 hpart).1 hc
  · intro h
    obtain ⟨field, hmem, hc⟩ := Text.exists_field_iff.2 ⟨h, hslash⟩
    have hc : c ∈ (String.ofList field).toList := by rwa [String.toList_ofList]
    have hstep : isStep (String.ofList field) = true := by
      simp only [isStep, Bool.and_eq_true, decide_eq_true_eq]
      constructor
      · intro e
        rw [e] at hc
        cases hc
      · intro e
        rw [e] at hc
        exact hdot (List.mem_singleton.1 hc)
    exact mem_text_of_part (List.mem_filter.2 ⟨List.mem_map_of_mem hmem, hstep⟩) hc

end JavaHome.Path
