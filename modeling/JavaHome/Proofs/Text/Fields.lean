import Mathlib.Tactic.Lemma
import JavaHome.Text.Fields

/-!
# Fields and separators

Cutting a text at a separator is the library's `List.splitOn`, and so it undoes `List.intercalate`.
The lemmas on strings say the same of `Text.fields` and `String.intercalate`: no field holds the
separator (`notMem_of_mem_fields`), and what was joined is cut again into what it was joined from
(`fields_intercalate`).
-/

namespace JavaHome.Text

/-- What is left when the longest beginning of a kind is dropped. -/
lemma drop_length_takeWhile (p : Char → Bool) (s : List Char) :
    s.drop (s.takeWhile p).length = s.dropWhile p := by
  have h : s.takeWhile p ++ s.dropWhile p = s := List.takeWhile_append_dropWhile
  calc s.drop (s.takeWhile p).length
      = (s.takeWhile p ++ s.dropWhile p).drop (s.takeWhile p).length := by rw [h]
    _ = s.dropWhile p := List.drop_left

/-- The fields of a text are the library's. -/
lemma fieldsOf_eq_splitOn (sep : Char) (s : List Char) : fieldsOf sep s = s.splitOn sep := by
  induction s with
  | nil => rfl
  | cons c rest ih =>
    rw [List.splitOn_cons_eq_if_modifyHead, ← ih, fieldsOf]
    by_cases h : c = sep
    · simp [h]
    · have hne := fieldsOf_ne_nil sep rest
      simp only [h, beq_iff_eq, if_false]
      cases e : fieldsOf sep rest with
      | nil => exact absurd e hne
      | cons field others => rfl

/-- The fields one after the other are the text without its separators. -/
lemma flatten_fieldsOf (sep : Char) (s : List Char) :
    (fieldsOf sep s).flatten = s.filter (· ≠ sep) := by
  induction s with
  | nil => rfl
  | cons c rest ih =>
    rw [fieldsOf]
    by_cases h : c = sep
    · rw [if_pos h, List.filter_cons_of_neg (by simpa using h)]
      exact ih
    · rw [if_neg h, List.filter_cons_of_pos (by simpa using h), ← ih]
      cases fieldsOf sep rest <;> rfl

/-- The characters of the fields are those of the text that are not the separator. -/
lemma exists_field_iff {sep c : Char} {s : List Char} :
    (∃ field ∈ fieldsOf sep s, c ∈ field) ↔ c ∈ s ∧ c ≠ sep := by
  rw [← List.mem_flatten, flatten_fieldsOf, List.mem_filter]
  simp

/-- The fields one after the other are the text without some of its characters. -/
lemma sublist_fieldsOf (sep : Char) (s : List Char) : (fieldsOf sep s).flatten.Sublist s := by
  rw [flatten_fieldsOf]
  exact List.filter_sublist

/-- Fields of a string have their characters from the string. -/
lemma mem_of_mem_fields {sep c : Char} {s field : String} (h : field ∈ fields sep s)
    (hc : c ∈ field.toList) : c ∈ s.toList := by
  obtain ⟨chars, hmem, rfl⟩ := List.mem_map.1 h
  rw [String.toList_ofList] at hc
  exact (exists_field_iff.1 ⟨chars, hmem, hc⟩).1

/-- No field of a string holds the separator. -/
lemma notMem_of_mem_fields {sep : Char} {s field : String} (h : field ∈ fields sep s) :
    sep ∉ field.toList := by
  obtain ⟨chars, hmem, rfl⟩ := List.mem_map.1 h
  rw [String.toList_ofList]
  intro hsep
  exact (exists_field_iff.1 ⟨chars, hmem, hsep⟩).2 rfl

/-- The fields of two texts with a separator between them are those of the one and those of the
other. -/
lemma fieldsOf_append_cons (sep : Char) (s t : List Char) :
    fieldsOf sep (s ++ sep :: t) = fieldsOf sep s ++ fieldsOf sep t := by
  induction s with
  | nil => simp [fieldsOf]
  | cons c rest ih =>
    rw [List.cons_append, fieldsOf, fieldsOf, ih]
    split
    · rfl
    · cases h : fieldsOf sep rest with
      | nil => exact absurd h (fieldsOf_ne_nil sep rest)
      | cons field others => rfl

/-- A text without the separator is its only field. -/
lemma fieldsOf_of_notMem {sep : Char} {s : List Char} (h : sep ∉ s) : fieldsOf sep s = [s] := by
  rw [fieldsOf_eq_splitOn, List.splitOn_eq_singleton h]

/-- The fields of two strings with a separator between them. -/
lemma fields_append (sep : Char) (s t : String) :
    fields sep (s ++ String.singleton sep ++ t) = fields sep s ++ fields sep t := by
  simp only [fields, String.toList_append, String.toList_singleton, List.append_assoc,
    List.singleton_append, fieldsOf_append_cons, List.map_append]

/-- A string without the separator is its only field. -/
lemma fields_of_notMem {sep : Char} {s : String} (h : sep ∉ s.toList) : fields sep s = [s] := by
  simp [fields, fieldsOf_of_notMem h]

/-- The last field of a text begins after the last separator. -/
lemma getLast?_fields_append {sep : Char} (s : String) {t : String} (h : sep ∉ t.toList) :
    (fields sep (s ++ String.singleton sep ++ t)).getLast? = some t := by
  rw [fields_append, fields_of_notMem h]
  exact List.getLast?_concat

/-- Cutting undoes joining. -/
lemma fields_intercalate {sep : Char} {parts : List String} (hne : parts ≠ [])
    (h : ∀ part ∈ parts, sep ∉ part.toList) :
    fields sep ((String.singleton sep).intercalate parts) = parts := by
  have hmap : ∀ chars ∈ parts.map String.toList, sep ∉ chars := by
    intro chars hmem
    obtain ⟨part, hpart, rfl⟩ := List.mem_map.1 hmem
    exact h part hpart
  rw [fields, fieldsOf_eq_splitOn, String.toList_intercalate, String.toList_singleton,
    List.splitOn_intercalate sep hmap (by simpa using hne), List.map_map]
  simp

end JavaHome.Text
