/-!
# Fields

Text cut at a separator. `fieldsOf sep` cuts at every occurrence, so that a text with `n` separators
has `n + 1` fields, empty ones included. `byteLength` measures text as a file system does, in bytes
of UTF-8.
-/

namespace JavaHome.Text

/-- Put a character in front of the first field. -/
def consField (c : Char) : List (List Char) → List (List Char)
  | [] => [[c]]
  | field :: rest => (c :: field) :: rest

/-- The fields of a text between the occurrences of a separator. -/
def fieldsOf (sep : Char) : List Char → List (List Char)
  | [] => [[]]
  | c :: rest => if c = sep then [] :: fieldsOf sep rest else consField c (fieldsOf sep rest)

/-- A text has at least one field. -/
theorem fieldsOf_ne_nil (sep : Char) (s : List Char) : fieldsOf sep s ≠ [] := by
  cases s with
  | nil => simp [fieldsOf]
  | cons c rest =>
    unfold fieldsOf
    split
    · simp
    · cases fieldsOf sep rest <;> simp [consField]

/-- The fields of a string, as strings. -/
def fields (sep : Char) (s : String) : List String :=
  (fieldsOf sep s.toList).map String.ofList

/-- The number of bytes that a text takes in UTF-8. -/
def byteLength (s : String) : Nat :=
  s.utf8ByteSize

@[simp] theorem byteLength_append (s t : String) :
    byteLength (s ++ t) = byteLength s + byteLength t := by
  simp [byteLength]

end JavaHome.Text
