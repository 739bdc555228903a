/-!
# Control characters and sequences

What is taken out of a text on its way to the output: characters that would move the cursor or ring
the bell, and the sequences by which styles are switched.
-/

namespace JavaHome.Terminal

/-- Whether a character never reaches the output: the bell, the backspace, the vertical tab, the
form feed and the carriage return. -/
def isDropped (c : Char) : Bool :=
  c == '\x07' || c == '\x08' || c == '\x0B' || c == '\x0C' || c == '\r'

/-- A text without the characters that never reach the output. -/
def dropControls (s : List Char) : List Char :=
  s.filter (!isDropped ·)

/-- The character that begins a control sequence, before an opening bracket. -/
def escape : Char := '\x1B'

/-- Whether a character may be a parameter of a control sequence. -/
def isParameter (c : Char) : Bool :=
  c.isDigit || c == ';' || c == '?'

/-- What follows the control sequence whose parameters begin a text, if its last letter is there. -/
def afterSequence? (s : List Char) : Option (List Char) :=
  match s.dropWhile isParameter with
  | c :: rest => if c.isAlpha then some rest else none
  | [] => none

theorem length_afterSequence? {s rest : List Char} (h : afterSequence? s = some rest) :
    rest.length < s.length := by
  unfold afterSequence? at h
  split at h
  · rename_i c tail eq
    have := List.Sublist.length_le (List.dropWhile_sublist isParameter (l := s))
    rw [eq] at this
    split at h
    · cases h
      exact this
    · cases h
  · cases h

/-- A text without control sequences. -/
def dropSequences : List Char → List Char
  | [] => []
  | [c] => [c]
  | c :: d :: rest =>
    if c = escape ∧ d = '[' then
      match h : afterSequence? rest with
      | some after =>
        have := length_afterSequence? h
        dropSequences after
      | none => c :: dropSequences (d :: rest)
    else c :: dropSequences (d :: rest)
termination_by s => s.length

/-- A text without dropped characters stays as it is. -/
theorem dropControls_eq_self {s : List Char} (h : ∀ c ∈ s, isDropped c = false) :
    dropControls s = s := by
  simpa [dropControls] using h

end JavaHome.Terminal
