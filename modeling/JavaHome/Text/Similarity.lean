/-!
# Similar words

How much two words have in common: the longest block of characters that stands in both, then the
longest blocks before it and after it, and so on. A word is similar to another one if the blocks
make up three fifths of both.
-/

namespace JavaHome.Text

/-- The length of the longest beginning that two texts share. -/
def sharedLength : List Char → List Char → Nat
  | a :: s, b :: t => if a = b then sharedLength s t + 1 else 0
  | _, _ => 0

theorem sharedLength_le (s t : List Char) : sharedLength s t ≤ s.length := by
  fun_induction sharedLength s t with
  | case1 _ _ _ ih => simpa using ih
  | case2 => simp
  | case3 => simp

/-- A block that stands in two texts: where it begins in each, and its length. -/
structure Block where
  left : Nat
  right : Nat
  length : Nat
  deriving Repr, DecidableEq

/-- The longest block that begins at the start of the first text; of several, the first one in the
second text. -/
def blockAtStart (s : List Char) (right : Nat) : List Char → Block
  | [] => ⟨0, right, 0⟩
  | c :: t =>
    let here := sharedLength s (c :: t)
    let later := blockAtStart s (right + 1) t
    if later.length ≤ here then ⟨0, right, here⟩ else later

/-- The longest block of two texts; of several, the first one in the first text. -/
def longestBlock : List Char → List Char → Block
  | [], _ => ⟨0, 0, 0⟩
  | c :: s, t =>
    let here := blockAtStart (c :: s) 0 t
    let later := longestBlock s t
    if later.length ≤ here.length then here else { later with left := later.left + 1 }

theorem length_blockAtStart_le (s t : List Char) (right : Nat) :
    (blockAtStart s right t).left + (blockAtStart s right t).length ≤ s.length := by
  induction t generalizing right with
  | nil => simp [blockAtStart]
  | cons c t ih =>
    have := ih (right + 1)
    have := sharedLength_le s (c :: t)
    unfold blockAtStart
    simp only
    split <;> simp_all

/-- A block lies within the first text. -/
theorem length_longestBlock_le (s t : List Char) :
    (longestBlock s t).left + (longestBlock s t).length ≤ s.length := by
  induction s with
  | nil => simp [longestBlock]
  | cons c s ih =>
    have := length_blockAtStart_le (c :: s) t 0
    unfold longestBlock
    simp only
    split
    · assumption
    · simp only [List.length_cons]
      omega

/-- The number of characters in the blocks that two texts share. -/
def commonLength (s t : List Char) : Nat :=
  match h : longestBlock s t with
  | ⟨_, _, 0⟩ => 0
  | ⟨left, right, size + 1⟩ =>
    have bound : left + (size + 1) ≤ s.length := by
      have := length_longestBlock_le s t
      rw [h] at this
      exact this
    commonLength (s.take left) (t.take right) + (size + 1) +
      commonLength (s.drop (left + (size + 1))) (t.drop (right + (size + 1)))
termination_by s.length
decreasing_by
  all_goals
    simp only [List.length_take, List.length_drop]
    omega

/-- Whether a word is similar to another one. -/
def isSimilar (word other : String) : Bool :=
  3 * (word.length + other.length) ≤ 10 * commonLength word.toList other.toList

end JavaHome.Text
