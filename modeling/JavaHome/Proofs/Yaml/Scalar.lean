import Mathlib.Tactic.Lemma
import JavaHome.Proofs.Text.Hex
import JavaHome.Text.Digit
import JavaHome.Yaml.BlockScalar
import JavaHome.Yaml.Plain
import JavaHome.Yaml.QuotedScalar

/-!
# Faults within scalars

A reader of a text only moves on within the text. A rule that it finds broken is the only fault that
it ends in, but for two that the text spells (`Explains`): an escape that names a number past the
last code point, and a run of too many digits. Readers are followed step by step (`Comes.bind`),
here through scalars.
-/

namespace JavaHome.Yaml

variable {s : List Char} {c : Cursor} {fuel : Nat} {α β : Type}

/-- A text holds an escape for a number past the last code point: a backslash, the letter `U`, and
eight digits. -/
def SpellsEscape (s : List Char) (code : Nat) : Prop :=
  ∃ digits, '\\' :: 'U' :: digits <:+: s ∧ digits.length = 8 ∧
    Text.hexNumber? digits = some code ∧ 0x10FFFF < code

/-- A text holds more digits in a row than are read as a number. -/
def SpellsNumeral (s : List Char) (count : Nat) : Prop :=
  ∃ digits, digits <:+: s ∧ (∀ ch ∈ digits, ch.isDigit = true) ∧ digits.length = count ∧
    Text.numeralLimit < count

/-- A fault is a broken rule, or the text spells what it is about. -/
inductive Explains (s : List Char) : Fault → Prop where
  | malformed :
    Explains s .malformed
  | codePoint {code} :
    SpellsEscape s code →
    Explains s (.codePoint code)
  | tooManyDigits {count} :
    SpellsNumeral s count →
    Explains s (.tooManyDigits count)

/-- What the reader of a text comes to: an answer with some property, or a fault that the text
explains. -/
inductive Comes (s : List Char) (P : α → Prop) : Except Fault α → Prop where
  | answer {a} :
    P a →
    Comes s P (.ok a)
  | fault {f} :
    Explains s f →
    Comes s P (.error f)

namespace Comes

variable {P : α → Prop} {Q : β → Prop} {x : Except Fault α}

lemma malformed : Comes s P (.error .malformed) :=
  .fault .malformed

/-- What goes on from an answer comes to what it comes to from there. -/
lemma bind {f : α → Except Fault β} (h : Comes s P x) (hnext : ∀ a, P a → Comes s Q (f a)) :
    Comes s Q (x >>= f) := by
  cases h with
  | answer ha => exact hnext _ ha
  | fault hfault => exact .fault hfault

lemma map {f : α → β} (h : Comes s P x) (hnext : ∀ a, P a → Q (f a)) : Comes s Q (x.map f) := by
  cases h with
  | answer ha => exact .answer (hnext _ ha)
  | fault hfault => exact .fault hfault

lemma mapM {f : α → Except Fault β} {xs : List α} (h : ∀ x, Comes s Q (f x)) :
    Comes s (∀ y ∈ ·, Q y) (xs.mapM f) := by
  induction xs with
  | nil => exact .answer (List.forall_mem_nil Q)
  | cons x rest ih =>
    rw [List.mapM_cons]
    refine (h x).bind fun y hy => ?_
    exact ih.bind fun ys hys => .answer (List.forall_mem_cons.2 ⟨hy, hys⟩)

end Comes

/-! ## Positions -/

/-- A position is within a text: what is to come is the end of the text. -/
def Within (s : List Char) (c : Cursor) : Prop :=
  c.rest <:+ s

/-- A reader from a position within the text ends at one within the text. -/
abbrev Reads (s : List Char) (x : Except Fault (α × Cursor)) : Prop :=
  Comes s (fun found => Within s found.2) x

namespace Cursor

lemma rest_next (c : Cursor) : c.next.rest = c.rest.tail := by
  unfold next
  cases hrest : c.rest with
  | nil => exact hrest
  | cons ch rest =>
    dsimp only
    by_cases hbreak : isBreak ch = true
    · rw [if_pos hbreak]
      rfl
    · rw [if_neg hbreak]
      split <;> rfl

lemma rest_advance (n : Nat) (c : Cursor) : (c.advance n).rest = c.rest.drop n := by
  induction n generalizing c with
  | zero => rfl
  | succ n ih => rw [advance, ih, rest_next, List.drop_tail]

end Cursor

namespace Within

lemma next (h : Within s c) : Within s c.next := by
  rw [Within, Cursor.rest_next]
  exact (List.tail_suffix _).trans h

lemma advance (h : Within s c) (n : Nat) : Within s (c.advance n) := by
  rw [Within, Cursor.rest_advance]
  exact (List.drop_suffix _ _).trans h

lemma span (h : Within s c) (p : Char → Bool) : Within s (c.span p).2 :=
  h.advance _

lemma skip (h : Within s c) (p : Char → Bool) : Within s (c.skip p) :=
  h.span p

lemma lineBreak {b : Char} {after : Cursor} (h : Within s c)
    (hbreak : c.lineBreak? = some (b, after)) : Within s after := by
  unfold Cursor.lineBreak? at hbreak
  split at hbreak
  · cases hbreak
  · split at hbreak
    · cases hbreak
      exact h.next
    · cases hbreak

lemma skipComment (h : Within s c) : Within s c.skipComment := by
  unfold Cursor.skipComment
  dsimp only
  split
  · exact (h.skip _).skip _
  · exact h.skip _

lemma endLine (h : Within s c) : Comes s (Within s) c.endLine := by
  have hcomment := h.skipComment
  unfold Cursor.endLine
  dsimp only
  split
  · rename_i hbreak
    exact .answer (hcomment.lineBreak hbreak)
  · split
    · exact .answer hcomment
    · exact .malformed

end Within

/-! ## Quoted scalars -/

namespace QuotedScalar

end QuotedScalar

/-! ## Block scalars -/

namespace BlockScalar

end BlockScalar

/-! ## Plain scalars -/

namespace Plain

end Plain

end JavaHome.Yaml
