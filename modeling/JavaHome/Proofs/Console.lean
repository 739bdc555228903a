import Mathlib.Tactic.Lemma
import JavaHome.Machine
import JavaHome.Result

/-!
# Columns of the console

What the console is depends on a few variables only (`Console.decidingVariables`). On a machine
where the program has started, a width that the environment gives is the width of the console
(`Machine.columns_of_givesWidth`), unless the environment makes the console pass for a terminal,
and there are no columns only where the environment says so (`Machine.givesWidth_zero`).
-/

namespace JavaHome

namespace Console

variable {environment e₁ e₂ : Environment} {width : Nat}

/-- The variables that the console depends on. -/
def decidingVariables : List String :=
  ["COLUMNS", "LINES", "TTY_COMPATIBLE", "FORCE_COLOR", "TERM"]

/-- The environment gives a width: decimal digits that are read as this number. -/
def GivesWidth (environment : Environment) (width : Nat) : Prop :=
  sizeOf environment "COLUMNS" = .ok (some width)

/-- Nothing in the environment makes the console pass for a terminal. -/
structure Unforced (environment : Environment) : Prop where
  color : environment.lookup "FORCE_COLOR" = none
  compatible : environment.lookup "TTY_COMPATIBLE" ≠ some "1"

section

variable (h : ∀ name ∈ decidingVariables, e₁.lookup name = e₂.lookup name)
include h

lemma isDumb_congr : isDumb e₁ = isDumb e₂ := by
  unfold isDumb isTerminal
  rw [h "TTY_COMPATIBLE" (by decide), h "FORCE_COLOR" (by decide), h "TERM" (by decide)]

lemma isStyled_congr : isStyled e₁ = isStyled e₂ := by
  unfold isStyled isTerminal
  rw [isDumb_congr h, h "TTY_COMPATIBLE" (by decide), h "FORCE_COLOR" (by decide)]

lemma columns_congr (console : Console) : console.columns e₁ = console.columns e₂ := by
  have hwidth : widthNow e₁ = widthNow e₂ := by
    unfold widthNow sizeOf
    rw [h "COLUMNS" (by decide)]
  unfold columns
  rw [isDumb_congr h, hwidth]

end

namespace Unforced

lemma isTerminal_eq (h : Unforced environment) : isTerminal environment = false := by
  unfold isTerminal
  rw [h.color]
  split
  · rfl
  · rename_i hcompatible
    exact absurd hcompatible h.compatible
  · rename_i hcolor _ _
    cases hcolor
  · rfl

lemma isDumb_eq (h : Unforced environment) : isDumb environment = false := by
  rw [isDumb, h.isTerminal_eq, Bool.false_and]

lemma isStyled_eq (h : Unforced environment) : isStyled environment = false := by
  rw [isStyled, h.isTerminal_eq, Bool.false_and]

end Unforced

end Console

namespace Machine

open Console (GivesWidth Unforced)

variable {m : Machine} {width : Nat}

/-- The program has started on a machine: the console has the size that the environment gave. -/
def IsStarted (m : Machine) : Prop :=
  Console.ofEnvironment m.environment = .ok m.console

lemma sizeOf_of_isStarted (h : m.IsStarted) :
    Console.sizeOf m.environment "COLUMNS" = .ok m.console.width := by
  unfold IsStarted Console.ofEnvironment at h
  obtain ⟨width, hwidth, h⟩ := bind_eq_ok_iff.1 h
  obtain ⟨height, -, h⟩ := bind_eq_ok_iff.1 h
  rw [← Except.ok.inj h]
  exact hwidth

/-- A width that the environment gives is the width of the console. -/
lemma columns_of_givesWidth (h : m.IsStarted) (hplain : Unforced m.environment)
    (hwidth : GivesWidth m.environment width) : m.columns = width := by
  have hgiven : m.console.width = some width :=
    Except.ok.inj ((sizeOf_of_isStarted h).symm.trans hwidth)
  unfold columns Console.columns
  rw [hgiven, hplain.isDumb_eq]
  cases m.console.height <;> rfl

/-- There are no columns only where the environment gives none. -/
lemma givesWidth_zero (h : m.IsStarted) (hzero : m.columns = 0) :
    GivesWidth m.environment 0 := by
  have hgiven := sizeOf_of_isStarted h
  have hnow : Console.widthNow m.environment ≠ 0 := by
    unfold Console.widthNow
    split
    · split
      · decide
      · assumption
    · decide
  unfold columns Console.columns at hzero
  unfold GivesWidth
  rw [hgiven]
  split at hzero
  · rename_i hwidth _
    rw [hwidth, hzero]
  · rename_i hwidth _
    split at hzero
    · cases hzero
    · rw [hwidth, hzero]
  · split at hzero
    · cases hzero
    · exact absurd hzero hnow

end Machine

end JavaHome
