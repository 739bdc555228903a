import JavaHome.Failure
import JavaHome.Text.Digit
import JavaHome.Text.LowerCase

/-!
# The console

What the variables of the environment say about the console that text is written to. Its size is
taken from `COLUMNS` and `LINES` when the program starts, and asked for again whenever something is
written. `TTY_COMPATIBLE` and `FORCE_COLOR` make it pass for a terminal, where text has styles
unless `TERM` names one that has none.
-/

namespace JavaHome

/-- Environment variables and their values, each name once. -/
abbrev Environment := List (String × String)

/-- The size of the console, as far as it was given when the program started. -/
structure Console where
  width : Option Nat
  height : Option Nat
  deriving Repr, DecidableEq

namespace Console

/-- The console of which no size was given. -/
def unset : Console := ⟨none, none⟩

/-- The width of a console when nothing is said about it. -/
def defaultWidth : Nat := 80

/-- The size that a variable gives, if all of its value is digits. Digits that are no decimal ones,
or too many of them, are read as no number. -/
def sizeOf (environment : Environment) (name : String) : Except Failure (Option Nat) :=
  match environment.lookup name with
  | none => .ok none
  | some value =>
    let chars := value.toList
    let leading := chars.takeWhile Text.isDigit
    if ¬Text.isDigits chars then .ok none
    else if Text.numeralLimit < leading.length then .error (.numeralTooLong leading.length)
    else if leading.length < chars.length then .error (.notNumeral value)
    else .ok (some (Text.numeralValue chars))

/-- The console of a program that starts in an environment. -/
def ofEnvironment (environment : Environment) : Except Failure Console := do
  return ⟨← sizeOf environment "COLUMNS", ← sizeOf environment "LINES"⟩

/-- Whether the console passes for a terminal. By itself it is none. -/
def isTerminal (environment : Environment) : Bool :=
  match environment.lookup "TTY_COMPATIBLE", environment.lookup "FORCE_COLOR" with
  | some "0", _ => false
  | some "1", _ => true
  | _, some value => value ≠ ""
  | _, none => false

/-- Whether the console passes for a terminal without styles. -/
def isDumb (environment : Environment) : Bool :=
  isTerminal environment &&
    Text.lower ((environment.lookup "TERM").getD "") ∈ ["dumb", "unknown"]

/-- Whether text has styles. -/
def isStyled (environment : Environment) : Bool :=
  isTerminal environment && !isDumb environment

/-- The width that the environment gives now, other than zero. -/
def widthNow (environment : Environment) : Nat :=
  match sizeOf environment "COLUMNS" with
  | .ok (some width) => if width = 0 then defaultWidth else width
  | _ => defaultWidth

/-- The columns of a console in an environment. Only a size that was given in full counts on a
terminal without styles. -/
def columns (console : Console) (environment : Environment) : Nat :=
  match console.width, console.height with
  | some width, some _ => width
  | some width, none => if isDumb environment then defaultWidth else width
  | none, _ => if isDumb environment then defaultWidth else widthNow environment

end Console

end JavaHome
