import JavaHome.Text.Quoted
import JavaHome.Text.Similarity

/-!
# Command lines

The words of a command line: a verb, switches in front of it and after it, values of switches, and
operands. A switch has a long name after two dashes; a switch without a value may also have a letter
after one dash, and letters may stand together. Two dashes alone end the switches.
-/

namespace JavaHome.Command

/-- The name of the program. -/
def programName : String := "jvmlocate"

/-- What the program can be asked to do: describe the current installation, list the inherited
environment, check a home directory, or find a tool. -/
inductive Verb where
  | current
  | env
  | home
  | exec
  deriving Repr, DecidableEq

namespace Verb

/-- All verbs. -/
def all : List Verb := [current, env, home, exec]

/-- The word for a verb. -/
def word : Verb → String
  | current => "current"
  | env => "env"
  | home => "home"
  | exec => "exec"

/-- The name of the operand that a verb takes. -/
def operand? : Verb → Option String
  | home => some "PATH"
  | exec => some "TOOL"
  | _ => none

/-- The verb for a word. -/
def ofWord? (s : String) : Option Verb :=
  all.find? fun verb => verb.word = s

end Verb

/-- What changes the way in which a verb is carried out. -/
inductive Switch where
  | properties
  | verbose
  | version
  | help
  | home
  | format
  deriving Repr, DecidableEq

namespace Switch

/-- The long name of a switch. -/
def name : Switch → String
  | properties => "--properties"
  | verbose => "--verbose"
  | version => "--version"
  | help => "--help"
  | home => "--home"
  | format => "--format"

/-- The letter for a switch. Only switches without a value have one. -/
def letter? : Switch → Option Char
  | verbose => some 'v'
  | _ => none

/-- Whether a switch takes a value. -/
def takesValue : Switch → Bool
  | properties => true
  | home => true
  | format => true
  | _ => false

end Switch

/-- Where a word stands: in front of the verb, or after it. -/
inductive Scope where
  | program
  | verb (verb : Verb)
  deriving Repr, DecidableEq

namespace Scope

/-- The switches that may stand in a scope. -/
def switches : Scope → List Switch
  | program => [.version, .properties, .verbose, .help]
  | verb .exec => [.home, .format, .help]
  | verb _ => [.format, .help]

/-- Whether switches may follow operands. In front of the verb they cannot: the first word that is
no switch is the verb. -/
def mixesOperands : Scope → Bool
  | program => false
  | verb _ => true

/-- The program, and the verb if there is one. -/
def name : Scope → String
  | program => programName
  | verb v => programName ++ " " ++ v.word

/-- The line that says how to use a scope. -/
def usageLine : Scope → String
  | program => "Usage: " ++ programName ++ " [OPTIONS] COMMAND [ARGS]..."
  | verb v => "Usage: " ++ (verb v).name ++ " [OPTIONS]" ++ (v.operand?.map (" " ++ ·)).getD ""

/-- The switch with a long name. -/
def named? (scope : Scope) (name : String) : Option Switch :=
  scope.switches.find? fun s => s.name = name

/-- The switch with a letter. -/
def lettered? (scope : Scope) (letter : Char) : Option Switch :=
  scope.switches.find? fun s => s.letter? = some letter

end Scope

/-- What is wrong with a command line. -/
inductive Fault where
  | nothingAsked
  | verbMissing
  | verbUnknown (word : String)
  | switchUnknown (scope : Scope) (name : String)
  | letterUnknown (letter : Char)
  | valueMissing (switch : Switch)
  | valueRefused (switch : Switch)
  | formatUnknown (value : String)
  | fileMissing (path : String)
  | fileIsDirectory (path : String)
  | operandMissing (name : String)
  | operandsLeft (words : List String)
  deriving Repr, DecidableEq

namespace Fault

/-- Of some words those that are similar to a wrong one, as a suggestion. -/
def suggestion (word : String) (words : List String) : String :=
  match (words.filter (Text.isSimilar · word)).mergeSort (· ≤ ·) with
  | [] => ""
  | [similar] => " Did you mean " ++ Text.quoted similar ++ "?"
  | several => " (Possible options: " ++ ", ".intercalate (several.map Text.quoted) ++ ")"

/-- The wording of a fault. -/
def message : Fault → String
  | nothingAsked => "Missing command."
  | verbMissing => "Missing command."
  | verbUnknown word =>
    "No such command " ++ Text.quoted word ++ "." ++ suggestion word (Verb.all.map Verb.word)
  | switchUnknown scope name =>
    "No such option " ++ Text.quoted name ++ "." ++ suggestion name (scope.switches.map Switch.name)
  | letterUnknown letter => "No such option " ++ Text.quoted (String.ofList ['-', letter]) ++ "."
  | valueMissing switch => "Option " ++ Text.quoted switch.name ++ " requires an argument."
  | valueRefused switch => "Option " ++ Text.quoted switch.name ++ " does not take a value."
  | formatUnknown value =>
    "Invalid value for '--format': " ++ Text.quoted value ++ " is not one of 'text', 'json'."
  | fileMissing path =>
    "Invalid value for '--properties': File " ++ Text.quoted path ++ " does not exist."
  | fileIsDirectory path =>
    "Invalid value for '--properties': File " ++ Text.quoted path ++ " is a directory."
  | operandMissing name => "Missing argument '" ++ name ++ "'."
  | operandsLeft [word] => "Got unexpected extra argument (" ++ word ++ ")"
  | operandsLeft words => "Got unexpected extra arguments (" ++ " ".intercalate words ++ ")"

/-- Whether the usage of the scope is told with a fault. -/
def tellsUsage : Fault → Bool
  | valueMissing _ => false
  | valueRefused _ => false
  | _ => true

end Fault

/-- A switch that was given, and its value; the empty text if it takes none. -/
structure Given where
  switch : Switch
  value : String
  deriving Repr, DecidableEq

/-- What a word is: the end of the switches, an operand, switches, or a switch whose value is the
next word. -/
inductive Reading where
  | separator
  | operand
  | given (switches : List Given)
  | wanting (switch : Switch)
  deriving Repr, DecidableEq

/-- A word with two dashes: the name of a switch, and a value if an equals sign follows. -/
def readName (scope : Scope) (word : List Char) : Except Fault Reading :=
  let name := word.takeWhile (· ≠ '=')
  match scope.named? (String.ofList name), word.drop name.length with
  | none, _ => .error (.switchUnknown scope (String.ofList name))
  | some switch, [] => .ok (if switch.takesValue then .wanting switch else .given [⟨switch, ""⟩])
  | some switch, _ :: value =>
    if switch.takesValue then .ok (.given [⟨switch, String.ofList value⟩])
    else .error (.valueRefused switch)

/-- Letters after one dash: a switch each. -/
def readLetters (scope : Scope) : List Char → Except Fault (List Given)
  | [] => .ok []
  | letter :: rest =>
    match scope.lettered? letter with
    | some switch => (readLetters scope rest).map (⟨switch, ""⟩ :: ·)
    | none => .error (.letterUnknown letter)

/-- What a word is. A dash alone is an operand. -/
def readWord (scope : Scope) (word : String) : Except Fault Reading :=
  match word.toList with
  | ['-', '-'] => .ok .separator
  | '-' :: '-' :: rest => readName scope ('-' :: '-' :: rest)
  | '-' :: letter :: rest => (readLetters scope (letter :: rest)).map .given
  | _ => .ok .operand

/-- The switches and the operands of words. In a scope that ends with its first operand, all words
from there on are operands. -/
def readWords (scope : Scope) : List String → Except Fault (List Given × List String)
  | [] => .ok ([], [])
  | word :: rest => do
    match ← readWord scope word with
    | .separator => return ([], rest)
    | .operand =>
      if scope.mixesOperands then
        let (given, operands) ← readWords scope rest
        return (given, word :: operands)
      else return ([], word :: rest)
    | .given switches =>
      let (given, operands) ← readWords scope rest
      return (switches ++ given, operands)
    | .wanting switch =>
      match rest with
      | [] => throw (.valueMissing switch)
      | value :: rest =>
        let (given, operands) ← readWords scope rest
        return (⟨switch, value⟩ :: given, operands)

/-- Words without dashes are operands. -/
theorem readWord_eq_operand {scope : Scope} {word : String} (h : word.toList.head? ≠ some '-') :
    readWord scope word = .ok .operand := by
  unfold readWord
  split <;> simp_all

end JavaHome.Command
