import JavaHome.Command.Syntax
import JavaHome.Machine

/-!
# Invocations

What a command line asks for, once its words are read and its values are checked. Faults in the form
of words come first, then faults in values in the order in which the switches are given, then faults
in operands. The words in front of the verb are checked before the verb and what follows it.
-/

namespace JavaHome.Command

/-- How output is written. -/
inductive Format where
  | text
  | json
  deriving Repr, DecidableEq

namespace Format

/-- The word for a format. -/
def word : Format → String
  | text => "text"
  | json => "json"

/-- The format for a word. -/
def ofWord? : String → Option Format
  | "text" => some text
  | "json" => some json
  | _ => none

end Format

/-- What is to be done: describe the current installation, list the inherited environment, check a
home directory, or find a tool, in a home directory or the current one. -/
inductive Action where
  | current
  | env
  | home (path : String)
  | exec (tool : String) (home : Option String)
  deriving Repr, DecidableEq

/-- A command line that can be carried out. -/
structure Invocation where
  propertiesFile : Option String
  verbose : Bool
  format : Format
  action : Action
  deriving Repr, DecidableEq

/-- Why a command line ends before anything is done: the version or the usage is asked for, it has a
fault, or a path in it cannot even be looked up. -/
inductive Stop where
  | version
  | help (scope : Scope)
  | fault (scope : Scope) (fault : Fault)
  | failure (failure : Failure)
  deriving Repr, DecidableEq

/-- The last value of a switch. -/
def lastValue (switch : Switch) (given : List Given) : Option String :=
  ((given.filter (·.switch = switch)).getLast?).map Given.value

/-- A path that is to be looked up later may not hold the null character. -/
def checkPath (m : Machine) (path : String) : Except Stop Unit :=
  match m.tree.stat m.cwd path with
  | .error .embeddedNull => .error (.failure .embeddedNull)
  | _ => .ok ()

/-- A properties file has to be there, and no directory. -/
def checkFile (m : Machine) (path : String) : Except Stop Unit :=
  match m.tree.stat m.cwd path with
  | .error .embeddedNull => .error (.failure .embeddedNull)
  | .error _ => .error (.fault .program (.fileMissing path))
  | .ok node =>
    if node.isDirectory then .error (.fault .program (.fileIsDirectory path)) else .ok ()

/-- Whether the value of a switch will do. Only the last value that a switch is given counts. -/
def checkSwitch (m : Machine) (scope : Scope) (given : List Given) (switch : Switch) :
    Except Stop Unit :=
  match switch, lastValue switch given with
  | .format, some value =>
    if (Format.ofWord? value).isSome then .ok () else .error (.fault scope (.formatUnknown value))
  | .properties, some path => checkFile m path
  | .home, some path => checkPath m path
  | _, _ => .ok ()

/-- The first switch that asks for the version or for the usage ends a command line before values
are checked. -/
def checkQuestion (scope : Scope) : List Given → Except Stop Unit
  | [] => .ok ()
  | ⟨.version, _⟩ :: _ => .error .version
  | ⟨.help, _⟩ :: _ => .error (.help scope)
  | _ :: rest => checkQuestion scope rest

/-- The switches and operands in a scope. -/
def readScope (m : Machine) (scope : Scope) (words : List String) :
    Except Stop (List Given × List String) := do
  let (given, operands) ← (readWords scope words).mapError (.fault scope ·)
  checkQuestion scope given
  given.forM fun g => checkSwitch m scope given g.switch
  return (given, operands)

/-- The only operand. -/
def oneOperand (verb : Verb) (name : String) (check : String → Except Stop Unit) :
    List String → Except Stop String
  | [] => .error (.fault (.verb verb) (.operandMissing name))
  | operand :: rest => do
    check operand
    if rest = [] then return operand else throw (.fault (.verb verb) (.operandsLeft rest))

/-- No operand. -/
def noOperand (verb : Verb) (operands : List String) : Except Stop Unit :=
  if operands = [] then .ok () else .error (.fault (.verb verb) (.operandsLeft operands))

/-- What a verb with switches and operands asks for. -/
def readAction (m : Machine) (verb : Verb) (given : List Given) (operands : List String) :
    Except Stop Action :=
  match verb with
  | .current => do
    noOperand verb operands
    return .current
  | .env => do
    noOperand verb operands
    return .env
  | .home => do return .home (← oneOperand verb "PATH" (checkPath m) operands)
  | .exec => do
    return .exec (← oneOperand verb "TOOL" (fun _ => .ok ()) operands) (lastValue .home given)

/-- The format that the switches ask for. -/
def formatOf (given : List Given) : Format :=
  ((lastValue .format given).bind Format.ofWord?).getD .text

/-- The verb that a word is. A wrong word that begins with a dash is read as a switch again, and has
the faults of one. -/
def readVerb (m : Machine) (word : String) (rest : List String) : Except Stop Verb :=
  match Verb.ofWord? word with
  | some verb => .ok verb
  | none => do
    if word.toList.head? = some '-' then
      let _ ← readScope m .program (word :: rest)
    throw (.fault .program (.verbUnknown word))

/-- What a command line asks for. -/
def Invocation.ofWords (m : Machine) (words : List String) : Except Stop Invocation := do
  if words = [] then throw (.fault .program .nothingAsked)
  let (given, operands) ← readScope m .program words
  match operands with
  | [] => throw (.fault .program .verbMissing)
  | word :: rest =>
    let verb ← readVerb m word rest
    let (verbGiven, operands) ← readScope m (.verb verb) rest
    let action ← readAction m verb verbGiven operands
    return {
      propertiesFile := lastValue .properties given
      verbose := given.any (·.switch = .verbose)
      format := formatOf verbGiven
      action := action }

end JavaHome.Command
