import JavaHome.Installation.Summary
import JavaHome.Json.Printer
import JavaHome.Terminal.Markup
import JavaHome.Terminal.Table

/-!
# Output

What the program finds, as a report and as text for a terminal. Summaries are tables, whose texts
may hold markup; executables are wrapped and variables are not.
-/

namespace JavaHome.Command

open Terminal (Table)

/-- What the program finds: an installation, an executable, or an environment. -/
inductive Finding where
  | installation (summary : Summary)
  | executable (executable : Executable)
  | environment (environment : Environment)
  deriving Repr, DecidableEq

/-- Variables in the order of their names. -/
def sortVariables (environment : Environment) : Environment :=
  environment.mergeSort fun a b => a.1 ≤ b.1

/-- A finding as a report tells it. -/
def Finding.toJson : Finding → Json
  | installation summary => summary.toJson
  | executable e => e.toJson
  | environment entries =>
    .object ((sortVariables entries).map fun (name, value) => (name, .string value))

/-- The texts of a cell: with markup, or as they are. -/
inductive Cell where
  | markup (text : String)
  | literal (text : String)
  deriving Repr, DecidableEq

/-- What stands for a file that is not there. -/
def absent : String := "-"

/-- The cell for a file that may not be there. -/
def Cell.ofPath? : Option Path → Cell
  | some path => markup path.text
  | none => literal absent

/-- The characters of a cell. -/
def Cell.chars : Cell → Except Terminal.Markup.Error (List Char)
  | markup text => Terminal.Markup.plain text.toList
  | literal text => .ok (Terminal.dropControls text.toList)

/-- The rows of the table for a summary. -/
def summaryRows (s : Summary) : List (String × Cell) :=
  [("Base", .markup s.base.text),
    ("Home", .markup s.home.text),
    ("Vendor", .markup s.vendor.word),
    ("User supplied", .markup (if s.userSupplied then "yes" else "no")),
    ("java", .literal (s.java.path.text ++ " (" ++ s.java.source.word ++ ")")),
    ("tools.jar", .ofPath? s.toolsArchive),
    ("Runtime jar", .ofPath? s.runtimeArchive)]

/-- A row of the table. Cells for which a terminal has no room are left empty. -/
def tableRow (hasRoom : Bool) (row : String × Cell) :
    Except Terminal.Markup.Error (List Char × List Char) := do
  return (row.1.toList, ← if hasRoom then row.2.chars else pure [])

/-- The table for a summary in a terminal of some width. -/
def summaryTable (width : Nat) (s : Summary) : Except Terminal.Markup.Error Table := do
  let rows ← (summaryRows s).mapM (tableRow (Table.hasRoom width))
  return ⟨← Terminal.Markup.plain s.description.toList, rows⟩

/-- The text for an executable. -/
def executableText (e : Executable) : String :=
  e.tool ++ ": " ++ e.path.text ++ "  " ++ e.source.word

/-- The line for a variable. -/
def variableText (name value : String) : String :=
  name ++ "=" ++ value

/-- The line for an empty environment. -/
def emptyEnvironment : String := "No environment variables to inherit."

/-- The lines for an environment: one for each variable, however long it is. -/
def environmentLines (width : Nat) (environment : Environment) : List (List Char) :=
  if environment = [] then Terminal.wrap .ragged .fold width emptyEnvironment.toList
  else
    (sortVariables environment).flatMap fun (name, value) =>
      let text := Terminal.Emoji.replace (variableText name value).toList
      Terminal.unwrapped (Terminal.dropControls text)

/-- The lines for a finding in a terminal of some width. -/
def Finding.lines (width : Nat) : Finding → Except Terminal.Markup.Error (List (List Char))
  | installation summary => (summaryTable width summary).map (·.lines width)
  | executable e =>
    .ok (Terminal.wrap .ragged .fold width (Terminal.dropControls (executableText e).toList))
  | environment entries => .ok (environmentLines width entries)

/-- A finding as text for a terminal of some width, without styles. -/
def Finding.text (width : Nat) (finding : Finding) : Except Terminal.Markup.Error String :=
  (finding.lines width).map fun lines => String.ofList (Terminal.printLines lines)

/-- Whether the text for a finding has styles where there are any. Variables have none. -/
def Finding.hasStyles : Finding → Bool
  | environment entries => entries.isEmpty
  | _ => true

/-- The text for a finding with its styles. -/
def Finding.painted (m : Machine) (finding : Finding) (text : String) : String :=
  if finding.hasStyles && Console.isStyled m.environment then m.paint finding.toJson text else text

end JavaHome.Command
