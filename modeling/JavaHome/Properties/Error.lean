import JavaHome.FileTree.Lookup
import JavaHome.Text.Quoted
import JavaHome.Text.Utf8

/-!
# Faults of a properties file

Each way in which properties cannot be had, and its wording.
-/

namespace JavaHome

namespace LookupError

/-- The system's number for a failed lookup. -/
def number : LookupError → Nat
  | missing => 2
  | notDirectory => 20
  | nameTooLong => 36
  | tooManyLinks => 40
  | embeddedNull => 22

/-- The system's words for a failed lookup. -/
def words : LookupError → String
  | missing => "No such file or directory"
  | notDirectory => "Not a directory"
  | nameTooLong => "File name too long"
  | tooManyLinks => "Too many levels of symbolic links"
  | embeddedNull => "Invalid argument"

end LookupError

/-- A failure of the system: its number, its words, and the path in question between quotes. -/
def systemMessage (number : Nat) (words path : String) : String :=
  s!"[Errno {number}] " ++ words ++ ": " ++ Text.quoted path

/-- The kind of a document that is no mapping. -/
inductive DocumentKind where
  | sequence
  | scalar
  deriving Repr, DecidableEq

/-- The word for a kind of document. -/
def DocumentKind.word : DocumentKind → String
  | sequence => "list"
  | scalar => "str"

namespace Properties

/-- Why properties cannot be had: a file that cannot be opened, that is a directory, that is not
UTF-8, that is malformed, or that holds no mapping; or a home directory given nowhere. -/
inductive Error where
  | unopened (path : Path) (cause : LookupError)
  | directory (path : Path)
  | undecodable (path : Path) (fault : Text.Utf8.Fault)
  | malformed (path : Path) (complaint : String)
  | notMapping (path : Path) (kind : DocumentKind)
  | noHome
  deriving Repr, DecidableEq

namespace Error

/-- The wording of a fault that kept a file from being read. -/
def cannotRead (path : Path) (why : String) : String :=
  "Cannot read properties file " ++ path.text ++ ": " ++ why

/-- The wording of a fault. What is wrong with a malformed file is told in the words of its
reader. -/
def message : Error → String
  | unopened path cause => cannotRead path (systemMessage cause.number cause.words path.text)
  | directory path => cannotRead path (systemMessage 21 "Is a directory" path.text)
  | undecodable path fault => cannotRead path fault.message
  | malformed path complaint => "Malformed properties file " ++ path.text ++ ": " ++ complaint
  | notMapping path kind =>
    "Properties file " ++ path.text ++ " must contain a mapping, got " ++ kind.word
  | noHome => "No java.home available: set JAVA_HOME or supply a properties file"

end Error

end Properties

end JavaHome
