import JavaHome.Properties.Error
import JavaHome.Text.Digit

/-!
# Failures of discovery

Every way in which discovery ends without an answer. Some are reported to whoever asked; the others
come from the file system or from a path that cannot be named, and are not expected.
-/

namespace JavaHome

/-- Why discovery ended without an answer: a supplied home is no directory, a supplied home lacks a
tool, or the properties cannot be had; and, unexpectedly, a path that is too long to be looked up, a
link loop, links nested too deeply, a path without a last name where one is needed, a null character
in a path, an escape in a properties file that names no code point, digits that are read as no
number, or a properties file whose document takes more than there is of the interpreter's stack. -/
inductive Failure where
  | invalidHome (supplied : Option String)
  | missingTool (tool : String) (location : Path)
  | properties (error : Properties.Error)
  | nameTooLong (path : String)
  | linkLoop (path : Path)
  | linksTooDeep
  | nameless (path : Path)
  | embeddedNull
  | codePointTooLarge (code : Nat)
  | numeralTooLong (digits : Nat)
  | notNumeral (text : String)
  | stackExhausted
  deriving Repr, DecidableEq

namespace Failure

/-- Whether a failure is an answer to a bad question, and reported as such. -/
def isReported : Failure → Bool
  | invalidHome _ => true
  | missingTool _ _ => true
  | properties _ => true
  | _ => false

/-- The wording of a failure. -/
def message : Failure → String
  | invalidHome supplied =>
    "Supplied javaHome must be a valid directory. You supplied: " ++ supplied.getD "None"
  | missingTool tool location =>
    "The supplied javaHome seems to be invalid. I cannot find the " ++ tool
      ++ " executable. Tried location: " ++ location.text
  | properties error => error.message
  | nameTooLong path =>
    systemMessage LookupError.nameTooLong.number LookupError.nameTooLong.words path
  | linkLoop path => "Symlink loop from " ++ Text.quoted path.text
  | linksTooDeep => "maximum recursion depth exceeded"
  | nameless path => "PosixPath(" ++ Text.quoted path.text ++ ") has an empty name"
  | embeddedNull => "embedded null byte"
  | codePointTooLarge code =>
    if code < 0x80000000 then "chr() arg not in range(0x110000)"
    else "Python int too large to convert to C int"
  | numeralTooLong digits =>
    s!"Exceeds the limit ({Text.numeralLimit} digits) for integer string conversion: value has "
      ++ s!"{digits} digits; use sys.set_int_max_str_digits() to increase the limit"
  | notNumeral text =>
    "invalid literal for int() with base 10: "
      ++ String.ofList ((Text.quoted text).toList.take 200)
  | stackExhausted => "maximum recursion depth exceeded"

end Failure

end JavaHome
