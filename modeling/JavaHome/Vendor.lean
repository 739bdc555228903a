import JavaHome.Text.Digit
import JavaHome.Text.LowerCase

/-!
# Vendors

Vendors whose Java virtual machines are laid out, or launched, in a way of their own.
-/

namespace JavaHome

/-- The vendors that are told apart. -/
inductive Vendor where
  | generic
  | apple
  | ibm
  deriving Repr, DecidableEq

namespace Vendor

/-- The vendor that a reported name begins with, in any letter case. -/
def ofName (name : String) : Vendor :=
  let lowered := Text.lowerCase name.toList
  if "apple inc.".toList.isPrefixOf lowered then .apple
  else if "ibm corporation".toList.isPrefixOf lowered then .ibm
  else .generic

/-- The vendor for a name that may not be reported at all: then it is as if it were empty. -/
def ofReported (name : Option String) : Vendor :=
  ofName (name.getD "")

/-- The word for a vendor. -/
def word : Vendor → String
  | generic => "generic"
  | apple => "apple"
  | ibm => "ibm"

/-- Whether AppleScript can be run from Java. -/
def supportsAppleScript : Vendor → Bool
  | apple => true
  | _ => false

/-- Whether the machine is IBM's. -/
def isIbm : Vendor → Bool
  | ibm => true
  | _ => false

/-- Whether a text is the first one followed by a decimal numeral. -/
def isNumbered (stem : String) (s : String) : Bool :=
  stem.toList.isPrefixOf s.toList && Text.isNumeral (s.toList.drop stem.toList.length)

/-- Whether a variable is one that the launcher of macOS sets for one process: `APP_NAME_` or
`JAVA_MAIN_CLASS_`, and a number. -/
def isLauncherVariable (name : String) : Bool :=
  isNumbered "APP_NAME_" name || isNumbered "JAVA_MAIN_CLASS_" name

/-- Whether a child process inherits a variable. -/
def inherits : Vendor → String → Bool
  | apple, name => !isLauncherVariable name
  | _, _ => true

/-- The variables that a child process inherits, with their values. -/
def inheritable {α : Type} (v : Vendor) (entries : List (String × α)) : List (String × α) :=
  entries.filter (v.inherits ·.1)

end Vendor

end JavaHome
