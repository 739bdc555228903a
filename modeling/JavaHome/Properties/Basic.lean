/-!
# Properties of a Java virtual machine

What a Java virtual machine reports about itself, and what its version says about the language it
runs.
-/

namespace JavaHome

/-- The reported home directory, vendor, version, and version of the machine proper. The home may be
a run-time environment inside a development kit. -/
structure Properties where
  home : String
  vendor : String
  version : String
  vmVersion : String
  deriving Repr, DecidableEq

namespace Properties

/-- The first three characters of the version, such as `1.6`. -/
def shortVersion (p : Properties) : String :=
  String.ofList (p.version.toList.take 3)

/-- Whether the version begins with the given text. -/
def versionBegins (p : Properties) (start : String) : Bool :=
  start.toList.isPrefixOf p.version.toList

/-- Whether this is Java 5. -/
def isJava5 (p : Properties) : Bool := p.versionBegins "1.5"

/-- Whether this is Java 6. -/
def isJava6 (p : Properties) : Bool := p.versionBegins "1.6"

/-- Whether this is Java 7. -/
def isJava7 (p : Properties) : Bool := p.versionBegins "1.7"

/-- Whether programs for Java 7 run. -/
def runsJava7 (p : Properties) : Bool := p.isJava7

/-- Whether programs for Java 6 run. -/
def runsJava6 (p : Properties) : Bool := p.isJava6 || p.runsJava7

/-- Whether programs for Java 5 run. -/
def runsJava5 (p : Properties) : Bool := p.isJava5 || p.runsJava6

end Properties

end JavaHome
