import JavaHome.Installation.Archive
import JavaHome.Installation.Executable
import JavaHome.Json.Basic

/-!
# Summaries

What is told about an installation and about an executable.
-/

namespace JavaHome

/-- What is told about an installation. -/
structure Summary where
  description : String
  base : Path
  home : Path
  vendor : Vendor
  userSupplied : Bool
  java : Executable
  toolsArchive : Option Path
  runtimeArchive : Option Path
  supportsAppleScript : Bool
  deriving Repr, DecidableEq

/-- The summary of an installation whose `java` executable is known. -/
def Installation.summarize (c : Context) (m : Machine) (i : Installation) (java : Executable) :
    Except Failure Summary := do
  let toolsArchive ← i.toolsArchive c m
  let runtimeArchive ← i.runtimeArchive m
  return {
    description := i.describe c
    base := i.base
    home := i.home
    vendor := i.vendor
    userSupplied := i.userSupplied
    java := java
    toolsArchive := toolsArchive
    runtimeArchive := runtimeArchive
    supportsAppleScript := i.vendor.supportsAppleScript }

/-- An executable as a report tells it. -/
def Executable.toJson (e : Executable) : Json :=
  .object [
    ("tool", .string e.tool),
    ("path", .string e.path.text),
    ("source", .string e.source.word),
    ("resolved", .bool e.isResolved)]

/-- A summary as a report tells it. -/
def Summary.toJson (s : Summary) : Json :=
  .object [
    ("description", .string s.description),
    ("base", .string s.base.text),
    ("home", .string s.home.text),
    ("vendor", .string s.vendor.word),
    ("user_supplied", .bool s.userSupplied),
    ("java_executable", s.java.toJson),
    ("tools_jar", .ofOption (s.toolsArchive.map Path.text)),
    ("runtime_jar", .ofOption (s.runtimeArchive.map Path.text)),
    ("supports_apple_script", .bool s.supportsAppleScript)]

end JavaHome
