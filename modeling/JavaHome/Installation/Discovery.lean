import JavaHome.Installation.Archive
import JavaHome.Installation.Executable
import JavaHome.Text.Blank

/-!
# Discovery of installations

The home directory behind a reported base directory, and installations from the context or from a
directory that somebody supplies.
-/

namespace JavaHome

namespace Context

/-- The home directory for a base directory. It is the directory whose library directory holds the
development archive. Without an archive, a base named `jre` gives way to its parent if that holds
`bin/java`. -/
def findHome (c : Context) (m : Machine) (base : Path) : Traced Path := do
  match ← .ofExcept (c.developmentArchive m base) with
  | some archive =>
    let home := archive.parent.parent
    .tell (.archiveFound archive home)
    return home
  | none =>
    if base.isJre then
      if ← .ofExcept (m.pathExists ((base.parent.child "bin").child "java")) then
        .tell (.embeddedRuntime base)
        return base.parent
      else return base
    else return base

/-- The installation that the context reports. -/
def current (c : Context) (m : Machine) : Traced Installation := do
  let base ← .ofExcept (m.canonicalize (.ofString c.properties.home))
  let home ← c.findHome m base
  return ⟨base, home, c.vendor, false⟩

/-- The installation in a supplied directory, which must exist. -/
def supplied (c : Context) (m : Machine) (directory : String) : Except Failure Installation := do
  let path := Path.ofString directory
  if Text.isBlankText directory then
    throw (.invalidHome (some directory))
  if ← m.isDirectory path then
    return ⟨path, path, c.vendor, true⟩
  else
    throw (.invalidHome (some directory))

/-- The installation in a supplied directory, or the one that the context reports. -/
def resolve (c : Context) (m : Machine) : Option String → Traced Installation
  | none => c.current m
  | some directory => .ofExcept (c.supplied m directory)

/-- The installation in a supplied directory, which must hold the `java` executable. -/
def forHome (c : Context) (m : Machine) : Option String → Traced Installation
  | none => .fail (.invalidHome none)
  | some directory => do
    let installation ← .ofExcept (c.supplied m directory)
    let _ ← installation.executable c m "java"
    return installation

end Context

end JavaHome
