import JavaHome.Installation.Basic

/-!
# Archives of an installation

The development archive `tools.jar` and the runtime archive. The development archive of a run-time
environment lies in the development kit around it or, on Windows, in one beside it.
-/

namespace JavaHome

/-- The archive of that name in the library directory under a directory. -/
def Path.library (p : Path) (archive : String) : Path :=
  (p.child "lib").child archive

/-- Whether the last name of a path is `jre` in some letter case. -/
def Path.isJre (p : Path) : Bool :=
  Text.lower p.name = "jre"

/-- The place itself if something is there. -/
def Machine.existing? (m : Machine) (p : Path) : Except Failure (Option Path) :=
  (m.pathExists p).map fun found => if found then some p else none

namespace Context

/-- The development archive of the kit that Windows puts beside a numbered run-time environment:
beside `jre6` lies `jdk1.6.0_20`, after the version. -/
def siblingArchive (c : Context) (m : Machine) (directory : Path) : Except Failure (Option Path) :=
  if c.host.isWindows ∧ Vendor.isNumbered "jre" directory.name then
    let sibling := directory.parent.join (.ofString ("jdk" ++ c.properties.version))
    m.existing? (sibling.library "tools.jar")
  else .ok none

/-- The development archive for a base directory: in its own library directory; if the base is named
`jre`, in that of its parent; and last in that of a sibling. -/
def developmentArchive (c : Context) (m : Machine) (base : Path) :
    Except Failure (Option Path) := do
  if let some archive ← m.existing? (base.library "tools.jar") then
    return some archive
  if base.isJre then
    if let some archive ← m.existing? (base.parent.library "tools.jar") then
      return some archive
    c.siblingArchive m base.parent
  else
    c.siblingArchive m base

end Context

namespace Installation

/-- Where the runtime archive of an installation is expected: Apple keeps all classes in one archive
beside the home directory. -/
def runtimeArchivePath (i : Installation) : Path :=
  match i.vendor with
  | .apple => (i.home.parent.child "Classes").child "classes.jar"
  | _ => i.base.library "rt.jar"

/-- The runtime archive of an installation, if it is there. -/
def runtimeArchive (m : Machine) (i : Installation) : Except Failure (Option Path) :=
  m.existing? i.runtimeArchivePath

/-- The development archive of an installation, if there is one. Apple's runtime archive serves as
one. -/
def toolsArchive (c : Context) (m : Machine) (i : Installation) : Except Failure (Option Path) := do
  match ← c.developmentArchive m i.base, i.vendor with
  | some archive, _ => return some archive
  | none, .apple => i.runtimeArchive m
  | none, _ => return none

end Installation

end JavaHome
