import JavaHome.Host
import JavaHome.Properties.Basic
import JavaHome.Vendor

/-!
# Installations

A Java installation as it was found or supplied, and the context in which it is looked at.
-/

namespace JavaHome

/-- What discovery goes by: the host, and the properties of the current Java virtual machine. -/
structure Context where
  host : Host
  properties : Properties
  deriving Repr, DecidableEq

/-- An installation: the directory that was reported or supplied, the home directory that follows
from it, the vendor, and whether somebody supplied the directory. -/
structure Installation where
  base : Path
  home : Path
  vendor : Vendor
  userSupplied : Bool
  deriving Repr, DecidableEq

/-- The vendor that the context names. -/
def Context.vendor (c : Context) : Vendor :=
  .ofName c.properties.vendor

/-- An installation in words. -/
def Installation.describe (c : Context) (i : Installation) : String :=
  if i.userSupplied then "User-supplied java: " ++ i.base.text
  else c.properties.version ++ " (" ++ c.properties.vendor ++ " " ++ c.properties.vmVersion ++ ")"

end JavaHome
