import JavaHome.Event
import JavaHome.Machine
import JavaHome.Installation.Basic
import JavaHome.Text.Lines
import JavaHome.Yaml.Value

/-!
# Loading properties

Properties come from a YAML file and from environment variables. The file is the one asked for, else
the one that the environment names; what the file leaves out or leaves empty is taken from the
environment.
-/

namespace JavaHome.Properties

/-- The variable that names the properties file. -/
def fileVariable : String := "JVMLOCATE_PROPERTIES"

/-- A document that a file holds: the pairs of a mapping. -/
abbrev Document := List (String × Yaml.Value)

/-- The characters of a file. -/
def readText (m : Machine) (path : Path) : Except Failure (List Char) :=
  match m.tree.stat m.cwd path.text with
  | .error .embeddedNull => .error .embeddedNull
  | .error cause => .error (.properties (.unopened path cause))
  | .ok (.directory _) => .error (.properties (.directory path))
  | .ok (.link _) => .error (.properties (.unopened path .tooManyLinks))
  | .ok (.file bytes _) =>
    match Text.Utf8.decode bytes with
    | .ok text => .ok (Text.unifyLineEnds text)
    | .error fault => .error (.properties (.undecodable path fault))

/-- The mapping that a text of a file holds. No document is an empty one. -/
def parse (m : Machine) (path : Path) (text : List Char) : Except Failure Document :=
  if m.yaml.exhausts text then .error .stackExhausted
  else
    match Yaml.document? text with
    | .error .malformed => .error (.properties (.malformed path (m.yaml.complaint text)))
    | .error (.codePoint code) => .error (.codePointTooLarge code)
    | .error (.tooManyDigits count) => .error (.numeralTooLong count)
    | .ok none => .ok []
    | .ok (some (.mapping pairs)) => .ok pairs
    | .ok (some (.sequence _)) => .error (.properties (.notMapping path .sequence))
    | .ok (some (.scalar _)) => .error (.properties (.notMapping path .scalar))

/-- The mapping that a file holds. -/
def readFile (m : Machine) (path : Path) : Except Failure Document := do
  parse m path (← readText m path)

/-- The file to read: the one asked for, else the one that the environment names. -/
def chooseFile (file : Option String) (environment : Environment) : Option String :=
  match file with
  | some path => some path
  | none => (environment.lookup fileVariable).filter (· ≠ "")

/-- A property: the text under a key of the document unless that is empty, else the value of a
variable, else the empty text. -/
def valueOf (document : Document) (environment : Environment) (key variableName : String) :
    String :=
  match (document.lookup key).filter (!·.isEmpty) with
  | some value => value.text
  | none => (environment.lookup variableName).getD ""

/-- The properties that a document and an environment give together. -/
def ofSources (document : Document) (environment : Environment) : Properties where
  home := valueOf document environment "java.home" "JAVA_HOME"
  vendor := valueOf document environment "java.vm.vendor" "JVMLOCATE_JAVA_VENDOR"
  version := valueOf document environment "java.version" "JVMLOCATE_JAVA_VERSION"
  vmVersion := valueOf document environment "java.vm.version" "JVMLOCATE_JAVA_VM_VERSION"

/-- The document of the chosen file; without a file an empty one. -/
def loadDocument (m : Machine) : Option String → Traced Document
  | none => return []
  | some file => do
    let document ← .ofExcept (readFile m (.ofString file))
    .tell (.propertiesLoaded file)
    return document

/-- The properties that a file and an environment give. A home directory must be among them. -/
def load (m : Machine) (file : Option String) (environment : Environment) : Traced Properties := do
  let document ← loadDocument m (chooseFile file environment)
  let properties := ofSources document environment
  if properties.home = "" then .fail (.properties .noHome) else return properties

end JavaHome.Properties

namespace JavaHome

/-- The context of a machine, with the properties that a file or the environment gives. -/
def Context.ofMachine (m : Machine) (file : Option String) : Traced Context := do
  return ⟨.ofMachine m, ← Properties.load m file m.environment⟩

end JavaHome
