import JavaHome.Proofs.Properties.Load
import JavaHome.Proofs.Yaml.Lines

/-!
# Properties files of plain lines

A properties file of lines with a key and a value each, written as they are, is read as it is
written: values are texts whatever they look like, and the order of the lines does not count
(`load_lines`).
-/

namespace JavaHome.Properties

/-! ## Lines -/

/-- A character beyond ASCII that a text may hold and that is neither a line break nor a byte order
mark, as no letter and no digit is. -/
def isBeyondAscii (c : Char) : Bool :=
  0x7F < c.toNat && Yaml.isAllowed c && !Yaml.isBreak c && c ≠ '\uFEFF'

/-- The letters that keys start with. -/
def isLetter (c : Char) : Bool :=
  c.isAlpha || isBeyondAscii c

/-- The characters of keys. -/
def isKeyChar (c : Char) : Bool :=
  isLetter c || c.isDigit || c ∈ ['_', '.', '-']

/-- The characters that values start with. -/
def isValueStart (c : Char) : Bool :=
  c.isAlphanum || c == '/'

/-- The characters of values, spaces apart. -/
def isValueChar (c : Char) : Bool :=
  c.isAlphanum || c ∈ ['_', '.', '/', '+', '-', '(', ')']

/-- How a line ends. -/
inductive LineEnd where
  | feed
  | returnFeed
  deriving Repr, DecidableEq

/-- The characters that end a line. -/
def LineEnd.chars : LineEnd → List Char
  | feed => ['\n']
  | returnFeed => ['\r', '\n']

/-- A line of a properties file: a key and a value, neither of which needs quotes. -/
structure Line where
  key : String
  value : String
  ending : LineEnd
  key_length : key.toList.length ≤ 1000
  key_start : key.toList.head?.any isLetter = true
  key_chars : key.toList.all isKeyChar = true
  value_start : value.toList.head?.any isValueStart = true
  value_chars : value.toList.all (fun c => isValueChar c || c == ' ') = true
  value_end : value.toList.getLast? ≠ some ' '

/-- A line as it is written. -/
def Line.spell (l : Line) : List Char :=
  l.key.toList ++ ':' :: ' ' :: (l.value.toList ++ l.ending.chars)

/-- What a line says. -/
def Line.pair (l : Line) : String × Yaml.Value :=
  (l.key, .scalar l.value)

/-- A file stands at a path, to which lines were written one after the other. -/
def HoldsLines (m : Machine) (path : String) (lines : List Line) : Prop :=
  ∃ executable, m.tree.stat m.cwd (Path.ofString path).text =
    .ok (.file ((lines.flatMap Line.spell).flatMap String.utf8EncodeChar) executable)

/-! ## Characters -/

variable {c : Char}

lemma toNat_lt_of_isAlphanum (h : c.isAlphanum = true) : c.toNat < 128 := by
  have hranges : c.isAlphanum =
      (decide ('A'.val ≤ c.val ∧ c.val ≤ 'Z'.val) ||
        decide ('a'.val ≤ c.val) && decide (c.val ≤ 'z'.val) || c.isDigit) := rfl
  simp only [hranges, Char.isDigit, Bool.or_eq_true, Bool.and_eq_true, decide_eq_true_eq, ge_iff_le,
    UInt32.le_iff_toNat_le] at h
  change c.val.toNat < 128
  rcases h with (h | h) | h
  · exact Nat.lt_of_le_of_lt h.2 (by decide)
  · exact Nat.lt_of_le_of_lt h.2 (by decide)
  · exact Nat.lt_of_le_of_lt h.2 (by decide)

/-- Keys and values have no characters beyond ASCII but those of a kind. -/
lemma isBeyondAscii_of_not_lt (h : isKeyChar c = true ∨ isValueChar c = true)
    (hc : ¬c.toNat < 128) : isBeyondAscii c = true := by
  have hnum : c.isAlphanum = false := by
    rw [← Bool.not_eq_true]
    exact fun hnum => hc (toNat_lt_of_isAlphanum hnum)
  have hsign : ∀ sign ∈ ['_', '.', '/', '+', '-', '(', ')'], c ≠ sign := by
    rintro sign hmem rfl
    have hall : ['_', '.', '/', '+', '-', '(', ')'].all (·.toNat < 128) = true := by decide
    exact hc (of_decide_eq_true (List.all_eq_true.1 hall c hmem))
  simp only [Char.isAlphanum, Bool.or_eq_false_iff] at hnum
  simp only [List.forall_mem_cons] at hsign
  simpa [isKeyChar, isLetter, isValueChar, Char.isAlphanum, hnum, hsign] using h

/-- The characters of keys and values are ordinary. -/
lemma isOrdinary_of_char (h : isKeyChar c = true ∨ isValueChar c = true) : Yaml.IsOrdinary c := by
  by_cases hc : c.toNat < 128
  · have hall : ∀ n < 128,
        isKeyChar (Char.ofNat n) = true ∨ isValueChar (Char.ofNat n) = true →
          Yaml.isAllowed (Char.ofNat n) = true ∧ Yaml.isGap (Char.ofNat n) = false ∧
            Char.ofNat n ∉ [':', '#', '\uFEFF'] := by
      decide +kernel
    have hchar := hall c.toNat hc
    rw [Char.ofNat_toNat] at hchar
    obtain ⟨hallowed, hgap, hsign⟩ := hchar h
    simp only [List.mem_cons, List.not_mem_nil, or_false, not_or] at hsign
    exact ⟨hallowed, hgap, hsign.1, hsign.2.1, hsign.2.2⟩
  · have hbeyond := isBeyondAscii_of_not_lt h hc
    simp only [isBeyondAscii, Bool.and_eq_true, Bool.not_eq_true', decide_eq_true_eq] at hbeyond
    obtain ⟨⟨⟨-, hallowed⟩, hbreak⟩, hmark⟩ := hbeyond
    have hne : ∀ sign ∈ [' ', '\t', ':', '#'], c ≠ sign := by
      rintro sign hmem rfl
      have hall : [' ', '\t', ':', '#'].all (·.toNat < 128) = true := by decide
      exact hc (of_decide_eq_true (List.all_eq_true.1 hall c hmem))
    simp only [List.forall_mem_cons] at hne
    exact ⟨hallowed, by simp [Yaml.isGap, Yaml.isSpace, hbreak, hne], hne.2.2.1, hne.2.2.2.1,
      hmark⟩

/-- Keys and values start with characters that words start with. -/
lemma isInitial_of_char (h : isLetter c = true ∨ isValueStart c = true) : Yaml.IsInitial c := by
  have hchar : isKeyChar c = true ∨ isValueChar c = true := by
    rcases h with h | h
    · exact .inl (by simp [isKeyChar, h])
    · simp only [isValueStart, Bool.or_eq_true, beq_iff_eq] at h
      rcases h with h | rfl
      · exact .inr (by simp [isValueChar, h])
      · exact .inr (by decide)
  refine ⟨isOrdinary_of_char hchar, ?_⟩
  by_cases hc : c.toNat < 128
  · have hall : ∀ n < 128, isLetter (Char.ofNat n) = true ∨ isValueStart (Char.ofNat n) = true →
        Char.ofNat n ∉ Yaml.signs := by
      decide +kernel
    have hchar := hall c.toNat hc
    rw [Char.ofNat_toNat] at hchar
    exact hchar h
  · have hall : Yaml.signs.all (·.toNat < 128) = true := by decide
    exact fun hmem => hc (of_decide_eq_true (List.all_eq_true.1 hall c hmem))

/-! ## The text of a file -/

lemma exists_cons_of_any_head? {p : Char → Bool} {text : List Char} (h : text.head?.any p = true) :
    ∃ c rest, text = c :: rest ∧ p c = true := by
  cases text with
  | nil => cases h
  | cons c rest => exact ⟨c, rest, rfl, h⟩

lemma Line.exists_key (l : Line) : ∃ c rest, l.key.toList = c :: rest ∧ isLetter c = true :=
  exists_cons_of_any_head? l.key_start

lemma Line.exists_value (l : Line) :
    ∃ c rest, l.value.toList = c :: rest ∧ isValueStart c = true :=
  exists_cons_of_any_head? l.value_start

lemma Line.isKeyChar_of_mem {l : Line} (h : c ∈ l.key.toList) : isKeyChar c = true :=
  List.all_eq_true.1 l.key_chars c h

lemma Line.isValueChar_or_space {l : Line} (h : c ∈ l.value.toList) :
    isValueChar c = true ∨ c = ' ' := by
  simpa using List.all_eq_true.1 l.value_chars c h

/-- A line is a line of a block mapping. -/
def Line.entry (l : Line) : Yaml.Entry where
  key := l.key.toList
  value := l.value.toList
  key_initial := by
    obtain ⟨c, rest, hkey, hc⟩ := l.exists_key
    exact ⟨c, rest, hkey, isInitial_of_char (.inl hc)⟩
  key_ordinary := fun _ hmem => isOrdinary_of_char (.inl (isKeyChar_of_mem hmem))
  key_length := Nat.le_trans l.key_length (by decide)
  value_initial := by
    obtain ⟨c, rest, hvalue, hc⟩ := l.exists_value
    exact ⟨c, rest, hvalue, isInitial_of_char (.inr hc)⟩
  value_phrase := by
    obtain ⟨c, rest, hvalue, hc⟩ := l.exists_value
    exact Yaml.isPhrase_of_forall
      (fun _ hmem => (isValueChar_or_space hmem).imp_left fun h => isOrdinary_of_char (.inr h))
      ⟨c, rest, hvalue, (isInitial_of_char (.inr hc)).toIsOrdinary⟩ l.value_end

lemma Line.pair_entry (l : Line) : l.entry.pair = l.pair := by
  simp [Yaml.Entry.pair, pair, entry]

lemma unifyLineEnds_append {s t : List Char} (h : '\r' ∉ s) :
    Text.unifyLineEnds (s ++ t) = s ++ Text.unifyLineEnds t := by
  induction s with
  | nil => rfl
  | cons c rest ih =>
    have hc : c ≠ '\r' := fun e => h (e ▸ List.mem_cons_self ..)
    have hmore := ih fun hmem => h (List.mem_cons_of_mem _ hmem)
    rw [List.cons_append, List.cons_append, ← hmore, Text.unifyLineEnds]
    · rw [if_neg hc]
    · intro _ e
      exact absurd e hc

/-- A file of lines is read as lines that end with a line feed. -/
lemma unifyLineEnds_spell (lines : List Line) :
    Text.unifyLineEnds (lines.flatMap Line.spell) =
      (lines.map Line.entry).flatMap Yaml.Entry.spell := by
  induction lines with
  | nil => rfl
  | cons l lines ih =>
    have hreturn : '\r' ∉ l.key.toList ++ ':' :: ' ' :: l.value.toList := by
      have hkey : '\r' ∉ l.key.toList := by
        intro hmem
        exact absurd (Line.isKeyChar_of_mem hmem) (by decide)
      have hvalue : '\r' ∉ l.value.toList := by
        intro hmem
        exact absurd (Line.isValueChar_or_space hmem) (by decide)
      simp [hkey, hvalue]
    have hspell : l.spell = (l.key.toList ++ ':' :: ' ' :: l.value.toList) ++ l.ending.chars := by
      simp [Line.spell]
    have hend : ∀ rest, Text.unifyLineEnds (l.ending.chars ++ rest) =
        '\n' :: Text.unifyLineEnds rest := by
      intro rest
      cases l.ending <;> rfl
    rw [List.flatMap_cons, hspell, List.append_assoc, unifyLineEnds_append hreturn, hend, ih]
    simp [Yaml.Entry.spell, Line.entry]

/-! ## Loading -/

variable {m : Machine} {path : String} {lines : List Line} {environment : Environment}

/-- A file of lines says what its lines say. -/
lemma says_of_holdsLines (h : HoldsLines m path lines) (hkeys : (lines.map Line.key).Nodup) :
    Says m (some path) (lines.map Line.pair) := by
  obtain ⟨executable, hstat⟩ := h
  have htext : HoldsText m path ((lines.map Line.entry).flatMap Yaml.Entry.spell) :=
    ⟨_, executable, hstat, (unifyLineEnds_spell lines).symm⟩
  have hpairs : (lines.map Line.entry).map Yaml.Entry.pair = lines.map Line.pair := by
    simp [Line.pair_entry]
  have hdifferent : ((lines.map Line.entry).map (·.pair.1)).Nodup := by
    simpa [Line.pair_entry, Line.pair, Function.comp_def] using hkeys
  have hdocument := Yaml.document?_lines (lines.map Line.entry) hdifferent
  rw [hpairs] at hdocument
  -- Lines are one collection, and so any stack is enough.
  have hstack := m.yaml.exhausts_flat _ (Yaml.Stream.countP_lines (lines.map Line.entry))
  cases lines with
  | nil => exact .noDocument htext ⟨hstack, hdocument⟩
  | cons l lines => exact .mapping htext ⟨hstack, hdocument⟩

/-- The value of a key is that of the one pair with this key. -/
lemma lookup_eq_some_iff_mem {document : Document} {key : String} {value : Yaml.Value}
    (h : (document.map Prod.fst).Nodup) :
    document.lookup key = some value ↔ (key, value) ∈ document := by
  induction document with
  | nil => simp
  | cons pair rest ih =>
    obtain ⟨first, other⟩ := pair
    rw [List.map_cons, List.nodup_cons] at h
    by_cases hkey : key = first
    · subst hkey
      have hnew : (key, value) ∉ rest := fun hmem => h.1 (List.mem_map.2 ⟨_, hmem, rfl⟩)
      simp [hnew, eq_comm]
    · have hfirst : (key == first) = false := by simpa using hkey
      rw [List.lookup_cons, hfirst, List.mem_cons, Prod.mk.injEq]
      simp [hkey, ih h.2]

/-- In another order, pairs with different keys give the same values. -/
lemma lookup_eq_of_perm {document other : Document} (h : (document.map Prod.fst).Nodup)
    (hperm : document.Perm other) (key : String) : document.lookup key = other.lookup key := by
  have hother : (other.map Prod.fst).Nodup := (hperm.map Prod.fst).nodup_iff.1 h
  ext value
  rw [lookup_eq_some_iff_mem h, lookup_eq_some_iff_mem hother, hperm.mem_iff]

lemma ofSources_eq_of_perm {document other : Document} (h : (document.map Prod.fst).Nodup)
    (hperm : document.Perm other) :
    ofSources document environment = ofSources other environment := by
  have hvalue : ∀ key variableName, valueOf document environment key variableName =
      valueOf other environment key variableName := by
    intro key variableName
    rw [valueOf, valueOf, lookup_eq_of_perm h hperm]
  simp only [ofSources, hvalue]

lemma value_ofSources {document : Document} {source : Source} (h : source ∈ sources) :
    source.value (ofSources document environment) =
      valueOf document environment source.key source.variableName := by
  simp only [sources, List.mem_cons, List.not_mem_nil, or_false] at h
  rcases h with rfl | rfl | rfl | rfl <;> rfl

lemma map_fst_pair (lines : List Line) :
    (lines.map Line.pair).map Prod.fst = lines.map Line.key := by
  rw [List.map_map]
  rfl

lemma Line.value_ne_empty (l : Line) : l.value ≠ "" := by
  obtain ⟨c, rest, hvalue, -⟩ := l.exists_value
  intro e
  rw [e] at hvalue
  cases hvalue

/-- The key of a line has the line's value. -/
lemma valueOf_line {l : Line} (hkeys : (lines.map Line.key).Nodup) (hmem : l ∈ lines)
    (variableName : String) :
    valueOf (lines.map Line.pair) environment l.key variableName = l.value := by
  have hlookup : (lines.map Line.pair).lookup l.key = some (.scalar l.value) := by
    rw [lookup_eq_some_iff_mem (by rwa [map_fst_pair])]
    exact List.mem_map_of_mem hmem
  exact valueOf_eq_iff.2 (.ofDocument ⟨hlookup, decide_eq_false l.value_ne_empty⟩)

/-- A key without a line has the value of its variable. -/
lemma valueOf_variable {key : String} (hnone : ∀ l ∈ lines, l.key ≠ key) (variableName : String) :
    valueOf (lines.map Line.pair) environment key variableName =
      (environment.lookup variableName).getD "" := by
  have hlookup : (lines.map Line.pair).lookup key = none := by
    rw [List.lookup_eq_none_iff]
    intro pair hmem
    obtain ⟨l, hl, rfl⟩ := List.mem_map.1 hmem
    simpa [Line.pair] using (hnone l hl).symm
  rw [valueOf, hlookup]
  rfl

/-- The properties are loaded that the file and the environment give, and the file is told. -/
lemma load_of_says {document : Document} (h : Says m (some path) document)
    (hhome : (ofSources document environment).home ≠ "") :
    load m (some path) environment =
      ⟨[.propertiesLoaded path], .ok (ofSources document environment)⟩ := by
  have hread : readFile m (.ofString path) = .ok document := by
    rw [← loadDocument_eq_ok_iff, loadDocument_some] at h
    exact h
  have hdocument : loadDocument m (some path) = ⟨[.propertiesLoaded path], .ok document⟩ := by
    unfold loadDocument
    dsimp only
    rw [Traced.ofExcept_bind_ok _ hread]
    rfl
  unfold load
  rw [show chooseFile (some path) environment = some path from rfl, hdocument]
  change Traced.andThen _ _ = _
  simp only [Traced.andThen, if_neg hhome]
  rfl

/-- Each key of a file of lines has exactly the value that is written, whatever it looks like and
wherever the line stands; other properties come from the environment. The order of the lines does
not count, nor how they end. -/
theorem load_lines (hkeys : (lines.map Line.key).Nodup) (hfile : HoldsLines m path lines)
    (hhome : (∀ l ∈ lines, l.key ≠ "java.home") →
      ∃ directory, environment.lookup "JAVA_HOME" = some directory ∧ directory ≠ "") :
    ∃ p, (load m (some path) environment).result = .ok p ∧
      (∀ source ∈ sources,
        (∀ l ∈ lines, l.key = source.key → source.value p = l.value) ∧
        ((∀ l ∈ lines, l.key ≠ source.key) →
          source.value p = (environment.lookup source.variableName).getD "")) ∧
      ∀ {n : Machine} {others : List Line}, (lines.map Line.pair).Perm (others.map Line.pair) →
        HoldsLines n path others →
        load n (some path) environment = load m (some path) environment := by
  have hsays := says_of_holdsLines hfile hkeys
  have hpairs : ((lines.map Line.pair).map Prod.fst).Nodup := by rwa [map_fst_pair]
  have hnamed : (ofSources (lines.map Line.pair) environment).home ≠ "" := by
    change valueOf (lines.map Line.pair) environment "java.home" "JAVA_HOME" ≠ ""
    by_cases hline : ∃ l ∈ lines, l.key = "java.home"
    · obtain ⟨l, hmem, hkey⟩ := hline
      rw [← hkey, valueOf_line hkeys hmem]
      exact l.value_ne_empty
    · have hnone : ∀ l ∈ lines, l.key ≠ "java.home" := fun l hmem hkey => hline ⟨l, hmem, hkey⟩
      obtain ⟨directory, hlookup, hne⟩ := hhome hnone
      rw [valueOf_variable hnone, hlookup]
      exact hne
  have hload := load_of_says hsays hnamed
  refine ⟨ofSources (lines.map Line.pair) environment, by rw [hload], ?_, ?_⟩
  · intro source hsource
    rw [value_ofSources hsource]
    constructor
    · rintro l hmem hkey
      rw [← hkey, valueOf_line hkeys hmem]
    · exact fun hnone => valueOf_variable hnone _
  · intro n others hperm hothers
    have hsame : ofSources (lines.map Line.pair) environment =
        ofSources (others.map Line.pair) environment :=
      ofSources_eq_of_perm hpairs hperm
    have hkeys : (others.map Line.key).Nodup := by
      rw [← map_fst_pair]
      exact (hperm.map Prod.fst).nodup_iff.1 hpairs
    rw [hload, load_of_says (says_of_holdsLines hothers hkeys) (hsame ▸ hnamed), hsame]

/-- A home directory with a blank in its name. -/
def homeLine : Line where
  key := "java.home"
  value := "/opt/my jdk"
  ending := .feed
  key_length := by decide
  key_start := by decide
  key_chars := by decide
  value_start := by decide
  value_chars := by decide
  value_end := by decide

/-- A version that looks like a number. -/
def versionLine : Line where
  key := "java.version"
  value := "1.10"
  ending := .returnFeed
  key_length := by decide
  key_start := by decide
  key_chars := by decide
  value_start := by decide
  value_chars := by decide
  value_end := by decide

/-- A key that no property has, with a value that looks like none at all. -/
def otherLine : Line where
  key := "os-name"
  value := "null"
  ending := .feed
  key_length := by decide
  key_start := by decide
  key_chars := by decide
  value_start := by decide
  value_chars := by decide
  value_end := by decide

/-- Lines that end in both ways. -/
def mixedLines : List Line :=
  [otherLine, versionLine, homeLine]

/-- A machine with a file of lines under its root. -/
def machineOf (lines : List Line) : Machine where
  tree := ⟨[("jvm.yaml", .file ((lines.flatMap Line.spell).flatMap String.utf8EncodeChar) false)]⟩
  cwd := []
  environment := []
  systemName := "Linux"

/-- An environment that names the vendor and nothing else. -/
def vendorOnly : Environment :=
  [("JVMLOCATE_JAVA_VENDOR", "Oracle")]

theorem load_lines_mixedLines :
    (mixedLines.map Line.key).Nodup ∧
      HoldsLines (machineOf mixedLines) "/jvm.yaml" mixedLines ∧
      ((∀ l ∈ mixedLines, l.key ≠ "java.home") →
        ∃ directory, vendorOnly.lookup "JAVA_HOME" = some directory ∧ directory ≠ "") ∧
      (load (machineOf mixedLines) (some "/jvm.yaml") vendorOnly).result =
        .ok ⟨"/opt/my jdk", "Oracle", "1.10", ""⟩ ∧
      load (machineOf [homeLine, otherLine, versionLine]) (some "/jvm.yaml") vendorOnly =
        load (machineOf mixedLines) (some "/jvm.yaml") vendorOnly := by
  have hkeys : (mixedLines.map Line.key).Nodup := by decide
  have hfile : HoldsLines (machineOf mixedLines) "/jvm.yaml" mixedLines := ⟨false, rfl⟩
  have hhome : (∀ l ∈ mixedLines, l.key ≠ "java.home") →
      ∃ directory, vendorOnly.lookup "JAVA_HOME" = some directory ∧ directory ≠ "" :=
    fun hnone => absurd rfl (hnone homeLine (by simp [mixedLines]))
  obtain ⟨p, hload, hsources, horder⟩ := load_lines hkeys hfile hhome
  have hname : p.home = "/opt/my jdk" :=
    (hsources ⟨"java.home", "JAVA_HOME", home⟩ (by simp [sources])).1 homeLine
      (by simp [mixedLines]) rfl
  have hvendor : p.vendor = "Oracle" :=
    (hsources ⟨"java.vm.vendor", "JVMLOCATE_JAVA_VENDOR", vendor⟩ (by simp [sources])).2 (by decide)
  have hversion : p.version = "1.10" :=
    (hsources ⟨"java.version", "JVMLOCATE_JAVA_VERSION", version⟩ (by simp [sources])).1
      versionLine (by simp [mixedLines]) rfl
  have hvmVersion : p.vmVersion = "" :=
    (hsources ⟨"java.vm.version", "JVMLOCATE_JAVA_VM_VERSION", vmVersion⟩ (by simp [sources])).2
      (by decide)
  have hp : p = ⟨"/opt/my jdk", "Oracle", "1.10", ""⟩ := by
    rw [← hname, ← hvendor, ← hversion, ← hvmVersion]
  have hperm : (mixedLines.map Line.pair).Perm ([homeLine, otherLine, versionLine].map Line.pair) :=
    (List.perm_append_comm :
      ([otherLine, versionLine] ++ [homeLine]).Perm ([homeLine] ++ [otherLine, versionLine])).map _
  exact ⟨hkeys, hfile, hhome, by rw [hload, hp], horder hperm ⟨false, rfl⟩⟩

end JavaHome.Properties
