import Mathlib.Tactic.Lemma
import JavaHome.Proofs.FileTree.Overlong
import JavaHome.Proofs.Path.Text
import JavaHome.Result

/-!
# Lookups of paths

A lookup as written reaches what its fields reach (`lookup_eq_ok_iff`). So the text of a path
reaches what the names of the path reach, and a path that was read from a text and made absolute
reaches what the text reaches (`lookup_absolute`). The absolute path of a location reaches that
location, through no link (`lookup_ofLocation`).
-/

namespace JavaHome.FileTree

variable {t : FileTree} {cwd here there : Location} {path : String} {node : Node}

/-- A text is short enough to be looked up, and has no null character. -/
structure Usable (path : String) : Prop where
  noNull : '\x00' ∉ path.toList
  short : Text.byteLength path < pathLimit

lemma lookup_eq_walk {followLast : Bool} (h : Usable path) (hne : path ≠ "") :
    t.lookup cwd followLast path =
      walk t followLast linkLimit (startOf cwd path) (Text.fields '/' path) := by
  rw [lookup, if_neg h.noNull, if_neg (Nat.not_le.2 h.short), if_neg hne]

/-- Texts that cannot be looked up reach nothing. -/
lemma usable_of_lookup {followLast : Bool} {place : Place}
    (h : t.lookup cwd followLast path = .ok place) : Usable path ∧ path ≠ "" := by
  unfold lookup at h
  split at h
  · cases h
  · rename_i hnull
    split at h
    · cases h
    · rename_i hlong
      split at h
      · cases h
      · rename_i hne
        exact ⟨⟨hnull, Nat.not_le.1 hlong⟩, hne⟩

/-- A lookup ends where the fields of its path lead to, if they do so through few enough links. -/
lemma lookup_eq_ok_iff {place : Place} :
    t.lookup cwd true path = .ok place ↔
      Usable path ∧ path ≠ "" ∧ t.node? place.location = some place.node ∧
        ∃ n, n ≤ linkLimit ∧
          t.Reaches (startOf cwd path) (Text.fields '/' path) place.location n := by
  constructor
  · intro h
    obtain ⟨hu, hne⟩ := usable_of_lookup h
    rw [lookup_eq_walk hu hne] at h
    cases followed linkLimit (startOf cwd path) [] fun _ hmem => Text.notMem_of_mem_fields hmem with
    | @reaches there n hn hreach =>
      obtain ⟨node, hnode⟩ := hreach.exists_node
      cases (hreach.walk_eq_ok hn hnode).symm.trans h
      exact ⟨hu, hne, hnode, n, hn, hreach⟩
    | fails hfail =>
      rw [List.append_nil] at hfail
      cases hfail.symm.trans h
  · rintro ⟨hu, hne, hnode, n, hn, hreach⟩
    rw [lookup_eq_walk hu hne]
    exact hreach.walk_eq_ok hn hnode

lemma stat_eq_ok_of_lookup {place : Place} (h : t.lookup cwd true path = .ok place) :
    t.stat cwd path = .ok place.node := by
  rw [stat, h]
  rfl

lemma stat_eq_ok_iff {node : Node} :
    t.stat cwd path = .ok node ↔ ∃ here, t.lookup cwd true path = .ok ⟨here, node⟩ := by
  rw [stat, map_eq_ok_iff]
  constructor
  · rintro ⟨place, hlookup, rfl⟩
    exact ⟨place.location, hlookup⟩
  · rintro ⟨here, hlookup⟩
    exact ⟨_, hlookup, rfl⟩

/-- A lookup is known by the location at which it ends. -/
lemma lookup_of_location {here : Location}
    (h : (t.lookup cwd true path).toOption.map Place.location = some here)
    (hnode : t.node? here = some node) : t.lookup cwd true path = .ok ⟨here, node⟩ := by
  cases hlookup : t.lookup cwd true path with
  | error e =>
    rw [hlookup] at h
    cases h
  | ok place =>
    rw [hlookup] at h
    cases h
    obtain ⟨-, -, hplace, -⟩ := lookup_eq_ok_iff.1 hlookup
    cases hplace.symm.trans hnode
    rfl

/-- A text whose last field is no name leads to directories only. -/
lemma isDirectory_of_getLast? {last : String} {place : Place}
    (hlast : (Text.fields '/' path).getLast? = some last) (hname : ¬IsName last)
    (h : t.lookup cwd true path = .ok place) : place.node.isDirectory = true := by
  obtain ⟨-, -, hnode, n, -, hreach⟩ := lookup_eq_ok_iff.1 h
  obtain ⟨entries, hdir⟩ := hreach.isDirectoryAt hlast hname
  rw [Option.some.inj (hnode.symm.trans hdir)]
  rfl

/-- The text of an absolute path is followed from the root. -/
lemma startOf_text_absolute {p : Path} (hp : p.Proper) (h : p.isAbsolute = true) :
    startOf cwd p.text = [] := by
  rw [startOf, if_pos (hp.head?_text.2 h)]

/-- The text of an absolute path leads where its names lead to from the root. -/
lemma lookup_text {p : Path} {n : Nat} (hp : p.Proper) (habs : p.isAbsolute = true)
    (hu : Usable p.text) (hn : n ≤ linkLimit) (hnode : t.node? there = some node)
    (h : t.Reaches [] p.parts there n) : t.lookup cwd true p.text = .ok ⟨there, node⟩ := by
  obtain ⟨blanks, hblank, hfields⟩ := hp.fields_text
  refine lookup_eq_ok_iff.2 ⟨hu, hp.text_ne_empty, hnode, n, hn, ?_⟩
  rw [startOf_text_absolute hp habs, hfields]
  exact h.blanks (isDirectoryAt_root t) hblank

/-! ## Absolute paths of locations -/

lemma proper_ofLocation (h : Named here) : (Path.ofLocation here).Proper :=
  fun part hmem => ⟨(h part hmem).step, (h part hmem).noSlash⟩

/-- Fields that are no steps lead nowhere else. -/
lemma walk_blanks {followLast : Bool} {blanks rest : List String} (n : Nat)
    (hdir : t.IsDirectoryAt here) (hblank : ∀ field ∈ blanks, Path.isStep field = false) :
    walk t followLast n here (blanks ++ rest) = walk t followLast n here rest := by
  induction blanks with
  | nil => rfl
  | cons field others ih =>
    rw [← ih fun other hmem => hblank other (List.mem_cons_of_mem _ hmem)]
    exact walk_stay n hdir (hblank field (List.mem_cons_self ..))

/-- The fields of the absolute path of a location lead into its directory. -/
lemma walk_fields_ofLocation (followLast : Bool) (below : Location) (n : Nat) (hn : Named here)
    (hdir : t.IsDirectoryAt here) (hp : (Path.ofLocation (here ++ below)).Proper) :
    walk t followLast n [] (Text.fields '/' (Path.ofLocation (here ++ below)).text) =
      walk t followLast n here below := by
  obtain ⟨blanks, hblank, hfields⟩ := hp.fields_text
  rw [hfields, walk_blanks n (isDirectoryAt_root t) hblank]
  exact walk_append_names n hn hdir

/-- The absolute path of a directory leads to it. -/
lemma lookup_ofLocation (cwd : Location) (followLast : Bool) {entries : List (String × Node)}
    (hn : Named here)
    (hu : Usable (Path.ofLocation here).text) (h : t.node? here = some (.directory entries)) :
    t.lookup cwd followLast (Path.ofLocation here).text = .ok ⟨here, .directory entries⟩ := by
  have hp := proper_ofLocation hn
  rw [lookup_eq_walk hu hp.text_ne_empty, startOf_text_absolute hp rfl]
  have hwalk := walk_fields_ofLocation followLast [] linkLimit hn ⟨entries, h⟩
    (by rwa [List.append_nil])
  rw [List.append_nil] at hwalk
  rw [hwalk]
  exact walk_nil linkLimit h

/-- The absolute path of an entry leads to it, even if it is a link, as long as links at the end are
not followed. -/
lemma lookup_ofLocation_snoc (cwd : Location) {name : String} (hn : Named here)
    (h : t.Holds here name node)
    (hu : Usable (Path.ofLocation (here ++ [name])).text) :
    t.lookup cwd false (Path.ofLocation (here ++ [name])).text = .ok ⟨here ++ [name], node⟩ := by
  have hp := proper_ofLocation (hn.snoc h.isName)
  rw [lookup_eq_walk hu hp.text_ne_empty, startOf_text_absolute hp rfl,
    walk_fields_ofLocation false [name] linkLimit hn h.isDirectoryAt hp]
  by_cases hlink : ∃ target, node = .link target
  · obtain ⟨target, rfl⟩ := hlink
    exact walk_last_link linkLimit h
  · rw [walk_name linkLimit h fun target e => hlink ⟨target, e⟩]
    exact walk_nil linkLimit h.node?

/-! ## Texts made absolute -/

/-- A directory that a program can stand in: its names are names, without null characters. -/
structure IsWorkingDirectory (t : FileTree) (cwd : Location) : Prop where
  named : Named cwd
  noNull : ∀ name ∈ cwd, '\x00' ∉ name.toList
  isDirectory : t.IsDirectoryAt cwd

/-- No null character comes into a path when it is read from a text and made absolute. -/
lemma noNull_absolute (hcwd : ∀ name ∈ cwd, '\x00' ∉ name.toList) (h : '\x00' ∉ path.toList) :
    '\x00' ∉ ((Path.ofString path).absolute cwd).text.toList := by
  intro hnull
  have hpart : ∀ part ∈ (Path.ofString path).parts, '\x00' ∉ part.toList := by
    intro part hmem hc
    exact h (Text.mem_of_mem_fields (List.mem_filter.1 hmem).1 hc)
  rcases Path.mem_text hnull with hc | hc | ⟨part, hmem, hc⟩
  · exact absurd hc (by decide)
  · exact absurd hc (by decide)
  · unfold Path.absolute Path.join at hmem
    split at hmem
    · exact hpart part hmem hc
    · rcases List.mem_append.1 hmem with hmem | hmem
      · exact hcwd part hmem hc
      · exact hpart part hmem hc

/-- What a text leads to from the current directory, the path that was read from it and made
absolute leads to as well. -/
lemma lookup_absolute {place : Place} (hcwd : t.IsWorkingDirectory cwd)
    (h : t.lookup cwd true path = .ok place)
    (hshort : Text.byteLength ((Path.ofString path).absolute cwd).text < pathLimit) :
    t.lookup cwd true ((Path.ofString path).absolute cwd).text = .ok place := by
  obtain ⟨hu, -, hnode, n, hn, hreach⟩ := lookup_eq_ok_iff.1 h
  have hreach := hreach.filter
  have hproper : ((Path.ofString path).absolute cwd).Proper :=
    (proper_ofLocation hcwd.named).join (Path.proper_ofString path)
  have husable : Usable ((Path.ofString path).absolute cwd).text :=
    ⟨noNull_absolute hcwd.noNull hu.noNull, hshort⟩
  by_cases habs : path.toList.head? = some '/'
  · have hpath : (Path.ofString path).absolute cwd = Path.ofString path := by
      rw [Path.absolute, Path.join, if_pos ((Path.isAbsolute_ofString path).2 habs)]
    rw [startOf, if_pos habs] at hreach
    rw [hpath] at hproper husable ⊢
    exact lookup_text hproper ((Path.isAbsolute_ofString path).2 habs) husable hn hnode hreach
  · have hrel : ¬(Path.ofString path).isAbsolute = true :=
      fun e => habs ((Path.isAbsolute_ofString path).1 e)
    have hpath : (Path.ofString path).absolute cwd =
        ⟨.root, cwd ++ (Path.ofString path).parts⟩ := by
      rw [Path.absolute, Path.join, if_neg hrel]
      rfl
    rw [startOf, if_neg habs] at hreach
    rw [hpath] at hproper husable ⊢
    exact lookup_text hproper rfl husable hn hnode
      (.append_names hcwd.named hcwd.isDirectory hreach)

/-! ## Relative paths made absolute -/

/-- A relative path has no longer text than its absolute form. -/
lemma byteLength_text_le {p : Path} (cwd : Location) (hrel : p.anchor = .relative) :
    Text.byteLength p.text ≤ Text.byteLength (p.absolute cwd).text := by
  obtain ⟨anchor, parts⟩ := p
  cases hrel
  change _ ≤ Text.byteLength (Path.ofLocation (cwd ++ parts)).text
  have htext : (Path.ofLocation (cwd ++ parts)).text = "/" ++ "/".intercalate (cwd ++ parts) := rfl
  rw [htext, Text.byteLength_append]
  by_cases hparts : parts = []
  · subst hparts
    exact Nat.le_add_right 1 _
  · have hself : (Path.mk .relative parts).text = "/".intercalate parts := by
      simp [Path.text, hparts, Anchor.text]
    rw [hself]
    by_cases hcwd : cwd = []
    · subst hcwd
      exact Nat.le_add_left ..
    · rw [String.intercalate_append_of_ne_nil hcwd hparts, Text.byteLength_append]
      omega

/-- The text of a relative path leads where that of its absolute form leads, or fails for the same
reason, unless the absolute one is too long as a whole. -/
lemma lookup_relative {followLast : Bool} {p : Path} (hcwd : t.IsWorkingDirectory cwd)
    (hp : p.Proper) (hrel : p.anchor = .relative)
    (hshort : '\x00' ∉ (p.absolute cwd).text.toList →
      Text.byteLength (p.absolute cwd).text < pathLimit) :
    t.lookup cwd followLast p.text = t.lookup cwd followLast (p.absolute cwd).text := by
  have hlength := byteLength_text_le cwd hrel
  obtain ⟨anchor, parts⟩ := p
  cases hrel
  change _ = t.lookup cwd followLast (Path.ofLocation (cwd ++ parts)).text
  change _ ≤ Text.byteLength (Path.ofLocation (cwd ++ parts)).text at hlength
  change _ → Text.byteLength (Path.ofLocation (cwd ++ parts)).text < _ at hshort
  have hproper : (Path.ofLocation (cwd ++ parts)).Proper :=
    (proper_ofLocation hcwd.named).join hp
  by_cases hnull : ∃ part ∈ parts, '\x00' ∈ part.toList
  · obtain ⟨part, hmem, hnull⟩ := hnull
    rw [lookup, lookup, if_pos (Path.mem_text_of_part (p := ⟨.relative, parts⟩) hmem hnull),
      if_pos (Path.mem_text_of_part (List.mem_append_right cwd hmem) hnull)]
  · have hnone : ∀ q : Path, (∀ part ∈ q.parts, part ∈ cwd ∨ part ∈ parts) →
        '\x00' ∉ q.text.toList := by
      intro q hparts hmem
      rcases Path.mem_text hmem with hc | hc | ⟨part, hpart, hc⟩
      · cases hc
      · cases hc
      · rcases hparts part hpart with hpart | hpart
        · exact hcwd.noNull part hpart hc
        · exact hnull ⟨part, hpart, hc⟩
    have hstart : startOf cwd (Path.mk .relative parts).text = cwd := by
      rw [startOf, if_neg]
      rw [hp.head?_text]
      intro h
      cases h
    obtain ⟨blanks, hblank, hfields⟩ := hp.fields_text
    have habsolute := hnone (.ofLocation (cwd ++ parts)) fun _ => List.mem_append.1
    have hshort := hshort habsolute
    rw [lookup_eq_walk ⟨hnone _ fun _ => .inr, Nat.lt_of_le_of_lt hlength hshort⟩
        hp.text_ne_empty, hstart, hfields, walk_blanks linkLimit hcwd.isDirectory hblank,
      lookup_eq_walk ⟨habsolute, hshort⟩ hproper.text_ne_empty,
      startOf_text_absolute hproper rfl,
      walk_fields_ofLocation followLast parts linkLimit hcwd.named hcwd.isDirectory hproper]

end JavaHome.FileTree
