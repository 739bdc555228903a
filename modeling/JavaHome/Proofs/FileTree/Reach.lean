import Mathlib.Tactic.Lemma
import JavaHome.FileTree.Lookup
import JavaHome.Proofs.Text.Fields

/-!
# What lookups reach

A lookup follows the fields of a path through a budget of links. `Reaches t here fields there n`
says without a budget where fields lead to, and counts the links on the way. The rule for a link has
two parts, the way through its target and the way on from there; the lookup joins the fields of
both. There is one lemma for each step of a lookup, with any budget, and a lookup runs along a
derivation step by step (`Reaches.walk_append`).
-/

namespace JavaHome

/-- A name that a directory can be asked for. -/
structure IsName (name : String) : Prop where
  step : Path.isStep name = true
  notUp : name ≠ ".."
  noSlash : '/' ∉ name.toList
  short : Text.byteLength name ≤ FileTree.nameLimit

instance (name : String) : Decidable (IsName name) :=
  decidable_of_iff (Path.isStep name = true ∧ name ≠ ".." ∧ '/' ∉ name.toList ∧
      Text.byteLength name ≤ FileTree.nameLimit)
    ⟨fun ⟨hstep, hup, hslash, hshort⟩ => ⟨hstep, hup, hslash, hshort⟩,
      fun ⟨hstep, hup, hslash, hshort⟩ => ⟨hstep, hup, hslash, hshort⟩⟩

lemma IsName.ne_empty {name : String} (h : IsName name) : name ≠ "" := by
  have hstep := h.step
  simp only [Path.isStep, Bool.and_eq_true, decide_eq_true_eq] at hstep
  exact hstep.1

lemma IsName.ne_dot {name : String} (h : IsName name) : name ≠ "." := by
  have hstep := h.step
  simp only [Path.isStep, Bool.and_eq_true, decide_eq_true_eq] at hstep
  exact hstep.2

/-- Fields that are no steps are empty or a dot. -/
lemma isStep_eq_false_iff {field : String} :
    Path.isStep field = false ↔ field = "" ∨ field = "." := by
  simp only [Path.isStep, Bool.and_eq_false_iff, decide_eq_false_iff_not, Decidable.not_not]

/-- A location all of whose names are names. -/
def Named (here : Location) : Prop :=
  ∀ name ∈ here, IsName name

instance (here : Location) : Decidable (Named here) :=
  inferInstanceAs (Decidable (∀ name ∈ here, IsName name))

lemma Named.nil : Named [] :=
  fun _ h => absurd h List.not_mem_nil

lemma Named.append {here below : Location} (h1 : Named here) (h2 : Named below) :
    Named (here ++ below) := by
  intro name hmem
  cases List.mem_append.1 hmem with
  | inl hmem => exact h1 name hmem
  | inr hmem => exact h2 name hmem

lemma Named.snoc {here : Location} {name : String} (h1 : Named here) (h2 : IsName name) :
    Named (here ++ [name]) := by
  apply h1.append
  intro other hmem
  cases List.mem_singleton.1 hmem
  exact h2

lemma Named.dropLast {here : Location} (h : Named here) : Named here.dropLast :=
  fun name hmem => h name (List.dropLast_subset here hmem)

lemma Named.startOf {here : Location} (h : Named here) (path : String) :
    Named (FileTree.startOf here path) := by
  unfold FileTree.startOf
  split
  · exact .nil
  · exact h

lemma Node.at?_append (node : Node) (here below : Location) :
    node.at? (here ++ below) = (node.at? here).bind (·.at? below) := by
  induction here generalizing node with
  | nil => rfl
  | cons name rest ih =>
    cases node with
    | directory entries =>
      rw [List.cons_append, Node.at?, Node.at?]
      cases entries.lookup name with
      | none => rfl
      | some node => exact ih node
    | file bytes executable => rfl
    | link target => rfl

namespace FileTree

variable {t : FileTree} {here there mid : Location} {field : String} {fields rest : List String}

/-- A directory stands at a location. -/
def IsDirectoryAt (t : FileTree) (here : Location) : Prop :=
  ∃ entries, t.node? here = some (.directory entries)

/-- The directory at a location holds a node under a name. -/
structure Holds (t : FileTree) (here : Location) (name : String) (node : Node) : Prop where
  isName : IsName name
  entry : ∃ entries, t.node? here = some (.directory entries) ∧ entries.lookup name = some node

lemma isDirectoryAt_root (t : FileTree) : t.IsDirectoryAt [] :=
  ⟨t.entries, rfl⟩

lemma node?_snoc {entries : List (String × Node)} (h : t.node? here = some (.directory entries))
    (name : String) : t.node? (here ++ [name]) = entries.lookup name := by
  unfold node? at *
  rw [Node.at?_append, h, Option.bind_some, Node.at?]
  cases entries.lookup name <;> rfl

lemma Holds.node? {name : String} {node : Node} (h : t.Holds here name node) :
    t.node? (here ++ [name]) = some node := by
  obtain ⟨entries, hdir, hentry⟩ := h.entry
  rw [node?_snoc hdir, hentry]

lemma Holds.isDirectoryAt {name : String} {node : Node} (h : t.Holds here name node) :
    t.IsDirectoryAt here := by
  obtain ⟨entries, hdir, _⟩ := h.entry
  exact ⟨entries, hdir⟩

/-- What stands under a name is determined. -/
lemma Holds.unique {name : String} {node other : Node} (h1 : t.Holds here name node)
    (h2 : t.Holds here name other) : node = other := by
  have e := h1.node?.symm.trans h2.node?
  cases e
  rfl

/-- A directory stands at the start of every location that something stands at. -/
lemma isDirectoryAt_of_append {node : Node} {name : String} {below : Location}
    (h : t.node? (here ++ name :: below) = some node) : t.IsDirectoryAt here := by
  unfold FileTree.node? at h
  rw [Node.at?_append] at h
  cases e : t.root.at? here with
  | none => simp [e] at h
  | some found =>
    rw [e, Option.bind_some] at h
    cases found with
    | directory entries => exact ⟨entries, e⟩
    | file bytes executable => simp [Node.at?] at h
    | link target => simp [Node.at?] at h

/-- On the way to a directory, each directory holds the next one. -/
lemma exists_holds_of_isDirectoryAt {name : String} {below : Location} (hname : IsName name)
    (h : t.IsDirectoryAt (here ++ name :: below)) :
    ∃ entries, t.Holds here name (.directory entries) := by
  have hnext : t.IsDirectoryAt (here ++ [name]) := by
    cases below with
    | nil => exact h
    | cons other below =>
      obtain ⟨entries, h⟩ := h
      rw [← List.singleton_append, ← List.append_assoc] at h
      exact isDirectoryAt_of_append h
  obtain ⟨sub, hsub⟩ := hnext
  obtain ⟨entries, hhere⟩ := isDirectoryAt_of_append hsub
  exact ⟨sub, hname, entries, hhere, (node?_snoc hhere name).symm.trans hsub⟩

/-- Following fields from a location leads to another one, through a number of links. -/
inductive Reaches (t : FileTree) : Location → List String → Location → Nat → Prop where
  | nil {here node} :
    t.node? here = some node →
    Reaches t here [] here 0
  | stay {here there field rest n} :
    t.IsDirectoryAt here →
    Path.isStep field = false →
    Reaches t here rest there n →
    Reaches t here (field :: rest) there n
  | up {here there rest n} :
    t.IsDirectoryAt here →
    Reaches t here.dropLast rest there n →
    Reaches t here (".." :: rest) there n
  | name {here there field node rest n} :
    t.Holds here field node →
    (∀ target, node ≠ .link target) →
    Reaches t (here ++ [field]) rest there n →
    Reaches t here (field :: rest) there n
  | link {here mid there field target rest k n} :
    t.Holds here field (.link target) →
    Reaches t (startOf here target) (Text.fields '/' target) mid k →
    Reaches t mid rest there n →
    Reaches t here (field :: rest) there (k + 1 + n)

/-- What is reached is there. -/
lemma Reaches.exists_node {n : Nat} (h : t.Reaches here fields there n) :
    ∃ node, t.node? there = some node := by
  induction h with
  | nil hnode => exact ⟨_, hnode⟩
  | stay _ _ _ ih => exact ih
  | up _ _ ih => exact ih
  | name _ _ _ ih => exact ih
  | link _ _ _ _ ih => exact ih

/-- Around a directory there is a directory. -/
lemma IsDirectoryAt.dropLast (h : t.IsDirectoryAt here) : t.IsDirectoryAt here.dropLast := by
  rcases List.eq_nil_or_concat here with rfl | ⟨front, last, rfl⟩
  · exact h
  · obtain ⟨entries, h⟩ := h
    rw [List.concat_eq_append] at h ⊢
    rw [List.dropLast_concat]
    exact isDirectoryAt_of_append h

/-- Fields whose last one is no name lead to a directory. -/
lemma Reaches.isDirectoryAt {n : Nat} {last : String} (h : t.Reaches here fields there n)
    (hlast : fields.getLast? = some last) (hname : ¬IsName last) : t.IsDirectoryAt there := by
  have hend : ∀ {field : String} {fields : List String}, (field :: fields).getLast? = some last →
      IsName field → fields.getLast? = some last := by
    intro field fields hlast hfield
    cases fields with
    | nil =>
      cases hlast
      exact absurd hfield hname
    | cons next rest => rwa [List.getLast?_cons_cons] at hlast
  induction h with
  | nil => cases hlast
  | stay hdir _ hrest ih =>
    cases hrest with
    | nil => exact hdir
    | _ => exact ih (by rwa [List.getLast?_cons_cons] at hlast)
  | up hdir hrest ih =>
    cases hrest with
    | nil => exact hdir.dropLast
    | _ => exact ih (by rwa [List.getLast?_cons_cons] at hlast)
  | name hold _ _ ih => exact ih (hend hlast hold.isName)
  | link hold _ _ _ ih => exact ih (hend hlast hold.isName)

/-- From names, names are reached. -/
lemma Reaches.named {n : Nat} (h : t.Reaches here fields there n) (hn : Named here) :
    Named there := by
  induction h with
  | nil => exact hn
  | stay _ _ _ ih => exact ih hn
  | up _ _ ih => exact ih hn.dropLast
  | name hold _ _ ih => exact ih (hn.snoc hold.isName)
  | link _ _ _ ihtarget ih => exact ih (ihtarget (hn.startOf _))

/-- Fields that are no steps do not count. -/
lemma Reaches.filter {n : Nat} (h : t.Reaches here fields there n) :
    t.Reaches here (fields.filter Path.isStep) there n := by
  induction h with
  | nil hnode => exact .nil hnode
  | stay _ hstep _ ih =>
    rw [List.filter_cons_of_neg (by simp [hstep])]
    exact ih
  | up hdir _ ih =>
    rw [List.filter_cons_of_pos (by decide)]
    exact .up hdir ih
  | name hold hlink _ ih =>
    rw [List.filter_cons_of_pos hold.isName.step]
    exact .name hold hlink ih
  | link hold htarget _ _ ih =>
    rw [List.filter_cons_of_pos hold.isName.step]
    exact .link hold htarget ih

/-- Fields that are no steps may stand before others in a directory. -/
lemma Reaches.blanks {n : Nat} {blanks : List String} (hdir : t.IsDirectoryAt here)
    (hblank : ∀ field ∈ blanks, Path.isStep field = false) (h : t.Reaches here fields there n) :
    t.Reaches here (blanks ++ fields) there n := by
  induction blanks with
  | nil => exact h
  | cons field rest ih =>
    exact .stay hdir (hblank field (List.mem_cons_self ..))
      (ih fun other hmem => hblank other (List.mem_cons_of_mem _ hmem))

/-- Names of directories lead to the last one of them, and on from there. -/
lemma Reaches.append_names {below : Location} {n : Nat} (hn : Named below)
    (hdir : t.IsDirectoryAt (here ++ below)) (h : t.Reaches (here ++ below) fields there n) :
    t.Reaches here (below ++ fields) there n := by
  induction below generalizing here with
  | nil => rwa [List.append_nil] at h
  | cons name below ih =>
    obtain ⟨entries, hold⟩ := exists_holds_of_isDirectoryAt (hn name (List.mem_cons_self ..)) hdir
    rw [← List.singleton_append, ← List.append_assoc] at hdir h
    exact .name hold nofun (ih (fun other hmem => hn other (List.mem_cons_of_mem _ hmem)) hdir h)

/-- Where fields lead to, and through how many links, is determined. -/
lemma Reaches.unique {other : Location} {n k : Nat} (h1 : t.Reaches here fields there n)
    (h2 : t.Reaches here fields other k) : there = other ∧ n = k := by
  induction h1 generalizing other k with
  | nil =>
    cases h2 with
    | nil => exact ⟨rfl, rfl⟩
  | stay _ hstep _ ih =>
    cases h2 with
    | stay _ _ h2 => exact ih h2
    | up => exact absurd hstep (by decide)
    | name hold => exact absurd (hstep.symm.trans hold.isName.step) (by decide)
    | link hold => exact absurd (hstep.symm.trans hold.isName.step) (by decide)
  | up _ _ ih =>
    cases h2 with
    | stay _ hstep => exact absurd hstep (by decide)
    | up _ h2 => exact ih h2
    | name hold => exact absurd rfl hold.isName.notUp
    | link hold => exact absurd rfl hold.isName.notUp
  | name hold hlink _ ih =>
    cases h2 with
    | stay _ hstep => exact absurd (hstep.symm.trans hold.isName.step) (by decide)
    | up => exact absurd rfl hold.isName.notUp
    | name _ _ h2 => exact ih h2
    | link hold2 => exact absurd (hold.unique hold2) (hlink _)
  | link hold _ _ ihtarget ih =>
    cases h2 with
    | stay _ hstep => exact absurd (hstep.symm.trans hold.isName.step) (by decide)
    | up => exact absurd rfl hold.isName.notUp
    | name hold2 hlink => exact absurd (hold2.unique hold) (hlink _)
    | link hold2 htarget2 h2 =>
      cases hold.unique hold2
      obtain ⟨rfl, rfl⟩ := ihtarget htarget2
      obtain ⟨rfl, rfl⟩ := ih h2
      exact ⟨rfl, rfl⟩

/-- Where something is followed on from is a directory. -/
lemma Reaches.isDirectoryAt_start {n : Nat} (h : t.Reaches here (field :: rest) there n) :
    t.IsDirectoryAt here := by
  cases h with
  | stay hdir => exact hdir
  | up hdir => exact hdir
  | name hold => exact hold.isDirectoryAt
  | link hold => exact hold.isDirectoryAt

lemma Reaches.append {k n : Nat} (h1 : t.Reaches here fields mid k)
    (h2 : t.Reaches mid rest there n) : t.Reaches here (fields ++ rest) there (k + n) := by
  induction h1 with
  | nil => rwa [Nat.zero_add]
  | stay hdir hstep _ ih => exact .stay hdir hstep (ih h2)
  | up hdir _ ih => exact .up hdir (ih h2)
  | name hold hlink _ ih => exact .name hold hlink (ih h2)
  | link hold htarget _ _ ih =>
    rw [List.cons_append, Nat.add_assoc]
    exact .link hold htarget (ih h2)

/-! ## Steps of a lookup -/

section Steps

variable {followLast : Bool}

/-- The budget of a lookup counts only where a link has to be followed. -/
lemma exists_walk_eq_stroll (t : FileTree) (followLast : Bool) (n : Nat) :
    ∃ expand, walk t followLast n = stroll t followLast expand := by
  cases n with
  | zero => exact ⟨_, rfl⟩
  | succ n => exact ⟨_, rfl⟩

lemma walk_missing (n : Nat) (h : t.node? here = none) :
    walk t followLast n here fields = .error .missing := by
  obtain ⟨expand, hwalk⟩ := exists_walk_eq_stroll t followLast n
  rw [hwalk]
  cases fields <;> simp only [stroll, h]

lemma walk_nil {node : Node} (n : Nat) (h : t.node? here = some node) :
    walk t followLast n here [] = .ok ⟨here, node⟩ := by
  obtain ⟨expand, hwalk⟩ := exists_walk_eq_stroll t followLast n
  rw [hwalk]
  simp only [stroll, h]

lemma walk_stay (n : Nat) (hdir : t.IsDirectoryAt here) (hstep : Path.isStep field = false) :
    walk t followLast n here (field :: rest) = walk t followLast n here rest := by
  obtain ⟨expand, hwalk⟩ := exists_walk_eq_stroll t followLast n
  obtain ⟨entries, hdir⟩ := hdir
  rw [hwalk]
  simp only [stroll, hdir, isStep_eq_false_iff.1 hstep, if_true]

lemma walk_up (n : Nat) (hdir : t.IsDirectoryAt here) :
    walk t followLast n here (".." :: rest) = walk t followLast n here.dropLast rest := by
  obtain ⟨expand, hwalk⟩ := exists_walk_eq_stroll t followLast n
  obtain ⟨entries, hdir⟩ := hdir
  rw [hwalk]
  simp [stroll, hdir]

/-- A directory is not asked for names that are too long. -/
lemma walk_long (n : Nat) (hdir : t.IsDirectoryAt here)
    (hlong : nameLimit < Text.byteLength field) :
    walk t followLast n here (field :: rest) = .error .nameTooLong := by
  obtain ⟨expand, hwalk⟩ := exists_walk_eq_stroll t followLast n
  obtain ⟨entries, hdir⟩ := hdir
  -- The fields that are dealt with before the length is, are short.
  have hne : ∀ short, Text.byteLength short ≤ nameLimit → field ≠ short := by
    rintro short hshort rfl
    exact absurd hlong (Nat.not_lt.2 hshort)
  have hblank : ¬(field = "" ∨ field = ".") := by
    rintro (h | h)
    · exact hne "" (by decide) h
    · exact hne "." (by decide) h
  rw [hwalk]
  simp only [stroll, hdir, if_neg hblank, if_neg (hne ".." (by decide)), if_pos hlong]

lemma stroll_holds {expand : Location → List String → Except LookupError Place} {node : Node}
    (hold : t.Holds here field node) :
    stroll t followLast expand here (field :: rest) =
      match node with
      | .link target =>
        if rest = [] ∧ ¬followLast then .ok ⟨here ++ [field], .link target⟩
        else expand (startOf here target) (Text.fields '/' target ++ rest)
      | _ => stroll t followLast expand (here ++ [field]) rest := by
  obtain ⟨entries, hdir, hentry⟩ := hold.entry
  have hname := hold.isName
  rw [stroll]
  simp only [hdir, hname.ne_empty, hname.ne_dot, hname.notUp, hentry, or_self, if_false,
    Nat.not_lt.2 hname.short]
  cases node <;> rfl

lemma walk_name {node : Node} (n : Nat) (hold : t.Holds here field node)
    (hlink : ∀ target, node ≠ .link target) :
    walk t followLast n here (field :: rest) = walk t followLast n (here ++ [field]) rest := by
  obtain ⟨expand, hwalk⟩ := exists_walk_eq_stroll t followLast n
  rw [hwalk, stroll_holds hold]
  cases node with
  | directory entries => rfl
  | file bytes executable => rfl
  | link target => exact absurd rfl (hlink target)

/-- A link costs one of the links that may be followed. -/
lemma walk_link {target : String} (n : Nat) (hold : t.Holds here field (.link target)) :
    walk t true (n + 1) here (field :: rest) =
      walk t true n (startOf here target) (Text.fields '/' target ++ rest) := by
  rw [walk, stroll_holds hold]
  simp only [not_true_eq_false, and_false, if_false]

lemma walk_link_zero {target : String} (hold : t.Holds here field (.link target)) :
    walk t true 0 here (field :: rest) = .error .tooManyLinks := by
  rw [walk, stroll_holds hold]
  simp only [not_true_eq_false, and_false, if_false]

/-- A link that comes last is found itself if it is not to be followed. -/
lemma walk_last_link {target : String} (n : Nat) (hold : t.Holds here field (.link target)) :
    walk t false n here [field] = .ok ⟨here ++ [field], .link target⟩ := by
  obtain ⟨expand, hwalk⟩ := exists_walk_eq_stroll t false n
  rw [hwalk, stroll_holds hold]
  exact if_pos ⟨rfl, Bool.false_ne_true⟩

/-- A lookup that goes on has found a directory, and in it the field if that is a name. -/
lemma walk_cases (n : Nat) (rest : List String) (hslash : '/' ∉ field.toList) :
    (∃ e, walk t followLast n here (field :: rest) = .error e ∧ e ≠ .nameTooLong) ∨
      t.IsDirectoryAt here ∧
        (Path.isStep field = false ∨ field = ".." ∨ nameLimit < Text.byteLength field ∨
          ∃ node, t.Holds here field node) := by
  obtain ⟨expand, hwalk⟩ := exists_walk_eq_stroll t followLast n
  rw [hwalk, stroll]
  cases hnode : t.node? here with
  | none => exact .inl ⟨.missing, rfl, nofun⟩
  | some node =>
    cases node with
    | file bytes executable => exact .inl ⟨.notDirectory, rfl, nofun⟩
    | link target => exact .inl ⟨.notDirectory, rfl, nofun⟩
    | directory entries =>
      have hdir : t.IsDirectoryAt here := ⟨entries, hnode⟩
      by_cases hstep : Path.isStep field = false
      · exact .inr ⟨hdir, .inl hstep⟩
      · by_cases hup : field = ".."
        · exact .inr ⟨hdir, .inr (.inl hup)⟩
        · by_cases hlong : nameLimit < Text.byteLength field
          · exact .inr ⟨hdir, .inr (.inr (.inl hlong))⟩
          · have hname : IsName field :=
              ⟨by simpa using hstep, hup, hslash, Nat.not_lt.1 hlong⟩
            cases hentry : entries.lookup field with
            | none =>
              refine .inl ⟨.missing, ?_, nofun⟩
              simp only [hname.ne_empty, hname.ne_dot, or_self, if_false, hup, hlong, hentry]
            | some node =>
              exact .inr ⟨hdir, .inr (.inr (.inr ⟨node, hname, entries, hnode, hentry⟩))⟩

/-- Lookups take the names of directories one after the other. -/
lemma walk_append_names {below : Location} (n : Nat) (hn : Named below)
    (hdir : t.IsDirectoryAt (here ++ below)) :
    walk t followLast n here (below ++ rest) = walk t followLast n (here ++ below) rest := by
  induction below generalizing here with
  | nil => rw [List.nil_append, List.append_nil]
  | cons name below ih =>
    obtain ⟨entries, hold⟩ := exists_holds_of_isDirectoryAt (hn name (List.mem_cons_self ..)) hdir
    rw [← List.singleton_append, ← List.append_assoc] at hdir ⊢
    rw [List.singleton_append, List.cons_append, walk_name n hold nofun]
    exact ih (fun other hmem => hn other (List.mem_cons_of_mem _ hmem)) hdir

end Steps

/-- A lookup goes where its first fields lead to, and has so many links less from there. -/
lemma Reaches.walk_append {k : Nat} (h : t.Reaches here fields there k) (n : Nat) :
    walk t true (n + k) here (fields ++ rest) = walk t true n there rest := by
  induction h generalizing n rest with
  | nil => rfl
  | stay hdir hstep _ ih => rw [List.cons_append, walk_stay _ hdir hstep, ih]
  | up hdir _ ih => rw [List.cons_append, walk_up _ hdir, ih]
  | name hold hlink _ ih => rw [List.cons_append, walk_name _ hold hlink, ih]
  | @link here mid there field target fields i j hold _ _ ihtarget ih =>
    rw [show n + (i + 1 + j) = (n + j + i) + 1 from by omega, List.cons_append, walk_link _ hold,
      ihtarget, ih]

/-- A lookup ends where its fields lead to, if it has the links for it. -/
lemma Reaches.walk_eq_ok {k n : Nat} {node : Node} (h : t.Reaches here fields there k)
    (hk : k ≤ n) (hnode : t.node? there = some node) :
    walk t true n here fields = .ok ⟨there, node⟩ := by
  rw [← List.append_nil fields, ← Nat.sub_add_cancel hk, h.walk_append]
  exact walk_nil _ hnode

end FileTree

end JavaHome
