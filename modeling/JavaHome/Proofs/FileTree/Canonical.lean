import Mathlib.Tactic.Lemma
import JavaHome.Machine
import JavaHome.Proofs.FileTree.Lookup

/-!
# Canonical paths of what is there

The canonical form of a path is computed from its text, but where a lookup succeeds the two go the
same way: after each field, the text is the absolute path of the location that the lookup has
reached. The table of links that are being opened never stops the text, for a link inside its own
target would take more links to follow than it does (`Outlasts`).

Hence two absolute spellings of one directory have the same canonical form, which is the only direct
path of that directory (`canonicalize_of_lookup`, `IsDirect.eq_of_lookup`).
-/

namespace JavaHome

lemma Path.up_ofLocation {here : Location} (h : Named here) :
    (Path.ofLocation here).up = Path.ofLocation here.dropLast := by
  unfold Path.up Path.ofLocation
  cases e : here.getLast? with
  | none =>
    rw [List.getLast?_eq_none_iff] at e
    subst e
    rfl
  | some last =>
    dsimp only
    rw [if_neg (h last (List.mem_of_getLast? e)).notUp]
    rfl

/-- Where no name is `..`, none is taken back. -/
lemma Path.lexical_ofLocation {here : Location} (h : Named here) :
    (Path.ofLocation here).lexical = Path.ofLocation here := by
  have hfold : ∀ (taken rest : List String), Named rest →
      rest.foldl Path.lexicalStep taken = taken ++ rest := by
    intro taken rest hrest
    induction rest generalizing taken with
    | nil => rw [List.foldl_nil, List.append_nil]
    | cons name rest ih =>
      rw [List.foldl_cons, ih _ fun other hmem => hrest other (List.mem_cons_of_mem _ hmem),
        Path.lexicalStep, if_neg (hrest name (List.mem_cons_self ..)).notUp, List.append_assoc]
      rfl
  rw [Path.lexical, Path.ofLocation, hfold [] here h, List.nil_append]

namespace FileTree

variable {t : FileTree} {cwd here there mid : Location} {field target : String}
  {fields rest : List String}

/-- Every node can be looked up by its absolute path: the path is short enough, and no null
character stands in it. -/
def Addressable (t : FileTree) : Prop :=
  ∀ here node, t.node? here = some node → Usable (Path.ofLocation here).text

lemma linkAt_of_holds {node : Node} (ht : t.Addressable) (hn : Named here)
    (hold : t.Holds here field node) :
    t.linkAt cwd ((Path.ofLocation here).child field) =
      .ok (match node with | .link target => some target | _ => none) := by
  have hlookup := lookup_ofLocation_snoc cwd hn hold (ht _ _ hold.node?)
  change t.linkAt cwd (Path.ofLocation (here ++ [field])) = _
  rw [linkAt, readLink?, hlookup]
  cases node <;> rfl

lemma targetStart_ofLocation (here : Location) (target : String) :
    targetStart (Path.ofLocation here) target = Path.ofLocation (startOf here target) := by
  unfold targetStart startOf
  split <;> rfl

/-! ## Steps of the text -/

section Steps

variable {p mid : Path} {opened : List Path} {depth : Nat}

/-- How deep links may nest counts only where a link has to be opened. -/
lemma exists_settle_eq_settleFrom (t : FileTree) (cwd : Location) (depth : Nat)
    (opened : List Path) : ∃ expand, settle t cwd depth opened = settleFrom t cwd expand := by
  cases depth with
  | zero => exact ⟨_, rfl⟩
  | succ depth => exact ⟨_, rfl⟩

lemma settle_nil : settle t cwd depth opened p [] = .ok p := by
  obtain ⟨expand, hsettle⟩ := exists_settle_eq_settleFrom t cwd depth opened
  rw [hsettle, settleFrom]

lemma settle_stay (hstep : Path.isStep field = false) :
    settle t cwd depth opened p (field :: rest) = settle t cwd depth opened p rest := by
  obtain ⟨expand, hsettle⟩ := exists_settle_eq_settleFrom t cwd depth opened
  rw [hsettle, settleFrom, if_pos (isStep_eq_false_iff.1 hstep)]

lemma settle_up :
    settle t cwd depth opened p (".." :: rest) = settle t cwd depth opened p.up rest := by
  obtain ⟨expand, hsettle⟩ := exists_settle_eq_settleFrom t cwd depth opened
  rw [hsettle, settleFrom, if_neg (by decide), if_pos rfl]

lemma settleFrom_holds {expand : Path → Path → String → Except Obstacle Path} {node : Node}
    (ht : t.Addressable) (hn : Named here) (hold : t.Holds here field node) :
    settleFrom t cwd expand (Path.ofLocation here) (field :: rest) =
      match node with
      | .link target =>
        match expand (Path.ofLocation (here ++ [field])) (Path.ofLocation here) target with
        | .error e => .error (e.before rest)
        | .ok there => settleFrom t cwd expand there rest
      | _ => settleFrom t cwd expand (Path.ofLocation (here ++ [field])) rest := by
  have hname := hold.isName
  rw [settleFrom, if_neg (by simp [hname.ne_empty, hname.ne_dot]), if_neg hname.notUp,
    linkAt_of_holds ht hn hold]
  cases node <;> rfl

lemma settle_name {node : Node} (ht : t.Addressable) (hn : Named here)
    (hold : t.Holds here field node) (hlink : ∀ target, node ≠ .link target) :
    settle t cwd depth opened (Path.ofLocation here) (field :: rest) =
      settle t cwd depth opened (Path.ofLocation (here ++ [field])) rest := by
  obtain ⟨expand, hsettle⟩ := exists_settle_eq_settleFrom t cwd depth opened
  rw [hsettle, settleFrom_holds ht hn hold]
  cases node with
  | directory entries => rfl
  | file bytes executable => rfl
  | link target => exact absurd rfl (hlink target)

/-- A link that is not open yet gives way to what its target settles to. -/
lemma settle_link (ht : t.Addressable) (hn : Named here)
    (hold : t.Holds here field (.link target))
    (hfresh : Path.ofLocation (here ++ [field]) ∉ opened)
    (hmid : settle t cwd depth (Path.ofLocation (here ++ [field]) :: opened)
      (Path.ofLocation (startOf here target)) (Text.fields '/' target) = .ok mid) :
    settle t cwd (depth + 1) opened (Path.ofLocation here) (field :: rest) =
      settle t cwd (depth + 1) opened mid rest := by
  rw [settle, settleFrom_holds ht hn hold]
  dsimp only
  rw [if_neg hfresh, targetStart_ofLocation, hmid]

end Steps

/-! ## The text follows the lookup -/

/-- The targets of the links that are being opened take at least so many links to follow. -/
def Outlasts (t : FileTree) (opened : List Path) (n : Nat) : Prop :=
  ∀ here field target mid k,
    Path.ofLocation (here ++ [field]) ∈ opened →
    t.Holds here field (.link target) →
    t.Reaches (startOf here target) (Text.fields '/' target) mid k →
    n ≤ k

lemma Outlasts.nil (n : Nat) : t.Outlasts [] n :=
  fun _ _ _ _ _ hmem => absurd hmem List.not_mem_nil

lemma Outlasts.mono {opened : List Path} {k n : Nat} (h : t.Outlasts opened n) (hk : k ≤ n) :
    t.Outlasts opened k :=
  fun here field target mid i hmem hold hreach =>
    Nat.le_trans hk (h here field target mid i hmem hold hreach)

/-- A link outlasts its own target. -/
lemma Outlasts.cons {opened : List Path} {k : Nat} (h : t.Outlasts opened k)
    (hold : t.Holds here field (.link target))
    (htarget : t.Reaches (startOf here target) (Text.fields '/' target) mid k) :
    t.Outlasts (Path.ofLocation (here ++ [field]) :: opened) k := by
  intro here2 field2 target2 mid2 i hmem hold2 hreach
  cases List.mem_cons.1 hmem with
  | inl e =>
    have hsame : here2 = here ∧ field2 = field := by
      simpa [Path.ofLocation] using e
    obtain ⟨rfl, rfl⟩ := hsame
    cases hold.unique hold2
    exact Nat.le_of_eq (htarget.unique hreach).2
  | inr hmem => exact h here2 field2 target2 mid2 i hmem hold2 hreach

/-- Where fields lead to a location, the text settles to the path of that location. -/
lemma Reaches.settles {n : Nat} (ht : t.Addressable) (h : t.Reaches here fields there n)
    (hn : Named here) (depth : Nat) (opened : List Path) (hdepth : n ≤ depth)
    (hopened : t.Outlasts opened n) :
    settle t cwd depth opened (Path.ofLocation here) fields = .ok (Path.ofLocation there) := by
  induction h generalizing depth opened with
  | nil => exact settle_nil
  | stay _ hstep _ ih => rw [settle_stay hstep, ih hn depth opened hdepth hopened]
  | up _ _ ih =>
    rw [settle_up, Path.up_ofLocation hn, ih hn.dropLast depth opened hdepth hopened]
  | name hold hlink _ ih =>
    rw [settle_name ht hn hold hlink, ih (hn.snoc hold.isName) depth opened hdepth hopened]
  | @link here mid there field target fields k n hold htarget _ ihtarget ih =>
    cases depth with
    | zero => omega
    | succ depth =>
      -- Links that are still open take more links than this one has left, so it is none of them.
      have hfresh : Path.ofLocation (here ++ [field]) ∉ opened := by
        intro hmem
        have hk := hopened here field target mid k hmem hold htarget
        omega
      have hmid := ihtarget (hn.startOf target) depth _ (by omega)
        ((hopened.mono (by omega)).cons hold htarget)
      rw [settle_link ht hn hold hfresh hmid]
      exact ih (htarget.named (hn.startOf target)) (depth + 1) opened (by omega)
        (hopened.mono (by omega))

/-- An absolute spelling settles to the path of the location that it leads to. -/
lemma settled_of_lookup {path : String} {place : Place} (ht : t.Addressable)
    (habs : path.toList.head? = some '/') (h : t.lookup cwd true path = .ok place) :
    t.settled cwd (Path.ofString path) = .ok (Path.ofLocation place.location) := by
  obtain ⟨-, -, -, n, hn, hreach⟩ := lookup_eq_ok_iff.1 h
  rw [startOf, if_pos habs] at hreach
  rw [settled, if_pos ((Path.isAbsolute_ofString path).2 habs)]
  exact hreach.filter.settles ht .nil nestingLimit [] (Nat.le_trans hn (by decide)) (.nil n)

/-! ## Direct paths -/

/-- A path from the root without `.`, without `..` and without links on the way. -/
structure IsDirect (t : FileTree) (p : Path) : Prop where
  root : p.anchor = .root
  named : Named p.parts
  noLink : ∀ here, here <+: p.parts → ∀ target, t.node? here ≠ some (.link target)

/-- Names without links among them lead to the location that they spell. -/
lemma Reaches.eq_append {n : Nat} (h : t.Reaches here fields there n) (hn : Named fields)
    (hlink : ∀ below, below <+: fields → ∀ target, t.node? (here ++ below) ≠ some (.link target)) :
    there = here ++ fields := by
  induction h with
  | nil => rw [List.append_nil]
  | stay _ hstep =>
    exact absurd (hstep.symm.trans (hn _ (List.mem_cons_self ..)).step) (by decide)
  | up => exact absurd rfl (hn _ (List.mem_cons_self ..)).notUp
  | @name here there field node fields n hold _ _ ih =>
    have hsnoc : ∀ below, here ++ [field] ++ below = here ++ field :: below := by simp
    rw [ih (fun other hmem => hn other (List.mem_cons_of_mem _ hmem)), hsnoc]
    intro below hbelow target
    rw [hsnoc]
    exact hlink (field :: below) (List.cons_prefix_cons.2 ⟨rfl, hbelow⟩) target
  | @link here mid there field target fields k n hold =>
    exact absurd hold.node? (hlink [field] (by simp) target)

/-- A direct path that leads to a location is the path of that location. -/
lemma IsDirect.eq_of_lookup {p : Path} {place : Place} (h : t.IsDirect p)
    (hlookup : t.lookup cwd true p.text = .ok place) : p = Path.ofLocation place.location := by
  obtain ⟨parts, rfl⟩ : ∃ parts, p = Path.ofLocation parts := by
    obtain ⟨anchor, parts⟩ := p
    cases h.root
    exact ⟨parts, rfl⟩
  have hn : Named parts := h.named
  have hproper := proper_ofLocation hn
  obtain ⟨-, -, -, n, -, hreach⟩ := lookup_eq_ok_iff.1 hlookup
  have hparts := hreach.filter
  rw [startOf_text_absolute hproper rfl, hproper.filter_fields_text] at hparts
  have hloc := hparts.eq_append hn fun below hbelow target => h.noLink below hbelow target
  rw [hloc, List.nil_append]
  rfl

/-- The absolute path of a directory is direct. -/
lemma isDirect_ofLocation (hn : Named here) (h : t.IsDirectoryAt here) :
    t.IsDirect (Path.ofLocation here) where
  root := rfl
  named := hn
  noLink := by
    rintro above ⟨below, rfl⟩ target hnode
    have hdir : t.IsDirectoryAt above := by
      cases below with
      | nil => rwa [List.append_nil] at h
      | cons name below =>
        obtain ⟨entries, h⟩ := h
        exact isDirectoryAt_of_append h
    obtain ⟨entries, hdir⟩ := hdir
    rw [hnode] at hdir
    cases hdir

/-- What an absolute path leads to has a location of names. -/
lemma named_of_lookup {path : String} {place : Place} (habs : path.toList.head? = some '/')
    (h : t.lookup cwd true path = .ok place) : Named place.location := by
  obtain ⟨-, -, -, n, -, hreach⟩ := lookup_eq_ok_iff.1 h
  rw [startOf, if_pos habs] at hreach
  exact hreach.named .nil

end FileTree

/-- The canonical form of an absolute spelling of a directory is the path of its location. -/
theorem Machine.canonicalize_of_lookup {m : Machine} {path : String} {here : Location}
    {entries : List (String × Node)} (ht : m.tree.Addressable)
    (habs : path.toList.head? = some '/')
    (h : m.tree.lookup m.cwd true path = .ok ⟨here, .directory entries⟩) :
    m.canonicalize (Path.ofString path) = .ok (Path.ofLocation here) := by
  have hn := FileTree.named_of_lookup habs h
  obtain ⟨-, -, hnode, -⟩ := FileTree.lookup_eq_ok_iff.1 h
  have hstat := FileTree.stat_eq_ok_of_lookup (FileTree.lookup_ofLocation m.cwd true hn
    (ht _ _ hnode) hnode)
  have habsolute : (Path.ofLocation here).absolute m.cwd = Path.ofLocation here := rfl
  rw [Machine.canonicalize, FileTree.settled_of_lookup ht habs h]
  dsimp only
  rw [habsolute, Path.lexical_ofLocation hn, Machine.canonicalize.finish, hstat]

end JavaHome
