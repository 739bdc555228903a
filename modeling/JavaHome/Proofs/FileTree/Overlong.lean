import Mathlib.Tactic.Lemma
import JavaHome.Proofs.FileTree.Reach

/-!
# Names that are too long

The one failure of a lookup that is not taken for an answer. `Overruns t here fields n` says that
following fields leads, through `n` links, into a directory that is asked for a name which is too
long for it; the name may be one of the fields or stand in the target of a link on the way. One
induction says what comes of fields: they lead somewhere, or the lookup fails in them, and for a
name that is too long only where they overrun (`followed`). So a lookup fails in this way if and
only if the whole path is too long or the fields overrun (`lookup_eq_nameTooLong_iff`).
-/

namespace JavaHome.FileTree

variable {t : FileTree} {cwd here there mid : Location} {field : String} {fields rest : List String}

/-- Following fields from a location, through a number of links, leads into a directory that is
asked for a name which is too long. -/
inductive Overruns (t : FileTree) : Location → List String → Nat → Prop where
  | long {here field others} :
    t.IsDirectoryAt here →
    nameLimit < Text.byteLength field →
    Overruns t here (field :: others) 0
  | within {here field target rest n} :
    t.Holds here field (.link target) →
    Overruns t (startOf here target) (Text.fields '/' target) n →
    Overruns t here (field :: rest) (n + 1)
  | beyond {here mid field rest k n} :
    t.Reaches here [field] mid k →
    Overruns t mid rest n →
    Overruns t here (field :: rest) (n + k)

/-- A text is too long to be looked up: as a whole, or because of a name that is met on the way. -/
def Overlong (t : FileTree) (cwd : Location) (path : String) : Prop :=
  '\x00' ∉ path.toList ∧
    (pathLimit ≤ Text.byteLength path ∨
      ∃ n, n ≤ linkLimit ∧ t.Overruns (startOf cwd path) (Text.fields '/' path) n)

/-! ## What comes of fields -/

/-- Fields that overrun make every lookup through them fail that has the links for it. -/
lemma Overruns.walk_append {k : Nat} (h : t.Overruns here fields k) (n : Nat) :
    walk t true (n + k) here (fields ++ rest) = .error .nameTooLong := by
  -- The links that are left over go through with the induction, since a link spends its own.
  induction h generalizing n rest with
  | long hdir hlong => exact walk_long _ hdir hlong
  | within hold _ ih =>
    rw [← Nat.add_assoc, List.cons_append, walk_link _ hold]
    exact ih n
  | @beyond here mid field fields k i hreach _ ih =>
    have hfirst : walk t true (n + i + k) here ([field] ++ (fields ++ rest)) = _ :=
      hreach.walk_append (n + i)
    rw [List.singleton_append, ih n] at hfirst
    rw [← Nat.add_assoc]
    exact hfirst

/-- What comes of the first fields of a lookup with a number of links: they lead somewhere, or the
lookup fails in them. -/
inductive Followed (t : FileTree) (n : Nat) (here : Location) (fields rest : List String) :
    Prop where
  | reaches {there k} :
    k ≤ n →
    t.Reaches here fields there k →
    Followed t n here fields rest
  | fails {e} :
    walk t true n here (fields ++ rest) = .error e →
    (e = .nameTooLong → ∃ k, k ≤ n ∧ t.Overruns here fields k) →
    Followed t n here fields rest

/-- Once the first field leads on, the other ones decide. -/
lemma Followed.cons {k n : Nat} (hk : k ≤ n) (hfirst : t.Reaches here [field] mid k)
    (h : Followed t (n - k) mid fields rest) : Followed t n here (field :: fields) rest := by
  cases h with
  | reaches hi hreach => exact .reaches (by omega) (hfirst.append hreach)
  | @fails e hfail hover =>
    have hwalk : walk t true (n - k + k) here ([field] ++ (fields ++ rest)) = .error e :=
      (hfirst.walk_append (n - k)).trans hfail
    rw [Nat.sub_add_cancel hk] at hwalk
    refine .fails hwalk fun hlong => ?_
    obtain ⟨i, hi, hover⟩ := hover hlong
    exact ⟨i + k, by omega, .beyond hfirst hover⟩

/-- The first fields of a lookup lead somewhere, or it fails in them; for a name that is too long
only where they overrun. -/
lemma followed (n : Nat) (here : Location) (rest : List String)
    (hslash : ∀ field ∈ fields, '/' ∉ field.toList) : Followed t n here fields rest := by
  -- The target of a link may be longer than what is left of the fields, so the links that are left
  -- come first.
  induction n using Nat.strongRecOn generalizing here fields rest with
  | ind n ihlinks =>
    induction fields generalizing here with
    | nil =>
      cases hnode : t.node? here with
      | none => exact .fails (walk_missing n hnode) nofun
      | some node => exact .reaches (Nat.zero_le n) (.nil hnode)
    | cons field fields ih =>
      have hrest : ∀ other ∈ fields, '/' ∉ other.toList :=
        fun other hmem => hslash other (List.mem_cons_of_mem _ hmem)
      rcases walk_cases n (fields ++ rest) (hslash field (List.mem_cons_self ..))
        with ⟨e, hfail, hne⟩ | ⟨hdir, hcase⟩
      · exact .fails hfail fun hlong => absurd hlong hne
      · rcases hcase with hstep | rfl | hlong | ⟨node, hold⟩
        · obtain ⟨entries, hnode⟩ := hdir
          exact .cons (Nat.zero_le n) (.stay ⟨entries, hnode⟩ hstep (.nil hnode)) (ih here hrest)
        · obtain ⟨above, habove⟩ := hdir.dropLast
          exact .cons (Nat.zero_le n) (.up hdir (.nil habove)) (ih here.dropLast hrest)
        · exact .fails (walk_long n hdir hlong) fun _ => ⟨0, Nat.zero_le n, .long hdir hlong⟩
        · by_cases hlink : ∃ target, node = .link target
          · obtain ⟨target, rfl⟩ := hlink
            cases n with
            | zero => exact .fails (walk_link_zero hold) nofun
            | succ n =>
              -- First through the target of the link, then on with what it left of the links.
              cases ihlinks n (Nat.lt_succ_self n) (startOf here target) (fields ++ rest)
                fun _ hmem => Text.notMem_of_mem_fields hmem with
              | @reaches mid k hk htarget =>
                obtain ⟨node, hnode⟩ := htarget.exists_node
                refine .cons (Nat.succ_le_succ hk) (.link hold htarget (.nil hnode)) ?_
                rw [Nat.add_zero, Nat.add_sub_add_right]
                exact ihlinks (n - k) (by omega) mid rest hrest
              | fails hfail hover =>
                refine .fails ((walk_link n hold).trans hfail) fun hlong => ?_
                obtain ⟨k, hk, hover⟩ := hover hlong
                exact ⟨k + 1, Nat.succ_le_succ hk, .within hold hover⟩
          · have hnode : ∀ target, node ≠ .link target := fun target e => hlink ⟨target, e⟩
            exact .cons (Nat.zero_le n) (.name hold hnode (.nil hold.node?)) (ih _ hrest)

/-! ## Lookups that overrun -/

/-- The empty text names nothing that is too long. -/
lemma not_overruns_empty {n : Nat} : ¬t.Overruns here (Text.fields '/' "") n := by
  intro h
  have hfields : Text.fields '/' "" = [""] := rfl
  rw [hfields] at h
  cases h with
  | long _ hlong => exact absurd hlong (by decide)
  | within hold => exact hold.isName.ne_empty rfl
  | beyond _ hrest => cases hrest

/-- A lookup fails for a name that is too long if and only if the text is too long. -/
theorem lookup_eq_nameTooLong_iff {path : String} :
    t.lookup cwd true path = .error .nameTooLong ↔ t.Overlong cwd path := by
  have hslash : ∀ field ∈ Text.fields '/' path, '/' ∉ field.toList :=
    fun _ hmem => Text.notMem_of_mem_fields hmem
  constructor
  · intro h
    unfold lookup at h
    split at h
    · cases h
    · rename_i hnull
      refine ⟨hnull, ?_⟩
      split at h
      · rename_i hlong
        exact .inl hlong
      · split at h
        · cases h
        · cases followed linkLimit (startOf cwd path) [] hslash with
          | @reaches there k hk hreach =>
            obtain ⟨node, hnode⟩ := hreach.exists_node
            cases (hreach.walk_eq_ok hk hnode).symm.trans h
          | fails hfail hover =>
            rw [List.append_nil] at hfail
            exact .inr (hover (Except.error.inj (hfail.symm.trans h)))
  · rintro ⟨hnull, hlong | ⟨n, hn, hover⟩⟩
    · rw [lookup, if_neg hnull, if_pos hlong]
    · by_cases hlong : pathLimit ≤ Text.byteLength path
      · rw [lookup, if_neg hnull, if_pos hlong]
      · have hne : path ≠ "" := by
          rintro rfl
          exact not_overruns_empty hover
        rw [lookup, if_neg hnull, if_neg hlong, if_neg hne,
          ← List.append_nil (Text.fields '/' path), ← Nat.sub_add_cancel hn]
        exact hover.walk_append (linkLimit - n)

end JavaHome.FileTree
