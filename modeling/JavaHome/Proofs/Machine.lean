import Mathlib.Tactic.Lemma
import JavaHome.Proofs.FileTree.Lookup
import JavaHome.Proofs.Host

/-!
# Questions put to a machine

Whether something, a file or a directory is at a path has an answer unless the path is too long to
be looked up; then the failure tells the path (`answer_eq_error_iff`). Links that lead nowhere or
round in a circle, and paths that go on after a file, are answers: nothing is there. Only a path
that is made canonical may fail for its links (`lacksForm_of_canonicalize`).
-/

namespace JavaHome.Machine

variable {m : Machine} {p : Path} {e : Failure} {test : Node → Bool}

/-- A path is too long to be looked up. -/
def Overlong (m : Machine) (p : Path) : Prop :=
  m.tree.Overlong m.cwd p.text

/-- A failure tells of a path that is too long to be looked up. -/
def TellsOverlong (m : Machine) (e : Failure) : Prop :=
  ∃ p, m.Overlong p ∧ e = .nameTooLong p.text

/-- A node that passes a test stands at a path. -/
def Holds (m : Machine) (test : Node → Bool) (p : Path) : Prop :=
  ∃ node, m.tree.stat m.cwd p.text = .ok node ∧ test node = true

/-- A directory stands at a path. -/
def HoldsDirectory (m : Machine) (p : Path) : Prop :=
  m.Holds Node.isDirectory p

/-- Something stands at a path. -/
def HoldsAnything (m : Machine) (p : Path) : Prop :=
  m.Holds (fun _ => true) p

/-- Whether a node that passes a test is at a path. -/
def answer (m : Machine) (test : Node → Bool) (p : Path) : Except Failure Bool :=
  (m.node? p).map fun node => (node.map test).getD false

lemma isFile_eq_answer (p : Path) : m.isFile p = m.answer Node.isFile p := rfl

lemma isDirectory_eq_answer (p : Path) : m.isDirectory p = m.answer Node.isDirectory p := rfl

lemma pathExists_eq_answer (p : Path) : m.pathExists p = m.answer (fun _ => true) p := by
  unfold pathExists answer
  rcases m.node? p with e | (_ | node) <;> rfl

lemma holdsFile_iff : m.HoldsFile p ↔ m.Holds Node.isFile p := by
  constructor
  · rintro ⟨bytes, executable, hstat⟩
    exact ⟨_, hstat, rfl⟩
  · rintro ⟨node, hstat, htest⟩
    cases node with
    | directory entries => cases htest
    | file bytes executable => exact ⟨bytes, executable, hstat⟩
    | link target => cases htest

lemma stat_eq_nameTooLong_iff :
    m.tree.stat m.cwd p.text = .error .nameTooLong ↔ m.Overlong p := by
  unfold Overlong
  rw [← FileTree.lookup_eq_nameTooLong_iff, FileTree.stat, map_eq_error_iff]

/-- The path of a name in a directory is too long if the name is. -/
lemma overlong_of_name {here : Location} {name : String} (hn : Named here)
    (hdir : m.tree.IsDirectoryAt here) (hstep : Path.isStep name = true)
    (hslash : '/' ∉ name.toList) (hnull : ∀ part ∈ here ++ [name], '\x00' ∉ part.toList)
    (hlong : FileTree.nameLimit < Text.byteLength name) :
    m.Overlong (.ofLocation (here ++ [name])) := by
  have hproper : (Path.ofLocation (here ++ [name])).Proper := by
    intro part hmem
    rcases List.mem_append.1 hmem with hmem | hmem
    · exact ⟨(hn part hmem).step, (hn part hmem).noSlash⟩
    · cases List.mem_singleton.1 hmem
      exact ⟨hstep, hslash⟩
  have hnone : '\x00' ∉ (Path.ofLocation (here ++ [name])).text.toList := by
    intro hmem
    rcases Path.mem_text hmem with hc | hc | ⟨part, hpart, hc⟩
    · cases hc
    · cases hc
    · exact hnull part hpart hc
  unfold Overlong
  rw [← FileTree.lookup_eq_nameTooLong_iff]
  -- A path that is too long as a whole does not get as far as the name.
  by_cases hshort : Text.byteLength (Path.ofLocation (here ++ [name])).text < FileTree.pathLimit
  · rw [FileTree.lookup_eq_walk ⟨hnone, hshort⟩ hproper.text_ne_empty,
      FileTree.startOf_text_absolute hproper rfl,
      FileTree.walk_fields_ofLocation true [name] _ hn hdir hproper]
    exact FileTree.walk_long _ hdir hlong
  · rw [FileTree.lookup, if_neg hnone, if_pos (Nat.not_lt.1 hshort)]

/-- What stands at a path can be looked up. -/
lemma Holds.not_overlong (h : m.Holds test p) : ¬m.Overlong p := by
  obtain ⟨node, hstat, -⟩ := h
  intro hlong
  cases hstat.symm.trans (stat_eq_nameTooLong_iff.2 hlong)

/-- The three ways in which a question comes out. -/
lemma answer_cases (m : Machine) (test : Node → Bool) (p : Path) :
    m.answer test p = .ok true ∧ m.Holds test p ∨
      m.answer test p = .ok false ∧ ¬m.Holds test p ∧ ¬m.Overlong p ∨
      m.answer test p = .error (.nameTooLong p.text) ∧ m.Overlong p := by
  unfold answer node?
  rw [← stat_eq_nameTooLong_iff]
  unfold Holds
  cases hstat : m.tree.stat m.cwd p.text with
  | ok node =>
    cases htest : test node with
    | true => exact .inl ⟨by simp [Except.map, htest], node, rfl, htest⟩
    | false =>
      refine .inr (.inl ⟨by simp [Except.map, htest], ?_, nofun⟩)
      rintro ⟨other, hother, hpass⟩
      cases hother
      cases htest.symm.trans hpass
  | error cause =>
    -- All failures but one are taken for an answer.
    have hnone : ¬∃ node, (Except.error cause : Except LookupError Node) = .ok node ∧
        test node = true := fun ⟨_, h, _⟩ => nomatch h
    cases cause with
    | nameTooLong => exact .inr (.inr ⟨rfl, rfl⟩)
    | missing => exact .inr (.inl ⟨rfl, hnone, nofun⟩)
    | notDirectory => exact .inr (.inl ⟨rfl, hnone, nofun⟩)
    | tooManyLinks => exact .inr (.inl ⟨rfl, hnone, nofun⟩)
    | embeddedNull => exact .inr (.inl ⟨rfl, hnone, nofun⟩)

/-- A question is answered with yes if and only if there is such a node. -/
lemma answer_eq_true_iff : m.answer test p = .ok true ↔ m.Holds test p := by
  rcases answer_cases m test p with ⟨h, hholds⟩ | ⟨h, hholds, -⟩ | ⟨h, hlong⟩
  · simp [h, hholds]
  · simp [h, hholds]
  · rw [h]
    exact ⟨nofun, fun hholds => absurd hlong hholds.not_overlong⟩

/-- A question is answered with no if and only if there is no such node and the path is not too
long. -/
lemma answer_eq_false_iff :
    m.answer test p = .ok false ↔ ¬m.Holds test p ∧ ¬m.Overlong p := by
  rcases answer_cases m test p with ⟨h, hholds⟩ | ⟨h, hholds, hshort⟩ | ⟨h, hlong⟩
  · simp [h, hholds]
  · simp [h, hholds, hshort]
  · simp [h, hlong]

/-- That a path is too long is not reported. -/
lemma TellsOverlong.not_isReported (h : m.TellsOverlong e) : e.isReported = false := by
  obtain ⟨p, -, rfl⟩ := h
  rfl

/-- A question has no answer if and only if the path is too long. -/
lemma answer_eq_error_iff :
    m.answer test p = .error e ↔ m.Overlong p ∧ e = .nameTooLong p.text := by
  rcases answer_cases m test p with ⟨h, hholds⟩ | ⟨h, -, hshort⟩ | ⟨h, hlong⟩
  · simp [h, hholds.not_overlong]
  · simp [h, hshort]
  · simp only [h, hlong, true_and, Except.error.injEq]
    exact eq_comm

/-! ## A path that is too long -/

/-- A name that no directory can be asked for. -/
def longName : String :=
  String.ofList (List.replicate 256 'a')

lemma toList_longName : longName.toList = List.replicate 256 'a' :=
  String.toList_ofList

lemma notMem_longName {c : Char} (h : c ≠ 'a') : c ∉ longName.toList := by
  rw [toList_longName]
  exact fun hmem => h (List.eq_of_mem_replicate hmem)

lemma isStep_longName : Path.isStep longName = true := by
  have hne : ∀ s : String, s.toList.length ≠ 256 → longName ≠ s := by
    rintro s hlength rfl
    rw [toList_longName, List.length_replicate] at hlength
    exact hlength rfl
  simp [Path.isStep, hne "" (by decide), hne "." (by decide)]

lemma nameLimit_lt_longName : FileTree.nameLimit < Text.byteLength longName := by
  decide +kernel

/-- The path of the long name in a directory is too long to be looked up. -/
lemma overlong_longName {here : Location} (hn : Named here)
    (hnull : ∀ part ∈ here, '\x00' ∉ part.toList) (hdir : m.tree.IsDirectoryAt here) :
    m.Overlong (.ofLocation (here ++ [longName])) := by
  have hall : ∀ part ∈ here ++ [longName], '\x00' ∉ part.toList := by
    intro part hmem
    rw [List.mem_append, List.mem_singleton] at hmem
    rcases hmem with hmem | hmem
    · exact hnull part hmem
    · rw [hmem]
      exact notMem_longName (by decide)
  exact overlong_of_name hn hdir isStep_longName (notMem_longName (by decide)) hall
    nameLimit_lt_longName

/-! ## Paths without a canonical form -/

/-- Why a path has no canonical form: a null character, links that nest too deeply, or a path that
still runs through too many links after those on the way to it were replaced. -/
inductive LacksForm (m : Machine) (p : Path) : Failure → Prop where
  | null :
    LacksForm m p .embeddedNull
  | deep :
    m.tree.settled m.cwd p = .error .tooDeep →
    LacksForm m p .linksTooDeep
  | loop {q} :
    m.tree.stat m.cwd q.text = .error .tooManyLinks →
    LacksForm m p (.linkLoop q)

/-- What a path lacks a canonical form for is not reported. -/
lemma LacksForm.not_isReported (h : m.LacksForm p e) : e.isReported = false := by
  cases h <;> rfl

/-- A path is made canonical, or lacks a canonical form for one of these reasons. -/
lemma lacksForm_of_canonicalize (h : m.canonicalize p = .error e) : m.LacksForm p e := by
  -- Settled or not, a path has to pass one more lookup.
  have hfinish : ∀ q, canonicalize.finish m q = .error e → m.LacksForm p e := by
    intro q h
    unfold canonicalize.finish at h
    split at h
    · rename_i hloop
      cases h
      exact .loop hloop
    · cases h
      exact .null
    · cases h
  unfold canonicalize at h
  cases hsettled : m.tree.settled m.cwd p with
  | ok q =>
    rw [hsettled] at h
    exact hfinish _ h
  | error obstacle =>
    rw [hsettled] at h
    cases obstacle with
    | loop q => exact hfinish _ h
    | embeddedNull =>
      cases h
      exact .null
    | tooDeep =>
      cases h
      exact .deep hsettled

end JavaHome.Machine
