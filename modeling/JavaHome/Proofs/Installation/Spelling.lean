import Mathlib.Tactic.Lemma
import JavaHome.Installation.Discovery
import JavaHome.Proofs.FileTree.Canonical

/-!
# The reported home and its spelling

The installation that a context reports depends on the directory that the reported home leads to,
and not on how that home is spelled: its base is the one direct path of that directory
(`current_independent_of_spelling`).
-/

namespace JavaHome.Context

variable {c : Context} {m : Machine}

/-- The context with another reported home. -/
def reporting (c : Context) (home : String) : Context :=
  { c with properties := { c.properties with home := home } }

/-- The reported installation, once the reported home has a canonical form. -/
lemma current_of_canonicalize {base : Path}
    (h : m.canonicalize (.ofString c.properties.home) = .ok base) :
    c.current m = do return ⟨base, ← c.findHome m base, c.vendor, false⟩ :=
  Traced.ofExcept_bind_ok _ h

/-- How a context comes to the installation that it reports. -/
lemma current_eq_ok_iff {i : Installation} :
    (c.current m).result = .ok i ↔
      ∃ base home, m.canonicalize (.ofString c.properties.home) = .ok base ∧
        (c.findHome m base).result = .ok home ∧ i = ⟨base, home, c.vendor, false⟩ := by
  constructor
  · intro h
    obtain ⟨base, hbase, h⟩ := Traced.result_bind_eq_ok_iff.1 h
    obtain ⟨home, hhome, h⟩ := Traced.result_bind_eq_ok_iff.1 h
    cases h
    exact ⟨base, home, hbase, hhome, rfl⟩
  · rintro ⟨base, home, hbase, hhome, rfl⟩
    rw [current_of_canonicalize hbase]
    exact Traced.result_bind_eq_ok_iff.2 ⟨home, hhome, rfl⟩

/-- The installation for a reported home that leads to a directory has the path of that directory as
its base. -/
lemma current_of_lookup {s : String} {here : Location} {entries : List (String × Node)}
    (ht : m.tree.Addressable) (habs : s.toList.head? = some '/')
    (h : m.tree.lookup m.cwd true s = .ok ⟨here, .directory entries⟩) :
    (c.reporting s).current m = do
      return ⟨.ofLocation here, ← c.findHome m (.ofLocation here), c.vendor, false⟩ :=
  current_of_canonicalize (c := c.reporting s) (m.canonicalize_of_lookup ht habs h)

/-- Two absolute spellings of one directory as the reported home come to the same. The base is the
only direct path of the directory, and reporting the base comes to the same again. -/
theorem current_independent_of_spelling {s₁ s₂ : String} {here : Location}
    {entries : List (String × Node)} (ht : m.tree.Addressable)
    (habs₁ : s₁.toList.head? = some '/') (habs₂ : s₂.toList.head? = some '/')
    (h₁ : m.tree.lookup m.cwd true s₁ = .ok ⟨here, .directory entries⟩)
    (h₂ : m.tree.lookup m.cwd true s₂ = .ok ⟨here, .directory entries⟩) :
    (c.reporting s₁).current m = (c.reporting s₂).current m ∧
      ∀ i, ((c.reporting s₁).current m).result = .ok i →
        m.tree.IsDirect i.base ∧
        (∀ p, m.tree.IsDirect p →
          (m.tree.lookup m.cwd true p.text = .ok ⟨here, .directory entries⟩ ↔ p = i.base)) ∧
        ((c.reporting i.base.text).current m).result = .ok i := by
  have hn := FileTree.named_of_lookup habs₁ h₁
  obtain ⟨-, -, hnode, -⟩ := FileTree.lookup_eq_ok_iff.1 h₁
  have hself : m.tree.lookup m.cwd true (Path.ofLocation here).text =
      .ok ⟨here, .directory entries⟩ :=
    FileTree.lookup_ofLocation m.cwd true hn (ht _ _ hnode) hnode
  have hcurrent₁ := current_of_lookup (c := c) ht habs₁ h₁
  refine ⟨hcurrent₁.trans (current_of_lookup ht habs₂ h₂).symm, ?_⟩
  intro i hi
  have hbase : i.base = .ofLocation here := by
    rw [hcurrent₁] at hi
    obtain ⟨home, -, hi⟩ := Traced.result_bind_eq_ok_iff.1 hi
    cases hi
    rfl
  have habs : (Path.ofLocation here).text.toList.head? = some '/' :=
    (FileTree.proper_ofLocation hn).head?_text.2 rfl
  rw [hbase]
  refine ⟨FileTree.isDirect_ofLocation hn ⟨entries, hnode⟩, ?_, ?_⟩
  · intro p hp
    exact ⟨fun h => hp.eq_of_lookup h, fun e => e ▸ hself⟩
  · rw [current_of_lookup ht habs hself, ← hcurrent₁]
    exact hi

/-- A kit, and links that lead to it by way of one another. -/
def linkedKit : Machine where
  tree := ⟨[("jdk", .directory []), ("latest", .link "./jdk"), ("java", .link "/jdk/../latest")]⟩
  cwd := []
  environment := []
  systemName := "Linux"

lemma linkedKit_addressable : linkedKit.tree.Addressable := by
  intro here node h
  have hhere : here = [] ∨ here = ["jdk"] ∨ here = ["latest"] ∨ here = ["java"] := by
    match here with
    | [] => exact .inl rfl
    | [name] =>
      simp only [FileTree.node?, FileTree.root, linkedKit, Node.at?, List.lookup_cons,
        List.lookup_nil] at h
      grind
    | name :: below :: rest =>
      simp only [FileTree.node?, FileTree.root, linkedKit, Node.at?, List.lookup_cons,
        List.lookup_nil] at h
      split at h
      · simp [Node.at?] at h
      · split at h
        · simp [Node.at?] at h
        · split at h <;> simp [Node.at?] at h
  rcases hhere with rfl | rfl | rfl | rfl <;> exact ⟨by decide, by decide⟩

/-- A context that reports nothing but its system. -/
def bareContext : Context :=
  ⟨⟨.linux, none⟩, ⟨"", "", "", ""⟩⟩

theorem current_independent_of_spelling_linkedKit :
    linkedKit.tree.lookup [] true "/java/" = .ok ⟨["jdk"], .directory []⟩ ∧
      linkedKit.tree.lookup [] true "//jdk/.././latest" = .ok ⟨["jdk"], .directory []⟩ ∧
      (bareContext.reporting "/java/").current linkedKit =
        (bareContext.reporting "//jdk/.././latest").current linkedKit ∧
      ((bareContext.reporting "/java/").current linkedKit).result.toOption =
        some ⟨.ofLocation ["jdk"], .ofLocation ["jdk"], .generic, false⟩ := by
  have h₁ : linkedKit.tree.lookup [] true "/java/" = .ok ⟨["jdk"], .directory []⟩ :=
    FileTree.lookup_of_location (by decide +kernel) rfl
  have h₂ : linkedKit.tree.lookup [] true "//jdk/.././latest" = .ok ⟨["jdk"], .directory []⟩ :=
    FileTree.lookup_of_location (by decide +kernel) rfl
  have hsame := (current_independent_of_spelling (c := bareContext) linkedKit_addressable
    (by decide) (by decide) h₁ h₂).1
  exact ⟨h₁, h₂, hsame, by decide +kernel⟩

end JavaHome.Context
