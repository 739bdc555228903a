import Mathlib.Tactic.Lemma
import JavaHome.Proofs.Command.Supplied
import JavaHome.Proofs.Console

/-!
# What a supplied home does not depend on

Two runs are compared step by step: computations are `Related` if they tell the same and end in the
same failure or in related answers, and so are computations that are followed by related ones
(`Related.bind`). The contexts of two machines that differ in the reported home, in the search path
and in the version of the virtual machine are alike in all that is looked at once a home is supplied
(`Context.Alike.find_eq`). So command lines that supply a home come to the same on both
(`run_eq_of_supplied`).
-/

namespace JavaHome

/-- Two computations tell the same, and end in the same failure or in related answers. -/
inductive Traced.Related {α β : Type} (R : α → β → Prop) : Traced α → Traced β → Prop where
  | ok {events a b} :
    R a b →
    Related R ⟨events, .ok a⟩ ⟨events, .ok b⟩
  | error {events e} :
    Related R ⟨events, .error e⟩ ⟨events, .error e⟩

namespace Traced.Related

variable {α β γ δ : Type} {R : α → β → Prop} {S : γ → δ → Prop}

/-- Related computations that are followed by related ones are related. -/
lemma bind {x : Traced α} {y : Traced β} {f : α → Traced γ} {g : β → Traced δ}
    (h : Related R x y) (hnext : ∀ a b, R a b → Related S (f a) (g b)) :
    Related S (x >>= f) (y >>= g) := by
  cases h with
  | error => exact .error
  | @ok events a b hab =>
    have hboth := hnext a b hab
    change Related S ⟨events ++ (f a).events, (f a).result⟩ ⟨events ++ (g b).events, (g b).result⟩
    generalize f a = x at hboth
    generalize g b = y at hboth
    cases hboth with
    | ok hend => exact .ok hend
    | error => exact .error

/-- Every computation is related to itself. -/
lemma refl (x : Traced α) : Related Eq x x := by
  obtain ⟨events, result⟩ := x
  cases result with
  | ok a => exact .ok rfl
  | error e => exact .error

/-- Computations with equal answers are equal. -/
lemma eq {x y : Traced α} (h : Related Eq x y) : x = y := by
  cases h with
  | ok hab => rw [hab]
  | error => rfl

end Traced.Related

/-- The variables that say which installation is the reported one, and what virtual machine it has.
-/
def Machine.reportedVariables : List String :=
  ["PATH", "JAVA_HOME", "JVMLOCATE_JAVA_VM_VERSION"]

/-- Two machines are the same but for what their environments say of the reported installation. Both
say something of its home. -/
structure Machine.SameBesidesReported (m₁ m₂ : Machine) : Prop where
  tree : m₁.tree = m₂.tree
  cwd : m₁.cwd = m₂.cwd
  systemName : m₁.systemName = m₂.systemName
  console : m₁.console = m₂.console
  yaml : m₁.yaml = m₂.yaml
  paint : m₁.paint = m₂.paint
  elsewhere : ∀ name, name ∉ reportedVariables → m₁.lookupVariable name = m₂.lookupVariable name
  home₁ : ∃ home, home ≠ "" ∧ m₁.lookupVariable "JAVA_HOME" = some home
  home₂ : ∃ home, home ≠ "" ∧ m₂.lookupVariable "JAVA_HOME" = some home

/-- A machine in another environment. -/
def Machine.inEnvironment (m : Machine) (environment : Environment) : Machine :=
  { m with environment := environment }

@[simp] lemma Machine.tree_inEnvironment (m : Machine) (e : Environment) :
    (m.inEnvironment e).tree = m.tree := rfl

@[simp] lemma Machine.cwd_inEnvironment (m : Machine) (e : Environment) :
    (m.inEnvironment e).cwd = m.cwd := rfl

@[simp] lemma Machine.environment_inEnvironment (m : Machine) (e : Environment) :
    (m.inEnvironment e).environment = e := rfl

@[simp] lemma Machine.node?_inEnvironment (m : Machine) (e : Environment) (p : Path) :
    (m.inEnvironment e).node? p = m.node? p := by
  unfold Machine.node?
  simp only [Machine.tree_inEnvironment, Machine.cwd_inEnvironment]

/-- Contexts that are alike in all that is looked at once a home is supplied. -/
structure Context.Alike (c₁ c₂ : Context) : Prop where
  host : c₁.host = c₂.host
  vendor : c₁.properties.vendor = c₂.properties.vendor
  version : c₁.properties.version = c₂.properties.version

variable {m : Machine} {c₁ c₂ : Context} {e₁ e₂ : Environment} {i : Installation}
  {directory tool : String}

/-! ## Loading -/

namespace Properties

/-- A properties file does not depend on the environment. -/
lemma loadDocument_inEnvironment (m : Machine) (e : Environment) (file : Option String) :
    loadDocument (m.inEnvironment e) file = loadDocument m file := by
  have hparse : ∀ path text, parse (m.inEnvironment e) path text = parse m path text :=
    fun _ _ => rfl
  unfold loadDocument readFile readText
  simp only [Machine.tree_inEnvironment, Machine.cwd_inEnvironment, hparse]

/-- Documents and environments that agree on what is looked up give contexts that are alike. -/
lemma load_related (h : (m.inEnvironment e₁).SameBesidesReported (m.inEnvironment e₂))
    (file : Option String) :
    Traced.Related
      (fun p q => p.vendor = q.vendor ∧ p.version = q.version)
      (load (m.inEnvironment e₁) file e₁) (load (m.inEnvironment e₂) file e₂) := by
  have hlookup : ∀ name, name ∉ Machine.reportedVariables → e₁.lookup name = e₂.lookup name :=
    h.elsewhere
  have hchoose : chooseFile file e₁ = chooseFile file e₂ := by
    unfold chooseFile
    rw [hlookup fileVariable (by decide)]
  unfold load
  rw [hchoose, loadDocument_inEnvironment, loadDocument_inEnvironment]
  refine .bind (.refl _) ?_
  rintro document _ rfl
  have hvalue : ∀ key name, name ∉ Machine.reportedVariables →
      valueOf document e₁ key name = valueOf document e₂ key name := by
    intro key name hname
    unfold valueOf
    rw [hlookup name hname]
  -- The homes may differ, but not in whether there is one: without one nothing is loaded.
  have hhome : (ofSources document e₁).home = "" ↔ (ofSources document e₂).home = "" := by
    obtain ⟨home₁, hne₁, hhome₁⟩ := h.home₁
    obtain ⟨home₂, hne₂, hhome₂⟩ := h.home₂
    change e₁.lookup "JAVA_HOME" = some home₁ at hhome₁
    change e₂.lookup "JAVA_HOME" = some home₂ at hhome₂
    simp only [ofSources, valueOf, hhome₁, hhome₂]
    cases (document.lookup "java.home").filter (!·.isEmpty) with
    | none => simp [hne₁, hne₂]
    | some value => rfl
  dsimp only
  by_cases hnone : (ofSources document e₁).home = ""
  · rw [if_pos hnone, if_pos (hhome.1 hnone)]
    exact .error
  · rw [if_neg hnone, if_neg fun hnone₂ => hnone (hhome.2 hnone₂)]
    exact .ok ⟨hvalue _ _ (by decide), hvalue _ _ (by decide)⟩

end Properties

/-- The contexts of two such machines are alike. -/
lemma Context.ofMachine_related
    (h : (m.inEnvironment e₁).SameBesidesReported (m.inEnvironment e₂)) (file : Option String) :
    Traced.Related Alike (Context.ofMachine (m.inEnvironment e₁) file)
      (Context.ofMachine (m.inEnvironment e₂) file) :=
  .bind (Properties.load_related h file) fun _ _ hsame => .ok ⟨rfl, hsame.1, hsame.2⟩

/-! ## Looking at a supplied home -/

section Alike

variable (h : c₁.Alike c₂)
include h

/-- The same installation is supplied. -/
lemma Context.Alike.supplied_related (directory : String) :
    Traced.Related (fun i j => i = j ∧ i.userSupplied = true)
      (.ofExcept (c₁.supplied (m.inEnvironment e₁) directory))
      (.ofExcept (c₂.supplied (m.inEnvironment e₂) directory)) := by
  have hvendor : c₁.vendor = c₂.vendor := by rw [Context.vendor, h.vendor, Context.vendor]
  have hsame : c₁.supplied (m.inEnvironment e₁) directory =
      c₂.supplied (m.inEnvironment e₂) directory := by
    unfold Context.supplied Machine.isDirectory
    simp only [hvendor, Machine.node?_inEnvironment]
  rw [hsame]
  have hsupplies := c₂.supplies (m.inEnvironment e₂) directory
  generalize c₂.supplied (m.inEnvironment e₂) directory = supplied at hsupplies
  cases hsupplies with
  | refused => exact .error
  | overlong => exact .error
  | accepted => exact .ok ⟨rfl, rfl⟩

/-- A lookup in a supplied installation does not get to the search path. -/
lemma Context.Alike.executable_eq (hsupplied : i.userSupplied = true) :
    i.executable c₁ (m.inEnvironment e₁) tool = i.executable c₂ (m.inEnvironment e₂) tool := by
  have htool : i.toolPath c₁ (m.inEnvironment e₁) tool =
      i.toolPath c₂ (m.inEnvironment e₂) tool := by
    unfold Installation.toolPath
    simp only [h.host, Machine.cwd_inEnvironment]
  unfold Installation.executable Machine.isFile
  simp only [hsupplied, if_true, htool, Machine.node?_inEnvironment]

/-- A summary of a supplied installation says nothing of the virtual machine. -/
lemma Context.Alike.summarize_eq (hsupplied : i.userSupplied = true) (java : Executable) :
    i.summarize c₁ (m.inEnvironment e₁) java = i.summarize c₂ (m.inEnvironment e₂) java := by
  have hdescribe : i.describe c₁ = i.describe c₂ := by
    unfold Installation.describe
    rw [if_pos hsupplied, if_pos hsupplied]
  have hexisting : ∀ p, (m.inEnvironment e₁).existing? p = (m.inEnvironment e₂).existing? p := by
    intro p
    unfold Machine.existing? Machine.pathExists
    simp only [Machine.node?_inEnvironment]
  have hruntime : i.runtimeArchive (m.inEnvironment e₁) =
      i.runtimeArchive (m.inEnvironment e₂) :=
    hexisting _
  have htools : i.toolsArchive c₁ (m.inEnvironment e₁) =
      i.toolsArchive c₂ (m.inEnvironment e₂) := by
    unfold Installation.toolsArchive Context.developmentArchive Context.siblingArchive
    simp only [hexisting, hruntime, h.host, h.version]
  unfold Installation.summarize
  rw [htools, hdescribe, hruntime]

/-- An action with a supplied directory comes to the same. -/
lemma Context.Alike.find_eq {action : Command.Action}
    (hsupplied : action.supplied? = some (directory, tool)) :
    action.find c₁ (m.inEnvironment e₁) = action.find c₂ (m.inEnvironment e₂) := by
  apply Traced.Related.eq
  cases action with
  | current => cases hsupplied
  | env => cases hsupplied
  | home path =>
    refine .bind (R := fun i j => i = j ∧ i.userSupplied = true) ?_ ?_
    · refine .bind (h.supplied_related path) ?_
      rintro i _ ⟨rfl, hi⟩
      rw [h.executable_eq hi]
      exact .bind (.refl _) fun _ _ _ => .ok ⟨rfl, hi⟩
    · rintro i _ ⟨rfl, hi⟩
      rw [h.executable_eq hi]
      refine .bind (.refl _) ?_
      rintro java _ rfl
      rw [h.summarize_eq hi]
      exact .refl _
  | exec other path =>
    cases path with
    | none => cases hsupplied
    | some path =>
      refine .bind (h.supplied_related path) ?_
      rintro i _ ⟨rfl, hi⟩
      rw [h.executable_eq hi]
      exact .refl _

end Alike

namespace Command

/-- What a command line asks for does not depend on the environment. -/
lemma ofWords_inEnvironment (m : Machine) (e : Environment) (words : List String) :
    Invocation.ofWords (m.inEnvironment e) words = Invocation.ofWords m words := by
  unfold Invocation.ofWords readVerb readScope readAction checkSwitch checkFile checkPath
  simp only [Machine.tree_inEnvironment, Machine.cwd_inEnvironment]

/-- What an invocation with a supplied directory finds is the same on machines that differ in what
they say of the reported installation. -/
lemma Invocation.find_eq {i : Invocation}
    (h : (m.inEnvironment e₁).SameBesidesReported (m.inEnvironment e₂))
    (hsupplied : i.action.supplied? = some (directory, tool)) :
    i.find (m.inEnvironment e₁) = i.find (m.inEnvironment e₂) := by
  apply Traced.Related.eq
  refine .bind (Context.ofMachine_related h i.propertiesFile) ?_
  intro c₁ c₂ halike
  rw [halike.find_eq hsupplied]
  exact .refl _

/-- What is written for a finding depends on no more of the environment than the console does. -/
lemma findingText_inEnvironment {format : Format} {finding : Finding}
    (h : ∀ name ∈ Console.decidingVariables, e₁.lookup name = e₂.lookup name) :
    findingText format (m.inEnvironment e₁) finding =
      findingText format (m.inEnvironment e₂) finding := by
  have hcolumns : (m.inEnvironment e₁).columns = (m.inEnvironment e₂).columns :=
    Console.columns_congr h m.console
  have hpainted : finding.painted (m.inEnvironment e₁) = finding.painted (m.inEnvironment e₂) := by
    funext text
    unfold Finding.painted
    rw [Machine.environment_inEnvironment, Machine.environment_inEnvironment,
      Console.isStyled_congr h]
    rfl
  unfold findingText
  rw [hcolumns, hpainted]

/-- Command lines that supply a home come to the same report, whatever is said of the reported
installation. -/
theorem run_eq_of_supplied {m₁ m₂ : Machine} (h : m₁.SameBesidesReported m₂) {words : List String}
    (hsupplied : ∀ i, Invocation.ofWords m₁ words = .ok i → i.action.supplied? ≠ none) :
    run m₁ words = run m₂ words := by
  obtain ⟨tree, cwd, e₁, systemName, console, yaml, paint⟩ := m₁
  obtain ⟨tree₂, cwd₂, e₂, systemName₂, console₂, yaml₂, paint₂⟩ := m₂
  cases h.tree
  cases h.cwd
  cases h.systemName
  cases h.console
  cases h.yaml
  cases h.paint
  let m : Machine := ⟨tree, cwd, [], systemName, console, yaml, paint⟩
  change run (m.inEnvironment e₁) words = run (m.inEnvironment e₂) words
  change (m.inEnvironment e₁).SameBesidesReported (m.inEnvironment e₂) at h
  rw [run, run, ofWords_inEnvironment, ofWords_inEnvironment]
  cases hwords : Invocation.ofWords m words with
  | error stop => rfl
  | ok i =>
    obtain ⟨supplied, hsome⟩ := Option.ne_none_iff_exists'.1 (hsupplied i hwords)
    have hfind := Invocation.find_eq h (i := i) hsome
    have htext : ∀ finding, findingText i.format (m.inEnvironment e₁) finding =
        findingText i.format (m.inEnvironment e₂) finding := by
      refine fun _ => findingText_inEnvironment fun name hname => h.elsewhere name ?_
      have hother : ∀ name ∈ Console.decidingVariables, name ∉ Machine.reportedVariables := by
        decide
      exact hother name hname
    change i.run (m.inEnvironment e₁) = i.run (m.inEnvironment e₂)
    simp only [Invocation.run, hfind, htext]

/-- A machine on which a tool is beside a kit and not in it. -/
def toolBesideKit (environment : Environment) : Machine where
  tree := ⟨[("kit", .directory [("bin", .directory [("java", .file [] true)])]),
    ("tools", .directory [("javac", .file [] true)])]⟩
  cwd := []
  environment := environment
  systemName := "Linux"

/-- An environment that reports the directory with the tool and has it on the search path. -/
def toolReported : Environment :=
  [("PATH", "/tools"), ("JAVA_HOME", "/tools"), ("COLUMNS", "20")]

/-- An environment that reports the kit and has no search path. -/
def kitReported : Environment :=
  [("COLUMNS", "20"), ("JAVA_HOME", "/kit"), ("JVMLOCATE_JAVA_VM_VERSION", "25")]

lemma toolBesideKit_sameBesidesReported :
    (toolBesideKit toolReported).SameBesidesReported (toolBesideKit kitReported) where
  tree := rfl
  cwd := rfl
  systemName := rfl
  console := rfl
  yaml := rfl
  paint := rfl
  elsewhere := by
    intro name hname
    simp only [Machine.reportedVariables, List.mem_cons, List.not_mem_nil, or_false, not_or]
      at hname
    obtain ⟨hpath, hhome, hversion⟩ := hname
    simp only [Machine.lookupVariable, toolBesideKit, toolReported, kitReported, List.lookup_cons,
      beq_eq_false_iff_ne.2 hpath, beq_eq_false_iff_ne.2 hhome, beq_eq_false_iff_ne.2 hversion,
      List.lookup_nil]
  home₁ := ⟨"/tools", by decide, by decide⟩
  home₂ := ⟨"/kit", by decide, by decide⟩

theorem run_eq_of_supplied_toolBesideKit :
    run (toolBesideKit toolReported) ["-v", "exec", "javac", "--home", "/kit"] =
        run (toolBesideKit kitReported) ["-v", "exec", "javac", "--home", "/kit"] ∧
      (run (toolBesideKit kitReported) ["-v", "exec", "javac", "--home", "/kit"]).exit = 2 := by
  have hwords : Invocation.ofWords (toolBesideKit toolReported)
      ["-v", "exec", "javac", "--home", "/kit"] =
      .ok ⟨none, true, .text, .exec "javac" (some "/kit")⟩ :=
    eq_ok_of_toOption (by decide +kernel)
  refine ⟨run_eq_of_supplied toolBesideKit_sameBesidesReported ?_, by decide +kernel⟩
  intro i hi
  cases hwords.symm.trans hi
  exact nofun

end Command

end JavaHome
