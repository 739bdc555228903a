import Mathlib.Tactic.Lemma
import JavaHome.Proofs.Command.Formats
import JavaHome.Proofs.Command.Lossless

/-!
# Variables in text

A listing of variables has a line for each, and such lines are read back if they stay as they are
(`readListing_printLines`). Emoji codes are replaced in them, although variables are no markup, so a
run in text prints the listing that the run in JSON reports exactly if no line has a code and the
console has columns (`Invocation.stdout_listing_iff`). Nothing else is changed: lines are neither
wrapped nor cut, and have no styles.
-/

namespace JavaHome.Command

open Terminal (isMark printLines fieldsOf_printLines unwrapped dropControls)
open Terminal.Emoji (CodeFree replace)

variable {entry : String × String} {listing environment : Environment}
  {c : Context} {m : Machine} {installation : Installation}

/-! ## Listings -/

/-- The line for a variable: its name, an equals sign and its value. -/
def variableLine (entry : String × String) : List Char :=
  entry.1.toList ++ '=' :: entry.2.toList

/-- What a line says: a name up to the first equals sign, and a value after it. -/
def readVariable (line : List Char) : String × String :=
  (String.ofList (line.takeWhile (· ≠ '=')), String.ofList ((line.dropWhile (· ≠ '=')).drop 1))

/-- What a text says that has a line for each variable. -/
def readListing (text : List Char) : Environment :=
  (Text.fieldsOf '\n' text).dropLast.map readVariable

lemma readVariable_variableLine (hname : '=' ∉ entry.1.toList) :
    readVariable (variableLine entry) = entry := by
  have hall : ∀ c ∈ entry.1.toList, decide (c ≠ '=') = true := by
    intro c hmem
    rw [decide_eq_true_iff]
    rintro rfl
    exact hname hmem
  unfold readVariable variableLine
  rw [List.takeWhile_append_of_pos hall, List.takeWhile_cons_of_neg (by decide),
    List.dropWhile_append_of_pos hall, List.dropWhile_cons_of_neg (by decide)]
  simp

/-- A listing is read back from its lines. -/
lemma readListing_printLines (hlines : ∀ entry ∈ listing, '\n' ∉ variableLine entry)
    (hnames : ∀ entry ∈ listing, '=' ∉ entry.1.toList) :
    readListing (printLines (listing.map variableLine)) = listing := by
  have hmap : ∀ line ∈ listing.map variableLine, '\n' ∉ line := by
    intro line hmem
    obtain ⟨entry, hentry, rfl⟩ := List.mem_map.1 hmem
    exact hlines entry hentry
  rw [readListing, fieldsOf_printLines hmap, List.dropLast_concat, List.map_map]
  have hread : listing.map (readVariable ∘ variableLine) = listing.map id :=
    List.map_congr_left fun entry hentry => readVariable_variableLine (hnames entry hentry)
  rw [hread, List.map_id]

/-! ## Lines in the terminal -/

/-- What reaches the terminal of a variable. -/
def shownLines (entry : String × String) : List (List Char) :=
  unwrapped (dropControls (replace (variableLine entry)))

lemma toList_variableText (entry : String × String) :
    (variableText entry.1 entry.2).toList = variableLine entry := by
  simp [variableText, variableLine]

lemma environmentLines_eq (width : Nat) (hsome : environment ≠ []) :
    environmentLines width environment = (sortVariables environment).flatMap shownLines := by
  have hlines : shownLines = fun entry =>
      unwrapped (dropControls (replace (variableText entry.1 entry.2).toList)) := by
    funext entry
    rw [shownLines, toList_variableText]
  rw [environmentLines, if_neg hsome, hlines]

/-- A line without codes reaches the terminal as it is. -/
lemma shownLines_of_codeFree (hcontrols : ∀ c ∈ variableLine entry, isControl c = false)
    (hfree : CodeFree (variableLine entry)) : shownLines entry = [variableLine entry] := by
  rw [shownLines, Terminal.Emoji.replace_eq_self_iff.2 hfree,
    Terminal.dropControls_eq_self fun c hmem => isDropped_of_not_isControl (hcontrols c hmem)]
  refine Terminal.unwrapped_of_notMem (fun hmem => ?_) fun hmem => ?_
  · cases hcontrols _ hmem
  · cases hcontrols _ hmem

/-- No line has more marks in the terminal, and one that has as many has no codes. -/
lemma countP_shownLines (entry : String × String) :
    (shownLines entry).flatten.countP isMark ≤ (variableLine entry).countP isMark ∧
      ((variableLine entry).countP isMark ≤ (shownLines entry).flatten.countP isMark →
        CodeFree (variableLine entry)) := by
  have hshown := Terminal.countP_unwrapped_le (p := isMark) rfl
    (dropControls (replace (variableLine entry)))
  rw [Terminal.Markup.countP_dropControls] at hshown
  have hreplace := Terminal.Emoji.countP_replace_le (variableLine entry)
  refine ⟨Nat.le_trans hshown hreplace, fun h => Terminal.Emoji.replace_eq_self_iff.1 ?_⟩
  exact Terminal.Emoji.replace_eq_self_of_countP_le (Nat.le_trans h hshown)

/-- Lines that keep all their marks have no codes. -/
lemma codeFree_of_countP_le (listing : Environment) :
    (listing.flatMap shownLines).flatten.countP isMark ≤
        (listing.map variableLine).flatten.countP isMark ∧
      ((listing.map variableLine).flatten.countP isMark ≤
          (listing.flatMap shownLines).flatten.countP isMark →
        ∀ entry ∈ listing, CodeFree (variableLine entry)) := by
  induction listing with
  | nil => exact ⟨Nat.le_refl _, fun _ => nofun⟩
  | cons entry rest ih =>
    have hentry := countP_shownLines entry
    rw [List.flatMap_cons, List.flatten_append, List.countP_append, List.map_cons,
      List.flatten_cons, List.countP_append]
    exact ⟨by omega, fun h => List.forall_mem_cons.2 ⟨hentry.2 (by omega), ih.2 (by omega)⟩⟩

/-- The lines of a listing are printed as they are if and only if none of them has a code. -/
lemma printLines_shownLines_iff
    (hcontrols : ∀ entry ∈ listing, ∀ c ∈ variableLine entry, isControl c = false) :
    printLines (listing.flatMap shownLines) = printLines (listing.map variableLine) ↔
      ∀ entry ∈ listing, CodeFree (variableLine entry) := by
  constructor
  · intro h
    -- A code that is replaced takes two marks along, and no other line could make up for them.
    have hmarks := congrArg (List.countP isMark) h
    rw [Terminal.countP_printLines rfl, Terminal.countP_printLines rfl] at hmarks
    exact (codeFree_of_countP_le listing).2 (Nat.le_of_eq hmarks.symm)
  · intro hfree
    have hshown : listing.map shownLines = listing.map fun entry => [variableLine entry] :=
      List.map_congr_left fun entry hmem =>
        shownLines_of_codeFree (hcontrols entry hmem) (hfree entry hmem)
    rw [List.flatMap_def, hshown, ← List.flatMap_def, ← List.map_eq_flatMap]

/-- The lines of a listing are not nothing. -/
lemma printLines_listing_ne_nil (h : listing ≠ []) :
    printLines (listing.map variableLine) ≠ [] := by
  apply Terminal.printLines_ne_nil
  intro hlines
  exact h (List.map_eq_nil_iff.1 hlines)

namespace Invocation

variable {i : Invocation}

/-- What is found for a listing. -/
lemma find_env (hload : (Context.ofMachine m i.propertiesFile).result = .ok c)
    (haction : i.action = .env) (hcurrent : (c.current m).result = .ok installation) :
    (i.find m).result = .ok (.environment (installation.vendor.inheritable m.environment)) := by
  rw [find_result hload, haction]
  exact Action.find_eq_ok_iff.2 (.environment hcurrent)

/-- The run in text prints the lines of the listing. -/
lemma run_env_text (hfind : (i.find m).result = .ok (.environment environment))
    (hsome : environment ≠ []) (hcolumns : m.columns ≠ 0) : (i.inFormat .text).run m =
      ⟨0, String.ofList (printLines ((sortVariables environment).flatMap shownLines)),
        eventText i.verbose (i.find m).events, none⟩ := by
  have hpainted (text : String) : (Finding.environment environment).painted m text = text := by
    rw [Finding.painted, Finding.hasStyles, List.isEmpty_eq_false_iff.2 hsome, Bool.false_and]
    rfl
  refine run_of_findingText (i := i.inFormat .text) hfind ?_
  change findingText .text m (.environment environment) = _
  rw [findingText_text hcolumns, Finding.text, Finding.lines, environmentLines_eq _ hsome]
  exact congrArg Except.ok (hpainted _)

/-- The run in JSON succeeds with the listing of the inherited variables, in the order of their
names. Without control characters in it, the run in text prints a line for each variable of this
listing, exactly as it is, if and only if no line has an emoji code and the console has columns,
which it has unless the environment gives it none. -/
theorem stdout_listing_iff (haction : i.action = .env) (hstart : m.IsStarted)
    (hload : (Context.ofMachine m i.propertiesFile).result = .ok c)
    (hcurrent : (c.current m).result = .ok installation)
    (hsome : installation.vendor.inheritable m.environment ≠ [])
    (hcontrols : ∀ entry ∈ installation.vendor.inheritable m.environment,
      ∀ ch ∈ variableLine entry, isControl ch = false) :
    ∃ listing : Environment,
      listing.Perm (installation.vendor.inheritable m.environment) ∧
      listing.Pairwise (fun a b => a.1 ≤ b.1) ∧
      let text := (i.inFormat .text).run m
      let json := (i.inFormat .json).run m
      json.exit = 0 ∧ json.escape = none ∧ Writes json.stdout (variablesReport listing) ∧
      text.exit = 0 ∧ text.escape = none ∧
      (m.columns = 0 → Console.GivesWidth m.environment 0) ∧
      (text.stdout = String.ofList (printLines (listing.map variableLine)) ↔
        m.columns ≠ 0 ∧ ∀ entry ∈ listing, CodeFree (variableLine entry)) ∧
      (m.columns ≠ 0 → (∀ entry ∈ listing, CodeFree (variableLine entry)) →
        (∀ entry ∈ listing, '=' ∉ entry.1.toList) → readListing text.stdout.toList = listing) := by
  have hfind := find_env hload haction hcurrent
  generalize installation.vendor.inheritable m.environment = environment at *
  have hperm := sortVariables_perm environment
  have hsorted : ∀ entry ∈ sortVariables environment, ∀ ch ∈ variableLine entry,
      isControl ch = false :=
    fun entry hmem => hcontrols entry (hperm.mem_iff.1 hmem)
  refine ⟨sortVariables environment, hperm, pairwise_sortVariables environment, ?_⟩
  rw [run_of_ok_json (i := i.inFormat .json) rfl hfind]
  refine ⟨rfl, rfl, writes_encodeAt Json.Layout.spaced_block _, ?_⟩
  by_cases hcolumns : m.columns = 0
  · -- Without columns nothing is printed, but a listing has a line.
    have hne : sortVariables environment ≠ [] := by
      intro hnil
      rw [hnil] at hperm
      exact hsome hperm.symm.eq_nil
    rw [run_text_of_columns_eq_zero hfind hcolumns]
    refine ⟨rfl, rfl, Machine.givesWidth_zero hstart, ?_, fun h => absurd hcolumns h⟩
    refine iff_of_false (fun h => printLines_listing_ne_nil hne ?_) fun h => h.1 hcolumns
    simpa using congrArg String.toList h.symm
  · rw [run_env_text hfind hsome hcolumns]
    refine ⟨rfl, rfl, Machine.givesWidth_zero hstart, ?_, fun _ hfree hnames => ?_⟩
    · rw [String.ofList_inj, printLines_shownLines_iff hsorted]
      exact ⟨fun h => ⟨hcolumns, h⟩, fun h => h.2⟩
    · rw [(printLines_shownLines_iff hsorted).2 hfree, String.toList_ofList]
      refine readListing_printLines (fun entry hmem hline => ?_) hnames
      cases hsorted entry hmem _ hline

end Invocation

/-- A machine with a narrow terminal, and with variables that markup and wrapping would change. -/
def narrowTerminal : Machine where
  tree := .empty
  cwd := []
  environment := [("PATH", "/bin: :[/b] \\[é"), ("COLUMNS", "1"), ("JAVA_HOME", "/")]
  systemName := "Linux"
  console := ⟨some 1, none⟩

theorem stdout_listing_iff_narrowTerminal :
    ∃ listing, listing.Perm narrowTerminal.environment ∧
      (run narrowTerminal ["env"]).stdout =
        String.ofList (printLines (listing.map variableLine)) ∧
      readListing (run narrowTerminal ["env"]).stdout.toList = listing := by
  have hwords : Invocation.ofWords narrowTerminal ["env"] = .ok ⟨none, false, .text, .env⟩ :=
    eq_ok_of_toOption (by decide +kernel)
  have hload : (Context.ofMachine narrowTerminal none).result =
      .ok ⟨⟨.linux, none⟩, ⟨"/", "", "", ""⟩⟩ :=
    eq_ok_of_toOption (by decide +kernel)
  have hcurrent : (Context.current ⟨⟨.linux, none⟩, ⟨"/", "", "", ""⟩⟩ narrowTerminal).result =
      .ok ⟨.ofString "/", .ofString "/", .generic, false⟩ :=
    eq_ok_of_toOption (by decide +kernel)
  have hall : Vendor.inheritable .generic narrowTerminal.environment =
      narrowTerminal.environment := by
    decide +kernel
  have hsome : Vendor.inheritable .generic narrowTerminal.environment ≠ [] := by
    rw [hall]
    exact nofun
  have hclean : narrowTerminal.environment.all
      (fun entry => (variableLine entry).all (!isControl ·)) = true := by
    decide +kernel
  have hcontrols : ∀ entry ∈ Vendor.inheritable .generic narrowTerminal.environment,
      ∀ ch ∈ variableLine entry, isControl ch = false := by
    rw [hall]
    intro entry hmem ch hch
    simpa using List.all_eq_true.1 (List.all_eq_true.1 hclean entry hmem) ch hch
  have hstart : narrowTerminal.IsStarted := by
    unfold Machine.IsStarted
    exact eq_ok_of_toOption (by decide +kernel)
  have hcolumns : narrowTerminal.columns ≠ 0 := by decide +kernel
  obtain ⟨listing, hperm, -, -, -, -, -, -, -, htext, hread⟩ :=
    Invocation.stdout_listing_iff (i := ⟨none, false, .text, .env⟩) rfl hstart hload hcurrent hsome
      hcontrols
  rw [hall] at hperm
  have hlines : ∀ entry ∈ narrowTerminal.environment,
      replace (variableLine entry) = variableLine entry ∧ '=' ∉ entry.1.toList := by
    decide +kernel
  have hfree : ∀ entry ∈ listing, CodeFree (variableLine entry) := fun entry hmem =>
    Terminal.Emoji.replace_eq_self_iff.1 (hlines entry (hperm.mem_iff.1 hmem)).1
  rw [run_of_words hwords]
  exact ⟨listing, hperm, htext.2 ⟨hcolumns, hfree⟩,
    hread hcolumns hfree fun entry hmem => (hlines entry (hperm.mem_iff.1 hmem)).2⟩

/-- A machine with a class path whose second entry is an emoji code. -/
def codedClassPath : Machine where
  tree := .empty
  cwd := []
  environment := [("CLASSPATH", "a:b:c"), ("JAVA_HOME", "/")]
  systemName := "Linux"

theorem stdout_codedClassPath :
    (run codedClassPath ["env"]).exit = 0 ∧
      (run codedClassPath ["env"]).stdout = "CLASSPATH=a🅱c\nJAVA_HOME=/\n" := by
  have hwords : Invocation.ofWords codedClassPath ["env"] = .ok ⟨none, false, .text, .env⟩ :=
    eq_ok_of_toOption (by decide +kernel)
  have hfind : ((Invocation.mk none false .text .env).find codedClassPath).result =
      .ok (.environment codedClassPath.environment) :=
    eq_ok_of_toOption (by decide +kernel)
  have hsorted : sortVariables codedClassPath.environment = codedClassPath.environment :=
    List.mergeSort_of_pairwise (by decide +kernel)
  have htext := Invocation.run_env_text hfind nofun (by decide +kernel)
  rw [hsorted] at htext
  rw [run_of_words hwords]
  refine ⟨congrArg Report.exit htext, (congrArg Report.stdout htext).trans ?_⟩
  decide +kernel

end JavaHome.Command
