import Mathlib.Tactic.Lemma
import JavaHome.Proofs.Command.Run
import JavaHome.Proofs.Installation.Spelling
import JavaHome.Proofs.Json.RoundTrip
import JavaHome.Proofs.Vendor

/-!
# Reports in JSON

A run in JSON that does not escape has a report (`Reports`): the wording of a failure, a summary, an
executable, or all variables that are inherited. It writes this report in ASCII, and the report is
read back from what is written (`stdout_reports`). That variables are sorted neither loses nor adds
one, and leaves the value of each name as it is (`lookup_sortVariables`).
-/

namespace JavaHome.Command

variable {c : Context} {m : Machine} {i : Invocation} {installation : Installation}

/-! ## Variables in order -/

private lemma name_le_trans (a b d : String × String) :
    decide (a.1 ≤ b.1) = true → decide (b.1 ≤ d.1) = true → decide (a.1 ≤ d.1) = true := by
  intro hab hbd
  exact decide_eq_true (String.le_trans (of_decide_eq_true hab) (of_decide_eq_true hbd))

private lemma name_le_total (a b : String × String) :
    (decide (a.1 ≤ b.1) || decide (b.1 ≤ a.1)) = true := by
  rw [Bool.or_eq_true, decide_eq_true_iff, decide_eq_true_iff]
  exact String.le_total a.1 b.1

lemma sortVariables_perm (environment : Environment) :
    (sortVariables environment).Perm environment :=
  List.mergeSort_perm environment _

lemma pairwise_sortVariables (environment : Environment) :
    (sortVariables environment).Pairwise fun a b => a.1 ≤ b.1 := by
  refine (List.pairwise_mergeSort name_le_trans name_le_total environment).imp ?_
  exact fun h => of_decide_eq_true h

/-- The values of one name stay in their order. -/
lemma filter_sortVariables (environment : Environment) (name : String) :
    (sortVariables environment).filter (name == ·.1) = environment.filter (name == ·.1) := by
  have hequal : (environment.filter (name == ·.1)).Pairwise
      fun a b => decide (a.1 ≤ b.1) = true := by
    apply List.pairwise_of_forall_mem_list
    intro a ha b hb
    have hname := beq_iff_eq.1 (List.mem_filter.1 ha).2
    rw [← hname, ← beq_iff_eq.1 (List.mem_filter.1 hb).2]
    exact decide_eq_true (String.le_refl name)
  have hsublist := (List.sublist_mergeSort name_le_trans name_le_total hequal
    List.filter_sublist).filter (name == ·.1)
  rw [List.filter_filter] at hsublist
  simp only [Bool.and_self] at hsublist
  exact (hsublist.eq_of_length ((sortVariables_perm environment).filter _).length_eq.symm).symm

/-- A name has the same value among sorted variables. -/
lemma lookup_sortVariables (environment : Environment) (name : String) :
    (sortVariables environment).lookup name = environment.lookup name := by
  rw [Vendor.lookup_eq_head?_filter, Vendor.lookup_eq_head?_filter, filter_sortVariables]

/-- The report of variables: a text for each. -/
def variablesReport (listing : Environment) : Json :=
  .object (listing.map fun (name, value) => (name, .string value))

lemma get?_variablesReport (listing : Environment) (name : String) :
    (variablesReport listing).get? name = (listing.lookup name).map .string := by
  change (listing.map _).lookup name = _
  induction listing with
  | nil => rfl
  | cons entry rest ih =>
    obtain ⟨other, value⟩ := entry
    rw [List.map_cons, List.lookup_cons, List.lookup_cons]
    cases name == other with
    | true => rfl
    | false => exact ih

/-! ## Reports -/

/-- What an invocation reports on a machine, with its exit code: the wording of the failure that it
ends in, the summary of the installation that it describes, the executable that it looks for, or
the variables that are inherited, in the order of their names and each with its value. -/
inductive Reports (i : Invocation) (m : Machine) : Nat → Json → Prop where
  | failure {failure : Failure} :
    (i.find m).result = .error failure →
    failure.isReported = true →
    Reports i m 2 (.object [("error", .string failure.message)])
  | installation {c found installation java s} :
    (Context.ofMachine m i.propertiesFile).result = .ok c →
    i.action.describes c m = some found →
    found.result = .ok installation →
    (installation.executable c m "java").result = .ok java →
    installation.summarize c m java = .ok s →
    Reports i m 0 s.toJson
  | executable {c tool directory installation executable} :
    (Context.ofMachine m i.propertiesFile).result = .ok c →
    i.action = .exec tool directory →
    (c.resolve m directory).result = .ok installation →
    (installation.executable c m tool).result = .ok executable →
    Reports i m (if executable.isResolved then 0 else 1) executable.toJson
  | environment {c installation listing} :
    (Context.ofMachine m i.propertiesFile).result = .ok c →
    i.action = .env →
    (c.current m).result = .ok installation →
    listing.Perm (installation.vendor.inheritable m.environment) →
    listing.Pairwise (fun a b => a.1 ≤ b.1) →
    (∀ name, (variablesReport listing).get? name =
      if installation.vendor.inherits name then (m.lookupVariable name).map .string else none) →
    Reports i m 0 (variablesReport listing)

/-- The variables that are inherited are reported in the order of their names. -/
lemma reports_inheritable (hload : (Context.ofMachine m i.propertiesFile).result = .ok c)
    (haction : i.action = .env) (hcurrent : (c.current m).result = .ok installation) :
    Reports i m 0 (variablesReport
      (sortVariables (installation.vendor.inheritable m.environment))) := by
  refine .environment hload haction hcurrent (sortVariables_perm _) (pairwise_sortVariables _) ?_
  intro name
  rw [get?_variablesReport, lookup_sortVariables, Vendor.lookup_inheritable]
  cases installation.vendor.inherits name <;> rfl

/-- What is found is reported. -/
lemma reports_of_finding {finding : Finding} (hfinding : (i.find m).result = .ok finding) :
    Reports i m finding.exit finding.toJson := by
  obtain ⟨c, hload, hfinds⟩ := Invocation.exists_finds_of_find hfinding
  generalize haction : i.action = action at hfinds
  cases hfinds with
  | installation hdescribes hfound hjava hs =>
    rw [← haction] at hdescribes
    exact .installation hload hdescribes hfound hjava hs
  | executable hresolve hexecutable => exact .executable hload haction hresolve hexecutable
  | environment hcurrent => exact reports_inheritable hload haction hcurrent

/-! ## What is written -/

/-- A text is written that holds a value: in ASCII, with the end of a line after it, and such that
the value is read back with that end or without it. -/
def Writes (stdout : String) (value : Json) : Prop :=
  ∃ text, stdout.toList = text ++ ['\n'] ∧ Json.IsAscii text ∧ Json.decode text = some value ∧
    Json.decode stdout.toList = some value

lemma writes_encodeAt {layout : Json.Layout} (hspaced : layout.Spaced) (value : Json) :
    Writes (String.ofList (Json.encodeAt layout 0 value) ++ "\n") value := by
  have htext : (String.ofList (Json.encodeAt layout 0 value) ++ "\n").toList =
      Json.encodeAt layout 0 value ++ ['\n'] := by
    rw [String.toList_append, String.toList_ofList]
    rfl
  refine ⟨Json.encodeAt layout 0 value, htext, Json.isAscii_encodeAt hspaced value 0, ?_, ?_⟩
  · have hread := Json.decode_encodeAt hspaced 0 value [] nofun
    rwa [List.append_nil] at hread
  · rw [htext]
    refine Json.decode_encodeAt hspaced 0 value _ fun c hmem => ?_
    rw [List.mem_singleton.1 hmem]
    rfl

/-- A command line in JSON that does not escape writes its report, in ASCII on lines of its own, and
exactly this report is read back from what it writes. -/
theorem stdout_reports {words : List String} (hwords : Invocation.ofWords m words = .ok i)
    (hformat : i.format = .json) (hescape : (run m words).escape = none) :
    ∃ report, Writes (run m words).stdout report ∧ Reports i m (run m words).exit report := by
  rw [run_of_words hwords] at hescape ⊢
  cases hfind : (i.find m).result with
  | ok finding =>
    rw [Invocation.run_of_ok_json hformat hfind]
    exact ⟨finding.toJson, writes_encodeAt Json.Layout.spaced_block _, reports_of_finding hfind⟩
  | error failure =>
    cases hreported : failure.isReported with
    | false =>
      rw [Invocation.run_of_unreported hfind hreported] at hescape
      cases hescape
    | true =>
      rw [Invocation.run_of_error hfind, hreported, hformat]
      exact ⟨_, writes_encodeAt Json.Layout.spaced_line _, .failure hfind hreported⟩

/-- A machine whose environment holds quotes, controls, and characters outside the first plane. -/
def quotedEnvironment : Machine where
  tree := .empty
  cwd := []
  environment := [("ZERO", "\x00"), ("JAVA_HOME", "/"), ("APP_NAME_1", "kit"),
    ("JVMLOCATE_JAVA_VENDOR", "Apple Inc."), ("\"\\", "\n😀é\x7f")]
  systemName := "Darwin"

theorem stdout_reports_quotedEnvironment :
    (run quotedEnvironment ["env", "--format", "json"]).escape = none ∧
      ∃ report, Writes (run quotedEnvironment ["env", "--format", "json"]).stdout report ∧
        Reports ⟨none, false, .json, .env⟩ quotedEnvironment 0 report ∧
        report.get? "\"\\" = some (.string "\n😀é\x7f") ∧ report.get? "APP_NAME_1" = none := by
  have hwords : Invocation.ofWords quotedEnvironment ["env", "--format", "json"] =
      .ok ⟨none, false, .json, .env⟩ :=
    eq_ok_of_toOption (by decide +kernel)
  have hescape : (run quotedEnvironment ["env", "--format", "json"]).escape = none := by
    decide +kernel
  have hexit : (run quotedEnvironment ["env", "--format", "json"]).exit = 0 := by
    decide +kernel
  have hload : (Context.ofMachine quotedEnvironment none).result =
      .ok ⟨⟨.macos, none⟩, ⟨"/", "Apple Inc.", "", ""⟩⟩ :=
    eq_ok_of_toOption (by decide +kernel)
  obtain ⟨report, hwrites, hreports⟩ := stdout_reports hwords rfl hescape
  refine ⟨hescape, report, hwrites, hexit ▸ hreports, ?_⟩
  generalize (run quotedEnvironment ["env", "--format", "json"]).exit = exit at hexit hreports
  cases hreports with
  | failure => cases hexit
  | installation _ hdescribes => cases hdescribes
  | executable _ haction => cases haction
  | @environment c installation _ hother _ hcurrent _ _ hvalues =>
    cases hload.symm.trans hother
    have hvendor : installation.vendor = .apple := by
      obtain ⟨base, home, -, -, rfl⟩ := Context.current_eq_ok_iff.1 hcurrent
      exact (by decide +kernel : Vendor.ofName "Apple Inc." = .apple)
    have hkept : Vendor.inherits .apple "\"\\" = true := by decide +kernel
    have hdropped : Vendor.inherits .apple "APP_NAME_1" = false := by decide +kernel
    rw [hvalues, hvalues, hvendor, hkept, hdropped]
    exact ⟨rfl, rfl⟩

end JavaHome.Command
