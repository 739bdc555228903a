import Mathlib.Tactic.Lemma
import JavaHome.Command.Run
import JavaHome.Proofs.Console

/-!
# Runs and what they find

What an action finds is the summary of an installation, an executable, or the variables that are
inherited, each had in its own way (`Action.find_eq_ok_iff`). A run is known by what its action
finds in the context that is loaded: a finding is written, a failure that is reported is written
with exit code 2, and every other failure escapes.
-/

namespace JavaHome.Command

variable {i : Invocation} {m : Machine} {c : Context}

/-! ## Findings -/

/-- The installation that an action describes. -/
def Action.describes (c : Context) (m : Machine) : Action → Option (Traced Installation)
  | .current => some (c.current m)
  | .home path => some (c.forHome m (some path))
  | _ => none

/-- How an action comes to what it finds. -/
inductive Action.Finds (c : Context) (m : Machine) : Action → Finding → Prop where
  | installation {action found installation java s} :
    action.describes c m = some found →
    found.result = .ok installation →
    (installation.executable c m "java").result = .ok java →
    installation.summarize c m java = .ok s →
    Finds c m action (.installation s)
  | executable {tool directory installation executable} :
    (c.resolve m directory).result = .ok installation →
    (installation.executable c m tool).result = .ok executable →
    Finds c m (.exec tool directory) (.executable executable)
  | environment {installation} :
    (c.current m).result = .ok installation →
    Finds c m .env (.environment (installation.vendor.inheritable m.environment))

namespace Action

variable {action : Action} {finding : Finding} {found : Traced Installation}

/-- An installation that is found is described by its summary. -/
lemma describe_eq_ok_iff :
    (do
      let installation ← found
      let java ← installation.executable c m "java"
      return Finding.installation (← .ofExcept (installation.summarize c m java)) :
        Traced Finding).result = .ok finding ↔
      ∃ installation java s, found.result = .ok installation ∧
        (installation.executable c m "java").result = .ok java ∧
        installation.summarize c m java = .ok s ∧ finding = .installation s := by
  constructor
  · intro h
    obtain ⟨installation, hfound, h⟩ := Traced.result_bind_eq_ok_iff.1 h
    obtain ⟨java, hjava, h⟩ := Traced.result_bind_eq_ok_iff.1 h
    obtain ⟨s, hs, h⟩ := Traced.result_bind_eq_ok_iff.1 h
    cases h
    exact ⟨installation, java, s, hfound, hjava, hs, rfl⟩
  · rintro ⟨installation, java, s, hfound, hjava, hs, rfl⟩
    apply Traced.result_bind_eq_ok_iff.2 ⟨installation, hfound, ?_⟩
    apply Traced.result_bind_eq_ok_iff.2 ⟨java, hjava, ?_⟩
    exact Traced.result_bind_eq_ok_iff.2 ⟨s, hs, rfl⟩

lemma Finds.of_describes (hdescribes : action.describes c m = some found)
    (h : ∃ installation java s, found.result = .ok installation ∧
      (installation.executable c m "java").result = .ok java ∧
      installation.summarize c m java = .ok s ∧ finding = .installation s) :
    action.Finds c m finding := by
  obtain ⟨installation, java, s, hfound, hjava, hs, rfl⟩ := h
  exact .installation hdescribes hfound hjava hs

lemma find_eq_ok_iff : (action.find c m).result = .ok finding ↔ action.Finds c m finding := by
  constructor
  · intro h
    cases action with
    | current => exact .of_describes rfl (describe_eq_ok_iff.1 h)
    | home path => exact .of_describes rfl (describe_eq_ok_iff.1 h)
    | exec tool directory =>
      obtain ⟨installation, hresolve, h⟩ := Traced.result_bind_eq_ok_iff.1 h
      obtain ⟨executable, hexecutable, h⟩ := Traced.result_bind_eq_ok_iff.1 h
      cases h
      exact .executable hresolve hexecutable
    | env =>
      obtain ⟨installation, hcurrent, h⟩ := Traced.result_bind_eq_ok_iff.1 h
      cases h
      exact .environment hcurrent
  · intro h
    cases h with
    | installation hdescribes hfound hjava hs =>
      cases action with
      | current =>
        cases hdescribes
        exact describe_eq_ok_iff.2 ⟨_, _, _, hfound, hjava, hs, rfl⟩
      | home path =>
        cases hdescribes
        exact describe_eq_ok_iff.2 ⟨_, _, _, hfound, hjava, hs, rfl⟩
      | exec tool directory => cases hdescribes
      | env => cases hdescribes
    | executable hresolve hexecutable =>
      apply Traced.result_bind_eq_ok_iff.2 ⟨_, hresolve, ?_⟩
      exact Traced.result_bind_eq_ok_iff.2 ⟨_, hexecutable, rfl⟩
    | environment hcurrent => exact Traced.result_bind_eq_ok_iff.2 ⟨_, hcurrent, rfl⟩

end Action

/-! ## Text -/

section

variable {finding : Finding}

/-- On a console without columns no text is written. -/
lemma findingText_of_columns_eq_zero (h : m.columns = 0) :
    findingText .text m finding = .ok "" := by
  rw [findingText, if_pos h]

lemma findingText_text (h : m.columns ≠ 0) :
    findingText .text m finding = (finding.text m.columns).map (finding.painted m) := by
  rw [findingText, if_neg h]

/-- On a console that does not pass for a terminal there are no styles. -/
lemma painted_of_unforced (h : Console.Unforced m.environment) (text : String) :
    finding.painted m text = text := by
  rw [Finding.painted, h.isStyled_eq, Bool.and_false]
  rfl

end

/-! ## Runs -/

/-- The report of a command line that can be carried out. -/
lemma run_of_words {words : List String} (h : Invocation.ofWords m words = .ok i) :
    run m words = i.run m := by
  rw [run, h]

namespace Invocation

/-- Once the context is loaded, the action decides what is found. -/
lemma find_result (hload : (Context.ofMachine m i.propertiesFile).result = .ok c) :
    (i.find m).result = (i.action.find c m).result := by
  unfold find
  rw [Traced.result_bind, hload]
  rfl

/-- Whatever is found, a context was loaded for it. -/
lemma exists_finds_of_find {finding : Finding} (h : (i.find m).result = .ok finding) :
    ∃ c, (Context.ofMachine m i.propertiesFile).result = .ok c ∧ i.action.Finds c m finding := by
  obtain ⟨c, hload, hfound⟩ := Traced.result_bind_eq_ok_iff.1 h
  exact ⟨c, hload, Action.find_eq_ok_iff.1 hfound⟩

/-- A run that finds nothing. -/
lemma run_of_error {failure : Failure} (h : (i.find m).result = .error failure) :
    i.run m = if failure.isReported
      then ⟨2, failureText i.format failure, eventText i.verbose (i.find m).events, none⟩
      else ⟨1, "", eventText i.verbose (i.find m).events, some (.failure failure)⟩ := by
  simp only [run, h]

/-- A run that finds something. -/
lemma run_of_ok {finding : Finding} (h : (i.find m).result = .ok finding) :
    i.run m = match findingText i.format m finding with
      | .ok text => ⟨finding.exit, text, eventText i.verbose (i.find m).events, none⟩
      | .error e => ⟨1, "", eventText i.verbose (i.find m).events, some (.markup e)⟩ := by
  cases htext : findingText i.format m finding with
  | error e => simp only [run, h, htext]
  | ok text => simp only [run, h, htext]

/-- A run that finds something writes its text. -/
lemma run_of_findingText {finding : Finding} {text : String}
    (h : (i.find m).result = .ok finding)
    (htext : findingText i.format m finding = .ok text) :
    i.run m = ⟨finding.exit, text, eventText i.verbose (i.find m).events, none⟩ := by
  rw [run_of_ok h, htext]

/-- A run in JSON that finds something writes it. -/
lemma run_of_ok_json {finding : Finding} (hformat : i.format = .json)
    (h : (i.find m).result = .ok finding) :
    i.run m = ⟨finding.exit, finding.toJson.block ++ "\n",
      eventText i.verbose (i.find m).events, none⟩ := by
  refine run_of_findingText h ?_
  rw [hformat]
  rfl

/-- A failure that is not reported escapes. -/
lemma run_of_unreported {failure : Failure} (h : (i.find m).result = .error failure)
    (hunreported : failure.isReported = false) :
    i.run m = ⟨1, "", eventText i.verbose (i.find m).events, some (.failure failure)⟩ := by
  rw [run_of_error h, hunreported]
  rfl

end Invocation

end JavaHome.Command
