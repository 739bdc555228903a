import Mathlib.Tactic.Lemma
import JavaHome.Command.Invocation
import JavaHome.Event

/-!
# Command lines without switches in front

A command line that begins with its verb is what the words after the verb ask for
(`ofWords_verb`). A directory that is described in JSON, or searched for a tool in any format, is
asked for if its path can be looked up at all, and the reported installation is asked for in any
case.
-/

namespace JavaHome.Command

variable {m : Machine} {directory tool : String}

/-- Words that ask no question are read once the values of their switches are checked. -/
lemma readScope_eq {scope : Scope} {words operands : List String} {given : List Given}
    (hwords : readWords scope words = .ok (given, operands))
    (hquestion : checkQuestion scope given = .ok ()) :
    readScope m scope words =
      (given.forM fun g => checkSwitch m scope given g.switch).map fun _ => (given, operands) := by
  rw [readScope, hwords]
  change (checkQuestion scope given >>= fun _ => _) = _
  rw [hquestion]
  cases given.forM fun g => checkSwitch m scope given g.switch <;> rfl

/-- A verb ends the switches in front of it. -/
lemma readScope_program (verb : Verb) (rest : List String) :
    readScope m .program (verb.word :: rest) = .ok ([], verb.word :: rest) := by
  have hverb : readWord .program verb.word = .ok .operand := by
    apply readWord_eq_operand
    cases verb <;> decide
  have hwords : readWords .program (verb.word :: rest) = .ok ([], verb.word :: rest) := by
    simp only [readWords, hverb]
    rfl
  exact readScope_eq hwords rfl

/-- The words after a verb say what a command line asks for. -/
lemma ofWords_verb (verb : Verb) (rest : List String) :
    Invocation.ofWords m (verb.word :: rest) =
      readScope m (.verb verb) rest >>= fun (given, operands) =>
        (readAction m verb given operands).map (⟨none, false, formatOf given, ·⟩) := by
  have hverb : readVerb m verb.word rest = .ok verb := by
    have hword : Verb.ofWord? verb.word = some verb := by cases verb <;> decide
    rw [readVerb, hword]
  unfold Invocation.ofWords
  rw [if_neg (List.cons_ne_nil _ _)]
  simp only [readScope_program, hverb, bind, Except.bind, pure, Except.pure]
  cases readScope m (.verb verb) rest with
  | error stop => rfl
  | ok read =>
    obtain ⟨given, operands⟩ := read
    dsimp only
    cases readAction m verb given operands <;> rfl

/-- Every verb has a format. -/
lemma readWord_format (verb : Verb) :
    readWord (.verb verb) "--format" = .ok (.wanting .format) := by
  cases verb <;> rfl

/-- A directory is described if its path can be looked up. -/
lemma ofWords_home_eq (hdash : directory.toList.head? ≠ some '-') :
    Invocation.ofWords m ["home", directory, "--format", "json"] =
      (checkPath m directory).map fun _ => ⟨none, false, .json, .home directory⟩ := by
  have hwords : readWords (.verb .home) [directory, "--format", "json"] =
      .ok ([⟨.format, "json"⟩], [directory]) := by
    simp only [readWords, readWord_eq_operand hdash, readWord_format]
    rfl
  have haction : readAction m .home [⟨.format, "json"⟩] [directory] =
      (checkPath m directory).map fun _ => .home directory := by
    rw [readAction, oneOperand]
    cases checkPath m directory <;> rfl
  refine (ofWords_verb .home _).trans ?_
  rw [readScope_eq hwords rfl]
  change (readAction m .home [⟨.format, "json"⟩] [directory]).map _ = _
  rw [haction]
  cases checkPath m directory <;> rfl

lemma checkPath_eq_ok (hnull : m.tree.stat m.cwd directory ≠ .error .embeddedNull) :
    checkPath m directory = .ok () := by
  unfold checkPath
  split
  · rename_i hstat
    exact absurd hstat hnull
  · rfl

lemma checkPath_eq_error {stop : Stop} (h : checkPath m directory = .error stop) :
    stop = .failure .embeddedNull := by
  unfold checkPath at h
  split at h
  · cases h
    rfl
  · cases h

/-- A directory is described if its path holds no null character. -/
lemma ofWords_home (hdash : directory.toList.head? ≠ some '-')
    (hnull : m.tree.stat m.cwd directory ≠ .error .embeddedNull) :
    Invocation.ofWords m ["home", directory, "--format", "json"] =
      .ok ⟨none, false, .json, .home directory⟩ := by
  rw [ofWords_home_eq hdash, checkPath_eq_ok hnull]
  rfl

/-- A tool is looked for in a directory if the path of the directory can be looked up. -/
lemma ofWords_exec_home (format : Format) (htool : tool.toList.head? ≠ some '-') :
    Invocation.ofWords m ["exec", tool, "--home", directory, "--format", format.word] =
      (checkPath m directory).map fun _ => ⟨none, false, format, .exec tool directory⟩ := by
  have hhome : readWord (.verb .exec) "--home" = .ok (.wanting .home) := rfl
  have hwords : readWords (.verb .exec) [tool, "--home", directory, "--format", format.word] =
      .ok ([⟨.home, directory⟩, ⟨.format, format.word⟩], [tool]) := by
    simp only [readWords, readWord_eq_operand htool, hhome, readWord_format]
    rfl
  let given : List Given := [⟨.home, directory⟩, ⟨.format, format.word⟩]
  have hcheck : (given.forM fun g => checkSwitch m (.verb .exec) given g.switch) =
      checkPath m directory := by
    have hformat : checkSwitch m (.verb .exec) given .format = .ok () := by
      cases format <;> rfl
    change (checkPath m directory >>= fun _ =>
      checkSwitch m (.verb .exec) given .format >>= fun _ => .ok ()) = _
    rw [hformat]
    cases checkPath m directory <;> rfl
  refine (ofWords_verb .exec _).trans ?_
  rw [readScope_eq hwords rfl, hcheck]
  cases checkPath m directory <;> cases format <;> rfl

/-- A tool is looked for without a directory. -/
lemma ofWords_exec (format : Format) (htool : tool.toList.head? ≠ some '-') :
    Invocation.ofWords m ["exec", tool, "--format", format.word] =
      .ok ⟨none, false, format, .exec tool none⟩ := by
  have hwords : readWords (.verb .exec) [tool, "--format", format.word] =
      .ok ([⟨.format, format.word⟩], [tool]) := by
    simp only [readWords, readWord_eq_operand htool, readWord_format]
    rfl
  refine (ofWords_verb .exec _).trans ?_
  rw [readScope_eq hwords rfl]
  cases format <;> rfl

/-- The reported installation is described. -/
lemma ofWords_current :
    Invocation.ofWords m ["current", "--format", "json"] = .ok ⟨none, false, .json, .current⟩ := by
  have hwords : readWords (.verb .current) ["--format", "json"] =
      .ok ([⟨.format, "json"⟩], []) := by
    simp only [readWords, readWord_format]
    rfl
  refine (ofWords_verb .current _).trans ?_
  rw [readScope_eq hwords rfl]
  rfl

end JavaHome.Command
