import Mathlib.Tactic.Lemma
import JavaHome.Proofs.Installation.Executable

/-!
# Search paths one after the other

A search path that is put together of two is searched as the first one and then as the second, even
where entries come again or are empty (`findInPath_append`). So entries that are added at the end
change no answer to a lookup that has found the tool.
-/

namespace JavaHome

open Installation (bareRuntime linkedTool relativeContext)

/-- The first element of a kind is the first one among those that come for the first time. -/
lemma find?_eraseDups {α : Type} [BEq α] [LawfulBEq α] (test : α → Bool) (l : List α) :
    l.eraseDups.find? test = l.find? test := by
  induction hn : l.length using Nat.strongRecOn generalizing l with
  | ind n ih =>
    cases l with
    | nil => rfl
    | cons a rest =>
      rw [List.eraseDups_cons]
      cases ha : test a with
      | true => rw [List.find?_cons_of_pos ha, List.find?_cons_of_pos ha]
      | false =>
        have hlength : (rest.filter fun b => !b == a).length < n := by
          rw [← hn]
          exact Nat.lt_succ_of_le (List.length_filter_le ..)
        rw [List.find?_cons_of_neg (by simp [ha]), List.find?_cons_of_neg (by simp [ha]),
          ih _ hlength _ rfl, List.find?_filter]
        -- What equals the first element is not of the kind either.
        congr
        funext b
        by_cases hb : b = a
        · simp [hb, ha]
        · simp [hb]

variable {c : Context} {m : Machine} {i : Installation} {tool command p q : String}

/-- The context with another search path. -/
def Context.searching (c : Context) (searchPath : String) : Context :=
  { c with host := { c.host with searchPath := some searchPath } }

namespace Host

lemma searchEntries_searching (hp : p ≠ "") :
    (c.searching p).host.searchEntries m = Text.fields ':' p := by
  change (if p = "" then [] else Text.fields ':' p) = _
  rw [if_neg hp]

/-- The entries of two search paths with a colon between them. -/
lemma searchEntries_append (hp : p ≠ "") (hq : q ≠ "") :
    (c.searching (p ++ ":" ++ q)).host.searchEntries m =
      (c.searching p).host.searchEntries m ++ (c.searching q).host.searchEntries m := by
  have hne : p ++ ":" ++ q ≠ "" := by
    intro h
    have hlength := congrArg (fun s : String => s.toList.length) h
    simp at hlength
  rw [searchEntries_searching hne, searchEntries_searching hp, searchEntries_searching hq]
  exact Text.fields_append ':' p q

/-- The first of two search paths is searched first. -/
lemma findCommand_append (hp : p ≠ "") (hq : q ≠ "") :
    (c.searching (p ++ ":" ++ q)).host.findCommand m command =
      ((c.searching p).host.findCommand m command).or
        ((c.searching q).host.findCommand m command) := by
  rw [findCommand_eq, findCommand_eq, findCommand_eq, searchEntries_append hp hq, List.map_append,
    List.find?_append]
  split
  · exact (Option.or_self ..).symm
  · rfl

lemma findInPath_eq_or (hp : p ≠ "") (hq : q ≠ "") :
    (c.searching (p ++ ":" ++ q)).host.findInPath m command =
      ((c.searching p).host.findInPath m command).or
        ((c.searching q).host.findInPath m command) := by
  rw [findInPath, findCommand_append hp hq, Option.map_or]
  rfl

/-- Entries that come again do not matter. -/
lemma findCommand_of_eraseDups (hp : p ≠ "") (hq : q ≠ "")
    (h : (Text.fields ':' q).eraseDups = (Text.fields ':' p).eraseDups) :
    (c.searching q).host.findCommand m command = (c.searching p).host.findCommand m command := by
  rw [findCommand_eq, findCommand_eq, searchEntries_searching hp, searchEntries_searching hq,
    List.find?_map, List.find?_map, ← find?_eraseDups _ (Text.fields ':' q), h, find?_eraseDups]

end Host

namespace Installation

/-- A lookup that has found the tool comes to the same, in the same way, when entries are added to
the search path. -/
lemma executable_append {e : Executable} (hp : p ≠ "") (hq : q ≠ "")
    (h : (i.executable (c.searching p) m tool).result = .ok e) (hfound : e.source ≠ .unresolved) :
    i.executable (c.searching (p ++ ":" ++ q)) m tool = i.executable (c.searching p) m tool := by
  rcases outcome_or_breaksOff (c.searching p) m i tool with
    ⟨candidate, htool, hshort, houtcome⟩ | ⟨failure, hfailure, -⟩
  · rw [h] at houtcome
    have hother : i.toolPath (c.searching (p ++ ":" ++ q)) m tool = .ok candidate := htool
    unfold executable
    rw [Traced.ofExcept_bind_ok _ htool, Traced.ofExcept_bind_ok _ hother]
    cases houtcome with
    | home hfile =>
      have hanswer : m.isFile candidate = .ok true :=
        Machine.answer_eq_true_iff.2 (Machine.holdsFile_iff.1 hfile)
      rw [Traced.ofExcept_bind_ok _ hanswer, Traced.ofExcept_bind_ok _ hanswer]
      rfl
    | onPath hfile _ hpath =>
      have hanswer : m.isFile candidate = .ok false :=
        Machine.answer_eq_false_iff.2 ⟨fun hholds => hfile (Machine.holdsFile_iff.2 hholds), hshort⟩
      rw [Traced.ofExcept_bind_ok _ hanswer, Traced.ofExcept_bind_ok _ hanswer,
        Host.findInPath_eq_or hp hq, hpath]
      rfl
    | unresolved => exact absurd rfl hfound
  · cases h.symm.trans hfailure

end Installation

/-- Two search paths one after the other are searched in this order: the first entry in which the
command runs wins, whichever of the two it comes from, and entries that come again do not matter. A
lookup that has found the tool comes to the same when entries are added to the search path. -/
theorem Host.findInPath_append (c : Context) (m : Machine) (hp : p ≠ "") (hq : q ≠ "") :
    (∀ command,
      (c.searching (p ++ ":" ++ q)).host.findInPath m command =
        ((c.searching p).host.findInPath m command).or
          ((c.searching q).host.findInPath m command)) ∧
    (∀ command found, (c.searching p).host.findInPath m command = some found ↔
      ∃ written, (c.searching p).host.Finds m command written ∧
        (Path.ofString written).absolute m.cwd = found) ∧
    ((Text.fields ':' q).eraseDups = (Text.fields ':' p).eraseDups → ∀ command,
      (c.searching q).host.findInPath m command = (c.searching p).host.findInPath m command) ∧
    ∀ i tool e, (Installation.executable (c.searching p) m i tool).result = .ok e →
      e.source = .home ∨ e.source = .path →
      Installation.executable (c.searching (p ++ ":" ++ q)) m i tool =
        Installation.executable (c.searching p) m i tool := by
  refine ⟨fun command => findInPath_eq_or hp hq, fun command found => findInPath_eq_some_iff,
    fun hsame command => ?_, fun i tool e he hsource => ?_⟩
  · rw [findInPath, findInPath, findCommand_of_eraseDups hp hq hsame]
  · refine Installation.executable_append hp hq he ?_
    rcases hsource with hsource | hsource
    · rw [hsource]
      decide
    · rw [hsource]
      decide

theorem Host.findInPath_append_linkedTool :
    (relativeContext.searching "nowhere:").host.findInPath linkedTool "javac" = none ∧
      (relativeContext.searching ("nowhere:" ++ ":" ++ ".//bin/:bin")).host.findInPath linkedTool
        "javac" = some (.ofLocation ["work", "bin", "javac"]) ∧
      ((bareRuntime.executable (relativeContext.searching ("bin" ++ ":" ++ "/tools")) linkedTool
        "javac").result = .ok ⟨"javac", .ofLocation ["work", "bin", "javac"], .path⟩) := by
  have hfirst :
      (relativeContext.searching "nowhere:").host.findInPath linkedTool "javac" = none := by
    decide +kernel
  have hsecond : (relativeContext.searching ".//bin/:bin").host.findInPath linkedTool "javac" =
      some (.ofLocation ["work", "bin", "javac"]) := by
    decide +kernel
  have hshort :
      (bareRuntime.executable (relativeContext.searching "bin") linkedTool "javac").result =
      .ok ⟨"javac", .ofLocation ["work", "bin", "javac"], .path⟩ :=
    eq_ok_of_toOption (by decide +kernel)
  refine ⟨hfirst, ?_, ?_⟩
  · rw [(findInPath_append relativeContext linkedTool (by decide) (by decide)).1, hfirst, hsecond]
    rfl
  · rw [(findInPath_append relativeContext linkedTool (by decide) (by decide)).2.2.2 _ _ _ hshort
      (.inr rfl)]
    exact hshort

end JavaHome
