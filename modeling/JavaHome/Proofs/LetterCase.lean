import JavaHome.Proofs.Host.Naming
import JavaHome.Proofs.Installation.Home

/-!
# Letter case

Names of vendors, of run-time environments and of executables are compared in lower case. What they
are compared with is plain, so these tests come to the same as if they only looked past the case of
the letters of ASCII (`ascii_case_decides`): no letter from beyond ASCII passes for one of these,
and none that grows in lower case moves the others out of place.
-/

namespace JavaHome

open Text (SameLetters)

variable {c : Context} {m : Machine}

/-- A vendor is told by the start of a name, up to the letters of ASCII. -/
lemma Vendor.ofName_eq (name : String) : ofName name =
    if SameLetters (name.toList.take 10) "apple inc.".toList then .apple
    else if SameLetters (name.toList.take 15) "ibm corporation".toList then .ibm
    else .generic := by
  have happle : "apple inc.".toList.isPrefixOf (Text.lowerCase name.toList) = true ↔
      SameLetters (name.toList.take 10) "apple inc.".toList :=
    Text.isPrefixOf_lowerCase_iff (by decide) (by decide)
  have hibm : "ibm corporation".toList.isPrefixOf (Text.lowerCase name.toList) = true ↔
      SameLetters (name.toList.take 15) "ibm corporation".toList :=
    Text.isPrefixOf_lowerCase_iff (by decide) (by decide)
  simp only [ofName, happle, hibm]

/-- The two names that are known begin with different letters. -/
lemma Vendor.not_sameLetters_ibm {s : List Char}
    (happle : SameLetters (s.take 10) "apple inc.".toList) :
    ¬SameLetters (s.take 15) "ibm corporation".toList := by
  intro hibm
  cases s with
  | nil => cases happle
  | cons c rest =>
    have hletter := (List.cons.inj happle).1.symm.trans (List.cons.inj hibm).1
    exact absurd hletter (by decide)

/-- A vendor is told by the first of two tests that is passed. -/
lemma Vendor.eq_of_tests {p q : Prop} [Decidable p] [Decidable q] (hboth : p → ¬q) :
    ((if p then Vendor.apple else if q then .ibm else .generic) = .apple ↔ p) ∧
      ((if p then Vendor.apple else if q then .ibm else .generic) = .ibm ↔ q) ∧
      ((if p then Vendor.apple else if q then .ibm else .generic) = .generic ↔ ¬p ∧ ¬q) := by
  by_cases hp : p
  · simp [hp, hboth hp]
  · by_cases hq : q
    · simp [hp, hq]
    · simp [hp, hq]

/-- What is reported tells a vendor, also where nothing is reported. -/
lemma Vendor.ofReported_iff (name : Option String) :
    (ofReported name = .apple ↔
        ∃ s, name = some s ∧ SameLetters (s.toList.take 10) "apple inc.".toList) ∧
      (ofReported name = .ibm ↔
        ∃ s, name = some s ∧ SameLetters (s.toList.take 15) "ibm corporation".toList) ∧
      (ofReported name = .generic ↔
        ∀ s, name = some s → ¬SameLetters (s.toList.take 10) "apple inc.".toList ∧
          ¬SameLetters (s.toList.take 15) "ibm corporation".toList) := by
  cases name with
  | none => simp [ofReported, ofName_eq, SameLetters]
  | some s =>
    rw [ofReported, Option.getD_some, ofName_eq]
    simp only [Option.some.injEq, exists_eq_left', forall_eq']
    exact eq_of_tests not_sameLetters_ibm

lemma Path.isJre_iff {p : Path} : p.isJre = true ↔ SameLetters p.name.toList "jre".toList := by
  rw [Path.isJre, decide_eq_true_iff]
  exact Text.lower_eq_iff (by decide) (by decide)

namespace Context

/-- The archives that are looked for from a base: its own, and those that Windows puts beside it. -/
def baseArchives (c : Context) (base : Path) : List Path :=
  (base :: c.siblingKits base).map archiveOf

/-- The archives that are looked for from a run-time environment: its own, and those that are looked
for from the directory around it. -/
def runtimeArchives (c : Context) (base : Path) : List Path :=
  archiveOf base :: c.baseArchives base.parent

lemma map_archiveOf_kits (c : Context) (base : Path) : (c.kits base).map archiveOf =
    if SameLetters base.name.toList "jre".toList then c.runtimeArchives base
    else c.baseArchives base := by
  simp only [kits, Path.isJre_iff]
  split <;> rfl

lemma evidence_eq (c : Context) (base : Path) : c.evidence base =
    if SameLetters base.name.toList "jre".toList
      then c.runtimeArchives base ++ [(base.parent.child "bin").child "java"]
      else c.baseArchives base := by
  rw [evidence, map_archiveOf_kits]
  simp only [Path.isJre_iff]
  split
  · rfl
  · exact List.append_nil _

end Context

/-- The tests that ignore letter case are decided by the letters of ASCII alone. A vendor is the one
whose name the reported name begins with; an installation lies around a base whose name is `jre`,
and around no other; a name is that of an executable on Windows if its suffix is `.exe`. -/
theorem ascii_case_decides :
    (∀ name : Option String,
      (Vendor.ofReported name = .apple ↔
        ∃ s, name = some s ∧ SameLetters (s.toList.take 10) "apple inc.".toList) ∧
      (Vendor.ofReported name = .ibm ↔
        ∃ s, name = some s ∧ SameLetters (s.toList.take 15) "ibm corporation".toList) ∧
      (Vendor.ofReported name = .generic ↔
        ∀ s, name = some s → ¬SameLetters (s.toList.take 10) "apple inc.".toList ∧
          ¬SameLetters (s.toList.take 15) "ibm corporation".toList)) ∧
    (∀ (c : Context) (m : Machine) (base : Path),
      c.developmentArchive m base = m.firstExisting
        (if SameLetters base.name.toList "jre".toList then c.runtimeArchives base
          else c.baseArchives base) ∧
      (c.findHome m base).result = (m.firstExisting
        (if SameLetters base.name.toList "jre".toList
          then c.runtimeArchives base ++ [(base.parent.child "bin").child "java"]
          else c.baseArchives base)).map (Context.homeFrom base)) ∧
    ∀ (h : Host) (p : Path), h.executableName p =
      if h.isWindows = true ∧ ¬SameLetters p.suffix.toList ".exe".toList then
        if p.name = "" then .error (.nameless p) else .ok (p.withName (p.name ++ ".exe"))
      else .ok p := by
  refine ⟨Vendor.ofReported_iff, fun c m base => ⟨?_, ?_⟩, Host.executableName_eq⟩
  · rw [Context.developmentArchive_eq_firstExisting, Context.map_archiveOf_kits]
  · rw [Context.findHome_eq_firstExisting, Context.evidence_eq]

example : Vendor.ofReported (some "APPLE İNC.") = .generic ∧
    Vendor.ofReported (some "aPPLE Inc. Σ") = .apple ∧ Vendor.ofReported none = .generic := by
  decide +kernel

end JavaHome
