import Mathlib.Tactic.Lemma
import JavaHome.Proofs.Installation.Enclosing
import JavaHome.Proofs.Vendor

/-!
# What moves a home away from its base

A base is its own home unless something speaks for another one: an archive or a `java` in the
directory around a run-time environment, or an archive in a kit that Windows puts beside it
(`SpeaksFor`). Nothing else matters: machines that agree on these few places, and contexts that
agree on what is asked there, come to the same home by the same decisions (`findHome_on_evidence`).
-/

namespace JavaHome.Context

variable {c d : Context} {m other : Machine} {base home p : Path}

/-- A name is `jre` and one or more decimal digits. -/
def IsNumberedRuntime (name : String) : Prop :=
  ∃ digits, digits ≠ [] ∧ (∀ digit ∈ digits, Text.isDigit digit = true) ∧
    name.toList = "jre".toList ++ digits

/-- The directory beside which Windows may put a kit: the base, or the directory around it if the
base is a run-time environment. -/
def numberedDirectory (base : Path) : Path :=
  if base.isJre then base.parent else base

/-- The kit of the reported version beside a directory. -/
def kitBeside (c : Context) (directory : Path) : Path :=
  directory.parent.join (.ofString ("jdk" ++ c.properties.version))

/-- What speaks for a home other than the base. -/
inductive SpeaksFor (c : Context) (m : Machine) (base : Path) : Path → Prop where
  | archiveAround :
    base.isJre = true →
    m.HoldsAnything (archiveOf base.parent) →
    SpeaksFor c m base base.parent
  | javaAround :
    base.isJre = true →
    m.HoldsAnything ((base.parent.child "bin").child "java") →
    SpeaksFor c m base base.parent
  | archiveBeside :
    c.host.isWindows = true →
    IsNumberedRuntime (numberedDirectory base).name →
    m.HoldsAnything (archiveOf (c.kitBeside (numberedDirectory base))) →
    SpeaksFor c m base (c.kitBeside (numberedDirectory base))

/-- Two contexts agree on what is asked about a base, and two machines on the answers. -/
structure AgreeOn (c : Context) (m : Machine) (d : Context) (other : Machine) (base : Path) :
    Prop where
  isWindows : d.host.isWindows = c.host.isWindows
  version : c.host.isWindows = true → d.properties.version = c.properties.version
  ownArchive : other.pathExists (archiveOf base) = m.pathExists (archiveOf base)
  archiveAround : base.isJre = true →
    other.pathExists (archiveOf base.parent) = m.pathExists (archiveOf base.parent)
  javaAround : base.isJre = true →
    other.pathExists ((base.parent.child "bin").child "java") =
      m.pathExists ((base.parent.child "bin").child "java")
  archiveBeside : c.host.isWindows = true → IsNumberedRuntime (numberedDirectory base).name →
    other.pathExists (archiveOf (c.kitBeside (numberedDirectory base))) =
      m.pathExists (archiveOf (c.kitBeside (numberedDirectory base)))

/-! ## The places that are asked for -/

lemma mem_siblingKits_iff {directory : Path} : p ∈ c.siblingKits directory ↔
    c.host.isWindows = true ∧ IsNumberedRuntime directory.name ∧ p = c.kitBeside directory := by
  have hnumbered : Vendor.isNumbered "jre" directory.name = true ↔
      IsNumberedRuntime directory.name := Vendor.isNumbered_iff
  unfold siblingKits kitBeside
  rw [← hnumbered]
  split
  · rename_i h
    simp [h]
  · rename_i h
    simp only [List.not_mem_nil, false_iff]
    exact fun hp => h ⟨hp.1, hp.2.1⟩

lemma mem_kits_iff : p ∈ c.kits base ↔
    p = base ∨ base.isJre = true ∧ p = base.parent ∨
      p ∈ c.siblingKits (numberedDirectory base) := by
  unfold kits numberedDirectory
  cases base.isJre with
  | true => simp
  | false => simp

lemma mem_evidence_iff : p ∈ c.evidence base ↔
    (∃ kit ∈ c.kits base, p = archiveOf kit) ∨
      base.isJre = true ∧ p = (base.parent.child "bin").child "java" := by
  unfold evidence
  cases base.isJre with
  | true => simp [eq_comm]
  | false => simp [eq_comm]

/-- What is found speaks for the base, or for another home. -/
lemma speaksFor_of_mem_evidence (hmem : p ∈ c.evidence base) (hholds : m.HoldsAnything p) :
    p = archiveOf base ∨ c.SpeaksFor m base p.parent.parent := by
  rcases mem_evidence_iff.1 hmem with ⟨kit, hkit, rfl⟩ | ⟨hjre, rfl⟩
  · have hparent : (archiveOf kit).parent.parent = kit := by
      simp [archiveOf, Path.library]
    rw [hparent]
    rcases mem_kits_iff.1 hkit with rfl | ⟨hjre, rfl⟩ | hsibling
    · exact .inl rfl
    · exact .inr (.archiveAround hjre hholds)
    · obtain ⟨hwindows, hnumbered, rfl⟩ := mem_siblingKits_iff.1 hsibling
      exact .inr (.archiveBeside hwindows hnumbered hholds)
  · rw [Path.parent_child, Path.parent_child]
    exact .inr (.javaAround hjre hholds)

/-- What speaks for another home is among the evidence. -/
lemma SpeaksFor.exists_evidence (h : c.SpeaksFor m base home) :
    ∃ p ∈ c.evidence base, m.HoldsAnything p := by
  cases h with
  | archiveAround hjre hholds =>
    exact ⟨_, mem_evidence_iff.2 (.inl ⟨_, parent_mem_kits hjre, rfl⟩), hholds⟩
  | javaAround hjre hholds => exact ⟨_, mem_evidence_iff.2 (.inr ⟨hjre, rfl⟩), hholds⟩
  | archiveBeside hwindows hnumbered hholds =>
    have hsibling := mem_siblingKits_iff.2 ⟨hwindows, hnumbered, rfl⟩
    have hkit := mem_kits_iff.2 (.inr (.inr hsibling))
    exact ⟨_, mem_evidence_iff.2 (.inl ⟨_, hkit, rfl⟩), hholds⟩

/-! ## Other homes are elsewhere -/

/-- The path of a kit beside a directory goes on with a name that begins with `jdk`. -/
lemma exists_parts_sibling (version : String) :
    ∃ field others, (Path.ofString ("jdk" ++ version)).parts =
      String.ofList ('j' :: 'd' :: 'k' :: field) :: others := by
  obtain ⟨field, rest, hfields⟩ :=
    List.exists_cons_of_ne_nil (Text.fieldsOf_ne_nil '/' version.toList)
  have hsibling : Text.fields '/' ("jdk" ++ version) =
      String.ofList ('j' :: 'd' :: 'k' :: field) :: rest.map String.ofList := by
    simp [Text.fields, Text.fieldsOf, Text.consField, hfields]
  have hne : ∀ short : String, short.toList.length < 3 →
      String.ofList ('j' :: 'd' :: 'k' :: field) ≠ short := by
    rintro short hshort rfl
    rw [String.toList_ofList] at hshort
    simp only [List.length_cons] at hshort
    omega
  have hstep : Path.isStep (String.ofList ('j' :: 'd' :: 'k' :: field)) = true := by
    simp only [Path.isStep, Bool.and_eq_true, decide_eq_true_eq]
    exact ⟨hne "" (by decide), hne "." (by decide)⟩
  refine ⟨field, (rest.map String.ofList).filter Path.isStep, ?_⟩
  rw [Path.ofString, hsibling, List.filter_cons_of_pos hstep]

/-- The name of the numbered directory stands in the path of the base. -/
lemma getElem?_numberedDirectory (hname : (numberedDirectory base).name ≠ "") :
    base.parts[(numberedDirectory base).parent.parts.length]? =
      some (numberedDirectory base).name := by
  have hlast : ∀ q : Path, q.name ≠ "" → q.parts = q.parent.parts ++ [q.name] := by
    intro q hq
    unfold Path.name at hq ⊢
    cases h : q.parts.getLast? with
    | none =>
      rw [h] at hq
      exact absurd rfl hq
    | some last =>
      obtain ⟨front, hfront⟩ := List.getLast?_eq_some_iff.1 h
      simp [Path.parent, hfront]
  have hparts := hlast _ hname
  generalize hd : numberedDirectory base = directory at hparts ⊢
  unfold numberedDirectory at hd
  split at hd
  · rename_i hjre
    have hbase : base.name ≠ "" := by
      intro h
      rw [Path.isJre, h] at hjre
      exact absurd hjre (by decide)
    rw [hlast base hbase, hd, hparts]
    simp
  · subst hd
    rw [hparts]
    simp [Path.parent]

/-- A kit beside the base is another directory, whatever the version says. -/
lemma kitBeside_ne (hnumbered : IsNumberedRuntime (numberedDirectory base).name) :
    c.kitBeside (numberedDirectory base) ≠ base := by
  obtain ⟨digits, -, -, hname⟩ := hnumbered
  obtain ⟨field, others, hparts⟩ := exists_parts_sibling c.properties.version
  have hne : (numberedDirectory base).name ≠ "" := by
    intro h
    rw [h] at hname
    cases hname
  have hrelative : ¬(Path.ofString ("jdk" ++ c.properties.version)).isAbsolute = true := by
    rw [Path.isAbsolute_ofString]
    exact c.head?_sibling
  intro h
  have hat := getElem?_numberedDirectory hne
  rw [← congrArg Path.parts h, kitBeside, Path.join, if_neg hrelative, hparts] at hat
  -- In the place of a name that begins with `jre` the kit has one that begins with `jdk`.
  rw [List.getElem?_append_right (Nat.le_refl _), Nat.sub_self, List.getElem?_cons_zero,
    Option.some.injEq] at hat
  rw [← hat, String.toList_ofList] at hname
  cases hname

/-- What speaks for another home speaks for one that is not the base. -/
lemma SpeaksFor.ne_base (h : c.SpeaksFor m base home) : home ≠ base := by
  cases h with
  | archiveAround hjre => exact parent_ne_of_isJre hjre
  | javaAround hjre => exact parent_ne_of_isJre hjre
  | archiveBeside _ hnumbered => exact kitBeside_ne hnumbered

/-! ## The home -/

/-- A home is the base, which has an archive or nothing speaks for another home, or it is one that
something speaks for. -/
lemma speaksFor_of_findHome (h : (c.findHome m base).result = .ok home) :
    home = base ∧ (m.HoldsAnything (archiveOf base) ∨ ∀ p, ¬c.SpeaksFor m base p) ∨
      c.SpeaksFor m base home := by
  rw [findHome_eq_firstExisting] at h
  obtain ⟨found, hfound, rfl⟩ := map_eq_ok_iff.1 h
  cases found with
  | none =>
    refine .inl ⟨rfl, .inr fun p hspeaks => ?_⟩
    obtain ⟨q, hmem, hholds⟩ := hspeaks.exists_evidence
    exact Machine.not_holdsAnything_of_firstExisting hfound hmem hholds
  | some p =>
    obtain ⟨hmem, hholds⟩ := Machine.holdsAnything_of_firstExisting hfound
    rcases speaksFor_of_mem_evidence hmem hholds with rfl | hspeaks
    · exact .inl ⟨by simp [homeFrom, archiveOf, Path.library], .inl hholds⟩
    · exact .inr hspeaks

/-! ## Nothing else matters -/

/-- Machines that agree on some paths find the same among them. -/
lemma firstExisting_congr {paths : List Path}
    (h : ∀ p ∈ paths, other.pathExists p = m.pathExists p) :
    other.firstExisting paths = m.firstExisting paths := by
  induction paths with
  | nil => rfl
  | cons p rest ih =>
    rw [List.forall_mem_cons] at h
    rw [Machine.firstExisting, Machine.firstExisting, h.1, ih h.2]

/-- Contexts that agree look for an archive in the same kits. -/
lemma AgreeOn.kits_eq (h : AgreeOn c m d other base) : d.kits base = c.kits base := by
  have hsiblings : ∀ directory, d.siblingKits directory = c.siblingKits directory := by
    intro directory
    unfold siblingKits
    rw [h.isWindows]
    split
    · rename_i hwindows
      rw [h.version hwindows.1]
    · rfl
  rw [kits, kits, hsiblings, hsiblings]

/-- Machines that agree hold the archives of the same kits. -/
lemma AgreeOn.pathExists_archiveOf (h : AgreeOn c m d other base) {kit : Path}
    (hkit : kit ∈ c.kits base) :
    other.pathExists (archiveOf kit) = m.pathExists (archiveOf kit) := by
  rcases mem_kits_iff.1 hkit with rfl | ⟨hjre, rfl⟩ | hsibling
  · exact h.ownArchive
  · exact h.archiveAround hjre
  · obtain ⟨hwindows, hnumbered, rfl⟩ := mem_siblingKits_iff.1 hsibling
    exact h.archiveBeside hwindows hnumbered

/-- Where contexts and machines agree, homes are decided in the same way. -/
lemma AgreeOn.findHome_eq (h : AgreeOn c m d other base) :
    d.findHome other base = c.findHome m base := by
  have harchive : d.developmentArchive other base = c.developmentArchive m base := by
    rw [developmentArchive_eq_firstExisting, developmentArchive_eq_firstExisting, h.kits_eq]
    apply firstExisting_congr
    intro p hmem
    obtain ⟨kit, hkit, rfl⟩ := List.mem_map.1 hmem
    exact h.pathExists_archiveOf hkit
  unfold findHome
  rw [harchive]
  by_cases hjre : base.isJre = true
  · rw [h.javaAround hjre]
  · simp only [if_neg hjre]

/-- A base that has an archive is its own home. Otherwise the home is another directory exactly if
something speaks for one, and then something speaks for this one. Contexts and machines that agree
on the few places where something may speak for a home come to the same. -/
theorem findHome_on_evidence (c : Context) (m : Machine) (base : Path) :
    (∀ home, (c.findHome m base).result = .ok home →
      (m.HoldsAnything (archiveOf base) → home = base) ∧
      (home ≠ base ↔ ¬m.HoldsAnything (archiveOf base) ∧ ∃ p, c.SpeaksFor m base p) ∧
      (home ≠ base → c.SpeaksFor m base home)) ∧
    ∀ d other, AgreeOn c m d other base → d.findHome other base = c.findHome m base := by
  refine ⟨fun home hhome => ?_, fun d other => AgreeOn.findHome_eq⟩
  have hown : m.HoldsAnything (archiveOf base) → home = base := by
    intro hholds
    rw [Machine.HoldsAnything, ← Machine.answer_eq_true_iff, ← Machine.pathExists_eq_answer]
      at hholds
    cases (findHome_of_archive (c := c) hholds).symm.trans hhome
    rfl
  rcases speaksFor_of_findHome hhome with ⟨rfl, hstays⟩ | hspeaks
  · refine ⟨hown, ⟨fun hne => absurd rfl hne, ?_⟩, fun hne => absurd rfl hne⟩
    rintro ⟨hnone, p, hp⟩
    rcases hstays with hholds | hnothing
    · exact absurd hholds hnone
    · exact absurd hp (hnothing p)
  · have hne := hspeaks.ne_base
    exact ⟨hown, ⟨fun _ => ⟨fun hholds => hne (hown hholds), home, hspeaks⟩, fun _ => hne⟩,
      fun _ => hspeaks⟩

/-- The kit and its run-time environment on another machine, where the kit is elsewhere and a link
stands in its place. -/
def linkedSibling : Machine where
  tree := ⟨[
    ("Java", .directory [("jre6", .directory [("bin", .directory [])]),
      ("jdk1.6.0", .link "/opt")]),
    ("opt", .directory [("lib", .directory [("tools.jar", .file [] false)])])]⟩
  cwd := ["opt"]
  environment := [("JAVA_HOME", "/opt")]
  systemName := "Windows"

/-- Another context that asks for the same kit. -/
def siblingReport : Context :=
  ⟨⟨.windows, some "/bin"⟩, ⟨"/opt", "IBM Corporation", "1.6.0", "2.4"⟩⟩

theorem findHome_on_evidence_linkedSibling :
    ∃ home, (siblingContext.findHome siblingKit (.ofLocation ["Java", "jre6"])).result = .ok home ∧
      home ≠ .ofLocation ["Java", "jre6"] ∧
      siblingContext.SpeaksFor siblingKit (.ofLocation ["Java", "jre6"]) home ∧
      AgreeOn siblingContext siblingKit siblingReport linkedSibling (.ofLocation ["Java", "jre6"]) ∧
      siblingReport.findHome linkedSibling (.ofLocation ["Java", "jre6"]) =
        siblingContext.findHome siblingKit (.ofLocation ["Java", "jre6"]) := by
  have hhome : (siblingContext.findHome siblingKit (.ofLocation ["Java", "jre6"])).result =
      .ok (.ofLocation ["Java", "jdk1.6.0"]) :=
    eq_ok_of_toOption (by decide)
  have hnotJre : ¬(Path.ofLocation ["Java", "jre6"]).isJre = true := by decide
  have hagree : AgreeOn siblingContext siblingKit siblingReport linkedSibling
      (.ofLocation ["Java", "jre6"]) := {
    isWindows := rfl
    version := fun _ => rfl
    ownArchive :=
      (eq_ok_of_toOption (a := false) (by decide)).trans
        (eq_ok_of_toOption (by decide)).symm
    archiveAround := fun hjre => absurd hjre hnotJre
    javaAround := fun hjre => absurd hjre hnotJre
    archiveBeside := fun _ _ =>
      (eq_ok_of_toOption (a := true) (by decide +kernel)).trans
        (eq_ok_of_toOption (by decide)).symm }
  have hne : Path.ofLocation ["Java", "jdk1.6.0"] ≠ .ofLocation ["Java", "jre6"] := by
    decide
  obtain ⟨hmoves, hlocal⟩ :=
    findHome_on_evidence siblingContext siblingKit (.ofLocation ["Java", "jre6"])
  exact ⟨_, hhome, hne, (hmoves _ hhome).2.2 hne, hagree, hlocal _ _ hagree⟩

end JavaHome.Context
