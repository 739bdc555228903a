import Mathlib.Tactic.Lemma
import JavaHome.Event
import JavaHome.Host
import JavaHome.Proofs.Text.LowerCase

/-!
# How executables are named

On Windows a name is to get the suffix `.exe` unless it ends in it, in whatever letter case. What is
asked is the suffix of the name, which is the part from its last dot on, provided that something
stands before that dot (`suffixOf_cases`). So the rule is followed for all names but one: the bare
suffix gets a second one (`executableName_by_rule_iff`).
-/

namespace JavaHome

open Text (SameLetters)

/-! ## Suffixes -/

namespace Path

variable {name stem tail : List Char}

lemma suffixOf_append (hstem : stem ≠ []) (htail : tail ≠ []) (hdot : '.' ∉ tail) :
    suffixOf (stem ++ '.' :: tail) = '.' :: tail := by
  have hreverse : (stem ++ '.' :: tail).reverse = tail.reverse ++ '.' :: stem.reverse := by simp
  have hpass : ∀ c ∈ tail.reverse, decide (c ≠ '.') = true := by
    intro c hmem
    rw [decide_eq_true_iff]
    rintro rfl
    exact hdot (List.mem_reverse.1 hmem)
  obtain ⟨c, others, hothers⟩ := List.exists_cons_of_ne_nil (List.reverse_ne_nil_iff.2 hstem)
  unfold suffixOf
  simp only [hreverse]
  rw [List.takeWhile_append_of_pos hpass, List.dropWhile_append_of_pos hpass,
    List.takeWhile_cons_of_neg (by decide), List.dropWhile_cons_of_neg (by decide), hothers,
    List.append_nil]
  simp [htail]

/-- A name has no suffix, or one after its last dot, with something before it. -/
lemma suffixOf_cases (name : List Char) : suffixOf name = [] ∨
    ∃ stem tail, stem ≠ [] ∧ name = stem ++ suffixOf name ∧ suffixOf name = '.' :: tail := by
  have hsplit := List.takeWhile_append_dropWhile (p := (· ≠ '.')) (l := name.reverse)
  have hhead := List.head?_dropWhile_not (· ≠ '.') name.reverse
  unfold suffixOf
  simp only
  split
  · rename_i d c others hrest
    split
    · exact .inl rfl
    · refine .inr ⟨(c :: others).reverse, _, by simp, ?_, rfl⟩
      rw [hrest] at hsplit hhead
      have hd : d = '.' := by simpa using hhead
      have hname := congrArg List.reverse hsplit
      rw [List.reverse_reverse, hd] at hname
      refine hname.symm.trans ?_
      rw [List.reverse_append, List.reverse_cons, List.append_assoc, List.singleton_append]
  · exact .inl rfl

end Path

namespace Host

variable {name : String} {p : Path}

/-- A name ends in the suffix of executables, in some letter case. -/
def HasExecutableSuffix (name : String) : Prop :=
  ∃ stem ending, name.toList = stem ++ ending ∧ SameLetters ending executableSuffix.toList

/-- A name is the suffix of executables and nothing else, in some letter case. -/
def IsBareSuffix (name : String) : Prop :=
  SameLetters name.toList executableSuffix.toList

instance : DecidablePred IsBareSuffix :=
  fun name => inferInstanceAs (Decidable (SameLetters name.toList executableSuffix.toList))

/-- The name of an executable by the rule of Windows: the name itself if it ends in the suffix, and
else the name with the suffix after it. -/
inductive NamedByRule (p : Path) : Path → Prop where
  | kept :
    HasExecutableSuffix p.name →
    NamedByRule p p
  | extended :
    ¬HasExecutableSuffix p.name →
    NamedByRule p (p.withName (p.name ++ executableSuffix))

/-! ## Names -/

lemma toLower_eq_dot {c : Char} (h : c.toLower = '.') : c = '.' := by
  have hall : ∀ n < 128, (Char.ofNat n).toLower = '.' → Char.ofNat n = '.' := by decide +kernel
  by_cases hc : c.toNat < 128
  · have hdot := hall c.toNat hc
    rw [Char.ofNat_toNat] at hdot
    exact hdot h
  · rwa [Text.toLower_of_le (Nat.le_of_not_lt hc)] at h

/-- What spells the suffix of executables is a dot and characters that are none. -/
lemma exists_tail_of_sameLetters {ending : List Char}
    (h : SameLetters ending executableSuffix.toList) :
    ∃ tail, ending = '.' :: tail ∧ tail ≠ [] ∧ '.' ∉ tail := by
  have hmap : ending.map Char.toLower = '.' :: ['e', 'x', 'e'] := h
  obtain ⟨d, tail, rfl, hd, htail⟩ := List.map_eq_cons_iff.1 hmap
  refine ⟨tail, by rw [toLower_eq_dot hd], ?_, fun hmem => ?_⟩
  · rintro rfl
    cases htail
  · have hdot := List.mem_map_of_mem (f := Char.toLower) hmem
    rw [htail] at hdot
    exact absurd hdot (by decide)

/-- The suffix of a name is that of executables if the name ends in it and does not begin with it.
-/
lemma sameLetters_suffixOf_iff {s : List Char} :
    SameLetters (Path.suffixOf s) executableSuffix.toList ↔
      ∃ stem ending, stem ≠ [] ∧ s = stem ++ ending ∧
        SameLetters ending executableSuffix.toList := by
  constructor
  · intro h
    rcases Path.suffixOf_cases s with hnone | ⟨stem, tail, hstem, hs, -⟩
    · rw [hnone] at h
      cases h
    · exact ⟨stem, _, hstem, hs, h⟩
  · rintro ⟨stem, ending, hstem, rfl, h⟩
    obtain ⟨tail, rfl, htail, hdot⟩ := exists_tail_of_sameLetters h
    rwa [Path.suffixOf_append hstem htail hdot]

lemma lower_suffix_iff :
    Text.lower p.suffix = executableSuffix ↔ SameLetters p.suffix.toList executableSuffix.toList :=
  Text.lower_eq_iff (by decide) (by decide)

/-- On Windows a name is kept if its suffix is that of executables. -/
lemma executableName_eq (h : Host) (p : Path) : h.executableName p =
    if h.isWindows = true ∧ ¬SameLetters p.suffix.toList executableSuffix.toList then
      if p.name = "" then .error (.nameless p) else .ok (p.withName (p.name ++ executableSuffix))
    else .ok p := by
  simp only [executableName, ne_eq, lower_suffix_iff]

/-- A name is recognised if it ends in the suffix and is not the bare suffix. -/
lemma recognised_iff : SameLetters p.suffix.toList executableSuffix.toList ↔
    HasExecutableSuffix p.name ∧ ¬IsBareSuffix p.name := by
  rw [Path.suffix, String.toList_ofList, sameLetters_suffixOf_iff]
  constructor
  · rintro ⟨stem, ending, hstem, hname, h⟩
    refine ⟨⟨stem, ending, hname, h⟩, fun hbare => hstem ?_⟩
    have hboth := congrArg List.length (hbare.trans h.symm)
    rw [hname, List.length_map, List.length_map, List.length_append] at hboth
    exact List.length_eq_zero_iff.1 (by omega)
  · rintro ⟨⟨stem, ending, hname, h⟩, hbare⟩
    refine ⟨stem, ending, ?_, hname, h⟩
    rintro rfl
    exact hbare (by rwa [IsBareSuffix, hname])

lemma hasExecutableSuffix_append (name : String) :
    HasExecutableSuffix (name ++ executableSuffix) :=
  ⟨name.toList, executableSuffix.toList, String.toList_append, rfl⟩

lemma not_isBareSuffix_append (hname : name ≠ "") : ¬IsBareSuffix (name ++ executableSuffix) := by
  intro hbare
  have hlength := congrArg List.length hbare
  rw [String.toList_append, List.length_map, List.length_map, List.length_append] at hlength
  have hnil : name.toList = [] := List.length_eq_zero_iff.1 (by omega)
  exact hname (String.toList_eq_nil_iff.1 hnil)

/-- What has got the suffix keeps its name. -/
lemma executableName_withName (h : Host) (hname : p.name ≠ "") :
    HasExecutableSuffix (p.withName (p.name ++ executableSuffix)).name ∧
      h.executableName (p.withName (p.name ++ executableSuffix)) =
        .ok (p.withName (p.name ++ executableSuffix)) := by
  have hlast : (p.withName (p.name ++ executableSuffix)).name = p.name ++ executableSuffix :=
    Path.name_child ..
  have hends := hasExecutableSuffix_append p.name
  have hlong := not_isBareSuffix_append hname
  rw [← hlast] at hends hlong
  refine ⟨hends, ?_⟩
  rw [executableName_eq, if_neg fun hboth => hboth.2 (recognised_iff.2 ⟨hends, hlong⟩)]

/-- The rule gives the suffix to a path if and only if its name does not end in it. -/
lemma namedByRule_withName_iff :
    NamedByRule p (p.withName (p.name ++ executableSuffix)) ↔ ¬HasExecutableSuffix p.name := by
  constructor
  · intro hrule
    generalize hq : p.withName (p.name ++ executableSuffix) = q at hrule
    cases hrule with
    | kept =>
      have hsame : p.name ++ executableSuffix = p.name :=
        (Path.name_child ..).symm.trans (congrArg Path.name hq)
      have hlength := congrArg (fun name => name.toList.length) hsame
      simp [executableSuffix] at hlength
    | extended hnone => exact hnone
  · exact .extended

/-- Every path with a name has a name as an executable, beside it and for good. On Windows this name
ends in the suffix, and it is that of the rule if and only if the path does not go by the bare
suffix; elsewhere it is the path itself. -/
theorem executableName_by_rule_iff (h : Host) (hname : p.name ≠ "") :
    ∃ q, h.executableName p = .ok q ∧ q.parent = p.parent ∧ h.executableName q = .ok q ∧
      (h.isWindows = true →
        HasExecutableSuffix q.name ∧ (NamedByRule p q ↔ ¬IsBareSuffix p.name) ∧
          (IsBareSuffix p.name → q = p.withName (p.name ++ executableSuffix))) ∧
      (h.isWindows = false → q = p) := by
  cases hwindows : h.isWindows with
  | false =>
    have hself : h.executableName p = .ok p := by
      rw [executableName_eq, hwindows]
      rfl
    exact ⟨p, hself, rfl, hself, nofun, fun _ => rfl⟩
  | true =>
    by_cases hsuffix : SameLetters p.suffix.toList executableSuffix.toList
    · obtain ⟨hends, hbare⟩ := recognised_iff.1 hsuffix
      have hself : h.executableName p = .ok p := by
        rw [executableName_eq, if_neg fun hboth => hboth.2 hsuffix]
      exact ⟨p, hself, rfl, hself,
        fun _ => ⟨hends, iff_of_true (.kept hends) hbare, fun hother => absurd hother hbare⟩, nofun⟩
    · have hextended : h.executableName p = .ok (p.withName (p.name ++ executableSuffix)) := by
        rw [executableName_eq, if_pos ⟨hwindows, hsuffix⟩, if_neg hname]
      obtain ⟨hends, hself⟩ := h.executableName_withName hname
      refine ⟨_, hextended, Path.parent_child .., hself, fun _ => ⟨hends, ?_, fun _ => rfl⟩, nofun⟩
      -- The bare suffix has the suffix, and is extended nevertheless.
      rw [namedByRule_withName_iff]
      constructor
      · exact fun hnone hbare => hnone ⟨[], _, rfl, hbare⟩
      · exact fun hbare hp => hsuffix (recognised_iff.2 ⟨hp, hbare⟩)

/-- Names with dots in front, on Windows: two dots before the suffix are a name with the suffix, and
a dot after it makes another suffix of it. -/
theorem executableName_by_rule_iff_dotted :
    (Host.mk .windows none).executableName (.ofString "bin/..EXE") = .ok (.ofString "bin/..EXE") ∧
      NamedByRule (.ofString "bin/..EXE") (.ofString "bin/..EXE") ∧
      (Host.mk .windows none).executableName (.ofString "bin/.exe.") =
        .ok (.ofString "bin/.exe..exe") ∧
      NamedByRule (.ofString "bin/.exe.") (.ofString "bin/.exe..exe") := by
  obtain ⟨q, hq, -, -, hwindows, -⟩ :=
    executableName_by_rule_iff (p := .ofString "bin/..EXE") ⟨.windows, none⟩ (by decide)
  obtain ⟨r, hr, -, -, hwindows', -⟩ :=
    executableName_by_rule_iff (p := .ofString "bin/.exe.") ⟨.windows, none⟩ (by decide)
  have hkept : (Host.mk .windows none).executableName (.ofString "bin/..EXE") =
      .ok (.ofString "bin/..EXE") := eq_ok_of_toOption (by decide)
  have hextended : (Host.mk .windows none).executableName (.ofString "bin/.exe.") =
      .ok (.ofString "bin/.exe..exe") := eq_ok_of_toOption (by decide)
  cases hq.symm.trans hkept
  cases hr.symm.trans hextended
  exact ⟨hkept, (hwindows rfl).2.1.2 (by decide), hextended, (hwindows' rfl).2.1.2 (by decide)⟩

/-- The bare suffix ends in the suffix and gets a second one. -/
theorem executableName_bareSuffix :
    HasExecutableSuffix (Path.ofString ".exe").name ∧
      (Host.mk .windows none).executableName (.ofString ".exe") ≠ .ok (.ofString ".exe") ∧
      (Host.mk .windows none).executableName (.ofString ".exe") = .ok (.ofString ".exe.exe") := by
  have hextended : (Host.mk .windows none).executableName (.ofString ".exe") =
      .ok (.ofString ".exe.exe") := eq_ok_of_toOption (by decide)
  refine ⟨⟨[], ['.', 'e', 'x', 'e'], by decide, rfl⟩, ?_, hextended⟩
  rw [hextended]
  intro h
  have hparts : [".exe.exe"] = [".exe"] := congrArg Path.parts (Except.ok.inj h)
  exact absurd hparts (by decide)

end Host

end JavaHome
