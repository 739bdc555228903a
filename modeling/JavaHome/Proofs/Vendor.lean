import Mathlib.Computability.Language
import Mathlib.Tactic.Lemma
import JavaHome.Installation.Basic

/-!
# Variables of the launcher

The names of the variables that the launcher of macOS sets are a regular language: one of two stems,
an underscore, and one or more decimal digits (`launcherNames`). A name belongs to it if and only if
it is tested positive (`isLauncherVariable_iff`), so the installations of Apple hand on all
variables but these, in their order and with their values (`inheritable_without_launcher`).
-/

namespace JavaHome

variable {α : Type}

namespace Vendor

open Computability

/-- A name is a stem and, up to its end, one or more decimal digits. -/
def IsNumberedName (stem name : String) : Prop :=
  ∃ digits, digits ≠ [] ∧ (∀ digit ∈ digits, Text.isDigit digit = true) ∧
    name.toList = stem.toList ++ digits

/-- A name is one of those that the launcher gives to its variables. -/
def IsLauncherName (name : String) : Prop :=
  IsNumberedName "APP_NAME_" name ∨ IsNumberedName "JAVA_MAIN_CLASS_" name

/-- A decimal digit. -/
def digit : Language Char :=
  {s | ∃ c, Text.isDigit c = true ∧ s = [c]}

/-- The names that the launcher gives to its variables, as an expression. -/
def launcherNames : Language Char :=
  ({"APP_NAME".toList} + {"JAVA_MAIN_CLASS".toList}) * {"_".toList} * (digit * digit∗)

/-! ## Names -/

lemma cons_mem_digit_mul {c : Char} {s : List Char} {l : Language Char} :
    c :: s ∈ digit * l ↔ Text.isDigit c = true ∧ s ∈ l := by
  rw [Language.mem_mul]
  constructor
  · rintro ⟨_, ⟨d, hd, rfl⟩, rest, hrest, h⟩
    cases h
    exact ⟨hd, hrest⟩
  · rintro ⟨hc, hs⟩
    exact ⟨[c], ⟨c, hc, rfl⟩, s, hs, rfl⟩

/-- Repeated digits are texts of digits. -/
lemma mem_kstar_digit {s : List Char} : s ∈ digit∗ ↔ ∀ c ∈ s, Text.isDigit c = true := by
  induction s with
  | nil => exact iff_of_true (Language.nil_mem_kstar _) nofun
  | cons c s ih =>
    rw [List.forall_mem_cons, ← ih, ← cons_mem_digit_mul,
      ← Language.one_add_self_mul_kstar_eq_kstar, Language.mem_add, Language.mem_one,
      Language.one_add_self_mul_kstar_eq_kstar]
    exact or_iff_right (List.cons_ne_nil c s)

lemma mem_digit_mul_kstar {s : List Char} :
    s ∈ digit * digit∗ ↔ s ≠ [] ∧ ∀ c ∈ s, Text.isDigit c = true := by
  cases s with
  | nil =>
    refine iff_of_false ?_ fun h => h.1 rfl
    rintro ⟨_, ⟨c, -, rfl⟩, rest, -, h⟩
    cases h
  | cons c s =>
    rw [cons_mem_digit_mul, mem_kstar_digit, List.forall_mem_cons]
    exact (and_iff_right (List.cons_ne_nil c s)).symm

/-- The expression spells the stems with their numbers. -/
lemma mem_launcherNames_iff (name : String) :
    name.toList ∈ launcherNames ↔ IsLauncherName name := by
  have hstem (stem : String) : (∃ digits ∈ digit * digit∗, stem.toList ++ digits = name.toList) ↔
      IsNumberedName stem name := by
    constructor
    · rintro ⟨digits, hdigits, h⟩
      obtain ⟨hne, hall⟩ := mem_digit_mul_kstar.1 hdigits
      exact ⟨digits, hne, hall, h.symm⟩
    · rintro ⟨digits, hne, hall, h⟩
      exact ⟨digits, mem_digit_mul_kstar.2 ⟨hne, hall⟩, h.symm⟩
  rw [IsLauncherName, ← hstem, ← hstem, launcherNames, Language.mem_mul]
  constructor
  · rintro ⟨_, ⟨_, hstem, _, rfl, rfl⟩, digits, hdigits, h⟩
    rcases hstem with rfl | rfl
    · exact .inl ⟨digits, hdigits, h⟩
    · exact .inr ⟨digits, hdigits, h⟩
  · rintro (⟨digits, hdigits, h⟩ | ⟨digits, hdigits, h⟩)
    · exact ⟨_, ⟨_, .inl rfl, _, rfl, rfl⟩, digits, hdigits, h⟩
    · exact ⟨_, ⟨_, .inr rfl, _, rfl, rfl⟩, digits, hdigits, h⟩

lemma isNumbered_iff {stem name : String} :
    isNumbered stem name = true ↔ IsNumberedName stem name := by
  unfold isNumbered IsNumberedName Text.isNumeral
  simp only [Bool.and_eq_true, Bool.not_eq_true', List.isEmpty_eq_false_iff, List.all_eq_true,
    List.isPrefixOf_iff_prefix]
  constructor
  · rintro ⟨⟨digits, hname⟩, hne, hall⟩
    rw [← hname, List.drop_left] at hne hall
    exact ⟨digits, hne, hall, hname.symm⟩
  · rintro ⟨digits, hne, hall, hname⟩
    rw [hname, List.drop_left]
    exact ⟨List.prefix_append .., hne, hall⟩

lemma isLauncherVariable_iff {name : String} :
    isLauncherVariable name = true ↔ IsLauncherName name := by
  rw [isLauncherVariable, Bool.or_eq_true, isNumbered_iff, isNumbered_iff, IsLauncherName]

instance : DecidablePred IsLauncherName :=
  fun name => decidable_of_iff (isLauncherVariable name = true) isLauncherVariable_iff

/-! ## Entries -/

/-- The names of entries. -/
def names (entries : List (String × α)) : List String :=
  entries.map Prod.fst

/-- Two environments in one: each entry of the first with the value that the second may give it, and
then the entries that only the second has. -/
def overlay (entries more : List (String × α)) : List (String × α) :=
  (entries.map fun entry => (entry.1, (more.lookup entry.1).getD entry.2)) ++
    more.filter (·.1 ∉ names entries)

lemma lookup_eq_head?_filter (entries : List (String × α)) (name : String) :
    entries.lookup name = ((entries.filter (name == ·.1)).head?).map Prod.snd := by
  induction entries with
  | nil => rfl
  | cons entry rest ih =>
    obtain ⟨other, value⟩ := entry
    rw [List.lookup_cons, List.filter_cons]
    cases name == other with
    | true => rfl
    | false => exact ih

/-- A name has a value among the inherited entries if it has one at all and is inherited. -/
lemma lookup_inheritable (v : Vendor) (entries : List (String × α)) (name : String) :
    (v.inheritable entries).lookup name =
      if v.inherits name then entries.lookup name else none := by
  have hboth : (v.inheritable entries).filter (name == ·.1) =
      (entries.filter (name == ·.1)).filter fun _ => v.inherits name := by
    unfold inheritable
    rw [List.filter_filter, List.filter_filter]
    apply List.filter_congr
    intro entry _
    cases hname : name == entry.1 with
    | true => rw [beq_iff_eq.1 hname, Bool.true_and, Bool.and_true]
    | false => rw [Bool.false_and, Bool.and_false]
  rw [lookup_eq_head?_filter, lookup_eq_head?_filter, hboth]
  cases v.inherits name with
  | true => rw [List.filter_eq_self.2 fun _ _ => rfl, if_pos rfl]
  | false =>
    rw [List.filter_eq_nil_iff.2 fun _ _ => by decide, if_neg (by decide)]
    rfl

lemma mem_names_inheritable {v : Vendor} {entries : List (String × α)} {name : String}
    (h : v.inherits name = true) : name ∈ names (v.inheritable entries) ↔ name ∈ names entries := by
  constructor
  · intro hmem
    obtain ⟨entry, hentry, rfl⟩ := List.mem_map.1 hmem
    exact List.mem_map_of_mem (List.mem_filter.1 hentry).1
  · intro hmem
    obtain ⟨entry, hentry, rfl⟩ := List.mem_map.1 hmem
    exact List.mem_map_of_mem (List.mem_filter.2 ⟨hentry, h⟩)

/-- What is inherited of two environments is inherited of each of them. -/
lemma inheritable_overlay (v : Vendor) (entries more : List (String × α)) :
    v.inheritable (overlay entries more) =
      overlay (v.inheritable entries) (v.inheritable more) := by
  have hfirst : v.inheritable (entries.map fun entry =>
        (entry.1, (more.lookup entry.1).getD entry.2)) =
      (v.inheritable entries).map fun entry =>
        (entry.1, ((v.inheritable more).lookup entry.1).getD entry.2) := by
    unfold inheritable
    rw [List.filter_map]
    refine List.map_congr_left fun entry hmem => ?_
    have hkept : v.inherits entry.1 = true := (List.mem_filter.1 hmem).2
    have hlookup := lookup_inheritable v more entry.1
    rw [hkept, if_pos rfl, inheritable] at hlookup
    rw [hlookup]
  have hsecond : v.inheritable (more.filter (·.1 ∉ names entries)) =
      (v.inheritable more).filter (·.1 ∉ names (v.inheritable entries)) := by
    change (more.filter _).filter _ = (more.filter (v.inherits ·.1)).filter _
    rw [List.filter_filter, List.filter_filter]
    refine List.filter_congr fun entry _ => ?_
    cases hkept : v.inherits entry.1 with
    | true => simp only [Bool.true_and, Bool.and_true, mem_names_inheritable hkept]
    | false => rw [Bool.false_and, Bool.and_false]
  rw [overlay, overlay, ← hfirst, ← hsecond]
  exact List.filter_append ..

/-- What is inherited is inherited again. -/
lemma inheritable_inheritable (v : Vendor) (entries : List (String × α)) :
    v.inheritable (v.inheritable entries) = v.inheritable entries := by
  unfold inheritable
  rw [List.filter_filter]
  simp only [Bool.and_self]

lemma inheritable_eq_self {v : Vendor} (h : v ≠ .apple) (entries : List (String × α)) :
    v.inheritable entries = entries := by
  refine List.filter_eq_self.2 fun _ _ => ?_
  cases v with
  | generic => rfl
  | apple => exact absurd rfl h
  | ibm => rfl

end Vendor

/-- An installation of Apple hands on the entries whose names are not those of the launcher, and any
other one all of them. To do so twice changes nothing, and the order in which environments are put
together and handed on does not matter. -/
theorem Installation.inheritable_without_launcher (i : Installation)
    (entries more : List (String × α)) :
    (∀ name : String, name.toList ∈ Vendor.launcherNames ↔ Vendor.IsLauncherName name) ∧
      i.vendor.inheritable entries =
        (if i.vendor = .apple then entries.filter fun entry => ¬Vendor.IsLauncherName entry.1
          else entries) ∧
      i.vendor.inheritable (i.vendor.inheritable entries) = i.vendor.inheritable entries ∧
      i.vendor.inheritable (Vendor.overlay entries more) =
        Vendor.overlay (i.vendor.inheritable entries) (i.vendor.inheritable more) := by
  refine ⟨Vendor.mem_launcherNames_iff, ?_, Vendor.inheritable_inheritable ..,
    Vendor.inheritable_overlay ..⟩
  split
  · rename_i happle
    rw [happle]
    refine List.filter_congr fun entry _ => ?_
    rw [Vendor.inherits, Bool.eq_iff_iff, Bool.not_eq_true', ← Bool.not_eq_true,
      Vendor.isLauncherVariable_iff, decide_eq_true_iff]
  · rename_i hother
    exact Vendor.inheritable_eq_self hother entries

example : Vendor.apple.inheritable [("APP_NAME_12", 1), ("APP_NAME_12\n", 2), ("APP_NAME_", 3),
    ("JAVA_MAIN_CLASS_٣", 4), ("XAPP_NAME_1", 5), ("PATH", 6)] =
    [("APP_NAME_12\n", 2), ("APP_NAME_", 3), ("XAPP_NAME_1", 5), ("PATH", 6)] := by
  decide

end JavaHome
