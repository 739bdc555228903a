import Mathlib.Tactic.Lemma
import JavaHome.Proofs.Json.Reader

/-!
# Reading what was written

A layout is spaced if it sets nothing but white space and a comma between two members, as both
layouts of the writer do. In a spaced layout every value is read as the one that was written
(`decode_encodeAt`), and what is written is ASCII (`isAscii_encodeAt`).
-/

namespace JavaHome.Json

variable {layout : Layout} {fuel depth : Nat} {s rest : List Char}

/-! ## Values -/

/-- Values can be taken apart down to values that are no objects. -/
theorem memberInduction {P : Json → Prop} (null : P null) (bool : ∀ b, P (bool b))
    (string : ∀ s, P (string s))
    (object : ∀ members : List (String × Json), (∀ member ∈ members, P member.2) →
      P (object members)) : ∀ v, P v
  | .null => null
  | .bool b => bool b
  | .string s => string s
  | .object members => object members fun member _ =>
    memberInduction null bool string object member.2
  termination_by v => sizeOf v
  decreasing_by
    have hmember := List.sizeOf_lt_of_mem ‹member ∈ members›
    obtain ⟨name, value⟩ := member
    simp only [Prod.mk.sizeOf_spec, Json.object.sizeOf_spec] at hmember ⊢
    omega

/-- A layout sets nothing but white space, and a comma between two members. -/
structure Layout.Spaced (layout : Layout) : Prop where
  opening : ∀ depth, ∀ c ∈ layout.opening depth, isSpace c = true
  between : ∀ depth, ∃ spaces, layout.between depth = ',' :: spaces ∧ ∀ c ∈ spaces, isSpace c = true
  closing : ∀ depth, ∀ c ∈ layout.closing depth, isSpace c = true

lemma Layout.spaced_line : Layout.line.Spaced where
  opening _ := nofun
  between _ := by
    refine ⟨[' '], rfl, fun c hmem => ?_⟩
    rw [List.mem_singleton.1 hmem]
    rfl
  closing _ := nofun

private lemma isSpace_of_mem_newline (depth : Nat) : ∀ c ∈ newline depth, isSpace c = true := by
  intro c hmem
  rcases List.mem_cons.1 hmem with rfl | hmem
  · rfl
  · rw [List.eq_of_mem_replicate hmem]
    rfl

lemma Layout.spaced_block : Layout.block.Spaced where
  opening depth := isSpace_of_mem_newline (depth + 1)
  between depth := ⟨newline (depth + 1), rfl, isSpace_of_mem_newline (depth + 1)⟩
  closing depth := isSpace_of_mem_newline depth

lemma skipSpace_append {spaces : List Char} (h : ∀ c ∈ spaces, isSpace c = true) :
    skipSpace (spaces ++ s) = skipSpace s := by
  rw [skipSpace, List.dropWhile_append_of_pos h]
  rfl

lemma skipSpace_encodeString (text : String) :
    skipSpace (encodeString text ++ rest) = encodeString text ++ rest := rfl

lemma readSign_append {sign : Char} {spaces : List Char} (h : ∀ c ∈ spaces, isSpace c = true) :
    readSign sign (spaces ++ s) = readSign sign s := by
  unfold readSign
  rw [skipSpace_append h]

lemma readValue_space : readValue fuel (' ' :: s) = readValue fuel s := by
  cases fuel with
  | zero => rfl
  | succ fuel =>
    have hskip : skipSpace (' ' :: s) = skipSpace s := rfl
    rw [readValue, readValue, hskip]

/-- A quote begins a string. -/
lemma readValue_quote : readValue (fuel + 1) ('"' :: s) =
    (readString ('"' :: s)).map fun (text, rest) => (string text, rest) := rfl

/-- A brace begins an object, with members unless it is closed at once. -/
lemma readValue_brace (h : readSign '}' s = none) : readValue (fuel + 1) ('{' :: s) =
    (readMembers fuel s).map fun (members, rest) => (object members, rest) := by
  have hskip : skipSpace ('{' :: s) = '{' :: s := rfl
  simp only [readValue, hskip, h]

/-- What is written for a member: its name, a colon, and its value. -/
def encodeMember (layout : Layout) (depth : Nat) (member : String × Json) : List Char :=
  encodeString member.1 ++ [':', ' '] ++ encodeAt layout (depth + 1) member.2

lemma encodeRest_cons (member : String × Json) (more : List (String × Json)) :
    encodeRest layout depth (member :: more) =
      layout.between depth ++ encodeMember layout depth member ++ encodeRest layout depth more := by
  obtain ⟨name, value⟩ := member
  rw [encodeRest, encodeMember]
  simp only [List.append_assoc]

lemma encodeAt_object_cons (member : String × Json) (more : List (String × Json)) :
    encodeAt layout depth (object (member :: more)) =
      '{' :: (layout.opening depth ++ encodeMember layout depth member ++
        encodeRest layout depth more ++ layout.closing depth ++ ['}']) := by
  obtain ⟨name, value⟩ := member
  rw [encodeAt, encodeMember]
  simp only [List.append_assoc, List.cons_append]

/-- A value is read as it was written, at any depth and with anything after it. -/
def IsReadBack (layout : Layout) (v : Json) : Prop :=
  ∀ depth fuel rest, (encodeAt layout depth v).length ≤ fuel →
    readValue fuel (encodeAt layout depth v ++ rest) = some (v, rest)

/-- A member whose value is read back is read, and then what the sign after it asks for. -/
lemma readMembers_member {member : String × Json} (hread : IsReadBack layout member.2)
    {spaces : List Char} (hspaces : ∀ c ∈ spaces, isSpace c = true)
    (h : (encodeMember layout depth member).length ≤ fuel + 1) :
    readMembers (fuel + 1) (spaces ++ (encodeMember layout depth member ++ s)) =
      match readSign ',' s with
      | some rest => (readMembers fuel rest).map fun (more, rest) => (member :: more, rest)
      | none => (readSign '}' s).map fun rest => ([member], rest) := by
  have hlength : (encodeAt layout (depth + 1) member.2).length ≤ fuel := by
    rw [encodeMember, List.length_append, List.length_append] at h
    simp only [List.length_cons, List.length_nil] at h
    omega
  have hvalue := hread (depth + 1) fuel s hlength
  have hcolon : readSign ':' ([':', ' '] ++ (encodeAt layout (depth + 1) member.2 ++ s)) =
      some (' ' :: (encodeAt layout (depth + 1) member.2 ++ s)) := rfl
  rw [readMembers, skipSpace_append hspaces, encodeMember, List.append_assoc, List.append_assoc,
    skipSpace_encodeString, readString_encodeString]
  simp only [Option.bind_eq_bind, Option.bind_some]
  rw [hcolon]
  simp only [Option.bind_some]
  rw [readValue_space, hvalue]
  simp only [Option.bind_some]
  cases readSign ',' s with
  | none =>
    dsimp only
    cases readSign '}' s <;> rfl
  | some rest =>
    dsimp only
    cases readMembers fuel rest <;> rfl

private lemma length_encodeMember_pos (member : String × Json) :
    0 < (encodeMember layout depth member).length := by
  rw [encodeMember, List.length_append, List.length_append]
  simp only [List.length_cons]
  omega

/-- Members are read up to the brace after them if their values are read back. -/
lemma readMembers_encode (hspaced : layout.Spaced) {member : String × Json}
    {more : List (String × Json)} (hread : ∀ other ∈ member :: more, IsReadBack layout other.2)
    {spaces : List Char} (hspaces : ∀ c ∈ spaces, isSpace c = true)
    (h : (encodeMember layout depth member ++ encodeRest layout depth more).length ≤ fuel) :
    readMembers fuel (spaces ++ (encodeMember layout depth member ++
      (encodeRest layout depth more ++ (layout.closing depth ++ '}' :: rest)))) =
      some (member :: more, rest) := by
  induction more generalizing member fuel spaces with
  | nil =>
    rw [encodeRest, List.append_nil] at h
    obtain ⟨fuel, rfl⟩ := Nat.exists_eq_add_of_le'
      (Nat.le_trans (length_encodeMember_pos member) h)
    rw [readMembers_member (hread member (List.mem_cons_self ..)) hspaces h, encodeRest,
      List.nil_append, readSign_append (hspaced.closing depth),
      readSign_append (hspaced.closing depth)]
    rfl
  | cons next more ih =>
    obtain ⟨between, hbetween, hspaces'⟩ := hspaced.between depth
    have hcomma : ∀ s, readSign ',' (',' :: s) = some s := fun _ => rfl
    have hpos : 0 < (encodeMember layout depth member).length := length_encodeMember_pos member
    rw [encodeRest_cons, hbetween] at h
    simp only [List.length_append, List.length_cons] at h
    obtain ⟨fuel, rfl⟩ := Nat.exists_eq_add_of_le' (show 1 ≤ fuel by omega)
    rw [readMembers_member (hread member (List.mem_cons_self ..)) hspaces (by omega),
      encodeRest_cons, hbetween, List.cons_append, List.cons_append, List.cons_append, hcomma]
    simp only [List.append_assoc]
    rw [ih (fun other hmem => hread other (List.mem_cons_of_mem _ hmem)) hspaces'
      (by rw [List.length_append]; omega)]
    rfl

/-- A value is read as it was written, in every layout of white space. -/
lemma isReadBack (hspaced : layout.Spaced) (v : Json) : IsReadBack layout v := by
  induction v using memberInduction with
  | null =>
    intro depth fuel rest h
    cases fuel with
    | zero => simp [encodeAt] at h
    | succ fuel => rfl
  | bool b =>
    intro depth fuel rest h
    cases fuel with
    | zero => cases b <;> simp [encodeAt] at h
    | succ fuel => cases b <;> rfl
  | string text =>
    intro depth fuel rest h
    cases fuel with
    | zero => simp [encodeAt, encodeString] at h
    | succ fuel =>
      have htext := readString_encodeString text rest
      rw [encodeString, List.cons_append, List.cons_append] at htext
      rw [encodeAt, encodeString, List.cons_append, List.cons_append, readValue_quote, htext,
        Option.map_some]
  | object members ih =>
    intro depth fuel rest h
    cases fuel with
    | zero => cases members <;> simp [encodeAt] at h
    | succ fuel =>
      cases members with
      | nil => rfl
      | cons member more =>
        rw [encodeAt_object_cons] at h
        simp only [List.length_append, List.length_cons] at h
        have hlength : (encodeMember layout depth member ++ encodeRest layout depth more).length ≤
            fuel := by
          rw [List.length_append]
          omega
        have hmembers : readMembers fuel (layout.opening depth ++
            (encodeMember layout depth member ++ (encodeRest layout depth more ++
              (layout.closing depth ++ '}' :: rest)))) = some (member :: more, rest) :=
          readMembers_encode hspaced (fun other hmem => ih other hmem) (hspaced.opening depth)
            hlength
        have hnone : ∀ s, readSign '}' (layout.opening depth ++
            (encodeMember layout depth member ++ s)) = none := by
          intro s
          rw [readSign_append (hspaced.opening depth)]
          rfl
        rw [encodeAt_object_cons]
        simp only [List.append_assoc, List.cons_append, List.nil_append]
        rw [readValue_brace (hnone _), hmembers, Option.map_some]

/-- What is written in a layout of white space is read as the value that was written. -/
theorem decode_encodeAt (hspaced : layout.Spaced) (depth : Nat) (v : Json) (spaces : List Char)
    (hspaces : ∀ c ∈ spaces, isSpace c = true) :
    decode (encodeAt layout depth v ++ spaces) = some v := by
  have hend : skipSpace spaces = [] := by
    rw [← List.append_nil spaces, skipSpace_append hspaces]
    rfl
  have hread := isReadBack hspaced v depth (encodeAt layout depth v ++ spaces).length spaces
    (by rw [List.length_append]; omega)
  rw [decode, hread]
  simp only [Option.bind_eq_bind, Option.bind_some, hend, if_true]
  rfl

/-! ## The characters of what is written -/

/-- All characters of a text are ASCII. -/
def IsAscii (s : List Char) : Prop :=
  ∀ c ∈ s, c.toNat < 0x80

lemma IsAscii.nil : IsAscii [] :=
  List.forall_mem_nil _

lemma IsAscii.append {t : List Char} (hs : IsAscii s) (ht : IsAscii t) : IsAscii (s ++ t) := by
  intro c hmem
  rcases List.mem_append.1 hmem with hmem | hmem
  · exact hs c hmem
  · exact ht c hmem

lemma IsAscii.cons {c : Char} (hc : c.toNat < 0x80) (hs : IsAscii s) : IsAscii (c :: s) := by
  intro d hmem
  rcases List.mem_cons.1 hmem with rfl | hmem
  · exact hc
  · exact hs d hmem

lemma isAscii_of_isSpace (h : ∀ c ∈ s, isSpace c = true) : IsAscii s := by
  intro c hmem
  have hspace := h c hmem
  simp only [isSpace, Bool.or_eq_true, beq_iff_eq] at hspace
  rcases hspace with ((rfl | rfl) | rfl) | rfl <;> decide

private lemma isAscii_hexDigits (width n : Nat) : IsAscii (Text.hexDigits width n) := by
  have hdigit : ∀ d < 16, (Nat.digitChar d).toNat < 0x80 := by decide
  induction width generalizing n with
  | zero => exact .nil
  | succ width ih =>
    rw [Text.hexDigits]
    have hlast := hdigit _ (Nat.mod_lt n (by decide))
    exact (ih _).append (.cons hlast .nil)

lemma isAscii_unitEscape (unit : Nat) : IsAscii (unitEscape unit) :=
  .cons (by decide) (.cons (by decide) (isAscii_hexDigits 4 unit))

lemma isAscii_encodeChar (c : Char) : IsAscii (encodeChar c) := by
  have hwritten := isWritten_encodeChar c
  generalize encodeChar c = written at hwritten
  cases hwritten with
  | letter _ _ hascii => exact .cons (by decide) (.cons hascii .nil)
  | plain _ _ _ hascii => exact .cons hascii .nil
  | unit _ => exact isAscii_unitEscape _
  | units _ => exact (isAscii_unitEscape _).append (isAscii_unitEscape _)

lemma isAscii_encodeString (text : String) : IsAscii (encodeString text) := by
  have hchars : IsAscii (text.toList.flatMap encodeChar) := by
    intro c hmem
    obtain ⟨written, -, hc⟩ := List.mem_flatMap.1 hmem
    exact isAscii_encodeChar written c hc
  exact .append (.cons (by decide) hchars) (.cons (by decide) .nil)

lemma isAscii_encodeMember {member : String × Json}
    (h : IsAscii (encodeAt layout (depth + 1) member.2)) :
    IsAscii (encodeMember layout depth member) := by
  have hcolon : IsAscii [':', ' '] := .cons (by decide) (.cons (by decide) .nil)
  exact ((isAscii_encodeString _).append hcolon).append h

lemma isAscii_encodeRest (hspaced : layout.Spaced) {more : List (String × Json)}
    (h : ∀ member ∈ more, IsAscii (encodeAt layout (depth + 1) member.2)) :
    IsAscii (encodeRest layout depth more) := by
  induction more with
  | nil => exact .nil
  | cons member more ih =>
    obtain ⟨hmember, hmore⟩ := List.forall_mem_cons.1 h
    obtain ⟨spaces, hbetween, hspaces⟩ := hspaced.between depth
    rw [encodeRest_cons, hbetween]
    exact ((IsAscii.cons (by decide) (isAscii_of_isSpace hspaces)).append
      (isAscii_encodeMember hmember)).append (ih hmore)

/-- Values are written in ASCII, in every layout of white space. -/
theorem isAscii_encodeAt (hspaced : layout.Spaced) (v : Json) :
    ∀ depth, IsAscii (encodeAt layout depth v) := by
  have hword : ∀ word : String, (word.toList.all fun c => c.toNat < 0x80) = true →
      IsAscii word.toList := by
    intro word h c hmem
    simpa using List.all_eq_true.1 h c hmem
  induction v using memberInduction with
  | null => exact fun _ => hword "null" (by decide)
  | bool b =>
    intro _
    cases b with
    | false => exact hword "false" (by decide)
    | true => exact hword "true" (by decide)
  | string text => exact fun _ => isAscii_encodeString text
  | object members ih =>
    intro depth
    cases members with
    | nil => exact .cons (by decide) (.cons (by decide) .nil)
    | cons member more =>
      rw [encodeAt_object_cons]
      refine .cons (by decide) (.append (.append (.append (.append ?_ ?_) ?_) ?_) ?_)
      · exact isAscii_of_isSpace (hspaced.opening depth)
      · exact isAscii_encodeMember (ih member (List.mem_cons_self ..) (depth + 1))
      · exact isAscii_encodeRest hspaced fun other hmem =>
          ih other (List.mem_cons_of_mem _ hmem) (depth + 1)
      · exact isAscii_of_isSpace (hspaced.closing depth)
      · exact .cons (by decide) .nil

end JavaHome.Json
