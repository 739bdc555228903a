import Mathlib.Tactic.Lemma
import JavaHome.Proofs.Terminal.Emoji
import JavaHome.Result
import JavaHome.Terminal.Markup

/-!
# Laws of markup

A text is plain if it has no tag, no backslash before an opening bracket, and no emoji code. Plain
texts are the ones that are read as they stand (`plain_eq_self_iff`): every tag, escape and code
that is read takes marks away, and nothing brings marks back (`isPlain_of_countP_le`).
-/

namespace JavaHome.Terminal.Markup

variable {s before content : List Char} {fuel position : Nat}

/-- No tag opens in a text. -/
def NoTag (s : List Char) : Prop :=
  ∀ before after, s = before ++ '[' :: after → tagContent? after = none

/-- No tag of a text begins with an at sign or mixes a color. What such tags call for is left out of
the model. -/
def CallFree (s : List Char) : Prop :=
  ∀ content position, .tag content position ∈ pieces s →
    content.head? ≠ some '@' ∧ ¬"rgb(".toList <:+: Text.lowerCase content

/-- A text in which nothing is markup. -/
structure IsPlain (s : List Char) : Prop where
  noTag : NoTag s
  noEscape : ¬['\\', '['] <:+: s
  noCode : Emoji.CodeFree s

/-! ## Escapes -/

/-- Escapes take backslashes away. -/
lemma countP_unescape (s : List Char) :
    (unescape s).countP isMark ≤ s.countP isMark ∧
      (s.countP isMark ≤ (unescape s).countP isMark → ¬['\\', '['] <:+: s) := by
  fun_induction unescape s with
  | case1 => exact ⟨Nat.le_refl _, fun _ h => by simp at h⟩
  | case2 rest ih =>
    have hslash : isMark '\\' = true := rfl
    rw [List.countP_cons, List.countP_cons, List.countP_cons, hslash, if_pos rfl]
    exact ⟨by omega, fun h => by omega⟩
  | case3 c rest hescape ih =>
    rw [List.countP_cons, List.countP_cons]
    refine ⟨by omega, fun h hinfix => ?_⟩
    rcases List.infix_cons_iff.1 hinfix with hprefix | hinfix
    · obtain ⟨tail, htail⟩ := hprefix
      cases htail
      exact hescape tail rfl rfl
    · exact ih.2 (by omega) hinfix

/-- A text without escapes stays as it is. -/
lemma unescape_eq_self (h : ¬['\\', '['] <:+: s) : unescape s = s := by
  fun_induction unescape s with
  | case1 => rfl
  | case2 rest => exact absurd ⟨[], rest, rfl⟩ h
  | case3 c rest _ ih => rw [ih fun hinfix => h (List.infix_cons_iff.2 (.inr hinfix))]

/-! ## Tags -/

lemma noTag_nil : NoTag [] := by
  intro before after h
  simp at h

lemma noTag_cons {c : Char} {rest : List Char} :
    NoTag (c :: rest) ↔ (c = '[' → tagContent? rest = none) ∧ NoTag rest := by
  constructor
  · intro h
    refine ⟨fun hc => h [] rest (by rw [hc]; rfl), fun before after hrest => ?_⟩
    exact h (c :: before) after (by rw [hrest]; rfl)
  · rintro ⟨hfirst, hrest⟩ before after h
    cases before with
    | nil =>
      cases h
      exact hfirst rfl
    | cons d before =>
      cases h
      exact hrest before after rfl

/-- The content of a tag is followed by its closing bracket. -/
lemma eq_append_of_tagContent? {rest : List Char} (h : tagContent? rest = some content) :
    rest = content ++ ']' :: rest.drop (content.length + 1) := by
  unfold tagContent? at h
  split at h
  · cases h
  · rename_i c tail
    simp only [Text.drop_length_takeWhile, Option.ite_none_right_eq_some, Bool.and_eq_true,
      beq_iff_eq, Option.some.injEq] at h
    obtain ⟨⟨-, hclosed⟩, rfl⟩ := h
    rw [← List.drop_drop, Text.drop_length_takeWhile]
    cases hrest : (c :: tail).dropWhile fun c => decide (c ≠ ']') && decide (c ≠ '[') with
    | nil =>
      rw [hrest] at hclosed
      cases hclosed
    | cons d after =>
      rw [hrest] at hclosed
      cases hclosed
      rw [List.drop_one, List.tail_cons, ← hrest, List.takeWhile_append_dropWhile]

/-- The text of a piece. -/
def Piece.chars : Piece → List Char
  | plain text => text
  | tag _ _ => []

/-- The marks in pieces. -/
def marksOf (parts : List Piece) : Nat :=
  (parts.flatMap Piece.chars).countP isMark

lemma marksOf_append (left right : List Piece) :
    marksOf (left ++ right) = marksOf left + marksOf right := by
  simp [marksOf]

lemma marksOf_plainPiece (text : List Char) : marksOf (plainPiece text) = text.countP isMark := by
  unfold plainPiece
  split
  · rename_i h
    rw [h]
    rfl
  · simp [marksOf, Piece.chars]

/-- A tag takes marks away. -/
lemma marksOf_tagPieces_lt (before content : List Char) (position : Nat) :
    marksOf (tagPieces before content position) <
      before.countP isMark + 1 + content.countP isMark := by
  have hslashes : (before.takeWhile (· == '\\')).countP isMark =
      (before.takeWhile (· == '\\')).length := by
    rw [List.countP_eq_length]
    intro c hmem
    have hc := List.all_eq_true.1 List.all_takeWhile c hmem
    rw [eq_of_beq hc]
    rfl
  have hbefore := congrArg (List.countP isMark)
    (List.takeWhile_append_dropWhile (p := (· == '\\')) (l := before))
  rw [List.countP_append, hslashes] at hbefore
  have hslash : isMark '\\' = true := rfl
  simp only [tagPieces, Text.drop_length_takeWhile, marksOf_append, marksOf_plainPiece,
    List.countP_reverse, List.countP_replicate, hslash, if_true]
  split
  · have hescaped : marksOf [.plain ('[' :: content ++ [']'])] = 1 + content.countP isMark := by
      simp [marksOf, Piece.chars, isMark]
      omega
    omega
  · have htag : marksOf [.tag content position] = 0 := rfl
    omega

/-! ## Pieces -/

/-- The pieces of a text have its marks, or fewer if there is a tag. -/
lemma marksOf_piecesFrom (before : List Char) (position : Nat) (hfuel : s.length ≤ fuel) :
    marksOf (piecesFrom fuel before position s) ≤ before.countP isMark + s.countP isMark ∧
      (before.countP isMark + s.countP isMark ≤ marksOf (piecesFrom fuel before position s) →
        NoTag s) := by
  induction fuel generalizing before position s with
  | zero =>
    cases List.length_eq_zero_iff.1 (Nat.le_zero.1 hfuel)
    rw [piecesFrom, marksOf_plainPiece, List.countP_reverse]
    exact ⟨Nat.le_refl _, fun _ => noTag_nil⟩
  | succ fuel ih =>
    cases s with
    | nil =>
      rw [piecesFrom, marksOf_plainPiece, List.countP_reverse]
      · exact ⟨Nat.le_refl _, fun _ => noTag_nil⟩
      · exact nofun
    | cons c rest =>
      have hrest : rest.length ≤ fuel := Nat.le_of_succ_le_succ hfuel
      rw [piecesFrom]
      by_cases hc : c = '['
      · subst hc
        rw [if_pos rfl]
        cases hcontent : tagContent? rest with
        | some content =>
          have hcount := congrArg (List.countP isMark) (eq_append_of_tagContent? hcontent)
          have htag := marksOf_tagPieces_lt before content position
          have hdrop : (rest.drop (content.length + 1)).length ≤ fuel := by
            rw [List.length_drop]
            omega
          obtain ⟨hle, -⟩ := ih [] (position + content.length + 2) hdrop
          have hbracket : isMark ']' = false := rfl
          have hopen : isMark '[' = true := rfl
          rw [List.countP_append, List.countP_cons, hbracket] at hcount
          simp only [marksOf_append, List.countP_cons, hopen, if_true, List.countP_nil,
            Bool.false_eq_true, if_false] at *
          exact ⟨by omega, fun h => by omega⟩
        | none =>
          obtain ⟨hle, heq⟩ := ih ('[' :: before) (position + 1) hrest
          simp only [List.countP_cons] at hle heq ⊢
          exact ⟨by omega, fun h => noTag_cons.2 ⟨fun _ => hcontent, heq (by omega)⟩⟩
      · rw [if_neg hc]
        obtain ⟨hle, heq⟩ := ih (c :: before) (position + 1) hrest
        rw [List.countP_cons] at hle heq ⊢
        exact ⟨by omega, fun h => noTag_cons.2 ⟨fun h => absurd h hc, heq (by omega)⟩⟩

/-- A text without tags is a single piece. -/
lemma piecesFrom_of_noTag (hfuel : s.length ≤ fuel) (h : NoTag s) :
    piecesFrom fuel before position s = plainPiece (before.reverse ++ s) := by
  induction fuel generalizing before position s with
  | zero =>
    cases List.length_eq_zero_iff.1 (Nat.le_zero.1 hfuel)
    rw [piecesFrom, List.append_nil]
  | succ fuel ih =>
    cases s with
    | nil =>
      rw [piecesFrom, List.append_nil]
      exact nofun
    | cons c rest =>
      obtain ⟨hfirst, hnoTag⟩ := noTag_cons.1 h
      have hrest : rest.length ≤ fuel := Nat.le_of_succ_le_succ hfuel
      rw [piecesFrom]
      by_cases hc : c = '['
      · rw [if_pos hc, hfirst hc]
        simp only
        rw [ih hrest hnoTag, hc]
        simp
      · rw [if_neg hc, ih hrest hnoTag]
        simp

/-! ## Plain texts -/

/-- The text of pieces has their marks at most. -/
lemma countP_plainFrom_le {opened : List String} {parts : List Piece} {shown : List Char}
    (h : plainFrom opened parts = .ok shown) : shown.countP isMark ≤ marksOf parts := by
  induction parts generalizing opened shown with
  | nil =>
    cases h
    exact Nat.zero_le _
  | cons part rest ih =>
    cases part with
    | plain text =>
      obtain ⟨tail, hrest, rfl⟩ := map_eq_ok_iff.1 h
      have h1 := Emoji.countP_replace_le (unescape text)
      have h2 := (countP_unescape text).1
      have h3 := ih hrest
      have h4 : marksOf (.plain text :: rest) = text.countP isMark + marksOf rest := by
        simp [marksOf, Piece.chars]
      rw [List.countP_append]
      omega
    | tag content position =>
      obtain ⟨after, -, hrest⟩ := bind_eq_ok_iff.1 h
      exact ih hrest

lemma countP_dropControls (s : List Char) : (dropControls s).countP isMark = s.countP isMark := by
  rw [dropControls, List.countP_filter]
  refine List.countP_congr fun c _ => ?_
  have hmark : isMark c = true → isDropped c = false := by
    simp only [isMark, Bool.or_eq_true, beq_iff_eq]
    rintro ((rfl | rfl) | rfl) <;> rfl
  simpa using hmark

lemma exists_plainFrom {shown : List Char} (h : plain s = .ok shown) :
    ∃ text, plainFrom [] (pieces s) = .ok text ∧ shown.countP isMark = text.countP isMark := by
  obtain ⟨text, htext, rfl⟩ := map_eq_ok_iff.1 h
  exact ⟨text, htext, countP_dropControls text⟩

lemma marksOf_pieces (s : List Char) : marksOf (pieces s) ≤ s.countP isMark ∧
    (s.countP isMark ≤ marksOf (pieces s) → NoTag s) := by
  have h := marksOf_piecesFrom [] 0 (Nat.le_refl s.length)
  rwa [List.countP_nil, Nat.zero_add] at h

/-- Reading markup adds no marks. -/
lemma countP_plain_le {shown : List Char} (h : plain s = .ok shown) :
    shown.countP isMark ≤ s.countP isMark := by
  obtain ⟨text, htext, hshown⟩ := exists_plainFrom h
  have h1 := countP_plainFrom_le htext
  have h2 := (marksOf_pieces s).1
  omega

/-- The text of a text without tags. -/
lemma plainFrom_pieces_of_noTag (h : NoTag s) :
    plainFrom [] (pieces s) = .ok (Emoji.replace (unescape s)) := by
  rw [pieces, piecesFrom_of_noTag (Nat.le_refl _) h, List.reverse_nil, List.nil_append, plainPiece]
  split
  · rename_i hnil
    rw [hnil]
    rfl
  · simp only [plainFrom, Except.map, List.append_nil]

/-- A text that keeps its marks is plain. -/
lemma isPlain_of_countP_le {shown : List Char} (h : plain s = .ok shown)
    (hle : s.countP isMark ≤ shown.countP isMark) : IsPlain s := by
  obtain ⟨text, htext, hshown⟩ := exists_plainFrom h
  -- The marks are bounded step by step, from the text that is shown back to the pieces.
  have hmarks := countP_plainFrom_le htext
  have hnoTag := (marksOf_pieces s).2 (by omega)
  rw [plainFrom_pieces_of_noTag hnoTag] at htext
  cases htext
  have hreplace := Emoji.countP_replace_le (unescape s)
  have hnoEscape := (countP_unescape s).2 (by omega)
  rw [unescape_eq_self hnoEscape] at hshown
  have hnoCode := Emoji.replace_eq_self_of_countP_le (s := s) (by omega)
  exact ⟨hnoTag, hnoEscape, Emoji.replace_eq_self_iff.1 hnoCode⟩

/-- A plain text is read without anything but its control characters being dropped. -/
lemma IsPlain.plain_eq (h : IsPlain s) : plain s = .ok (dropControls s) := by
  rw [plain, plainFrom_pieces_of_noTag h.noTag, unescape_eq_self h.noEscape,
    Emoji.replace_eq_self_iff.2 h.noCode]
  rfl

/-- Plain texts are the ones that are read as they stand. -/
theorem plain_eq_self_iff (h : ∀ c ∈ s, isDropped c = false) : plain s = .ok s ↔ IsPlain s := by
  constructor
  · intro hplain
    exact isPlain_of_countP_le hplain (Nat.le_refl _)
  · intro hplain
    rw [hplain.plain_eq, dropControls_eq_self h]

/-- A text without opening brackets in which there is no second colon is plain. -/
lemma isPlain_of_count_le_one (hbracket : '[' ∉ s) (hcolon : s.count ':' ≤ 1) : IsPlain s where
  noTag := by
    intro before after h
    exact absurd (by rw [h]; simp) hbracket
  noEscape := fun h => hbracket (h.subset (by simp))
  noCode := Emoji.codeFree_of_count_le_one hcolon

end JavaHome.Terminal.Markup
