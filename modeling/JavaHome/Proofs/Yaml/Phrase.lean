import Mathlib.Tactic.Lemma
import JavaHome.Yaml.Plain

/-!
# Plain scalars on one line

Most characters mean nothing of their own (`IsOrdinary`), and words are made of them. A plain scalar
of words with spaces between them is read up to the end of its line (`parts_phrase`), and one of a
single word up to the colon after it (`scan_key`).
-/

namespace JavaHome.Yaml

variable {c : Cursor} {ch : Char} {rest : List Char}

/-- A character of words: it is no blank and no line break, and no sign of YAML within a word. -/
structure IsOrdinary (ch : Char) : Prop where
  allowed : isAllowed ch = true
  notGap : isGap ch = false
  notColon : ch ≠ ':'
  notHash : ch ≠ '#'
  notMark : ch ≠ '\uFEFF'

/-- The characters that are signs of YAML at the start of a word. -/
def signs : List Char :=
  "%-.[]\x7b\x7d,?:*&!|>'\"#@\x60".toList

/-- A character that words start with. -/
structure IsInitial (ch : Char) : Prop extends IsOrdinary ch where
  noSign : ch ∉ signs

/-- Words with spaces between them. -/
inductive IsPhrase : List Char → Prop where
  | word {word : List Char} :
    word ≠ [] →
    (∀ ch ∈ word, IsOrdinary ch) →
    IsPhrase word
  | spaced {word spaces phrase : List Char} :
    word ≠ [] →
    (∀ ch ∈ word, IsOrdinary ch) →
    spaces ≠ [] →
    (∀ ch ∈ spaces, ch = ' ') →
    IsPhrase phrase →
    IsPhrase (word ++ (spaces ++ phrase))

/-- No character of a kind comes next. -/
def NoneAhead (p : Char → Prop) (rest : List Char) : Prop :=
  ∀ ch ∈ rest.head?, ¬p ch

lemma IsOrdinary.not_isBreak (h : IsOrdinary ch) : isBreak ch = false := by
  have hgap := h.notGap
  rw [isGap, Bool.or_eq_false_iff] at hgap
  exact hgap.2

lemma IsOrdinary.ne_space (h : IsOrdinary ch) : ch ≠ ' ' := by
  rintro rfl
  cases h.notGap

variable {word spaces phrase passed : List Char}

lemma IsInitial.ne_of_mem_signs {sign : Char} (h : IsInitial ch) (hsign : sign ∈ signs) :
    ch ≠ sign := by
  rintro rfl
  exact h.noSign hsign

lemma IsPhrase.exists_cons (h : IsPhrase phrase) :
    ∃ ch rest, phrase = ch :: rest ∧ IsOrdinary ch := by
  cases h with
  | word hne hword =>
    obtain ⟨ch, rest, rfl⟩ := List.exists_cons_of_ne_nil hne
    exact ⟨ch, rest, rfl, hword ch (List.mem_cons_self ..)⟩
  | spaced hne hword =>
    obtain ⟨ch, rest, rfl⟩ := List.exists_cons_of_ne_nil hne
    exact ⟨ch, _, rfl, hword ch (List.mem_cons_self ..)⟩

lemma IsPhrase.isAllowed_of_mem (h : IsPhrase phrase) (hmem : ch ∈ phrase) :
    isAllowed ch = true := by
  induction h with
  | word _ hword => exact (hword ch hmem).allowed
  | spaced _ hword _ hspaces _ ih =>
    rcases List.mem_append.1 hmem with hmem | hmem
    · exact (hword ch hmem).allowed
    · rcases List.mem_append.1 hmem with hmem | hmem
      · rw [hspaces ch hmem]
        decide
      · exact ih hmem

lemma IsPhrase.cons (h : IsPhrase phrase) (hch : IsOrdinary ch) : IsPhrase (ch :: phrase) := by
  cases h with
  | word _ hword => exact .word (List.cons_ne_nil _ _) (List.forall_mem_cons.2 ⟨hch, hword⟩)
  | spaced _ hword hspaces hall hphrase =>
    exact .spaced (List.cons_ne_nil _ _) (List.forall_mem_cons.2 ⟨hch, hword⟩) hspaces hall hphrase

/-- Words and spaces are a phrase, after some spaces, if no space comes last. -/
lemma isPhrase_or_spaces (hne : passed ≠ []) (hall : ∀ ch ∈ passed, IsOrdinary ch ∨ ch = ' ')
    (hlast : passed.getLast? ≠ some ' ') :
    IsPhrase passed ∨
      ∃ spaces phrase, passed = spaces ++ phrase ∧ spaces ≠ [] ∧ (∀ ch ∈ spaces, ch = ' ') ∧
        IsPhrase phrase := by
  induction passed with
  | nil => exact absurd rfl hne
  | cons ch rest ih =>
    have hch := hall ch (List.mem_cons_self ..)
    by_cases hrest : rest = []
    · subst hrest
      have hordinary := hch.resolve_right fun e => hlast (congrArg some e)
      exact .inl (.word (List.cons_ne_nil _ _) (by simpa using hordinary))
    · rw [List.getLast?_cons_of_ne_nil hrest] at hlast
      rcases hch with hordinary | rfl
      · rcases ih hrest (fun other hmem => hall other (List.mem_cons_of_mem _ hmem)) hlast with
          hphrase | ⟨spaces, phrase, rfl, hspaces, hblank, hphrase⟩
        · exact .inl (hphrase.cons hordinary)
        · exact .inl (.spaced (List.cons_ne_nil ch []) (by simpa using hordinary) hspaces hblank
            hphrase)
      · rcases ih hrest (fun other hmem => hall other (List.mem_cons_of_mem _ hmem)) hlast with
          hphrase | ⟨spaces, phrase, rfl, -, hblank, hphrase⟩
        · exact .inr ⟨[' '], rest, rfl, List.cons_ne_nil _ _, by simp, hphrase⟩
        · exact .inr ⟨' ' :: spaces, phrase, rfl, List.cons_ne_nil _ _, by simpa using hblank,
            hphrase⟩

/-- Words and spaces that neither begin nor end with a space are a phrase. -/
lemma isPhrase_of_forall (hall : ∀ ch ∈ phrase, IsOrdinary ch ∨ ch = ' ')
    (hfirst : ∃ ch rest, phrase = ch :: rest ∧ IsOrdinary ch)
    (hlast : phrase.getLast? ≠ some ' ') : IsPhrase phrase := by
  obtain ⟨ch, rest, rfl, hch⟩ := hfirst
  rcases isPhrase_or_spaces (List.cons_ne_nil _ _) hall hlast with
    h | ⟨spaces, phrase, hsplit, hspaces, hblank, -⟩
  · exact h
  · obtain ⟨space, more, rfl⟩ := List.exists_cons_of_ne_nil hspaces
    cases hsplit
    exact absurd (hblank ch (List.mem_cons_self ..)) hch.ne_space

/-! ## Positions on a line -/

namespace Cursor

/-- The position some characters further on the same line. -/
def along (c : Cursor) (n : Nat) (rest : List Char) : Cursor :=
  ⟨rest, c.index + n, c.line, c.column + n⟩

/-- The position at the start of the next line. -/
def newLine (c : Cursor) (n : Nat) (rest : List Char) : Cursor :=
  ⟨rest, c.index + n, c.line + 1, 0⟩

@[simp] lemma column_along (c : Cursor) (n : Nat) :
    (c.along n rest).column = c.column + n := rfl

lemma along_zero (h : c.rest = rest) : c.along 0 rest = c := by
  subst h
  rfl

@[simp] lemma along_along (c : Cursor) (n k : Nat) (more : List Char) :
    (c.along n rest).along k more = c.along (n + k) more := by
  simp only [along, Nat.add_assoc]

@[simp] lemma newLine_along (c : Cursor) (n k : Nat) (more : List Char) :
    (c.along n rest).newLine k more = c.newLine (n + k) more := by
  simp only [along, newLine, Nat.add_assoc]

lemma next_eq_along (h : c.rest = ch :: rest) (hbreak : isBreak ch = false)
    (hmark : ch ≠ '\uFEFF') : c.next = c.along 1 rest := by
  simp [next, h, hbreak, hmark, along]

lemma next_eq_newLine (h : c.rest = '\n' :: rest) : c.next = c.newLine 1 rest := by
  have hbreak : isBreak '\n' = true := rfl
  simp [next, h, hbreak, newLine]

/-- Characters that end no line take a column each. -/
lemma advance_eq_along (h : c.rest = passed ++ rest)
    (hpassed : ∀ ch ∈ passed, isBreak ch = false ∧ ch ≠ '\uFEFF') :
    c.advance passed.length = c.along passed.length rest := by
  induction passed generalizing c with
  | nil => exact (along_zero h).symm
  | cons ch passed ih =>
    obtain ⟨hbreak, hmark⟩ := hpassed ch (List.mem_cons_self ..)
    have hnext := next_eq_along h hbreak hmark
    rw [List.length_cons, advance, hnext,
      ih rfl fun other hmem => hpassed other (List.mem_cons_of_mem _ hmem), along_along,
      Nat.add_comm]

/-- Spaces are passed up to what comes after them. -/
lemma span_spaces (h : c.rest = spaces ++ rest) (hspaces : ∀ ch ∈ spaces, ch = ' ')
    (hrest : NoneAhead (· = ' ') rest) :
    c.span (· == ' ') = (spaces, c.along spaces.length rest) := by
  have hrun : c.rest.takeWhile (· == ' ') = spaces := by
    have hstop : rest.takeWhile (· == ' ') = [] := by
      cases rest with
      | nil => rfl
      | cons ch rest => exact List.takeWhile_cons_of_neg (by simpa using hrest ch rfl)
    rw [h, List.takeWhile_append_of_pos (by simpa using hspaces), hstop, List.append_nil]
  have hpassed : ∀ ch ∈ spaces, isBreak ch = false ∧ ch ≠ '\uFEFF' := by
    intro ch hmem
    rw [hspaces ch hmem]
    decide
  rw [span, hrun, advance_eq_along h hpassed]

lemma lineBreak?_eq_none (h : NoneAhead (isBreak · = true) c.rest) : c.lineBreak? = none := by
  unfold lineBreak?
  cases hrest : c.rest with
  | nil => rfl
  | cons ch rest =>
    rw [hrest] at h
    simp [h ch rfl]

lemma isAt_eq_false (h : NoneAhead (· = ch) c.rest) : c.isAt ch = false := by
  unfold isAt
  cases hrest : c.rest with
  | nil => rfl
  | cons first rest =>
    rw [hrest] at h
    simpa using h first rfl

lemma atMark_eq_false (h : NoneAhead (· = ch) c.rest) : c.atMark ch = false := by
  unfold atMark
  split
  · rename_i x y z rest hrest
    rw [hrest] at h
    have hne : x ≠ ch := h x rfl
    simp [hne]
  · rfl

end Cursor

/-! ## Plain scalars -/

namespace Plain

lemma stops_ordinary (h : IsOrdinary ch) (rest : List Char) : stops false ch rest = false := by
  simp [stops, h.notGap, h.notColon]

/-- The part of a plain scalar on a line goes up to where it must stop. -/
lemma run_word (hword : ∀ ch ∈ word, IsOrdinary ch) (hrest : run false rest = []) :
    run false (word ++ rest) = word := by
  induction word with
  | nil => exact hrest
  | cons ch word ih =>
    rw [List.cons_append, run, stops_ordinary (hword ch (List.mem_cons_self ..)), if_neg nofun,
      ih fun other hmem => hword other (List.mem_cons_of_mem _ hmem)]

lemma run_gap (h : isGap ch = true) : run false (ch :: rest) = [] := by
  simp [run, stops, h]

lemma run_colon (h : isGap ch = true) : run false (':' :: ch :: rest) = [] := by
  simp [run, stops, endsKey, h]

/-- Between two words come spaces. -/
lemma gap_spaces (h : c.rest = spaces ++ rest) (hspaces : ∀ ch ∈ spaces, ch = ' ')
    (hspace : NoneAhead (· = ' ') rest) (hbreak : NoneAhead (isBreak · = true) rest) :
    gap c = (spaces, c.along spaces.length rest, false) := by
  have hline : (c.along spaces.length rest).lineBreak? = none := Cursor.lineBreak?_eq_none hbreak
  simp only [gap, Cursor.span_spaces h hspaces hspace, hline]

lemma breaks_eq_nil (fuel : Nat) (hspace : NoneAhead (· = ' ') c.rest)
    (hbreak : NoneAhead (isBreak · = true) c.rest) : breaks fuel c = (some [], c) := by
  cases fuel with
  | zero => rfl
  | succ fuel =>
    rw [breaks, if_neg (by simp [Cursor.isAt_eq_false hspace]), Cursor.lineBreak?_eq_none hbreak]

/-- At the end of a line before one that starts with a word, a blank would come. -/
lemma gap_newLine (h : c.rest = '\n' :: rest) (hrest : ∀ ch ∈ rest.head?, IsInitial ch) :
    gap c = ([' '], c.newLine 1 rest, true) := by
  have hspaces : c.span (· == ' ') = ([], c) := by
    have hhere : c.rest = [] ++ '\n' :: rest := h
    have hspan := c.span_spaces hhere nofun (by rintro _ ⟨⟩; decide)
    rwa [List.length_nil, Cursor.along_zero h] at hspan
  have hbreak : c.lineBreak? = some ('\n', c.newLine 1 rest) := by
    rw [← Cursor.next_eq_newLine h, Cursor.lineBreak?, h]
    rfl
  have hmark : (c.newLine 1 rest).atDocumentMark = false := by
    have hnone : ∀ sign ∈ signs, (c.newLine 1 rest).atMark sign = false := fun sign hsign =>
      Cursor.atMark_eq_false fun ch hmem => (hrest ch hmem).ne_of_mem_signs hsign
    rw [Cursor.atDocumentMark, hnone '-' (by decide), hnone '.' (by decide)]
    rfl
  have hbreaks : breaks rest.length (c.newLine 1 rest) = (some [], c.newLine 1 rest) :=
    breaks_eq_nil _ (fun ch hmem => (hrest ch hmem).ne_space)
      fun ch hmem => by simp [(hrest ch hmem).not_isBreak]
  have hlength : (c.newLine 1 rest).rest.length = rest.length := rfl
  simp only [gap, hspaces, hbreak, hmark, hlength, hbreaks, Bool.false_eq_true, if_false]
  rfl

/-- A word is followed by what comes between it and the next one, or it is the last one. -/
lemma parts_word {indent fuel : Nat} {between : List Char} {lineEnded ended : Bool} {after : Cursor}
    (h : c.rest = word ++ rest) (hne : word ≠ []) (hword : ∀ ch ∈ word, IsOrdinary ch)
    (hrest : run false rest = [])
    (hgap : gap (c.along word.length rest) = (spaces, after, ended)) :
    parts false indent (fuel + 1) c between lineEnded =
      if spaces = [] ∨ after.isAt '#' = true ∨ after.column < indent then
        (between ++ word, after, ended)
      else
        let found := parts false indent fuel after spaces ended
        (between ++ word ++ found.1, found.2.1, found.2.2) := by
  have hrun : run false c.rest = word := by
    rw [h, run_word hword hrest]
  have hsign : c.isAt '#' = false := by
    apply Cursor.isAt_eq_false
    obtain ⟨ch, others, rfl⟩ := List.exists_cons_of_ne_nil hne
    rw [h]
    rintro _ ⟨⟩
    exact (hword ch (List.mem_cons_self ..)).notHash
  have hpassed : ∀ ch ∈ word, isBreak ch = false ∧ ch ≠ '\uFEFF' :=
    fun ch hmem => ⟨(hword ch hmem).not_isBreak, (hword ch hmem).notMark⟩
  rw [parts]
  simp only [hrun, hsign, hne, Cursor.advance_eq_along h hpassed, hgap, Bool.false_eq_true,
    not_false_eq_true, true_and, or_self, if_false]

/-- A plain scalar of a single word goes up to the colon after it. -/
lemma scan_key (h : c.rest = word ++ ':' :: ' ' :: rest) (hne : word ≠ [])
    (hword : ∀ ch ∈ word, IsOrdinary ch) (indent : Nat) :
    scan false indent c = (word, c.along word.length (':' :: ' ' :: rest), false) := by
  have hgap : gap (c.along word.length (':' :: ' ' :: rest)) =
      ([], c.along word.length (':' :: ' ' :: rest), false) := by
    have hhere : (c.along word.length (':' :: ' ' :: rest)).rest = [] ++ ':' :: ' ' :: rest := rfl
    exact gap_spaces hhere nofun (by rintro _ ⟨⟩; decide) (by rintro _ ⟨⟩; decide)
  have hlength : c.rest.length = (word ++ ' ' :: rest).length + 1 := by
    simp [h]
    omega
  rw [scan, hlength, parts_word h hne hword (run_colon rfl) hgap, if_pos (.inl rfl)]
  rfl

/-- A plain scalar of words and spaces goes up to the end of its line. -/
lemma parts_phrase (hphrase : IsPhrase phrase) (h : c.rest = phrase ++ '\n' :: rest)
    (hrest : ∀ ch ∈ rest.head?, IsInitial ch) {fuel : Nat} (hfuel : phrase.length ≤ fuel)
    (between : List Char) (lineEnded : Bool) :
    parts false 1 fuel c between lineEnded =
      (between ++ phrase, c.newLine (phrase.length + 1) rest, true) := by
  induction hphrase generalizing c fuel between lineEnded with
  | @word word hne hword =>
    obtain ⟨fuel, rfl⟩ : ∃ k, fuel = k + 1 :=
      Nat.exists_eq_succ_of_ne_zero fun e => by simp_all
    have hgap := gap_newLine (c := c.along word.length ('\n' :: rest)) rfl hrest
    rw [parts_word h hne hword (run_gap rfl) hgap, if_pos (.inr (.inr Nat.one_pos)),
      Cursor.newLine_along]
  | @spaced word spaces phrase hne hword hspaces hall hphrase ih =>
    obtain ⟨fuel, rfl⟩ : ∃ k, fuel = k + 1 :=
      Nat.exists_eq_succ_of_ne_zero fun e => by simp_all
    have hlength : 0 < word.length := List.length_pos_iff.2 hne
    simp only [List.length_append, List.append_assoc] at hfuel h ⊢
    -- The next word starts with a character that is neither a blank nor a sign.
    obtain ⟨ch, others, hstart, hch⟩ := hphrase.exists_cons
    have hhead : ∀ other ∈ (phrase ++ '\n' :: rest).head?, IsOrdinary other := by
      rw [hstart]
      rintro _ ⟨⟩
      exact hch
    have hstop : run false (spaces ++ (phrase ++ '\n' :: rest)) = [] := by
      obtain ⟨space, more, rfl⟩ := List.exists_cons_of_ne_nil hspaces
      rw [hall space (List.mem_cons_self ..)]
      exact run_gap rfl
    have hgap : gap (c.along word.length (spaces ++ (phrase ++ '\n' :: rest))) =
        (spaces, c.along (word.length + spaces.length) (phrase ++ '\n' :: rest), false) := by
      rw [← Cursor.along_along]
      exact gap_spaces rfl hall (fun other hmem => (hhead other hmem).ne_space)
        fun other hmem => by simp [(hhead other hmem).not_isBreak]
    have hsign :
        (c.along (word.length + spaces.length) (phrase ++ '\n' :: rest)).isAt '#' = false :=
      Cursor.isAt_eq_false fun other hmem => (hhead other hmem).notHash
    have hcolumn : ¬c.column + (word.length + spaces.length) < 1 := by omega
    rw [parts_word h hne hword hstop hgap, if_neg (by simp [hspaces, hsign, hcolumn]),
      ih rfl (by omega)]
    simp only [Cursor.newLine_along, List.append_assoc, Nat.add_assoc]

end Plain

end JavaHome.Yaml
