import JavaHome.Proofs.Yaml.Phrase
import JavaHome.Yaml.Value

/-!
# Lines of a block mapping

A line of a key and a phrase is read in three steps: the key, the colon and the phrase. The first
line opens a block mapping, and after each line the reader stands as it did before it, with four
more tokens. So lines are read as the mapping of their keys to their phrases, character by character
as they are written (`document?_lines`).
-/

namespace JavaHome.Yaml

/-- A line of a block mapping: a word that is not too long, and a phrase. -/
structure Entry where
  key : List Char
  value : List Char
  key_initial : ∃ ch rest, key = ch :: rest ∧ IsInitial ch
  key_ordinary : ∀ ch ∈ key, IsOrdinary ch
  key_length : key.length ≤ Reader.keyLimit
  value_initial : ∃ ch rest, value = ch :: rest ∧ IsInitial ch
  value_phrase : IsPhrase value

namespace Entry

/-- A line as it is written. -/
def spell (e : Entry) : List Char :=
  e.key ++ ':' :: ' ' :: (e.value ++ ['\n'])

/-- The tokens of a line. -/
def tokens (e : Entry) : List Token :=
  [.key, .scalar e.key, .value, .scalar e.value]

/-- The nodes of a line. -/
def nodes (e : Entry) : Tree × Tree :=
  (.scalar none e.key, .scalar none e.value)

/-- What a line says. -/
def pair (e : Entry) : String × Value :=
  (String.ofList e.key, .scalar (String.ofList e.value))

/-- The tokens of lines and of the end of their block mapping and of the text. -/
def stream (entries : List Entry) : List Token :=
  entries.flatMap tokens ++ [.blockEnd, .streamEnd]

end Entry

variable {c : Cursor} {spaces rest : List Char}

/-! ## On to the next token -/

/-- What comes next is no blank, comment or line end. -/
def AtWord (rest : List Char) : Prop :=
  ∀ ch ∈ rest.head?, ch ≠ ' ' ∧ ch ≠ '#' ∧ ch ≠ '\uFEFF' ∧ isBreak ch = false

lemma IsOrdinary.atWord {ch : Char} (h : IsOrdinary ch) : AtWord (ch :: rest) := by
  rintro _ ⟨⟩
  exact ⟨h.ne_space, h.notHash, h.notMark, h.not_isBreak⟩

namespace Reader

variable {r : Reader}

lemma skipLines_eq (h : c.rest = spaces ++ rest) (hspaces : ∀ ch ∈ spaces, ch = ' ')
    (hrest : AtWord rest) (fuel : Nat) :
    skipLines (fuel + 1) c = (c.along spaces.length rest, false) := by
  have hspan := c.span_spaces h hspaces fun ch hmem => (hrest ch hmem).1
  have hsign : (c.along spaces.length rest).isAt '#' = false :=
    Cursor.isAt_eq_false fun ch hmem => (hrest ch hmem).2.1
  have hbreak : (c.along spaces.length rest).lineBreak? = none :=
    Cursor.lineBreak?_eq_none fun ch hmem => by simp [(hrest ch hmem).2.2.2]
  have hcomment : c.skipComment = c.along spaces.length rest := by
    simp [Cursor.skipComment, Cursor.skip, hspan, hsign]
  simp only [skipLines, hcomment, hbreak]

lemma refreshMarks_eq (houter : r.outerMarks = [])
    (hmark : ∀ mark, r.mark = some mark → isFresh r.cursor mark = true) :
    r.refreshMarks = .ok r := by
  obtain ⟨cursor, tokens, indents, mark, outerMarks, keyAllowed⟩ := r
  cases houter
  cases mark with
  | none => rfl
  | some mark =>
    have hrefresh : refresh cursor (some mark) = .ok (some mark) := by
      rw [refresh, if_pos (hmark mark rfl)]
    unfold refreshMarks
    rw [hrefresh]
    rfl

lemma unwind_eq {column : Nat} (h : ∀ indent ∈ r.indents, indent ≤ column) :
    r.unwind column = r := by
  have hnone : r.indents.takeWhile (column < ·) = [] := by
    cases hindents : r.indents with
    | nil => rfl
    | cons indent outer =>
      exact List.takeWhile_cons_of_neg (by simpa [hindents] using h indent)
  unfold unwind
  split
  · rfl
  · simp [hnone]

/-- Where no line ends, no collection ends and the key goes on, the next token comes after
spaces. -/
lemma toNextToken_eq (h : r.cursor.rest = spaces ++ rest) (hspaces : ∀ ch ∈ spaces, ch = ' ')
    (hrest : AtWord rest) (houter : r.outerMarks = [])
    (hmark : ∀ mark, r.mark = some mark →
      isFresh (r.cursor.along spaces.length rest) mark = true)
    (hindents : ∀ indent ∈ r.indents, indent ≤ r.cursor.column + spaces.length) :
    r.toNextToken = .ok (r.moveTo (r.cursor.along spaces.length rest)) := by
  have hstart : ¬(r.cursor.index = 0 ∧ r.cursor.isAt '\uFEFF' = true) := by
    have hmark : r.cursor.isAt '\uFEFF' = false := by
      apply Cursor.isAt_eq_false
      rw [h]
      cases spaces with
      | nil => exact fun ch hmem => (hrest ch hmem).2.2.1
      | cons space more =>
        rw [hspaces space (List.mem_cons_self ..)]
        rintro _ ⟨⟩
        decide
    simp [hmark]
  have hallowed : { r with
      cursor := r.cursor.along spaces.length rest
      keyAllowed := r.keyAllowed || (false && !r.inFlow) } =
      r.moveTo (r.cursor.along spaces.length rest) := by
    simp [moveTo]
  have hrefresh : (r.moveTo (r.cursor.along spaces.length rest)).refreshMarks =
      .ok (r.moveTo (r.cursor.along spaces.length rest)) :=
    refreshMarks_eq houter hmark
  unfold toNextToken
  rw [if_neg hstart]
  simp only [skipLines_eq h hspaces hrest, hallowed, hrefresh]
  exact congrArg Except.ok (unwind_eq hindents)

/-! ## Three tokens -/

/-- A token and the way to it are one step. -/
lemma readAll_eq {next last : Reader} {ch : Char} {fuel : Nat} (hnext : r.toNextToken = .ok next)
    (hrest : next.cursor.rest = ch :: rest) (hread : next.readToken ch rest = .ok last) :
    readAll (fuel + 1) r = readAll fuel last := by
  have hstep : r.readNext = .ok (.inl last) := by
    unfold readNext
    rw [hnext]
    simp only [bind, Except.bind, hrest, hread]
    rfl
  rw [readAll, hstep]

/-- A character that words start with starts a plain scalar. -/
lemma readToken_initial {ch : Char} (h : IsInitial ch) (houter : r.outerMarks = []) :
    r.readToken ch rest = r.readPlain := by
  have hne : ∀ sign ∈ signs, (ch = sign) = False :=
    fun sign hsign => eq_false (h.ne_of_mem_signs hsign)
  have hflow : r.inFlow = false := by
    rw [inFlow, houter]
    rfl
  have hstarts : Plain.starts false ch rest = true := by
    have hsigns : ",[]\x7b\x7d#&*!|>'\"%@\x60".toList ⊆ signs := by decide
    have hmem : ch ∉ ",[]\x7b\x7d#&*!|>'\"%@\x60".toList := fun hmem => h.noSign (hsigns hmem)
    have hgap := h.notGap
    rw [Plain.starts, if_neg (by rw [hne '-' (by decide)]; exact not_false),
      if_neg (by rw [hne '?' (by decide), hne ':' (by decide)]; simp), hgap]
    simpa using hmem
  simp only [readToken, hflow, hstarts, hne '%' (by decide), hne '-' (by decide),
    hne '.' (by decide), hne '[' (by decide), hne '\x7b' (by decide), hne ']' (by decide),
    hne '\x7d' (by decide), hne ',' (by decide), hne '?' (by decide), hne ':' (by decide),
    hne '*' (by decide), hne '&' (by decide), hne '!' (by decide), hne '|' (by decide),
    hne '>' (by decide), hne '\x27' (by decide), hne '"' (by decide), false_and, if_false, if_true]

/-- A colon before a space is the sign of a value. -/
lemma readToken_colon : r.readToken ':' (' ' :: rest) = r.readValue := by
  simp [readToken, show atGap (' ' :: rest) = true from rfl]

/-! ## A line -/

/-- A reader at the start of a line, where a key may begin. -/
def atLine (c : Cursor) (tokens : List Token) (indents : List Nat) : Reader :=
  ⟨c, tokens, indents, none, [], true⟩

/-- The token that opens a block mapping, unless one is open. -/
def opening (indents : List Nat) : List Token :=
  if indents = [] then [.blockMappingStart] else []

variable {tokens : List Token} {indents : List Nat} {e : Entry} {key phrase : List Char}

lemma readPlain_eq {next : Reader} {text : List Char} {after : Cursor} {ended : Bool}
    (hmark : r.setMark = .ok next)
    (hscan : Plain.scan next.inFlow next.innerColumn next.cursor = (text, after, ended)) :
    r.readPlain = .ok { next.emit (.scalar text) with cursor := after, keyAllowed := ended } := by
  unfold readPlain
  rw [hmark]
  simp only [bind, Except.bind, hscan]
  rfl

/-- The key of a line is read as a scalar first, where a key may have begun. -/
lemma readPlain_key (h : c.rest = key ++ ':' :: ' ' :: rest) (hne : key ≠ [])
    (hkey : ∀ ch ∈ key, IsOrdinary ch) :
    (atLine c tokens indents).readPlain =
      .ok ⟨c.along key.length (':' :: ' ' :: rest), tokens ++ [.scalar key], indents,
        some ⟨tokens.length, indents.head? == some c.column, c.index, c.line, c.column⟩, [],
        false⟩ := by
  have hmark : (atLine c tokens indents).setMark = .ok ⟨c, tokens, indents,
      some ⟨tokens.length, indents.head? == some c.column, c.index, c.line, c.column⟩, [],
      true⟩ := rfl
  exact readPlain_eq hmark (Plain.scan_key h hne hkey _)

/-- The colon makes a key of the scalar before it, and opens a block mapping where none is open. -/
lemma readValue_key {required : Bool} {index line : Nat}
    (hindents : indents = [] ∨ indents = [0]) :
    readValue ⟨c, tokens ++ [.scalar key], indents, some ⟨tokens.length, required, index, line, 0⟩,
        [], false⟩ =
      .ok ⟨c.next, tokens ++ opening indents ++ [.key, .scalar key, .value], [0], none, [],
        false⟩ := by
  rcases hindents with rfl | rfl
  · simp [readValue, insertKey, inFlow, isDeeper, emit, opening, pure, Except.pure]
  · simp [readValue, insertKey, inFlow, isDeeper, emit, opening, pure, Except.pure]

/-- The phrase of a line goes up to its end. -/
lemma readPlain_phrase (hphrase : IsPhrase phrase) (h : c.rest = phrase ++ '\n' :: rest)
    (hrest : ∀ ch ∈ rest.head?, IsInitial ch) :
    readPlain ⟨c, tokens, [0], none, [], false⟩ =
      .ok (atLine (c.newLine (phrase.length + 1) rest) (tokens ++ [.scalar phrase]) [0]) := by
  have hscan : Plain.scan false 1 c = (phrase, c.newLine (phrase.length + 1) rest, true) := by
    apply Plain.parts_phrase hphrase h hrest
    simp [h]
  have hmark : setMark ⟨c, tokens, [0], none, [], false⟩ = .ok ⟨c, tokens, [0], none, [], false⟩ :=
    rfl
  exact readPlain_eq hmark hscan

/-- Without spaces the reader is at the next token. -/
lemma toNextToken_self (hrest : AtWord r.cursor.rest) (houter : r.outerMarks = [])
    (hmark : ∀ mark, r.mark = some mark → isFresh r.cursor mark = true)
    (hindents : ∀ indent ∈ r.indents, indent ≤ r.cursor.column) : r.toNextToken = .ok r := by
  have hhere : r.cursor.along ([] : List Char).length r.cursor.rest = r.cursor :=
    Cursor.along_zero rfl
  have hrest' : r.cursor.rest = [] ++ r.cursor.rest := rfl
  have hway := toNextToken_eq hrest' nofun hrest houter
    (by rwa [hhere]) hindents
  rwa [hhere] at hway

/-- A reader after a key, at the colon. -/
def atColon (c : Cursor) (tokens : List Token) (indents : List Nat) (key rest : List Char) :
    Reader :=
  ⟨c.along key.length (':' :: ' ' :: rest), tokens ++ [.scalar key], indents,
    some ⟨tokens.length, indents.head? == some c.column, c.index, c.line, c.column⟩, [], false⟩

/-- A reader after the colon of a key. -/
def atValue (c : Cursor) (tokens : List Token) : Reader :=
  ⟨c, tokens, [0], none, [], false⟩

lemma readAll_key (h : c.rest = e.key ++ ':' :: ' ' :: rest)
    (hindents : ∀ indent ∈ indents, indent ≤ c.column) (fuel : Nat) :
    readAll (fuel + 1) (atLine c tokens indents) =
      readAll fuel (atColon c tokens indents e.key rest) := by
  obtain ⟨first, others, hkey, hfirst⟩ := e.key_initial
  have hstart : c.rest = first :: (others ++ ':' :: ' ' :: rest) := by
    rw [h, hkey]
    rfl
  have hword : AtWord c.rest := by
    rw [hstart]
    exact hfirst.atWord
  have hne : e.key ≠ [] := by
    rw [hkey]
    exact List.cons_ne_nil _ _
  refine readAll_eq (toNextToken_self hword rfl nofun hindents) hstart ?_
  rw [readToken_initial hfirst rfl]
  exact readPlain_key h hne e.key_ordinary

lemma readAll_colon (hlength : key.length ≤ keyLimit) (hcolumn : c.column = 0)
    (hindents : indents = [] ∨ indents = [0]) (fuel : Nat) :
    readAll (fuel + 1) (atColon c tokens indents key rest) =
      readAll fuel (atValue (c.along (key.length + 1) (' ' :: rest))
        (tokens ++ opening indents ++ [.key, .scalar key, .value])) := by
  have hword : AtWord (':' :: ' ' :: rest) := by
    rintro _ ⟨⟩
    decide
  have hfresh : ∀ mark, (atColon c tokens indents key rest).mark = some mark →
      isFresh (atColon c tokens indents key rest).cursor mark = true := by
    rintro _ ⟨⟩
    simpa [isFresh, atColon, Cursor.along] using hlength
  have hdepth : ∀ indent ∈ indents, indent ≤ c.column + key.length := by
    rcases hindents with rfl | rfl <;> simp
  have hnext : (c.along key.length (':' :: ' ' :: rest)).next =
      c.along (key.length + 1) (' ' :: rest) := by
    rw [Cursor.next_eq_along rfl (by decide) (by decide), Cursor.along_along]
  refine readAll_eq (toNextToken_self hword rfl hfresh hdepth) rfl ?_
  rw [readToken_colon]
  unfold atColon
  rw [hcolumn, readValue_key hindents, hnext]
  rfl

lemma readAll_phrase (h : c.rest = ' ' :: (e.value ++ '\n' :: rest))
    (hrest : ∀ ch ∈ rest.head?, IsInitial ch) (fuel : Nat) :
    readAll (fuel + 1) (atValue c tokens) =
      readAll fuel (atLine (c.newLine (e.value.length + 2) rest) (tokens ++ [.scalar e.value])
        [0]) := by
  obtain ⟨first, others, hvalue, hfirst⟩ := e.value_initial
  have hstart : e.value ++ '\n' :: rest = first :: (others ++ '\n' :: rest) := by
    rw [hvalue]
    rfl
  have hword : AtWord (e.value ++ '\n' :: rest) := by
    rw [hstart]
    exact hfirst.atWord
  have hspace : (atValue c tokens).cursor.rest = [' '] ++ (e.value ++ '\n' :: rest) := h
  have hway := toNextToken_eq hspace (by simp) hword rfl nofun (by simp [atValue])
  refine readAll_eq hway hstart ?_
  rw [readToken_initial hfirst rfl]
  change readPlain ⟨c.along 1 (e.value ++ '\n' :: rest), tokens, [0], none, [], false⟩ = _
  rw [readPlain_phrase e.value_phrase rfl hrest, Cursor.newLine_along,
    show 1 + (e.value.length + 1) = e.value.length + 2 by omega]

/-- A line takes three tokens, and leaves the reader at the start of the next one. -/
lemma readAll_line (h : c.rest = e.spell ++ rest) (hcolumn : c.column = 0)
    (hindents : indents = [] ∨ indents = [0]) (hrest : ∀ ch ∈ rest.head?, IsInitial ch)
    (fuel : Nat) :
    readAll (fuel + 3) (atLine c tokens indents) =
      readAll fuel (atLine (c.newLine e.spell.length rest)
        (tokens ++ opening indents ++ e.tokens) [0]) := by
  have hline : c.rest = e.key ++ ':' :: ' ' :: (e.value ++ '\n' :: rest) := by
    rw [h]
    simp [Entry.spell]
  have hdepth : ∀ indent ∈ indents, indent ≤ c.column := by
    rcases hindents with rfl | rfl <;> simp
  have hlength : e.key.length + 1 + (e.value.length + 2) = e.spell.length := by
    simp [Entry.spell]
    omega
  rw [readAll_key hline hdepth, readAll_colon e.key_length hcolumn hindents,
    readAll_phrase rfl hrest, Cursor.newLine_along, hlength, List.append_assoc _ _ [_]]
  rfl

/-- At the end of the text all block mappings are closed. -/
lemma readAll_end (h : c.rest = []) (hindents : ∀ indent ∈ indents, indent ≤ c.column)
    (fuel : Nat) : readAll (fuel + 1) (atLine c tokens indents) =
      ⟨tokens ++ indents.map (fun _ => .blockEnd) ++ [.streamEnd], none⟩ := by
  have hword : AtWord c.rest := by
    rw [h]
    exact nofun
  have hnext : (atLine c tokens indents).toNextToken = .ok (atLine c tokens indents) :=
    toNextToken_self hword rfl nofun hindents
  have hend : (atLine c tokens indents).cursor.rest = [] := h
  have hstep : (atLine c tokens indents).readNext =
      .ok (.inr (tokens ++ indents.map (fun _ => .blockEnd) ++ [.streamEnd])) := by
    unfold readNext
    rw [hnext]
    simp only [bind, Except.bind, hend]
    rfl
  rw [readAll, hstep]

lemma head?_spell (entries : List Entry) :
    ∀ ch ∈ (entries.flatMap Entry.spell).head?, IsInitial ch := by
  cases entries with
  | nil => exact nofun
  | cons e entries =>
    obtain ⟨first, others, hkey, hfirst⟩ := e.key_initial
    rw [List.flatMap_cons, Entry.spell, hkey]
    rintro _ ⟨⟩
    exact hfirst

/-- The reader reads lines up to the end of the text, where the block mapping is closed. -/
lemma readAll_lines (entries : List Entry) (h : c.rest = entries.flatMap Entry.spell)
    (hcolumn : c.column = 0) (fuel : Nat) :
    readAll (fuel + (3 * entries.length + 1)) (atLine c tokens [0]) =
      ⟨tokens ++ entries.flatMap Entry.tokens ++ [.blockEnd, .streamEnd], none⟩ := by
  induction entries generalizing c tokens with
  | nil =>
    have hindents : ∀ indent ∈ [0], indent ≤ c.column := by simp
    simpa using readAll_end h hindents fuel
  | cons e entries ih =>
    have hfuel : fuel + (3 * (e :: entries).length + 1) =
        fuel + (3 * entries.length + 1) + 3 := by
      simp only [List.length_cons]
      omega
    rw [hfuel, readAll_line h hcolumn (.inr rfl) (head?_spell entries), ih rfl rfl]
    simp [opening]

end Reader

lemma Entry.isAllowed_of_mem_spell {e : Entry} {ch : Char} (h : ch ∈ e.spell) :
    isAllowed ch = true := by
  simp only [spell, List.mem_append, List.mem_cons, List.not_mem_nil, or_false] at h
  rcases h with h | rfl | rfl | h | rfl
  · exact (e.key_ordinary ch h).allowed
  · decide
  · decide
  · exact e.value_phrase.isAllowed_of_mem h
  · decide

namespace Stream

/-- Lines are read as the tokens of a block mapping. -/
lemma ofText_lines (e : Entry) (entries : List Entry) :
    ofText ((e :: entries).flatMap Entry.spell) =
      ⟨.blockMappingStart :: Entry.stream (e :: entries), none⟩ := by
  have hallowed : ((e :: entries).flatMap Entry.spell).all isAllowed = true := by
    rw [List.all_eq_true]
    intro ch hmem
    obtain ⟨line, -, hmem⟩ := List.mem_flatMap.1 hmem
    exact line.isAllowed_of_mem_spell hmem
  have hlength : ∀ entries : List Entry,
      3 * entries.length ≤ (entries.flatMap Entry.spell).length := by
    intro entries
    induction entries with
    | nil => exact Nat.le_refl _
    | cons e entries ih =>
      simp only [List.flatMap_cons, List.length_append, List.length_cons, Entry.spell]
      omega
  obtain ⟨fuel, hfuel⟩ : ∃ k, ((e :: entries).flatMap Entry.spell).length + 1 =
      k + (3 * entries.length + 1) + 3 := by
    have hmany := hlength (e :: entries)
    simp only [List.length_cons] at hmany
    exact ⟨((e :: entries).flatMap Entry.spell).length - 3 * (entries.length + 1), by omega⟩
  rw [ofText, if_pos hallowed, hfuel]
  change Reader.readAll _ (Reader.atLine _ [] []) = _
  rw [Reader.readAll_line (List.flatMap_cons ..) rfl (.inl rfl) (Reader.head?_spell entries),
    Reader.readAll_lines entries rfl rfl]
  simp [Reader.opening, Entry.stream]

/-- Without anchors and aliases no name is misused. -/
lemma checked_eq_self {s : Stream}
    (h : ∀ name, .reference name ∉ s.tokens ∧ .anchor name ∉ s.tokens) : s.checked = s := by
  have hknown : ∀ tokens : List Token,
      (∀ name, .reference name ∉ tokens ∧ .anchor name ∉ tokens) →
        known s.fault [] tokens = ⟨tokens, s.fault⟩ := by
    intro tokens h
    induction tokens with
    | nil => rfl
    | cons token rest ih =>
      have hrest := ih fun name => ⟨fun hmem => (h name).1 (List.mem_cons_of_mem _ hmem),
        fun hmem => (h name).2 (List.mem_cons_of_mem _ hmem)⟩
      have hreference : ∀ name, token ≠ .reference name := by
        rintro name rfl
        exact (h name).1 (List.mem_cons_self ..)
      have hanchor : ∀ name, token ≠ .anchor name := by
        rintro name rfl
        exact (h name).2 (List.mem_cons_self ..)
      rw [known, hrest]
      · rfl
      · exact hreference
      · exact hanchor
  exact hknown s.tokens h

/-- Of the tokens of lines only the first opens a collection, and none is an anchor or an alias. -/
lemma token_stream {entries : List Entry} {token : Token} (h : token ∈ Entry.stream entries) :
    token.opensCollection = false ∧
      ∀ name, token ≠ .reference name ∧ token ≠ .anchor name := by
  have hkinds : token ∈ [.key, .value, .blockEnd, .streamEnd] ∨ ∃ text, token = .scalar text := by
    rw [Entry.stream, List.mem_append, List.mem_flatMap] at h
    rcases h with ⟨e, -, hmem⟩ | hmem
    · simp only [Entry.tokens, List.mem_cons, List.not_mem_nil, or_false] at hmem
      rcases hmem with rfl | rfl | rfl | rfl
      · exact .inl (by decide)
      · exact .inr ⟨_, rfl⟩
      · exact .inl (by decide)
      · exact .inr ⟨_, rfl⟩
    · simp only [List.mem_cons, List.not_mem_nil, or_false] at hmem
      rcases hmem with rfl | rfl
      · exact .inl (by decide)
      · exact .inl (by decide)
  rcases hkinds with hmem | ⟨text, rfl⟩
  · simp only [List.mem_cons, List.not_mem_nil, or_false] at hmem
    rcases hmem with rfl | rfl | rfl | rfl <;> exact ⟨rfl, fun _ => ⟨nofun, nofun⟩⟩
  · exact ⟨rfl, fun _ => ⟨nofun, nofun⟩⟩

lemma checked_lines (entries : List Entry) :
    checked ⟨.blockMappingStart :: Entry.stream entries, none⟩ =
      ⟨.blockMappingStart :: Entry.stream entries, none⟩ := by
  refine checked_eq_self fun name => ⟨fun hmem => ?_, fun hmem => ?_⟩
  · exact ((token_stream (List.mem_of_ne_of_mem (by exact nofun) hmem)).2 name).1 rfl
  · exact ((token_stream (List.mem_of_ne_of_mem (by exact nofun) hmem)).2 name).2 rfl

/-- Lines are one collection. -/
lemma countP_lines (entries : List Entry) :
    (ofText (entries.flatMap Entry.spell)).tokens.countP Token.opensCollection ≤ 1 := by
  cases entries with
  | nil => decide
  | cons e entries =>
    have hnone : (Entry.stream (e :: entries)).countP Token.opensCollection = 0 :=
      List.countP_eq_zero.2 fun token hmem => by simp [(token_stream hmem).1]
    rw [ofText_lines, List.countP_cons, hnone]
    decide

end Stream

/-! ## The document -/

namespace Tree

lemma node_mapping (handles : List (List Char)) (depth : Nat) (rest : List Token) :
    node handles (depth + 1) .block (.blockMappingStart :: rest) =
      (blockPairs (node handles depth) rest.length rest).map fun (pairs, rest) =>
        (mapping none pairs, rest) := rfl

/-- The tokens of a line are a pair of a block mapping. -/
lemma blockPairs_line {handles : List (List Char)} {depth fuel : Nat} (e : Entry)
    (rest : List Token) :
    blockPairs (node handles (depth + 1)) (fuel + 1) (e.tokens ++ rest) =
      blockPairs (node handles (depth + 1)) fuel rest >>= fun read =>
        .ok (e.nodes :: read.1, read.2) := rfl

/-- The tokens of lines are pairs of a block mapping. -/
lemma blockPairs_lines {handles : List (List Char)} {depth fuel : Nat} {rest : List Token}
    (entries : List Entry) (hfuel : entries.length ≤ fuel) :
    blockPairs (node handles (depth + 1)) fuel
        (entries.flatMap Entry.tokens ++ Token.blockEnd :: rest) =
      .ok (entries.map Entry.nodes, rest) := by
  induction entries generalizing fuel with
  | nil => cases fuel <;> rfl
  | cons e entries ih =>
    cases fuel with
    | zero => exact absurd hfuel (Nat.not_succ_le_zero _)
    | succ fuel =>
      rw [List.flatMap_cons, List.append_assoc, blockPairs_line,
        ih (Nat.le_of_succ_le_succ hfuel)]
      rfl

/-- The tokens of lines spell a block mapping. -/
lemma ofTokens_lines (entries : List Entry) :
    ofTokens (.blockMappingStart :: Entry.stream entries) =
      .ok (some (.mapping none (entries.map Entry.nodes))) := by
  have hlength : entries.length ≤ (entries.flatMap Entry.tokens).length := by
    induction entries with
    | nil => exact Nat.le_refl _
    | cons e entries ih =>
      simp only [List.flatMap_cons, List.length_append, List.length_cons, Entry.tokens]
      omega
  have hdepth : (Entry.stream entries).length = (entries.flatMap Entry.tokens).length + 1 + 1 :=
    List.length_append
  have hpairs : blockPairs (node defaultHandles (Entry.stream entries).length)
      (Entry.stream entries).length (Entry.stream entries) =
      .ok (entries.map Entry.nodes, [.streamEnd]) := by
    rw [hdepth]
    exact blockPairs_lines entries (by omega)
  change (node defaultHandles ((Entry.stream entries).length + 1) .block
    (.blockMappingStart :: Entry.stream entries) >>= fun read =>
      expectEnd read.2 >>= fun _ => .ok (some read.1)) = _
  rw [node_mapping, hpairs]
  rfl

end Tree

namespace Value

lemma putPair_of_notMem {key : String} {value : Value} {pairs : List (String × Value)}
    (h : ∀ pair ∈ pairs, pair.1 ≠ key) : putPair key value pairs = pairs ++ [(key, value)] := by
  induction pairs with
  | nil => rfl
  | cons pair rest ih =>
    rw [putPair, if_neg (h pair (List.mem_cons_self ..)),
      ih fun other hmem => h other (List.mem_cons_of_mem _ hmem), List.cons_append]

lemma ofTree_scalar (anchors : Anchors) (text : List Char) :
    ofTree anchors (.scalar none text) = some (.scalar (String.ofList text), anchors) := by
  rw [ofTree]
  rfl

/-- The value of a line is that of its key and of its phrase. -/
lemma ofTreePairs_line (anchors : Anchors) (e : Entry) (pairs : List (Tree × Tree)) :
    ofTreePairs anchors (e.nodes :: pairs) = ofTreePairs anchors pairs >>= fun read =>
      some ((scalar e.pair.1, e.pair.2) :: read.1, read.2) := by
  rw [Entry.nodes, ofTreePairs, ofTree_scalar]
  rfl

lemma ofTreePairs_lines (anchors : Anchors) (entries : List Entry) :
    ofTreePairs anchors (entries.map Entry.nodes) =
      some (entries.map fun e => (.scalar e.pair.1, e.pair.2), anchors) := by
  induction entries with
  | nil => rw [List.map_nil, ofTreePairs, List.map_nil]
  | cons e entries ih =>
    rw [List.map_cons, ofTreePairs_line, ih]
    rfl

/-- Pairs whose keys are new come after the others, in their order. -/
lemma ofPairs_of_nodup {pairs more : List (String × Value)}
    (h : ((pairs ++ more).map Prod.fst).Nodup) :
    ofPairs pairs (more.map fun pair => (.scalar pair.1, pair.2)) = some (pairs ++ more) := by
  induction more generalizing pairs with
  | nil => rw [List.map_nil, ofPairs, List.append_nil]
  | cons pair more ih =>
    have hnew : ∀ other ∈ pairs, other.1 ≠ pair.1 := by
      intro other hmem
      rw [List.map_append, List.nodup_append] at h
      exact h.2.2 _ (List.mem_map_of_mem hmem) _ (List.mem_map_of_mem (List.mem_cons_self ..))
    have hassoc : pairs ++ pair :: more = pairs ++ [pair] ++ more := by simp
    rw [hassoc] at h ⊢
    rw [List.map_cons, ofPairs, putPair_of_notMem hnew]
    exact ih h

end Value

/-- Lines with different keys are the document of their keys and phrases. -/
theorem document?_lines (entries : List Entry) (h : (entries.map (·.pair.1)).Nodup) :
    document? (entries.flatMap Entry.spell) =
      .ok (if entries = [] then none else some (.mapping (entries.map Entry.pair))) := by
  cases entries with
  | nil => rfl
  | cons e entries =>
    have hpairs : Value.ofPairs [] ((e :: entries).map fun e => (.scalar e.pair.1, e.pair.2)) =
        some ((e :: entries).map Entry.pair) := by
      have hkeys : (([] ++ (e :: entries).map Entry.pair).map Prod.fst).Nodup := by
        rwa [List.nil_append, List.map_map]
      have hmany := Value.ofPairs_of_nodup hkeys
      rwa [List.map_map] at hmany
    have htree : Value.ofTree [] (.mapping none ((e :: entries).map Entry.nodes)) =
        some (.mapping ((e :: entries).map Entry.pair), []) := by
      rw [Value.ofTree]
      simp only [Value.openAnchor, bind, Option.bind, Value.ofTreePairs_lines, hpairs]
      rfl
    unfold document?
    simp only [Stream.ofText_lines, Stream.checked_lines, Tree.ofTokens_lines, htree]
    rfl

end JavaHome.Yaml
