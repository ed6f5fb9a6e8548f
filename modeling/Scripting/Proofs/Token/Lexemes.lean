import Scripting.Proofs.Token.Partition

namespace Scripting

/-!
# What a step of the scanner takes

A step of the scanner takes exactly the text of a blank, a comment, a word, a number or a mark, and
its lines and columns count what it has taken.  The counts are words, and they are true as long as
the script has fewer characters than there are words.
-/

namespace Source

/-- A place counts the lines and the characters before it, modulo words. -/
structure Tracks (source : Source) (file : String) (before : List Char) : Prop where
  inFile : source.file = file
  onLine : source.line = UInt32.ofNat (1 + before.count '\n')
  inColumn :
    source.column = UInt32.ofNat (1 + (before.reverse.takeWhile (· ≠ '\n')).length)

/-- From one place to another exactly the characters of a text are taken. -/
structure Takes (source : Source) (text : List Char) (after : Source) : Prop where
  ahead : source.ahead = text ++ after.ahead
  tracks :
    ∀ {file before}, source.Tracks file before → after.Tracks file (before ++ text)

variable {source after final : Source} {file : String} {before text more : List Char}

/-- Where few characters have been taken, the counts are true. -/
theorem Tracks.position
    (tracks : source.Tracks file before)
    (short : before.length + 1 < UInt32.size) :
    source.position.At file before := by
  have fewLines : before.count '\n' ≤ before.length := List.count_le_length
  have fewColumns : (before.reverse.takeWhile (· ≠ '\n')).length ≤ before.length := by
    have notLonger := (List.takeWhile_prefix (· ≠ '\n') (l := before.reverse)).length_le
    rwa [List.length_reverse] at notLonger
  refine ⟨tracks.inFile, ?_, ?_⟩
  · rw [Source.position, tracks.onLine]
    exact UInt32.toNat_ofNat_of_lt' (by omega)
  · rw [Source.position, tracks.inColumn]
    exact UInt32.toNat_ofNat_of_lt' (by omega)

/-- Nothing lies before the start of a text. -/
theorem tracks_ofText (file : String) (text : List Char) :
    (ofText file text).Tracks file [] :=
  ⟨rfl, rfl, rfl⟩

/-- A character that is passed lies before the next place. -/
theorem Tracks.past
    (tracks : source.Tracks file before)
    (character : Char)
    (rest : List Char) :
    (source.past character rest).Tracks file (before ++ [character]) := by
  refine ⟨tracks.inFile, ?_, ?_⟩
  · rw [Source.past, tracks.onLine, List.count_append]
    split
    · next isLineEnd =>
        rw [isLineEnd, ← Nat.add_assoc, UInt32.ofNat_add (1 + _)]
        rfl
    · next notLineEnd =>
        rw [List.count_singleton, if_neg (by simpa using notLineEnd), Nat.add_zero]
  · rw [Source.past, tracks.inColumn, List.reverse_append, List.reverse_singleton,
      List.singleton_append, List.takeWhile_cons]
    split
    · next isLineEnd =>
        simp [isLineEnd]
    · next notLineEnd =>
        simp only [ne_eq, notLineEnd, not_false_eq_true, decide_true, if_true, List.length_cons]
        rw [← Nat.add_assoc, UInt32.ofNat_add (1 + _)]
        rfl

/-- What is taken in two steps is taken in a row. -/
theorem Takes.trans
    (first : source.Takes text after)
    (second : after.Takes more final) :
    source.Takes (text ++ more) final := by
  refine ⟨?_, fun tracks => ?_⟩
  · rw [first.ahead, second.ahead, List.append_assoc]
  · rw [← List.append_assoc]
    exact second.tracks (first.tracks tracks)

theorem takes_nil (source : Source) : source.Takes [] source :=
  ⟨rfl, fun tracks => by rwa [List.append_nil]⟩

/-- A step takes the next character. -/
theorem takes_skip
    {character : Char}
    {rest : List Char}
    (shape : source.ahead = character :: rest) :
    source.Takes [character] source.skip := by
  refine ⟨by simp [shape], fun tracks => ?_⟩
  have stepped : source.skip = source.past character rest := by simp only [skip, shape]
  rw [stepped]
  exact tracks.past character rest

/-- Several steps take as many characters, as far as there are some. -/
theorem takes_advance (count : Nat) (source : Source) :
    source.Takes (source.ahead.take count) (advance count source) := by
  induction count generalizing source with
  | zero =>
      exact takes_nil source
  | succ count inductionHypothesis =>
      cases shape : source.ahead with
      | nil =>
          have stays := inductionHypothesis source
          have stepped : source.skip = source := by simp only [skip, shape]
          rw [shape, List.take_nil] at stays
          rwa [List.take_nil, advance, stepped]
      | cons character rest =>
          have later := inductionHypothesis source.skip
          rw [ahead_skip, shape, List.tail_cons] at later
          exact (takes_skip shape).trans later

/-- A text that comes next is taken by as many steps as it has characters. -/
theorem takes_of_isPrefix
    (comes : text <+: source.ahead) :
    source.Takes text (advance text.length source) := by
  have taken := takes_advance text.length source
  rwa [← List.prefix_iff_eq_take.mp comes] at taken

/-- Characters of a class are taken up to one that is of another. -/
theorem head?_advance_takeWhile
    {keeps : Char → Bool}
    {next : Char}
    (follows :
      next ∈ (advance (source.ahead.takeWhile keeps).length source).ahead.head?) :
    keeps next = false := by
  have rest : source.ahead.dropWhile keeps =
      source.ahead.drop (source.ahead.takeWhile keeps).length := by
    have dropped := @List.drop_left _ (source.ahead.takeWhile keeps) (source.ahead.dropWhile keeps)
    rwa [List.takeWhile_append_dropWhile, eq_comm] at dropped
  have stops := List.head?_dropWhile_not keeps source.ahead
  rw [ahead_advance, ← rest, Option.mem_def] at follows
  rwa [follows] at stops

/-- A place in a script that words can count through. -/
structure Ready (source : Source) (file : String) (before : List Char) : Prop where
  tracks : source.Tracks file before
  short : before.length + source.ahead.length < UInt32.size

namespace Ready

/-- Where a character is ahead, the position counts all that is before it. -/
theorem position
    {character : Char}
    {rest : List Char}
    (ready : source.Ready file before)
    (shape : source.ahead = character :: rest) :
    source.position.At file before := by
  have short := ready.short
  rw [shape, List.length_cons] at short
  exact ready.tracks.position (by omega)

/-- Words can count on after what is taken. -/
theorem move
    (ready : source.Ready file before)
    (taken : source.Takes text after) :
    after.Ready file (before ++ text) := by
  have short := ready.short
  rw [taken.ahead, List.length_append] at short
  refine ⟨taken.tracks ready.tracks, ?_⟩
  rw [List.length_append]
  omega

end Ready

end Source

namespace Scanner

variable {source after : Source} {character : Char} {rest : List Char}

section Words

theorem position_wordToken (word : String) (position : Position) :
    (wordToken word position).position = position := by
  unfold wordToken
  split
  · rfl
  · split
    · rfl
    · split <;> rfl

/-- A word stands where it starts. -/
theorem position_scanWord (source : Source) :
    (scanWord source).1.position = source.position := by
  simp only [scanWord]
  split
  · rfl
  · exact position_wordToken _ _

/-- A word spells the token that it is. -/
theorem lexeme_wordToken
    {word : String}
    {following : List Char}
    (isWord : IsWord word.toList)
    (ends : EndsWord word.toList following)
    (position : Position) :
    Lexeme (wordToken word position) word.toList following := by
  unfold wordToken
  split
  · next isTrue =>
      subst isTrue
      exact @Lexeme.boolean true following position ends
  · next notTrue =>
      split
      · next isFalse =>
          subst isFalse
          exact @Lexeme.boolean false following position ends
      · next notFalse =>
          split
          · next keyword isKeyword =>
              exact .keyword isKeyword ends
          · next notKeyword =>
              exact .name ⟨isWord, ⟨notTrue, notFalse⟩, notKeyword⟩ ends

/-- The star of `var*` is followed by nothing that goes on with it. -/
theorem endsWord_mutableVar (following : List Char) :
    EndsWord "var*".toList following := by
  intro next _
  refine ⟨?_, by simp⟩
  rintro ⟨first, others, shape, -, continues⟩
  have spelled : 'v' :: ['a', 'r', '*', next] = first :: others := shape
  obtain ⟨-, rfl⟩ := List.cons.inj spelled
  have star := continues '*' (by simp)
  revert star
  decide

/-- What is read from a letter on is a word. -/
theorem isWord_takeWhile
    (shape : source.ahead = character :: rest)
    (starts : startsName character = true) :
    IsWord (source.ahead.takeWhile continuesName) := by
  rw [shape, List.takeWhile_cons_of_pos (by simp [continuesName, starts])]
  exact ⟨character, _, rfl, starts, List.all_eq_true.mp List.all_takeWhile⟩

/-- The scanner leaves nothing that goes on with a word, except for the star after `var`. -/
theorem endsWord_takeWhile
    {word : List Char}
    (taken : source.ahead.takeWhile continuesName = word)
    (isWord : IsWord word)
    (notStarred :
      word = "var".toList → (Source.advance word.length source).ahead.head? ≠ some '*') :
    EndsWord word (Source.advance word.length source).ahead := by
  intro next follows
  constructor
  · rintro ⟨first, others, spelled, -, continues⟩
    -- The word is not empty, and so what follows would be a later character of a word.
    obtain ⟨start, more, rfl, -⟩ := isWord
    obtain ⟨-, rfl⟩ := List.cons.inj spelled
    rw [← taken] at follows
    have stops := Source.head?_advance_takeWhile follows
    rw [continues next (by simp)] at stops
    cases stops
  · intro spelled
    have parts : word ++ [next] = "var".toList ++ ['*'] := spelled
    obtain ⟨isVar, isStar⟩ := List.append_inj' parts rfl
    obtain ⟨rfl, -⟩ := List.cons.inj isStar
    exact notStarred isVar follows

/-- What the scanner takes as a word is spelled as one. -/
theorem lexeme_scanWord
    (shape : source.ahead = character :: rest)
    (starts : startsName character = true) :
    ∃ text,
      source.Takes text (scanWord source).2 ∧
        Lexeme (scanWord source).1 text (scanWord source).2.ahead := by
  have taken := Source.takes_of_isPrefix (List.takeWhile_prefix continuesName (l := source.ahead))
  have isWord := isWord_takeWhile shape starts
  have ends := @endsWord_takeWhile source _ rfl isWord
  simp only [scanWord]
  generalize source.ahead.takeWhile continuesName = word at taken isWord ends ⊢
  obtain ⟨text, rfl⟩ : ∃ text : String, word = text.toList := ⟨_, String.toList_ofList.symm⟩
  rw [String.ofList_toList]
  split
  · next starred =>
      rw [Bool.and_eq_true, decide_eq_true_eq, decide_eq_true_eq] at starred
      obtain ⟨rfl, star⟩ := starred
      obtain ⟨others, shapeStar⟩ := List.head?_eq_some_iff.mp star
      exact ⟨_, taken.trans (Source.takes_skip shapeStar), .mutableVar (endsWord_mutableVar _)⟩
  · next notStarred =>
      rw [Bool.and_eq_true, decide_eq_true_eq, decide_eq_true_eq] at notStarred
      refine ⟨_, taken, lexeme_wordToken isWord (ends fun isVar star => ?_) _⟩
      exact notStarred ⟨String.toList_inj.mp isVar, star⟩

end Words

section Numbers

/-- The digits of a number are what comes first in the text. -/
theorem numberBody_isPrefix
    (pointSeen : Bool)
    (text : List Char) :
    (numberBody pointSeen text).1 <+: text := by
  induction text generalizing pointSeen with
  | nil =>
      exact List.prefix_rfl
  | cons character rest inductionHypothesis =>
      rw [numberBody]
      split
      · exact List.cons_prefix_cons.mpr ⟨rfl, inductionHypothesis pointSeen⟩
      · split
        · split
          · exact List.nil_prefix
          · exact List.cons_prefix_cons.mpr ⟨rfl, inductionHypothesis true⟩
        · exact List.nil_prefix

/-- After its point a number has digits alone. -/
theorem isDigit_of_mem_numberBody
    {text : List Char}
    {digit : Char}
    (member : digit ∈ (numberBody true text).1) :
    digit.isDigit = true := by
  induction text with
  | nil =>
      cases member
  | cons character rest inductionHypothesis =>
      rw [numberBody] at member
      split at member
      · next isDigit =>
          rcases List.mem_cons.mp member with rfl | later
          · exact isDigit
          · exact inductionHypothesis later
      · split at member
        · cases member
        · cases member

/-- The digits of a number stand before and after at most one point. -/
theorem numberBody_eq_append
    (text : List Char) :
    ∃ whole fraction,
      (numberBody false text).1 = whole ++ fraction ∧
        (∀ digit ∈ whole, digit.isDigit = true) ∧
        (fraction = [] ∨
          ∃ more, fraction = '.' :: more ∧ ∀ digit ∈ more, digit.isDigit = true) := by
  induction text with
  | nil =>
      exact ⟨[], [], rfl, nofun, .inl rfl⟩
  | cons character rest inductionHypothesis =>
      rw [numberBody]
      split
      · next isDigit =>
          obtain ⟨whole, fraction, shape, digits, point⟩ := inductionHypothesis
          refine ⟨character :: whole, fraction, ?_, ?_, point⟩
          · exact congrArg (character :: ·) shape
          · exact List.forall_mem_cons.mpr ⟨isDigit, digits⟩
      · split
        · next isPoint =>
            simp only [Bool.and_eq_true, decide_eq_true_eq] at isPoint
            obtain ⟨rfl, -⟩ := isPoint
            exact ⟨[], _, rfl, nofun, .inr ⟨_, rfl, fun _ => isDigit_of_mem_numberBody⟩⟩
        · exact ⟨[], [], rfl, nofun, .inl rfl⟩

/-- What a number is written with are digits, with a point perhaps. -/
theorem WritesNumber.isDigits
    {sign body suffix : List Char}
    {value : Literal}
    (writes : WritesNumber sign body suffix value) :
    IsDigits body := by
  obtain ⟨text, read⟩ := writes.digits
  obtain ⟨whole, fraction, shape, digits, point⟩ := numberBody_eq_append text
  obtain rfl : body = whole ++ fraction := by rwa [read] at shape
  refine ⟨whole, fraction, rfl, ?_, digits, point⟩
  rintro rfl
  have started := writes.started
  rcases point with rfl | ⟨more, rfl, -⟩ <;> cases started

/-- The scanner takes a number as it is spelled. -/
theorem takes_scanNumber
    {token : Token}
    (scanned : scanNumber source = .ok (token, after)) :
    ∃ text, source.Takes text after ∧ token.spelling = String.ofList text := by
  obtain ⟨sign, signEq, signed⟩ : ∃ sign,
      (if source.next? = some '-' then ['-'] else []) = sign ∧ sign <+: source.ahead := by
    split
    · next isMinus =>
        obtain ⟨others, shape⟩ := List.head?_eq_some_iff.mp isMinus
        exact ⟨['-'], rfl, others, shape.symm⟩
    · exact ⟨[], rfl, List.nil_prefix⟩
  simp only [scanNumber, signEq] at scanned
  split at scanned
  · cases scanned
  · split at scanned
    · cases scanned
      refine ⟨_, .trans (Source.takes_of_isPrefix ?_) (Source.takes_advance _ _), rfl⟩
      obtain ⟨others, shape⟩ := signed
      have bodied := numberBody_isPrefix false (source.ahead.drop sign.length)
      rw [← shape, List.drop_left] at bodied ⊢
      exact (List.prefix_append_right_inj sign).mpr bodied
    · cases scanned

/-- What the scanner takes as a number is spelled as one. -/
theorem lexeme_scanNumber
    {tokens : List Token}
    {token : Token}
    (shape : source.ahead = character :: rest)
    (starts : startsNumber tokens character rest = true)
    (scanned : scanNumber source = .ok (token, after)) :
    ∃ text, source.Takes text after ∧ Lexeme token text after.ahead ∧
      token.position = source.position := by
  obtain ⟨sign, body, suffix, value, writes, -, rfl⟩ :=
    writesNumber_of_scanNumber shape starts scanned
  obtain ⟨text, taken, spelled⟩ := takes_scanNumber scanned
  obtain rfl := String.ofList_inj.mp spelled
  exact ⟨_, taken, .number writes writes.isDigits, rfl⟩

end Numbers

section Marks

/-- A mark is spelled by what comes first in the text. -/
theorem leadingMark_isPrefix
    {mark : Mark}
    (leads : leadingMark character rest = .ok mark) :
    mark.text.toList <+: character :: rest := by
  unfold leadingMark at leads
  split at leads
  · cases leads
    exact ⟨_, rfl⟩
  · cases leads
    exact ⟨_, rfl⟩
  · cases leads
  · cases leads
    exact ⟨_, rfl⟩
  · cases leads
  · split at leads
    · next single =>
        cases leads
        rw [toList_singleMark? single]
        exact ⟨rest, rfl⟩
    · cases leads

/-- A mark of symbols is no keyword. -/
theorem ne_keyword_of_leadingMark
    {mark : Mark}
    (leads : leadingMark character rest = .ok mark)
    (word : Keyword) :
    mark ≠ .keyword word := by
  rintro rfl
  unfold leadingMark at leads
  split at leads
  · cases leads
  · cases leads
  · cases leads
  · cases leads
  · cases leads
  · split at leads
    · next single =>
        cases leads
        unfold singleMark? at single
        split at single <;> cases single
    · cases leads

end Marks

section Steps

variable {braces nextBraces : Option Nat} {tokens : List Token} {token : Token}

/-- What a step takes as a token is spelled as this token is. -/
theorem lexeme_of_step
    (shape : source.ahead = character :: rest)
    (stepped : step braces tokens source character rest = .next nextBraces (some token) after) :
    ∃ text, source.Takes text after ∧ Lexeme token text after.ahead ∧
      token.position = source.position := by
  have isCase := step_case braces tokens source character rest
  rw [stepped] at isCase
  cases isCase with
  | word notBlank starts =>
      obtain ⟨text, taken, spelled⟩ := lexeme_scanWord shape starts
      exact ⟨text, taken, spelled, position_scanWord source⟩
  | number notBlank notName starts scanned =>
      exact lexeme_scanNumber shape starts scanned
  | mark notBlank notName notNumber notQuote notClosing notComment leads =>
      have comes := leadingMark_isPrefix leads
      rw [← shape] at comes
      have taken := Source.takes_of_isPrefix comes
      rw [String.length_toList] at taken
      exact ⟨_, taken, .mark (ne_keyword_of_leadingMark leads), rfl⟩

/-- The rest of a line from a comment on is taken up to the line end. -/
theorem spacer_skipLine
    (shape : source.ahead = character :: rest)
    (starts : startsComment character rest = true) :
    ∃ text, source.Takes text (skipLine source) ∧ Spacer text (skipLine source).ahead := by
  simp only [startsComment, Bool.and_eq_true, decide_eq_true_eq] at starts
  obtain ⟨rfl, second⟩ := starts
  obtain ⟨line, rfl⟩ := List.head?_eq_some_iff.mp second
  have opens : source.ahead.takeWhile (· ≠ '\n') =
      '/' :: '/' :: line.takeWhile (· ≠ '\n') := by
    simp [shape]
  refine ⟨_, Source.takes_of_isPrefix (List.takeWhile_prefix (· ≠ '\n') (l := source.ahead)), ?_⟩
  rw [opens]
  refine .comment ?_ ?_
  · intro member
    have inside := List.all_eq_true.mp List.all_takeWhile _ member
    simp at inside
  · intro next follows
    have stops := Source.head?_advance_takeWhile follows
    simpa using stops

/-- What a step takes as no token is a blank or a comment. -/
theorem spacer_of_step
    (shape : source.ahead = character :: rest)
    (stepped : step braces tokens source character rest = .next nextBraces none after) :
    ∃ text, source.Takes text after ∧ Spacer text after.ahead := by
  have isCase := step_case braces tokens source character rest
  rw [stepped] at isCase
  cases isCase with
  | blank isBlank =>
      exact ⟨_, Source.takes_skip shape, .blank isBlank⟩
  | comment notBlank notName notNumber notQuote notClosing starts =>
      exact spacer_skipLine shape starts

/-- A quoted text starts with one of the two quotes. -/
theorem step_eq_text
    {quote : Char}
    (stepped : step braces tokens source character rest = .text quote) :
    quote = character ∧ (quote = '"' ∨ quote = '\'') := by
  have isCase := step_case braces tokens source character rest
  rw [stepped] at isCase
  cases isCase with
  | text notBlank notName notNumber isQuote =>
      rw [Bool.or_eq_true, decide_eq_true_eq, decide_eq_true_eq] at isQuote
      exact ⟨rfl, isQuote⟩

/-- The brace that closes an interpolation is the one after all inner braces. -/
theorem step_eq_close
    (stepped : step braces tokens source character rest = .close) :
    character = '}' ∧ braces = some 0 := by
  have isCase := step_case braces tokens source character rest
  rw [stepped] at isCase
  cases isCase with
  | close notBlank notName notNumber notQuote closes =>
      rwa [Bool.and_eq_true, decide_eq_true_eq, decide_eq_true_eq] at closes

/-- How the count of open braces goes on with a token, outside and inside an interpolation. -/
inductive Counts (token : Token) : Option Nat → Option Nat → Prop
  | outside : Counts token none none
  | inside
      {depth next : Nat}
      (past : token.bracesPast depth = some next) :
      Counts token (some depth) (some next)

/-- A token that is no brace leaves the count as it is. -/
theorem counts_of_no_brace
    (noBrace : ∀ depth, token.bracesPast depth = some depth)
    (braces : Option Nat) :
    Counts token braces braces := by
  cases braces with
  | none =>
      exact .outside
  | some depth =>
      exact .inside (noBrace depth)

theorem bracesPast_wordToken (word : String) (position : Position) (depth : Nat) :
    (wordToken word position).bracesPast depth = some depth := by
  unfold wordToken
  split
  · rfl
  · split
    · rfl
    · split <;> rfl

/-- A word opens and closes no brace. -/
theorem bracesPast_scanWord (source : Source) (depth : Nat) :
    (scanWord source).1.bracesPast depth = some depth := by
  simp only [scanWord]
  split
  · rfl
  · exact bracesPast_wordToken _ _ depth

/-- The scanner counts braces as they are counted, as long as it closes none that is not open. -/
theorem bracesPast_mark
    {mark : Mark}
    {depth : Nat}
    (isOpen : mark = .separator .rightBrace → depth ≠ 0)
    (spelling : String)
    (position : Position) :
    (Token.mark mark spelling position).bracesPast depth = some (braceDepth mark depth) := by
  cases mark with
  | assign | operator op | keyword word =>
      rfl
  | separator sep =>
      cases sep with
      | rightBrace =>
          obtain ⟨fewer, rfl⟩ := Nat.exists_eq_succ_of_ne_zero (isOpen rfl)
          rfl
      | leftParen | rightParen | leftBrace | leftBracket | rightBracket | comma =>
          rfl

/-- The braces that a step counts are those of the token it takes. -/
theorem counts_of_step
    (shape : source.ahead = character :: rest)
    (stepped : step braces tokens source character rest = .next nextBraces (some token) after) :
    Counts token braces nextBraces := by
  have isCase := step_case braces tokens source character rest
  rw [stepped] at isCase
  cases isCase with
  | word notBlank starts =>
      exact counts_of_no_brace (bracesPast_scanWord source) _
  | number notBlank notName starts scanned =>
      obtain ⟨sign, body, suffix, value, -, -, rfl⟩ :=
        writesNumber_of_scanNumber shape starts scanned
      exact counts_of_no_brace (fun _ => rfl) _
  | mark notBlank notName notNumber notQuote notClosing notComment leads =>
      cases braces with
      | none =>
          exact .outside
      | some depth =>
          refine .inside (bracesPast_mark ?_ _ _)
          rintro rfl rfl
          obtain ⟨others, spelled⟩ := leadingMark_isPrefix leads
          obtain ⟨rfl, -⟩ := List.cons.inj spelled
          exact notClosing rfl

end Steps

end Scanner

end Scripting
