import Scripting.Token.Scanner

namespace Scripting

/-!
# Text in another place

A text may stand inside a longer one: after other text, in another script, on later lines, and
before other text.  Each step of the scanner does the same there, unless what follows joins its
lexeme.
-/

/-- Where a text stands in a longer one: the script, what is before and after the text, and the
number of lines before it. -/
structure Placement where
  file : String
  before : List Char
  after : List Char
  lines : UInt32

/-- What follows the text starts with a line end, if there is anything. -/
def Placement.EndsLine (placement : Placement) : Prop :=
  ∀ character, placement.after.head? = some character → character = '\n'

/-- What follows the text does not join the lexeme before some characters that are left: it starts
with a line end, or there are such characters. -/
def Placement.Apart (placement : Placement) (left : List Char) : Prop :=
  placement.EndsLine ∨ left ≠ []

/-- What keeps off fewer characters keeps off more. -/
theorem Placement.Apart.of_length_le
    {placement : Placement}
    {left more : List Char}
    (apart : placement.Apart left)
    (notLonger : left.length ≤ more.length) :
    placement.Apart more := by
  refine apart.imp_right fun notEmpty none => notEmpty ?_
  rw [none] at notLonger
  exact List.length_eq_zero_iff.mp (Nat.le_zero.mp notLonger)

/-- A character other than a line end comes next in both texts or in neither. -/
theorem Placement.Apart.head?_eq_iff
    {placement : Placement}
    {left : List Char}
    (apart : placement.Apart left)
    {character : Char}
    (notLineEnd : character ≠ '\n') :
    (left ++ placement.after).head? = some character ↔ left.head? = some character := by
  cases left with
  | nil =>
      have endsLine := apart.resolve_right (by simp)
      simp only [List.nil_append, List.head?_nil, reduceCtorEq, iff_false]
      exact fun follows => notLineEnd (endsLine character follows)
  | cons first rest =>
      rfl

/-- What a reading makes of the next character is the same if it makes nothing of a line end. -/
theorem Placement.Apart.head?_bind
    {Result : Type}
    {placement : Placement}
    {left : List Char}
    (apart : placement.Apart left)
    {read : Char → Option Result}
    (notLineEnd : read '\n' = none) :
    (left ++ placement.after).head?.bind read = left.head?.bind read := by
  cases left with
  | nil =>
      have endsLine := apart.resolve_right (by simp)
      cases follows : placement.after.head? with
      | none =>
          simp [follows]
      | some character =>
          simp [follows, endsLine character follows, notLineEnd]
  | cons first rest =>
      rfl

/-- Positions are the same in two longer texts: in the same script after as many lines. -/
def Placement.Agrees (placement other : Placement) : Prop :=
  placement.file = other.file ∧ placement.lines = other.lines

/-- A position in the longer text. -/
def Position.placed (placement : Placement) (position : Position) : Position :=
  ⟨placement.file, position.line + placement.lines, position.column⟩

/-- A fault at its position in the longer text. -/
def LexicalError.placed (placement : Placement) (error : LexicalError) : LexicalError :=
  ⟨error.position.placed placement, error.fault⟩

/-- A place between characters in the longer text. -/
def Source.placed (placement : Placement) (source : Source) : Source where
  file := placement.file
  behind := source.behind ++ placement.before
  ahead := source.ahead ++ placement.after
  line := source.line + placement.lines
  column := source.column

mutual

/-- A token at its position in the longer text. -/
def Token.placed (placement : Placement) : Token → Token
  | .name text position => .name text (position.placed placement)
  | .literal text value position => .literal text value (position.placed placement)
  | .template parts position =>
      .template (Part.placedAll placement parts) (position.placed placement)
  | .mark fixed spelling position => .mark fixed spelling (position.placed placement)

/-- The parts of a template at their positions in the longer text. -/
def Part.placedAll (placement : Placement) : List Part → List Part
  | [] => []
  | .fragment text :: rest => .fragment text :: Part.placedAll placement rest
  | .interpolation tokens :: rest =>
      .interpolation (Token.placedAll placement tokens) :: Part.placedAll placement rest

/-- Tokens at their positions in the longer text. -/
def Token.placedAll (placement : Placement) : List Token → List Token
  | [] => []
  | token :: rest => token.placed placement :: Token.placedAll placement rest

end

mutual

/-- The place of a token depends on what is before it, not on what follows. -/
theorem Token.placed_congr
    {placement other : Placement}
    (agrees : placement.Agrees other)
    (token : Token) :
    token.placed placement = token.placed other := by
  cases token with
  | name text position | literal text value position | mark fixed spelling position =>
      simp only [Token.placed, Position.placed, agrees.1, agrees.2]
  | template parts position =>
      simp only [Token.placed, Position.placed, agrees.1, agrees.2,
        Part.placedAll_congr agrees parts]

/-- The places of parts depend on what is before them only. -/
theorem Part.placedAll_congr
    {placement other : Placement}
    (agrees : placement.Agrees other)
    (parts : List Part) :
    Part.placedAll placement parts = Part.placedAll other parts := by
  match parts with
  | [] =>
      rfl
  | .fragment text :: rest =>
      simp only [Part.placedAll, Part.placedAll_congr agrees rest]
  | .interpolation tokens :: rest =>
      simp only [Part.placedAll, Token.placedAll_congr agrees tokens,
        Part.placedAll_congr agrees rest]

/-- The places of tokens depend on what is before them only. -/
theorem Token.placedAll_congr
    {placement other : Placement}
    (agrees : placement.Agrees other)
    (tokens : List Token) :
    Token.placedAll placement tokens = Token.placedAll other tokens := by
  match tokens with
  | [] =>
      rfl
  | token :: rest =>
      simp only [Token.placedAll, Token.placed_congr agrees token,
        Token.placedAll_congr agrees rest]

end

/-- Tokens are placed one by one. -/
theorem Token.placedAll_eq_map (placement : Placement) (tokens : List Token) :
    Token.placedAll placement tokens = tokens.map (Token.placed placement) := by
  induction tokens with
  | nil =>
      rfl
  | cons token rest inductionHypothesis =>
      simp [Token.placedAll, inductionHypothesis]

theorem Part.placedAll_append (placement : Placement) (first second : List Part) :
    Part.placedAll placement (first ++ second) =
      Part.placedAll placement first ++ Part.placedAll placement second := by
  induction first with
  | nil =>
      rfl
  | cons part rest inductionHypothesis =>
      cases part <;> simp [Part.placedAll, inductionHypothesis]

/-- Parts that are collected in reverse are placed as the same parts. -/
theorem Part.placedAll_reverse (placement : Placement) (parts : List Part) :
    Part.placedAll placement parts.reverse = (Part.placedAll placement parts).reverse := by
  induction parts with
  | nil =>
      rfl
  | cons part rest inductionHypothesis =>
      cases part <;>
        simp [Part.placedAll, Part.placedAll_append, inductionHypothesis]

namespace Token

@[simp] theorem kind_placed (placement : Placement) (token : Token) :
    (token.placed placement).kind = token.kind := by
  cases token <;> simp [placed, kind]

@[simp] theorem position_placed (placement : Placement) (token : Token) :
    (token.placed placement).position = token.position.placed placement := by
  cases token <;> simp [placed, position]

@[simp] theorem endsOperand_placed (placement : Placement) (token : Token) :
    (token.placed placement).endsOperand = token.endsOperand := by
  simp [endsOperand]

end Token

namespace Source

variable (placement : Placement) {source : Source}

@[simp] theorem position_placed (source : Source) :
    (source.placed placement).position = source.position.placed placement :=
  rfl

@[simp] theorem ahead_placed (source : Source) :
    (source.placed placement).ahead = source.ahead ++ placement.after :=
  rfl

/-- Where a character comes next, the end is not reached. -/
theorem ahead_ne_nil_of_next?
    {character : Char}
    (follows : source.next? = some character) :
    source.ahead ≠ [] := by
  intro atEnd
  simp [next?, atEnd] at follows

/-- A step over a character leads to the same place in the larger text. -/
theorem skip_placed (notAtEnd : source.ahead ≠ []) :
    (source.placed placement).skip = source.skip.placed placement := by
  obtain ⟨character, rest, shape⟩ := List.exists_cons_of_ne_nil notAtEnd
  simp only [skip, placed, shape, List.cons_append, past]
  split
  · simp [UInt32.add_assoc, UInt32.add_comm placement.lines]
  · rfl

@[simp] theorem ahead_skip (source : Source) : source.skip.ahead = source.ahead.tail := by
  unfold skip
  split
  · next shape =>
      simp [shape]
  · next shape =>
      simp [shape, past]

/-- Where a character follows, stepping over it takes it. -/
theorem length_skip_lt
    {character : Char}
    (follows : source.next? = some character) :
    source.skip.ahead.length < source.ahead.length := by
  obtain ⟨rest, shape⟩ := List.head?_eq_some_iff.mp follows
  rw [ahead_skip, shape, List.tail_cons]
  exact Nat.lt_succ_self _

@[simp] theorem ahead_advance (count : Nat) (source : Source) :
    (advance count source).ahead = source.ahead.drop count := by
  induction count generalizing source with
  | zero =>
      rfl
  | succ count inductionHypothesis =>
      simp [advance, inductionHypothesis]

/-- So do steps over several characters, as long as there are so many. -/
theorem advance_placed
    {count : Nat}
    (enough : count ≤ source.ahead.length) :
    advance count (source.placed placement) = (advance count source).placed placement := by
  induction count generalizing source with
  | zero =>
      rfl
  | succ count inductionHypothesis =>
      have notAtEnd : source.ahead ≠ [] := by
        intro atEnd
        simp [atEnd] at enough
      have enoughAfter : count ≤ source.skip.ahead.length := by
        rw [ahead_skip, List.length_tail]
        omega
      simp only [advance, skip_placed placement notAtEnd, inductionHypothesis enoughAfter]

/-- The next character is the same in the larger text. -/
theorem next?_placed
    {character : Char}
    (follows : source.next? = some character) :
    (source.placed placement).next? = some character := by
  simp only [next?, ahead_placed, List.head?_append] at follows ⊢
  simp [follows]

end Source

namespace Scanner

variable (placement : Placement) {source : Source}

/-- A lexeme that ends before the text does, or before a line end, ends there in the larger text. -/
theorem takeWhile_append
    {keeps : Char → Bool}
    {text : List Char}
    (apart : placement.Apart (text.drop (text.takeWhile keeps).length))
    (notLineEnd : keeps '\n' = false) :
    (text ++ placement.after).takeWhile keeps = text.takeWhile keeps := by
  rw [List.takeWhile_append]
  split
  · next all =>
      rw [all, List.drop_length] at apart
      have endsLine := apart.resolve_right (by simp)
      have nothingAfter : placement.after.takeWhile keeps = [] := by
        cases shape : placement.after with
        | nil =>
            rfl
        | cons character rest =>
            have isLineEnd : character = '\n' := endsLine character (by simp [shape])
            simp [isLineEnd, notLineEnd]
      rw [nothingAfter, List.append_nil]
      exact (List.takeWhile_prefix keeps).eq_of_length all |>.symm
  · rfl

/-- A lexeme is no longer than the text. -/
theorem length_takeWhile_le (keeps : Char → Bool) (text : List Char) :
    (text.takeWhile keeps).length ≤ text.length :=
  (List.takeWhile_prefix keeps).length_le

/-- Whether a word is reserved does not depend on its place. -/
theorem placed_wordToken (word : String) (position : Position) :
    (wordToken word position).placed placement = wordToken word (position.placed placement) := by
  unfold wordToken
  split
  · rfl
  · split
    · rfl
    · split <;> rfl

/-- A word is the same in the larger text if nothing joins it. -/
theorem scanWord_placed
    (apart : placement.Apart (scanWord source).2.ahead) :
    scanWord (source.placed placement) =
      ((scanWord source).1.placed placement, (scanWord source).2.placed placement) := by
  have wordApart :
      placement.Apart (source.ahead.drop (source.ahead.takeWhile continuesName).length) := by
    refine apart.of_length_le ?_
    simp only [scanWord]
    split
    · rw [Source.ahead_skip, Source.ahead_advance, List.length_tail]
      omega
    · exact Nat.le_of_eq (by rw [Source.ahead_advance])
  have sameWord := takeWhile_append placement wordApart (by decide)
  have sameRest := Source.advance_placed placement
    (length_takeWhile_le continuesName source.ahead)
  have sameStar :
      ((Source.advance (source.ahead.takeWhile continuesName).length source).placed
          placement).next? = some '*' ↔
        (Source.advance (source.ahead.takeWhile continuesName).length source).next? =
          some '*' := by
    rw [Source.next?, Source.next?, Source.ahead_placed, Source.ahead_advance]
    exact wordApart.head?_eq_iff (by decide)
  simp only [scanWord, Source.ahead_placed, sameWord, sameRest, sameStar]
  split
  · next isStarred =>
      simp only [Bool.and_eq_true, decide_eq_true_eq] at isStarred
      rw [Source.skip_placed placement (Source.ahead_ne_nil_of_next? isStarred.2)]
      rfl
  · rw [placed_wordToken]
    rfl

/-- What follows a point that ends a text is not another point. -/
theorem apart_of_numberBody
    {pointSeen : Bool}
    {rest : List Char}
    (apart : placement.Apart (('.' :: rest).drop (numberBody pointSeen ('.' :: rest)).1.length))
    (secondEndsLine : (numberBody pointSeen ('.' :: rest)).2 = true → placement.EndsLine) :
    placement.Apart rest := by
  cases rest with
  | cons =>
      exact .inr (List.cons_ne_nil _ _)
  | nil =>
      cases pointSeen with
      | true =>
          exact .inl (secondEndsLine rfl)
      | false =>
          simpa [numberBody] using apart

/-- The digits of a number end where they did, if nothing joins them. -/
theorem numberBody_append
    {pointSeen : Bool}
    {text : List Char}
    (apart : placement.Apart (text.drop (numberBody pointSeen text).1.length))
    (secondEndsLine : (numberBody pointSeen text).2 = true → placement.EndsLine) :
    numberBody pointSeen (text ++ placement.after) = numberBody pointSeen text := by
  induction text generalizing pointSeen with
  | nil =>
      have endsLine := apart.resolve_right (by simp)
      cases shape : placement.after with
      | nil =>
          rfl
      | cons character rest =>
          have isLineEnd : character = '\n' := endsLine character (by simp [shape])
          simp [numberBody, isLineEnd]
  | cons character rest inductionHypothesis =>
      by_cases isDigit : character.isDigit
      · simp only [numberBody, isDigit, if_true] at apart secondEndsLine
        simp only [List.cons_append, numberBody, isDigit, if_true,
          inductionHypothesis apart secondEndsLine]
      · by_cases isPoint : character = '.'
        · subst isPoint
          have samePoint := (apart_of_numberBody placement apart secondEndsLine).head?_eq_iff
            (show '.' ≠ '\n' by decide)
          simp only [numberBody, isDigit, Bool.false_eq_true, if_false] at apart secondEndsLine
          simp only [List.cons_append, numberBody, isDigit, Bool.false_eq_true, if_false, ne_eq,
            samePoint]
          split at secondEndsLine
          · next isSingle =>
              rw [if_pos isSingle] at apart
              simp only [ne_eq] at isSingle
              rw [if_pos isSingle, if_pos isSingle]
              cases pointSeen with
              | true =>
                  rfl
              | false =>
                  simp only [Bool.false_eq_true, if_false] at apart secondEndsLine ⊢
                  rw [inductionHypothesis apart secondEndsLine]
          · next notSingle =>
              simp only [ne_eq] at notSingle
              rw [if_neg notSingle, if_neg notSingle]
        · simp [numberBody, isDigit, isPoint]

/-- A number is no longer than the text. -/
theorem length_numberBody_le (pointSeen : Bool) (text : List Char) :
    (numberBody pointSeen text).1.length ≤ text.length := by
  fun_induction numberBody pointSeen text <;> simp_all

/-- What follows a text does not change an outcome: what was taken ends before it, and where
something was refused, a line end follows. -/
def Settled : Except LexicalError (Token × Source) → Prop
  | .ok (_, after) => placement.Apart after.ahead
  | .error _ => placement.EndsLine

/-- An outcome in the longer text. -/
def placedOutcome :
    Except LexicalError (Token × Source) → Except LexicalError (Token × Source)
  | .ok (token, after) => .ok (token.placed placement, after.placed placement)
  | .error error => .error (error.placed placement)

/-- A number is the same in the larger text, or refused with the same error. -/
theorem scanNumber_placed
    (settled : Settled placement (scanNumber source))
    (notAtEnd : source.ahead ≠ []) :
    scanNumber (source.placed placement) = placedOutcome placement (scanNumber source) := by
  have sameSign : (source.placed placement).next? = source.next? := by
    obtain ⟨character, rest, shape⟩ := List.exists_cons_of_ne_nil notAtEnd
    simp [Source.next?, shape]
  have signFits :
      (if source.next? = some '-' then ['-'] else []).length ≤ source.ahead.length := by
    split
    · exact List.length_pos_iff.mpr notAtEnd
    · simp
  simp only [scanNumber, sameSign, Source.ahead_placed, Source.position_placed] at settled ⊢
  generalize (if source.next? = some '-' then ['-'] else []) = sign at settled signFits ⊢
  rw [List.drop_append_of_le_length signFits]
  have bodyFits := length_numberBody_le false (source.ahead.drop sign.length)
  have digitsFit :
      (sign ++ (numberBody false (source.ahead.drop sign.length)).1).length ≤
        source.ahead.length := by
    simp only [List.length_append, List.length_drop] at bodyFits ⊢
    omega
  have digitsApart :
      placement.Apart
        (Source.advance (sign ++ (numberBody false (source.ahead.drop sign.length)).1).length
          source).ahead := by
    split at settled
    · exact .inl settled
    · split at settled
      · refine Placement.Apart.of_length_le settled ?_
        rw [Source.ahead_advance, List.length_drop]
        omega
      · exact .inl settled
  have bodyApart :
      placement.Apart ((source.ahead.drop sign.length).drop
        (numberBody false (source.ahead.drop sign.length)).1.length) := by
    rwa [Source.ahead_advance, List.length_append, ← List.drop_drop] at digitsApart
  have secondEndsLine :
      (numberBody false (source.ahead.drop sign.length)).2 = true → placement.EndsLine := by
    intro second
    rwa [if_pos second] at settled
  rw [numberBody_append placement bodyApart secondEndsLine]
  generalize numberBody false (source.ahead.drop sign.length) = number at digitsFit digitsApart ⊢
  rw [Source.advance_placed placement digitsFit]
  generalize Source.advance (sign ++ number.1).length source = afterDigits at digitsApart ⊢
  have sameSuffix :
      (afterDigits.placed placement).next?.bind NumberKind.ofSuffix? =
        afterDigits.next?.bind NumberKind.ofSuffix? :=
    digitsApart.head?_bind rfl
  have suffixFits :
      (if (afterDigits.next?.bind NumberKind.ofSuffix?).isSome then 1 else 0) ≤
        afterDigits.ahead.length := by
    split
    · next hasSuffix =>
        cases follows : afterDigits.next? with
        | none =>
            simp [follows] at hasSuffix
        | some character =>
            exact List.length_pos_iff.mpr (Source.ahead_ne_nil_of_next? follows)
    · simp
  rw [sameSuffix]
  generalize afterDigits.next?.bind NumberKind.ofSuffix? = suffix at suffixFits ⊢
  rw [Source.ahead_placed, List.take_append_of_le_length suffixFits,
    Source.advance_placed placement suffixFits]
  split
  · rfl
  · split <;> simp only [placedOutcome, Token.placed, LexicalError.placed]

/-- A sign starts a number in both texts or in neither, after tokens that end an operand alike. -/
theorem startsNumber_append
    {tokens others : List Token}
    (sameOperand :
      others.head?.any Token.endsOperand = tokens.head?.any Token.endsOperand)
    {character : Char}
    {rest : List Char}
    (apart : character = '-' → placement.Apart rest) :
    startsNumber others character (rest ++ placement.after) =
      startsNumber tokens character rest := by
  by_cases isMinus : character = '-'
  · have sameDigit :
        (rest ++ placement.after).head?.any Char.isDigit = rest.head?.any Char.isDigit := by
      cases rest with
      | cons =>
          rfl
      | nil =>
          have endsLine := (apart isMinus).resolve_right (by simp)
          cases follows : placement.after.head? with
          | none =>
              simp [follows]
          | some next =>
              simp [follows, endsLine next follows]
    simp only [startsNumber, sameDigit, sameOperand]
  · simp [startsNumber, isMinus]

/-- A comment starts in both texts or in neither. -/
theorem startsComment_append
    {character : Char}
    {rest : List Char}
    (apart : placement.Apart rest) :
    startsComment character (rest ++ placement.after) = startsComment character rest := by
  simp only [startsComment, apart.head?_eq_iff (show '/' ≠ '\n' by decide)]

/-- A mark is as long in the larger text if nothing joins it. -/
theorem leadingMark_append
    {character : Char}
    {rest : List Char}
    {mark : Mark}
    (apart : placement.Apart rest)
    (leads : leadingMark character rest = .ok mark) :
    leadingMark character (rest ++ placement.after) = .ok mark := by
  cases rest with
  | cons second rest =>
      unfold leadingMark at leads ⊢
      split at leads <;> simp_all
  | nil =>
      have endsLine := apart.resolve_right (by simp)
      cases shape : placement.after with
      | nil =>
          exact leads
      | cons next others =>
          have isLineEnd : next = '\n' := endsLine next (by simp [shape])
          subst isLineEnd
          unfold leadingMark at leads ⊢
          split at leads <;> simp_all

/-- What the characters after the first one decide about a mark. -/
theorem leadingMark_eq (character : Char) (rest : List Char) :
    leadingMark character rest =
      if character = '=' ∧ rest.head? = some '=' then
        .ok (.operator .equal)
      else if character = '!' then
        if rest.head? = some '=' then .ok (.operator .notEqual) else .error .loneBang
      else if character = '.' then
        if rest.take 2 = ['.', '.'] then .ok (.operator .range) else .error .lonePoint
      else
        match singleMark? character with
        | some mark => .ok mark
        | none => .error (.strayCharacter character) := by
  unfold leadingMark
  split
  · rfl
  · rfl
  · next notEqual =>
      have noSign : rest.head? ≠ some '=' := by
        intro isSign
        obtain ⟨tail, shape⟩ := List.head?_eq_some_iff.mp isSign
        exact notEqual tail shape
      simp [noSign]
  · rfl
  · next notPoints =>
      have noPoints : rest.take 2 ≠ ['.', '.'] := by
        intro arePoints
        rcases rest with _ | ⟨second, _ | ⟨third, rest⟩⟩ <;> simp_all
      simp [noPoints]
  · next notBang notPoint notEqual _ _ =>
      have noSign : ¬(character = '=' ∧ rest.head? = some '=') := by
        rintro ⟨isEqual, isSign⟩
        obtain ⟨tail, shape⟩ := List.head?_eq_some_iff.mp isSign
        exact notEqual tail isEqual shape
      rw [if_neg noSign, if_neg notBang]
      cases singleMark? character <;> exact (if_neg notPoint).symm

/-- A line end after a text is part of no mark. -/
theorem leadingMark_endsLine
    (endsLine : placement.EndsLine)
    (character : Char)
    (rest : List Char) :
    leadingMark character (rest ++ placement.after) = leadingMark character rest := by
  have sameSign : (rest ++ placement.after).head? = some '=' ↔ rest.head? = some '=' :=
    Placement.Apart.head?_eq_iff (.inl endsLine) (by decide)
  have samePoints :
      (rest ++ placement.after).take 2 = ['.', '.'] ↔ rest.take 2 = ['.', '.'] := by
    rcases rest with _ | ⟨second, _ | ⟨third, rest⟩⟩
    all_goals
      cases shape : placement.after with
      | nil =>
          simp
      | cons next others =>
          obtain rfl : next = '\n' := endsLine next (by simp [shape])
          simp
  simp only [leadingMark_eq, sameSign, samePoints]

/-- A line comment ends at the same line end. -/
theorem skipLine_placed
    (apart : placement.Apart (skipLine source).ahead) :
    skipLine (source.placed placement) = (skipLine source).placed placement := by
  rw [skipLine, Source.ahead_advance] at apart
  have sameLine := takeWhile_append placement apart (by decide)
  have lineFits := length_takeWhile_le (· ≠ '\n') source.ahead
  rw [skipLine, skipLine, Source.ahead_placed, sameLine, Source.advance_placed placement lineFits]

end Scanner

end Scripting
