import Scripting.Proofs.Token.Runs
import Scripting.Token.Written

namespace Scripting

/-!
# Tokens as they are written

A token can be written so that the scanner finds it again: words, numbers and marks as they are
spelled, string constants and the fragments of templates with escapes, and interpolations as token
sequences between braces.  Single blanks are enough to keep tokens apart.  This module says how
each lexeme is found again; positions are left out of the comparison.
-/

mutual

/-- How a token is written in a script. -/
def Token.written : Token → List Char
  | .name text _ => text.toList
  | .literal _ (.string content) _ => (writtenString content).toList
  | .literal text _ _ => text.toList
  | .template parts _ => '"' :: (Part.writtenAll parts ++ ['"'])
  | .mark _ spelling _ => spelling.toList

/-- How the parts of a template are written between its quotes. -/
def Part.writtenAll : List Part → List Char
  | [] => []
  | .fragment text :: rest => text.toList.flatMap writtenChar ++ Part.writtenAll rest
  | .interpolation tokens :: rest =>
      '{' :: ([' '].intercalate (Token.writtenEach tokens) ++ '}' :: Part.writtenAll rest)

/-- How each of some tokens is written. -/
def Token.writtenEach : List Token → List (List Char)
  | [] => []
  | token :: rest => token.written :: Token.writtenEach rest

end

/-- How tokens are written one after another, with single blanks between them. -/
def Token.writtenAll (tokens : List Token) : List Char :=
  [' '].intercalate (Token.writtenEach tokens)

/-- A script that consists of some tokens. -/
def Token.script (tokens : List Token) : String :=
  String.ofList (Token.writtenAll tokens)

mutual

/-- A token without its positions. -/
def Token.bare : Token → Token
  | .name text _ => .name text .none
  | .literal text value _ => .literal text value .none
  | .template parts _ => .template (Part.bareAll parts) .none
  | .mark fixed spelling _ => .mark fixed spelling .none

/-- The parts of a template without positions. -/
def Part.bareAll : List Part → List Part
  | [] => []
  | .fragment text :: rest => .fragment text :: Part.bareAll rest
  | .interpolation tokens :: rest => .interpolation (Token.bareAll tokens) :: Part.bareAll rest

/-- Tokens without positions. -/
def Token.bareAll : List Token → List Token
  | [] => []
  | token :: rest => token.bare :: Token.bareAll rest

end

theorem Token.bareAll_eq_map (tokens : List Token) :
    Token.bareAll tokens = tokens.map Token.bare := by
  induction tokens with
  | nil =>
      rfl
  | cons token rest inductionHypothesis =>
      rw [Token.bareAll, inductionHypothesis, List.map_cons]

theorem Part.bareAll_append (first second : List Part) :
    Part.bareAll (first ++ second) = Part.bareAll first ++ Part.bareAll second := by
  induction first with
  | nil =>
      rfl
  | cons part rest inductionHypothesis =>
      cases part <;> simp [Part.bareAll, inductionHypothesis]

theorem Part.bareAll_reverse (parts : List Part) :
    Part.bareAll parts.reverse = (Part.bareAll parts).reverse := by
  induction parts with
  | nil =>
      rfl
  | cons part rest inductionHypothesis =>
      cases part <;> simp [Part.bareAll, Part.bareAll_append, inductionHypothesis]

theorem Part.writtenAll_append (first second : List Part) :
    Part.writtenAll (first ++ second) = Part.writtenAll first ++ Part.writtenAll second := by
  induction first with
  | nil =>
      rfl
  | cons part rest inductionHypothesis =>
      cases part <;> simp [Part.writtenAll, inductionHypothesis]

/-- A token ends an operand whatever its position. -/
theorem Token.endsOperand_of_bare_eq
    {token other : Token}
    (same : token.bare = other.bare) :
    token.endsOperand = other.endsOperand := by
  have kindBare : ∀ any : Token, any.bare.kind = any.kind := by
    intro any
    cases any <;> rfl
  simp only [Token.endsOperand, ← kindBare token, ← kindBare other, same]

/-- The shape of a word: a character that starts names, and others that go on with them. -/
def Scanner.IsWord (text : List Char) : Prop :=
  ∃ first rest,
    text = first :: rest ∧ startsName first = true ∧
      ∀ character ∈ rest, continuesName character = true

/-- A text that can be the name of a variable: a word that is neither a keyword nor a constant. -/
structure IsName (text : String) : Prop where
  shape : Scanner.IsWord text.toList
  notConstant : text ≠ "true" ∧ text ≠ "false"
  notKeyword : Keyword.ofWord? text = none

namespace Scanner

/-- The characters that end a token: a blank, the brace that closes an interpolation, and the
separators of arguments and elements. -/
def tokenEnders : List Char :=
  [' ', '}', '(', ')', ']', ',']

/-- What may stand after a token that is written: a character that ends it, or nothing. -/
def EndsToken (tail : List Char) : Prop :=
  ∀ next, tail.head? = some next → next ∈ tokenEnders

section Ends

variable {tail : List Char} (ends : EndsToken tail)

include ends

/-- What follows a token is none of the characters that go on with one. -/
theorem EndsToken.head?_any
    {joins : Char → Bool}
    (never : tokenEnders.any joins = false) :
    tail.head?.any joins = false := by
  cases follows : tail.head? with
  | none =>
      rfl
  | some next =>
      exact Bool.eq_false_iff.mpr (List.any_eq_false.mp never next (ends next follows))

theorem EndsToken.head?_ne
    {next : Char}
    (never : next ∉ tokenEnders) :
    tail.head? ≠ some next :=
  fun follows => never (ends next follows)

/-- Characters of a class end where the token ends. -/
theorem EndsToken.takeWhile_append
    {keeps : Char → Bool}
    {word : List Char}
    (inside : ∀ character ∈ word, keeps character = true)
    (never : tokenEnders.any keeps = false) :
    (word ++ tail).takeWhile keeps = word := by
  rw [List.takeWhile_append_of_pos inside]
  have stops : tail.takeWhile keeps = [] := by
    cases shape : tail with
    | nil =>
        rfl
    | cons next rest =>
        have notKept := ends.head?_any never
        rw [shape, List.head?_cons, Option.any_some] at notKept
        simp [notKept]
  rw [stops, List.append_nil]

end Ends

section Words

variable {source again : Source} {tail : List Char}

theorem bare_wordToken (word : String) (position : Position) :
    (wordToken word position).bare = wordToken word .none := by
  unfold wordToken
  split
  · rfl
  · split
    · rfl
    · split <;> rfl

theorem written_wordToken (word : String) (position : Position) :
    (wordToken word position).written = word.toList := by
  unfold wordToken
  split
  · rfl
  · split
    · rfl
    · split <;> rfl

/-- A word is written with the character that starts it. -/
theorem written_scanWord
    {character : Char}
    {rest : List Char}
    (shape : source.ahead = character :: rest)
    (starts : startsName character = true) :
    ∃ more, (scanWord source).1.written = character :: more := by
  have word : source.ahead.takeWhile continuesName = character :: rest.takeWhile continuesName := by
    rw [shape, List.takeWhile_cons_of_pos (by simp [continuesName, starts])]
  simp only [scanWord]
  split
  · next starred =>
      simp only [Bool.and_eq_true, decide_eq_true_eq] at starred
      have isVar : source.ahead.takeWhile continuesName = ['v', 'a', 'r'] := by
        simpa using congrArg String.toList starred.1
      rw [word] at isVar
      obtain ⟨rfl, -⟩ := List.cons.inj isVar
      exact ⟨['a', 'r', '*'], rfl⟩
  · exact ⟨rest.takeWhile continuesName, by rw [written_wordToken, String.toList_ofList, word]⟩

/-- A word is found again where it is written. -/
theorem scanWord_written
    (ends : EndsToken tail)
    (shape : again.ahead = (scanWord source).1.written ++ tail) :
    (scanWord again).1.bare = (scanWord source).1.bare ∧ (scanWord again).2.ahead = tail := by
  simp only [scanWord] at shape ⊢
  split at shape
  · next starred =>
      -- The star belongs to the word `var` alone.
      rw [if_pos starred]
      have spelled : again.ahead = 'v' :: 'a' :: 'r' :: '*' :: tail := shape
      have word : again.ahead.takeWhile continuesName = ['v', 'a', 'r'] := by
        have continues : continuesName 'v' = true ∧ continuesName 'a' = true ∧
            continuesName 'r' = true ∧ continuesName '*' = false := by decide
        simp [spelled, continues]
      have isVar : String.ofList ['v', 'a', 'r'] = "var" := rfl
      have star : (Source.advance ['v', 'a', 'r'].length again).next? = some '*' := by
        simp [Source.next?, spelled]
      rw [word, if_pos (by rw [isVar, star]; rfl)]
      exact ⟨rfl, by simp [spelled]⟩
  · next notStarred =>
      rw [if_neg notStarred]
      have spelled : again.ahead = source.ahead.takeWhile continuesName ++ tail := by
        rw [shape, written_wordToken, String.toList_ofList]
      have inside : ∀ character ∈ source.ahead.takeWhile continuesName,
          continuesName character = true :=
        List.all_eq_true.mp List.all_takeWhile
      have word : again.ahead.takeWhile continuesName = source.ahead.takeWhile continuesName := by
        rw [spelled]
        exact ends.takeWhile_append inside (by decide)
      have rest : (Source.advance (source.ahead.takeWhile continuesName).length again).ahead =
          tail := by
        rw [Source.ahead_advance, spelled, List.drop_left]
      have noStar : (Source.advance (source.ahead.takeWhile continuesName).length again).next? ≠
          some '*' := by
        rw [Source.next?, rest]
        exact ends.head?_ne (by decide)
      rw [word, if_neg (by simp [noStar])]
      exact ⟨by rw [bare_wordToken, bare_wordToken], rest⟩

end Words

section Numbers

/-- What follows the digits of a number: no digit and no point. -/
def EndsNumber (rest : List Char) : Prop :=
  rest.head?.any Char.isDigit = false ∧ rest.head? ≠ some '.'

theorem EndsToken.endsNumber
    {tail : List Char}
    (ends : EndsToken tail) :
    EndsNumber tail :=
  ⟨ends.head?_any (by decide), ends.head?_ne (by decide)⟩

theorem numberBody_of_ends
    {rest : List Char}
    (ends : EndsNumber rest)
    (pointSeen : Bool) :
    numberBody pointSeen rest = ([], false) := by
  cases rest with
  | nil =>
      rfl
  | cons next rest =>
      have notDigit : next.isDigit = false := ends.1
      have notPoint : next ≠ '.' := fun isPoint => ends.2 (congrArg some isPoint)
      simp [numberBody, notDigit, notPoint]

/-- After the point of a number there is no other. -/
theorem head?_numberBody_ne
    (text : List Char) :
    (numberBody true text).1.head? ≠ some '.' := by
  cases text with
  | nil =>
      simp [numberBody]
  | cons character rest =>
      by_cases isDigit : character.isDigit
      · simp only [numberBody, isDigit, if_true, List.head?_cons, ne_eq, Option.some.injEq]
        rintro rfl
        cases isDigit
      · simp only [numberBody, isDigit, Bool.false_eq_true, if_false, if_true]
        split <;> simp

/-- The digits of a number are found again before something else. -/
theorem numberBody_written
    {pointSeen : Bool}
    {text body rest : List Char}
    (read : numberBody pointSeen text = (body, false))
    (ends : EndsNumber rest) :
    numberBody pointSeen (body ++ rest) = (body, false) := by
  induction text generalizing pointSeen body with
  | nil =>
      cases read
      exact numberBody_of_ends ends pointSeen
  | cons character others inductionHypothesis =>
      by_cases isDigit : character.isDigit
      · simp only [numberBody, isDigit, if_true, Prod.mk.injEq] at read
        obtain ⟨rfl, noSecond⟩ := read
        have restRead := inductionHypothesis (Prod.ext rfl noSecond)
        simp only [List.cons_append, numberBody, isDigit, if_true, restRead]
      · simp only [numberBody, isDigit, Bool.false_eq_true, if_false] at read
        split at read
        · next isPoint =>
            cases pointSeen with
            | true =>
                cases read
            | false =>
                simp only [Bool.false_eq_true, if_false, Prod.mk.injEq] at read
                obtain ⟨rfl, noSecond⟩ := read
                have restRead := inductionHypothesis (Prod.ext rfl noSecond)
                have single : ((numberBody true others).1 ++ rest).head? ≠ some '.' := by
                  cases digits : (numberBody true others).1 with
                  | nil =>
                      exact ends.2
                  | cons next more =>
                      have notPoint := head?_numberBody_ne others
                      rwa [digits] at notPoint
                obtain rfl : character = '.' := by
                  simp only [Bool.and_eq_true, decide_eq_true_eq] at isPoint
                  exact isPoint.1
                simp only [List.cons_append, numberBody, isDigit, Bool.false_eq_true, if_false,
                  single, ne_eq, not_false_eq_true, decide_true, Bool.and_self, if_true, restRead]
        · cases read
          exact numberBody_of_ends ends pointSeen

/-- How a number is written: a sign, digits with at most one point, and a letter for its kind. -/
structure WritesNumber (sign body suffix : List Char) (value : Literal) : Prop where
  signed : sign = [] ∨ sign = ['-']
  digits : ∃ text, numberBody false text = (body, false)
  started : body.head?.any Char.isDigit = true
  read :
    (suffix = [] ∧ (numberKind (sign ++ body) none).read (sign ++ body) = .ok value) ∨
      ∃ letter kind, suffix = [letter] ∧ NumberKind.ofSuffix? letter = some kind ∧
        kind.read (sign ++ body) = .ok value

/-- The letter of a kind is neither a digit nor a point. -/
theorem endsNumber_of_ofSuffix?
    {letter : Char}
    {kind : NumberKind}
    (suffixed : NumberKind.ofSuffix? letter = some kind)
    (tail : List Char) :
    EndsNumber (letter :: tail) := by
  unfold NumberKind.ofSuffix? at suffixed
  split at suffixed
  · exact ⟨rfl, by simp⟩
  · exact ⟨rfl, by simp⟩
  · exact ⟨rfl, by simp⟩
  · cases suffixed

variable {source again : Source} {tail : List Char}

/-- The sign and the digits that a number starts with. -/
theorem numberBody_of_startsNumber
    {tokens : List Token}
    {character : Char}
    {rest : List Char}
    (shape : source.ahead = character :: rest)
    (starts : startsNumber tokens character rest = true) :
    ∃ sign, (if source.next? = some '-' then ['-'] else []) = sign ∧
      (sign = [] ∨ sign = ['-']) ∧
      (numberBody false (source.ahead.drop sign.length)).1.head?.any Char.isDigit = true ∧
      (sign ++ (numberBody false (source.ahead.drop sign.length)).1).head? = some character := by
  rw [Source.next?, shape, List.head?_cons]
  by_cases isMinus : character = '-'
  · subst isMinus
    refine ⟨['-'], if_pos rfl, .inr rfl, ?_, rfl⟩
    cases rest with
    | nil =>
        cases starts
    | cons next others =>
        have isDigit : next.isDigit = true := by
          have notDigit : Char.isDigit '-' = false := rfl
          simp only [startsNumber, notDigit, List.head?_cons, Option.any_some, Bool.false_or,
            Bool.and_eq_true] at starts
          exact starts.1.2
        simp [numberBody, isDigit]
  · have isDigit : character.isDigit = true := by simpa [startsNumber, isMinus] using starts
    refine ⟨[], if_neg (by simpa using isMinus), .inl rfl, ?_, ?_⟩
    · simp [numberBody, isDigit]
    · simp [numberBody, isDigit]

/-- A number that is scanned is written as numbers are. -/
theorem writesNumber_of_scanNumber
    {tokens : List Token}
    {character : Char}
    {rest : List Char}
    {token : Token}
    {after : Source}
    (shape : source.ahead = character :: rest)
    (starts : startsNumber tokens character rest = true)
    (scanned : scanNumber source = .ok (token, after)) :
    ∃ sign body suffix value,
      WritesNumber sign body suffix value ∧
        (sign ++ body).head? = some character ∧
        token = .literal (String.ofList (sign ++ body ++ suffix)) value source.position := by
  obtain ⟨sign, signEq, isSign, started, first⟩ := numberBody_of_startsNumber shape starts
  simp only [scanNumber, signEq] at scanned
  generalize source.ahead.drop sign.length = text at scanned started first
  rcases read : numberBody false text with ⟨body, second⟩
  rw [read] at scanned started first
  generalize Source.advance (sign ++ body).length source = afterDigits at scanned
  cases second with
  | true =>
      cases scanned
  | false =>
      simp only [Bool.false_eq_true, if_false] at scanned
      split at scanned
      · next value valueRead =>
          cases scanned
          refine ⟨sign, body, _, value, ⟨isSign, ⟨text, read⟩, started, ?_⟩, first, rfl⟩
          cases suffixed : afterDigits.next?.bind NumberKind.ofSuffix? with
          | none =>
              rw [suffixed] at valueRead
              exact .inl ⟨rfl, valueRead⟩
          | some kind =>
              rw [suffixed] at valueRead
              obtain ⟨letter, follows, ofLetter⟩ := Option.bind_eq_some_iff.mp suffixed
              obtain ⟨others, shapeAfter⟩ := List.head?_eq_some_iff.mp follows
              refine .inr ⟨letter, kind, ?_, ofLetter, valueRead⟩
              simp [shapeAfter]
      · cases scanned

/-- The digits of a number are found again where they are written. -/
theorem numberBody_of_writes
    {sign body suffix : List Char}
    {value : Literal}
    (writes : WritesNumber sign body suffix value)
    (ends : EndsToken tail) :
    numberBody false (body ++ (suffix ++ tail)) = (body, false) := by
  obtain ⟨text, read⟩ := writes.digits
  refine numberBody_written read ?_
  rcases writes.read with ⟨rfl, -⟩ | ⟨letter, kind, rfl, ofLetter, -⟩
  · exact ends.endsNumber
  · exact endsNumber_of_ofSuffix? ofLetter tail

/-- A number is found again where it is written. -/
theorem scanNumber_of_writes
    {sign body suffix : List Char}
    {value : Literal}
    (writes : WritesNumber sign body suffix value)
    (ends : EndsToken tail)
    (shape : again.ahead = sign ++ body ++ suffix ++ tail) :
    ∃ after,
      scanNumber again =
          .ok (.literal (String.ofList (sign ++ body ++ suffix)) value again.position, after) ∧
        after.ahead = tail := by
  have signEq : (if again.next? = some '-' then ['-'] else []) = sign := by
    rw [Source.next?, shape]
    rcases writes.signed with rfl | rfl
    · cases digits : body with
      | nil =>
          have started := writes.started
          rw [digits] at started
          cases started
      | cons digit others =>
          have isDigit := writes.started
          rw [digits, List.head?_cons, Option.any_some] at isDigit
          refine if_neg ?_
          rintro isMinus
          cases isMinus
          cases isDigit
    · rfl
  have digits : numberBody false (again.ahead.drop sign.length) = (body, false) := by
    rw [shape, List.append_assoc, List.append_assoc, List.drop_left]
    exact numberBody_of_writes writes ends
  have shapeAfter : (Source.advance (sign ++ body).length again).ahead = suffix ++ tail := by
    rw [Source.ahead_advance, shape, List.append_assoc, List.drop_left]
  have nextAfter :
      (Source.advance (sign ++ body).length again).next? = (suffix ++ tail).head? := by
    rw [Source.next?, shapeAfter]
  simp only [scanNumber, signEq, digits, Bool.false_eq_true, if_false, nextAfter, shapeAfter]
  rcases writes.read with ⟨rfl, valueRead⟩ | ⟨letter, kind, rfl, ofLetter, valueRead⟩
  · have noSuffix : tail.head?.bind NumberKind.ofSuffix? = none := by
      have never : tokenEnders.any (fun next => (NumberKind.ofSuffix? next).isSome) = false := by
        decide
      cases follows : tail.head? with
      | none =>
          rfl
      | some next =>
          exact Option.not_isSome_iff_eq_none.mp
            (List.any_eq_false.mp never next (ends next follows))
    simp only [List.nil_append, noSuffix, valueRead, Option.isSome_none, Bool.false_eq_true,
      if_false, List.take_zero]
    exact ⟨_, rfl, by simpa using shapeAfter⟩
  · simp only [List.cons_append, List.nil_append, List.head?_cons, Option.bind_some, ofLetter,
      numberKind, valueRead, Option.isSome_some, if_true, List.take_succ_cons, List.take_zero]
    refine ⟨_, rfl, ?_⟩
    rw [Source.ahead_advance, shapeAfter]
    rfl

/-- A number is written as it is spelled. -/
theorem WritesNumber.written
    {sign body suffix : List Char}
    {value : Literal}
    (writes : WritesNumber sign body suffix value)
    (position : Position) :
    (Token.literal (String.ofList (sign ++ body ++ suffix)) value position).written =
      sign ++ body ++ suffix := by
  have noText : ∀ {kind : NumberKind} {digits : List Char},
      kind.read digits = .ok value → ∀ content, value ≠ .string content := by
    rintro kind digits read content rfl
    cases kind with
    | integer | long =>
        simp only [NumberKind.read] at read
        cases whole : NumberKind.readWhole _ _ digits <;> rw [whole] at read <;> cases read
    | float | double =>
        simp only [NumberKind.read] at read
        split at read
        · cases read
        · split at read <;> cases read
  have notText : ∀ content, value ≠ .string content := by
    rcases writes.read with ⟨-, read⟩ | ⟨letter, kind, -, -, read⟩
    · exact noText read
    · exact noText read
  cases value with
  | string content =>
      exact (notText content rfl).elim
  | integer | long | float | double | boolean =>
      rw [Token.written, String.toList_ofList]
      exact notText

/-- A number starts where it is written. -/
theorem WritesNumber.startsNumber
    {sign body suffix : List Char}
    {value : Literal}
    (writes : WritesNumber sign body suffix value)
    {tokens others : List Token}
    {character : Char}
    {rest more : List Char}
    (starts : Scanner.startsNumber tokens character rest = true)
    (sameOperand :
      others.head?.any Token.endsOperand = tokens.head?.any Token.endsOperand)
    (shape : sign ++ body ++ suffix = character :: more)
    (tail : List Char) :
    Scanner.startsNumber others character (more ++ tail) = true := by
  have started := writes.started
  obtain ⟨digit, others, rfl⟩ : ∃ digit others, body = digit :: others := by
    cases body with
    | nil =>
        cases started
    | cons digit others =>
        exact ⟨digit, others, rfl⟩
  rw [List.head?_cons, Option.any_some] at started
  rcases writes.signed with rfl | rfl
  · obtain ⟨rfl, -⟩ := List.cons.inj shape
    simp [Scanner.startsNumber, started]
  · obtain ⟨rfl, rfl⟩ := List.cons.inj shape
    have notDigit : Char.isDigit '-' = false := rfl
    simp only [Scanner.startsNumber, notDigit, Bool.false_or, Bool.and_eq_true] at starts ⊢
    rw [sameOperand]
    exact ⟨⟨rfl, started⟩, starts.2⟩

end Numbers

section Marks

/-- What a mark holds after its first character. -/
def GoesOnMark (more : List Char) : Prop :=
  more = [] ∨ more = ['='] ∨ more = ['.', '.']

/-- What follows the first character of a mark is of no class that leaves out its own characters and
what ends a token. -/
theorem GoesOnMark.head?_any
    {more tail : List Char}
    (goesOn : GoesOnMark more)
    (ends : EndsToken tail)
    {joins : Char → Bool}
    (noSign : joins '=' = false)
    (noPoint : joins '.' = false)
    (never : tokenEnders.any joins = false) :
    (more ++ tail).head?.any joins = false := by
  rcases goesOn with rfl | rfl | rfl
  · exact ends.head?_any never
  · exact noSign
  · exact noPoint

theorem toList_singleMark?
    {character : Char}
    {mark : Mark}
    (single : singleMark? character = some mark) :
    mark.text.toList = [character] := by
  unfold singleMark? at single
  split at single <;> simp only [Option.some.injEq, reduceCtorEq] at single <;>
    subst single <;> rfl

/-- A mark is found again where it is written. -/
theorem leadingMark_written
    {character : Char}
    {rest : List Char}
    {mark : Mark}
    (leads : leadingMark character rest = .ok mark) :
    ∃ more, mark.text.toList = character :: more ∧ GoesOnMark more ∧
      ∀ {tail}, EndsToken tail → leadingMark character (more ++ tail) = .ok mark := by
  rw [leadingMark_eq] at leads
  split at leads
  · next isEqual =>
      cases leads
      obtain ⟨rfl, -⟩ := isEqual
      exact ⟨['='], rfl, .inr (.inl rfl), fun _ => rfl⟩
  · split at leads
    · next isBang =>
        split at leads
        · cases leads
          subst isBang
          exact ⟨['='], rfl, .inr (.inl rfl), fun _ => rfl⟩
        · cases leads
    · next notBang =>
        split at leads
        · next isPoint =>
            split at leads
            · cases leads
              subst isPoint
              exact ⟨['.', '.'], rfl, .inr (.inr rfl), fun _ => rfl⟩
            · cases leads
        · next notPoint =>
            split at leads
            · next single =>
                cases leads
                refine ⟨[], toList_singleMark? single, .inl rfl, fun {tail} ends => ?_⟩
                have noSign : ¬(character = '=' ∧ tail.head? = some '=') :=
                  fun both => ends.head?_ne (by decide) both.2
                rw [List.nil_append, leadingMark_eq, if_neg noSign, if_neg notBang,
                  if_neg notPoint, single]
            · cases leads

end Marks

section Steps

variable {braces nextBraces : Option Nat} {tokens others : List Token} {token : Token}
  {source after again : Source} {character : Char} {rest tail : List Char}

/-- A word, a number or a mark is found again where it is written. -/
theorem step_written
    (shape : source.ahead = character :: rest)
    (stepped : step braces tokens source character rest = .next nextBraces (some token) after)
    (sameOperand :
      others.head?.any Token.endsOperand = tokens.head?.any Token.endsOperand)
    (ends : EndsToken tail)
    (shapeAgain : again.ahead = token.written ++ tail) :
    ∃ more found final,
      again.ahead = character :: more ∧
        step braces others again character more = .next nextBraces (some found) final ∧
        found.bare = token.bare ∧
        final.ahead = tail := by
  have isCase := step_case braces tokens source character rest
  rw [stepped] at isCase
  cases isCase with
  | word notBlank starts =>
      obtain ⟨more, written⟩ := written_scanWord shape starts
      obtain ⟨same, left⟩ := scanWord_written ends shapeAgain
      rw [written] at shapeAgain
      exact ⟨more ++ tail, _, _, shapeAgain, (StepCase.word notBlank starts).step_eq, same, left⟩
  | number notBlank notName starts scanned =>
      obtain ⟨sign, body, suffix, value, writes, first, rfl⟩ :=
        writesNumber_of_scanNumber shape starts scanned
      obtain ⟨more, digits⟩ := List.head?_eq_some_iff.mp first
      have spelled : sign ++ body ++ suffix = character :: (more ++ suffix) := by
        rw [digits, List.cons_append]
      rw [writes.written] at shapeAgain
      obtain ⟨final, found, left⟩ := scanNumber_of_writes writes ends shapeAgain
      have startsAgain := writes.startsNumber starts sameOperand spelled tail
      rw [spelled] at shapeAgain
      exact ⟨more ++ suffix ++ tail, .literal _ value again.position, final, shapeAgain,
        (StepCase.number notBlank notName startsAgain found).step_eq, rfl, left⟩
  | @mark mark notBlank notName notNumber notQuote notClosing notComment leads =>
      obtain ⟨more, spelled, goesOn, leadsAgain⟩ := leadingMark_written leads
      have noNumber : ¬startsNumber others character (more ++ tail) := by
        have noDigit : (more ++ tail).head?.any Char.isDigit = false :=
          goesOn.head?_any ends rfl rfl (by decide)
        simp only [startsNumber, noDigit, Bool.and_false, Bool.false_and, Bool.or_false]
        exact fun isDigit => notNumber (by simp [startsNumber, isDigit])
      have noComment : ¬startsComment character (more ++ tail) := by
        have noSlash : (more ++ tail).head?.any (· = '/') = false :=
          goesOn.head?_any ends rfl rfl (by decide)
        intro comment
        simp only [startsComment, Bool.and_eq_true, decide_eq_true_eq] at comment
        rw [comment.2] at noSlash
        cases noSlash
      have shapeMark : again.ahead = character :: (more ++ tail) := by
        rw [shapeAgain, Token.written, spelled, List.cons_append]
      refine ⟨more ++ tail, .mark mark mark.text again.position,
        Source.advance mark.text.length again, shapeMark, ?_, rfl, ?_⟩
      · exact (StepCase.mark notBlank notName noNumber notQuote notClosing noComment
          (leadsAgain ends)).step_eq
      · rw [Source.ahead_advance, shapeAgain, Token.written, ← String.length_toList, List.drop_left]

end Steps

section Texts

/-- How a character of a text can stand between double quotes: as itself, or as an escape. -/
def SpellsCharacter (spelling : List Char) (character : Char) : Prop :=
  (spelling = [character] ∧ character ≠ '"' ∧ character ≠ '\\' ∧ character ≠ '{') ∨
    ∃ letter, spelling = ['\\', letter] ∧ unescape? letter = some character

theorem spells_writtenChar (character : Char) :
    SpellsCharacter (writtenChar character) character := by
  unfold writtenChar
  split
  iterate 8
    exact .inr ⟨_, rfl, rfl⟩
  next noLineEnd noTab noReturn noZero notBackslash notQuote notOpening notClosing =>
    exact .inl ⟨rfl, notQuote, notBackslash, notOpening⟩

variable {character : Char} {spelling : List Char} (spells : SpellsCharacter spelling character)

include spells

theorem SpellsCharacter.eq_cons :
    ∃ first more, spelling = first :: more := by
  rcases spells with ⟨plain, -⟩ | ⟨letter, escaped, -⟩
  · exact ⟨_, _, plain⟩
  · exact ⟨_, _, escaped⟩

/-- A character of a text is found where it is spelled, and what follows decides about the outcome. -/
theorem SpellsCharacter.scansText
    {again : Source}
    {tail : List Char}
    (shape : again.ahead = spelling ++ tail) :
    ∃ after, after.ahead = tail ∧
      ∀ {opened parts text outcome},
        ScansText '"' opened parts (character :: text) after outcome →
          ScansText '"' opened parts text again outcome := by
  rcases spells with ⟨plain, isPlain⟩ | ⟨letter, escaped, means⟩
  · rw [plain] at shape
    have comes : again.next? = some character := by simp [Source.next?, shape]
    exact ⟨again.skip, by simp [shape], .plain comes isPlain⟩
  · rw [escaped] at shape
    have escapes : again.next? = some '\\' := by simp [Source.next?, shape]
    have follows : again.skip.next? = some letter := by simp [Source.next?, shape]
    exact ⟨again.skip.skip, by simp [shape], .escape escapes (by decide) follows means⟩

end Texts

end Scanner

end Scripting
