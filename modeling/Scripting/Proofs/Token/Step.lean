import Scripting.Proofs.Token.Placement

namespace Scripting.Scanner

/-!
# One step of the scanner

Outside quoted texts the scanner takes one blank, comment or token after another.  What it takes
depends on the characters ahead and on whether the token before ends an operand.  Text that follows
changes nothing, as long as it cannot join what is taken.
-/

/-- What the scanner does at a character: it goes on after a lexeme, which may be a token, or scans a
quoted text, or ends an interpolation, or refuses the character. -/
inductive Step where
  | next (braces : Option Nat) (taken : Option Token) (after : Source)
  | text (quote : Char)
  | close
  | refuse (error : LexicalError)

/-- The step at a character. -/
def step (braces : Option Nat) (tokens : List Token) (source : Source) (character : Char)
    (rest : List Char) : Step :=
  if Text.isBlank character then
    .next braces none source.skip
  else if startsName character then
    .next braces (some (scanWord source).1) (scanWord source).2
  else if startsNumber tokens character rest then
    match scanNumber source with
    | .ok (token, after) => .next braces (some token) after
    | .error error => .refuse error
  else if character = '"' || character = '\'' then
    .text character
  else if character = '}' && braces = some 0 then
    .close
  else if startsComment character rest then
    .next braces none (skipLine source)
  else
    match leadingMark character rest with
    | .ok mark =>
        .next (braces.map (braceDepth mark)) (some (.mark mark mark.text source.position))
          (Source.advance mark.text.length source)
    | .error fault => .refuse ⟨source.position, fault⟩

/-- What leads to each step: what holds of the character, and none of what is asked before. -/
inductive StepCase (braces : Option Nat) (tokens : List Token) (source : Source)
    (character : Char) (rest : List Char) : Step → Prop
  | blank
      (isBlank : Text.isBlank character) :
      StepCase braces tokens source character rest (.next braces none source.skip)
  | word
      (notBlank : ¬Text.isBlank character)
      (starts : startsName character) :
      StepCase braces tokens source character rest
        (.next braces (some (scanWord source).1) (scanWord source).2)
  | number
      {token : Token}
      {after : Source}
      (notBlank : ¬Text.isBlank character)
      (notName : ¬startsName character)
      (starts : startsNumber tokens character rest)
      (scanned : scanNumber source = .ok (token, after)) :
      StepCase braces tokens source character rest (.next braces (some token) after)
  | noNumber
      {error : LexicalError}
      (notBlank : ¬Text.isBlank character)
      (notName : ¬startsName character)
      (starts : startsNumber tokens character rest)
      (refused : scanNumber source = .error error) :
      StepCase braces tokens source character rest (.refuse error)
  | text
      (notBlank : ¬Text.isBlank character)
      (notName : ¬startsName character)
      (notNumber : ¬startsNumber tokens character rest)
      (isQuote : character = '"' || character = '\'') :
      StepCase braces tokens source character rest (.text character)
  | close
      (notBlank : ¬Text.isBlank character)
      (notName : ¬startsName character)
      (notNumber : ¬startsNumber tokens character rest)
      (notQuote : ¬(character = '"' || character = '\''))
      (closes : character = '}' && braces = some 0) :
      StepCase braces tokens source character rest .close
  | comment
      (notBlank : ¬Text.isBlank character)
      (notName : ¬startsName character)
      (notNumber : ¬startsNumber tokens character rest)
      (notQuote : ¬(character = '"' || character = '\''))
      (notClosing : ¬(character = '}' && braces = some 0))
      (starts : startsComment character rest) :
      StepCase braces tokens source character rest (.next braces none (skipLine source))
  | mark
      {mark : Mark}
      (notBlank : ¬Text.isBlank character)
      (notName : ¬startsName character)
      (notNumber : ¬startsNumber tokens character rest)
      (notQuote : ¬(character = '"' || character = '\''))
      (notClosing : ¬(character = '}' && braces = some 0))
      (notComment : ¬startsComment character rest)
      (leads : leadingMark character rest = .ok mark) :
      StepCase braces tokens source character rest
        (.next (braces.map (braceDepth mark)) (some (.mark mark mark.text source.position))
          (Source.advance mark.text.length source))
  | noMark
      {fault : LexicalFault}
      (notBlank : ¬Text.isBlank character)
      (notName : ¬startsName character)
      (notNumber : ¬startsNumber tokens character rest)
      (notQuote : ¬(character = '"' || character = '\''))
      (notClosing : ¬(character = '}' && braces = some 0))
      (notComment : ¬startsComment character rest)
      (refused : leadingMark character rest = .error fault) :
      StepCase braces tokens source character rest (.refuse ⟨source.position, fault⟩)

/-- A step is one of these cases, by the character it looks at. -/
theorem step_case
    (braces : Option Nat)
    (tokens : List Token)
    (source : Source)
    (character : Char)
    (rest : List Char) :
    StepCase braces tokens source character rest (step braces tokens source character rest) := by
  unfold step
  split
  · next isBlank =>
      exact .blank isBlank
  · next notBlank =>
      split
      · next starts =>
          exact .word notBlank starts
      · next notName =>
          split
          · next starts =>
              split
              · next scanned =>
                  exact .number notBlank notName starts scanned
              · next refused =>
                  exact .noNumber notBlank notName starts refused
          · next notNumber =>
              split
              · next isQuote =>
                  exact .text notBlank notName notNumber isQuote
              · next notQuote =>
                  split
                  · next closes =>
                      exact .close notBlank notName notNumber notQuote closes
                  · next notClosing =>
                      split
                      · next starts =>
                          exact .comment notBlank notName notNumber notQuote notClosing starts
                      · next notComment =>
                          split
                          · next leads =>
                              exact .mark notBlank notName notNumber notQuote notClosing notComment
                                leads
                          · next refused =>
                              exact .noMark notBlank notName notNumber notQuote notClosing
                                notComment refused

/-- What leads to a step leads to no other. -/
theorem StepCase.step_eq
    {braces : Option Nat}
    {tokens : List Token}
    {source : Source}
    {character : Char}
    {rest : List Char}
    {taken : Step}
    (isCase : StepCase braces tokens source character rest taken) :
    step braces tokens source character rest = taken := by
  cases isCase with
  | blank isBlank =>
      rw [step, if_pos isBlank]
  | word notBlank starts =>
      rw [step, if_neg notBlank, if_pos starts]
  | number notBlank notName starts scanned =>
      rw [step, if_neg notBlank, if_neg notName, if_pos starts, scanned]
  | noNumber notBlank notName starts refused =>
      rw [step, if_neg notBlank, if_neg notName, if_pos starts, refused]
  | text notBlank notName notNumber isQuote =>
      rw [step, if_neg notBlank, if_neg notName, if_neg notNumber, if_pos isQuote]
  | close notBlank notName notNumber notQuote closes =>
      rw [step, if_neg notBlank, if_neg notName, if_neg notNumber, if_neg notQuote, if_pos closes]
  | comment notBlank notName notNumber notQuote notClosing starts =>
      rw [step, if_neg notBlank, if_neg notName, if_neg notNumber, if_neg notQuote,
        if_neg notClosing, if_pos starts]
  | mark notBlank notName notNumber notQuote notClosing notComment leads =>
      rw [step, if_neg notBlank, if_neg notName, if_neg notNumber, if_neg notQuote,
        if_neg notClosing, if_neg notComment, leads]
  | noMark notBlank notName notNumber notQuote notClosing notComment refused =>
      rw [step, if_neg notBlank, if_neg notName, if_neg notNumber, if_neg notQuote,
        if_neg notClosing, if_neg notComment, refused]

variable {source : Source} {character : Char} {rest : List Char}

/-- A word takes a character at least. -/
theorem length_scanWord_lt
    (shape : source.ahead = character :: rest)
    (starts : startsName character = true) :
    (scanWord source).2.ahead.length < source.ahead.length := by
  have continues : continuesName character = true := by simp [continuesName, starts]
  simp only [scanWord, shape, List.takeWhile_cons, continues, if_true, List.length_cons]
  split
  · simp only [Source.ahead_skip, Source.ahead_advance, shape, List.length_tail, List.length_drop,
      List.length_cons]
    omega
  · simp only [Source.ahead_advance, shape, List.length_drop, List.length_cons]
    omega

/-- A number takes a character at least, and is a literal. -/
theorem length_scanNumber_lt
    {tokens : List Token}
    {token : Token}
    {after : Source}
    (shape : source.ahead = character :: rest)
    (starts : startsNumber tokens character rest = true)
    (scanned : scanNumber source = .ok (token, after)) :
    after.ahead.length < source.ahead.length ∧ token.kind = .literal := by
  have takesOne : 0 < ((if source.next? = some '-' then ['-'] else []) ++
      (numberBody false (source.ahead.drop
        (if source.next? = some '-' then ['-'] else []).length)).1).length := by
    simp only [Source.next?, shape, List.head?_cons, Option.some.injEq]
    split
    · simp
    · next notMinus =>
        have isDigit : character.isDigit = true := by simpa [startsNumber, notMinus] using starts
        simp [numberBody, isDigit]
  simp only [scanNumber] at scanned
  generalize (if source.next? = some '-' then ['-'] else []) = sign at scanned takesOne
  generalize numberBody false (source.ahead.drop sign.length) = body at scanned takesOne
  split at scanned
  · cases scanned
  · split at scanned
    · simp only [Except.ok.injEq, Prod.mk.injEq] at scanned
      obtain ⟨rfl, rfl⟩ := scanned
      refine ⟨?_, rfl⟩
      simp only [Source.ahead_advance, List.length_drop, shape, List.length_cons]
      omega
    · cases scanned

/-- No number is refused because the text ends too early. -/
theorem endsEarly_scanNumber
    {error : LexicalError}
    (refused : scanNumber source = .error error) :
    error.fault.endsEarly = false := by
  simp only [scanNumber] at refused
  generalize (if source.next? = some '-' then ['-'] else []) = sign at refused
  generalize numberBody false (source.ahead.drop sign.length) = body at refused
  split at refused
  · cases refused
    rfl
  · split at refused
    · cases refused
    · cases refused
      rfl

/-- A mark of a single character is that long. -/
theorem length_singleMark?
    {mark : Mark}
    (single : singleMark? character = some mark) :
    mark.text.length = 1 := by
  unfold singleMark? at single
  split at single <;> simp only [Option.some.injEq, reduceCtorEq] at single <;>
    subst single <;> rfl

/-- A mark takes a character at least, and no more than there are. -/
theorem length_leadingMark
    {mark : Mark}
    (leads : leadingMark character rest = .ok mark) :
    0 < mark.text.length ∧ mark.text.length ≤ (character :: rest).length := by
  unfold leadingMark at leads
  split at leads
  · cases leads
    have twoLong : (Mark.operator .equal).text.length = 2 := by decide
    simp [twoLong]
  · cases leads
    have twoLong : (Mark.operator .notEqual).text.length = 2 := by decide
    simp [twoLong]
  · cases leads
  · cases leads
    have threeLong : (Mark.operator .range).text.length = 3 := by decide
    simp [threeLong]
  · cases leads
  · split at leads
    · next mark single =>
        cases leads
        simp [length_singleMark? single]
    · cases leads

/-- No character is refused because the text ends too early. -/
theorem endsEarly_leadingMark
    {fault : LexicalFault}
    (refused : leadingMark character rest = .error fault) :
    fault.endsEarly = false := by
  unfold leadingMark at refused
  split at refused
  · cases refused
  · cases refused
  · cases refused
    rfl
  · cases refused
  · cases refused
    rfl
  · split at refused
    · cases refused
    · cases refused
      rfl

/-- A comment takes a character at least. -/
theorem length_skipLine_lt
    (shape : source.ahead = character :: rest)
    (starts : startsComment character rest = true) :
    (skipLine source).ahead.length < source.ahead.length := by
  have isSlash : character = '/' := by
    simp only [startsComment, Bool.and_eq_true, decide_eq_true_eq] at starts
    exact starts.1
  simp only [skipLine, shape, isSlash, List.takeWhile_cons, Source.ahead_advance,
    List.length_drop]
  simp only [ne_eq, Char.reduceEq, not_false_eq_true, decide_true, if_true, List.length_cons]
  omega

variable {braces : Option Nat} {tokens : List Token}

/-- At the end of the text the budget does not matter. -/
theorem scanTokens_of_ended
    (ended : source.ahead = [])
    (budget : Nat)
    (braces : Option Nat)
    (tokens : List Token) :
    scanTokens budget braces tokens source = endOfText braces tokens source := by
  cases budget with
  | zero =>
      rfl
  | succ budget =>
      simp only [scanTokens, ended]

/-- The scanner proceeds step by step. -/
theorem scanTokens_succ
    (shape : source.ahead = character :: rest)
    (budget : Nat) :
    scanTokens (budget + 1) braces tokens source =
      match step braces tokens source character rest with
      | .next nextBraces taken after =>
          scanTokens budget nextBraces (taken.toList ++ tokens) after
      | .text quote =>
          match scanText budget quote source.position none [] source.skip with
          | .ok (token, after) => scanTokens budget braces (token :: tokens) after
          | .error error => .error error
      | .close => .ok (tokens.reverse, source.skip)
      | .refuse error => .error error := by
  simp only [scanTokens, shape, step]
  split
  · rfl
  · split
    · rfl
    · split
      · cases scanNumber source <;> rfl
      · split
        · rfl
        · split
          · rfl
          · split
            · rfl
            · cases leadingMark character rest <;> rfl

/-- A blank or a comment leaves the count of braces as it is. -/
theorem braces_of_step
    {nextBraces : Option Nat}
    {after : Source}
    (stepped : step braces tokens source character rest = .next nextBraces none after) :
    nextBraces = braces := by
  have isCase := step_case braces tokens source character rest
  rw [stepped] at isCase
  cases isCase <;> rfl

/-- What a step may do at a place: it takes characters and keeps count of braces, it ends an
interpolation only outside other braces, and it refuses nothing that more text could mend. -/
def Step.MovesOn (braces : Option Nat) (source : Source) : Step → Prop
  | .next nextBraces _ after =>
      after.ahead.length < source.ahead.length ∧ ∃ change, nextBraces = braces.map change
  | .text _ => True
  | .close => braces = some 0
  | .refuse error => error.fault.endsEarly = false

/-- Every step that goes on takes a character at least. -/
theorem step_movesOn
    (braces : Option Nat)
    (tokens : List Token)
    (shape : source.ahead = character :: rest) :
    (step braces tokens source character rest).MovesOn braces source := by
  have sameBraces : ∃ change, braces = braces.map change := ⟨id, by simp⟩
  have isCase := step_case braces tokens source character rest
  generalize step braces tokens source character rest = stepped at isCase ⊢
  cases isCase with
  | blank isBlank =>
      exact ⟨by simp [shape], sameBraces⟩
  | word notBlank starts =>
      exact ⟨length_scanWord_lt shape starts, sameBraces⟩
  | number notBlank notName starts scanned =>
      exact ⟨(length_scanNumber_lt shape starts scanned).1, sameBraces⟩
  | noNumber notBlank notName starts refused =>
      exact endsEarly_scanNumber refused
  | text notBlank notName notNumber isQuote =>
      trivial
  | close notBlank notName notNumber notQuote closes =>
      simp only [Bool.and_eq_true, decide_eq_true_eq] at closes
      exact closes.2
  | comment notBlank notName notNumber notQuote notClosing starts =>
      exact ⟨length_skipLine_lt shape starts, sameBraces⟩
  | mark notBlank notName notNumber notQuote notClosing notComment leads =>
      have markFits := length_leadingMark leads
      rw [← shape] at markFits
      refine ⟨?_, _, rfl⟩
      rw [Source.ahead_advance, List.length_drop]
      omega
  | noMark notBlank notName notNumber notQuote notClosing notComment refused =>
      exact endsEarly_leadingMark refused

namespace Step

/-- A step in the longer text. -/
def placed (placement : Placement) : Step → Step
  | .next braces taken after =>
      .next braces (taken.map (Token.placed placement)) (after.placed placement)
  | .text quote => .text quote
  | .close => .close
  | .refuse error => .refuse (error.placed placement)

/-- What follows a text does not change a step: what is taken ends before the end of the text or
before a line end, and where something is refused, a line end follows the text. -/
def Stable (placement : Placement) : Step → Prop
  | .next _ _ after => placement.Apart after.ahead
  | .text _ => True
  | .close => True
  | .refuse _ => placement.EndsLine

end Step

/-- What follows a minus is not joined to it. -/
theorem Step.Stable.apart
    {placement : Placement}
    (shape : source.ahead = character :: rest)
    (stable : (step braces tokens source character rest).Stable placement)
    (isMinus : character = '-') :
    placement.Apart rest := by
  cases rest with
  | cons =>
      exact .inr (List.cons_ne_nil _ _)
  | nil =>
      subst isMinus
      have takesMinus : step braces tokens source '-' [] =
          .next (braces.map (braceDepth (.operator (.arithmetic .subtract))))
            (some (.mark (.operator (.arithmetic .subtract)) "-" source.position))
            source.skip := by
        rfl
      rw [takesMinus] at stable
      simpa [Step.Stable, shape] using stable

/-- A step is the same in the longer text, if what follows does not change it and a minus is the same
sign there. -/
theorem step_placed
    {placement : Placement}
    {others : List Token}
    (shape : source.ahead = character :: rest)
    (stable : (step braces tokens source character rest).Stable placement)
    (sameNumber :
      ¬Text.isBlank character → ¬startsName character →
        startsNumber others character (rest ++ placement.after) =
          startsNumber tokens character rest) :
    step braces others (source.placed placement) character (rest ++ placement.after) =
      (step braces tokens source character rest).placed placement := by
  have notAtEnd : source.ahead ≠ [] := by simp [shape]
  have isCase := step_case braces tokens source character rest
  generalize step braces tokens source character rest = taken at isCase stable ⊢
  -- The longer text leads to the same case: no guard before it and none of its own sees more.
  refine StepCase.step_eq ?_
  cases isCase with
  | blank isBlank =>
      rw [Step.placed, ← Source.skip_placed placement notAtEnd]
      exact .blank isBlank
  | word notBlank starts =>
      have isWord := @StepCase.word braces others (source.placed placement) character
        (rest ++ placement.after) notBlank starts
      rwa [scanWord_placed placement stable] at isWord
  | number notBlank notName starts scanned =>
      rw [← sameNumber notBlank notName] at starts
      have sameToken := scanNumber_placed placement (by rwa [scanned]) notAtEnd
      rw [scanned] at sameToken
      exact .number notBlank notName starts sameToken
  | noNumber notBlank notName starts refused =>
      rw [← sameNumber notBlank notName] at starts
      have sameError := scanNumber_placed placement (by rwa [refused]) notAtEnd
      rw [refused] at sameError
      exact .noNumber notBlank notName starts sameError
  | text notBlank notName notNumber isQuote =>
      rw [← sameNumber notBlank notName] at notNumber
      exact .text notBlank notName notNumber isQuote
  | close notBlank notName notNumber notQuote closes =>
      rw [← sameNumber notBlank notName] at notNumber
      exact .close notBlank notName notNumber notQuote closes
  | comment notBlank notName notNumber notQuote notClosing starts =>
      rw [← sameNumber notBlank notName] at notNumber
      have restApart : placement.Apart rest := by
        refine stable.of_length_le (Nat.le_of_lt_succ ?_)
        simpa [shape] using length_skipLine_lt shape starts
      rw [← startsComment_append placement restApart] at starts
      have isComment := @StepCase.comment braces others (source.placed placement) character
        (rest ++ placement.after) notBlank notName notNumber notQuote notClosing starts
      rwa [skipLine_placed placement stable] at isComment
  | @mark mark notBlank notName notNumber notQuote notClosing notComment leads =>
      rw [← sameNumber notBlank notName] at notNumber
      have markFits := length_leadingMark leads
      rw [← shape] at markFits
      have restApart : placement.Apart rest := by
        refine stable.of_length_le ?_
        rw [Source.ahead_advance, shape, List.length_drop, List.length_cons]
        omega
      rw [← startsComment_append placement restApart] at notComment
      have isMark := @StepCase.mark braces others (source.placed placement) character
        (rest ++ placement.after) mark notBlank notName notNumber notQuote notClosing notComment
        (leadingMark_append placement restApart leads)
      rwa [Source.advance_placed placement markFits.2] at isMark
  | noMark notBlank notName notNumber notQuote notClosing notComment refused =>
      rw [← sameNumber notBlank notName] at notNumber
      rw [← startsComment_append placement (.inl stable)] at notComment
      rw [← leadingMark_endsLine placement stable] at refused
      exact .noMark notBlank notName notNumber notQuote notClosing notComment refused

/-- A minus is the same sign after other tokens that end an operand or do not end one. -/
theorem Step.Stable.sameNumber
    {placement : Placement}
    {others : List Token}
    (shape : source.ahead = character :: rest)
    (stable : (step braces tokens source character rest).Stable placement)
    (sameOperand :
      others.head?.any Token.endsOperand = tokens.head?.any Token.endsOperand)
    (_ : ¬Text.isBlank character)
    (_ : ¬startsName character) :
    startsNumber others character (rest ++ placement.after) =
      startsNumber tokens character rest :=
  startsNumber_append placement sameOperand (stable.apart shape)

end Scripting.Scanner
