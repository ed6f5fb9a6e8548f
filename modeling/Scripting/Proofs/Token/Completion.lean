import Scripting.Proofs.Token.Concatenation

namespace Scripting

/-!
# Completing text

A text that ends inside a quoted text or an interpolation can be completed: the open quotes and
braces are closed from the inside out, and the longer text is scanned.
-/

namespace Scanner

/-- What closes the braces that are open, on a line of its own. -/
def closing : Option Nat → List Char
  | none => []
  | some depth => '\n' :: List.replicate (depth + 1) '}'

/-- The tokens of the script or of an interpolation are scanned up to what follows. -/
def Closes (braces : Option Nat) (tokens : List Token) (source : Source) (tail : List Char) :
    Prop :=
  ∃ result final, ScansTokens braces tokens source (.ok (result, final)) ∧ final.ahead = tail

/-- A quoted text is scanned up to what follows. -/
def ClosesText (quote : Char) (source : Source) (tail : List Char) : Prop :=
  ∀ opened parts text, ∃ token final,
    ScansText quote opened parts text source (.ok (token, final)) ∧ final.ahead = tail

variable {source : Source} {tail : List Char}

/-- Braces alone close all braces that are open. -/
theorem closes_braces
    {depth : Nat}
    (shape : source.ahead = List.replicate (depth + 1) '}' ++ tail)
    (tokens : List Token) :
    Closes (some depth) tokens source tail := by
  induction depth generalizing source tokens with
  | zero =>
      have closes : source.ahead = '}' :: tail := shape
      exact ⟨_, _, .close closes rfl, by rw [Source.ahead_skip, closes, List.tail_cons]⟩
  | succ depth inductionHypothesis =>
      have closes : source.ahead = '}' :: (List.replicate (depth + 1) '}' ++ tail) := shape
      have inside : source.skip.ahead = List.replicate (depth + 1) '}' ++ tail := by
        rw [Source.ahead_skip, closes, List.tail_cons]
      obtain ⟨result, final, run, left⟩ := inductionHypothesis inside _
      exact ⟨result, final, .next closes rfl run, left⟩

/-- What closes the braces that are open closes the script or the interpolation. -/
theorem closes_closing
    {braces : Option Nat}
    (shape : source.ahead = closing braces ++ tail)
    (nothingAfter : braces = none → tail = [])
    (tokens : List Token) :
    Closes braces tokens source tail := by
  cases braces with
  | none =>
      obtain rfl := nothingAfter rfl
      exact ⟨_, _, .ended shape, shape⟩
  | some depth =>
      have lineEnd : source.ahead = '\n' :: (List.replicate (depth + 1) '}' ++ tail) := shape
      have inside : source.skip.ahead = List.replicate (depth + 1) '}' ++ tail := by
        rw [Source.ahead_skip, lineEnd, List.tail_cons]
      obtain ⟨result, final, run, left⟩ := closes_braces inside tokens
      exact ⟨result, final, .next lineEnd rfl run, left⟩

/-- Its quote closes a quoted text. -/
theorem closesText_quote
    {quote : Char}
    (shape : source.ahead = quote :: tail) :
    ClosesText quote source tail := by
  intro opened parts text
  have closes : source.next? = some quote := by simp [Source.next?, shape]
  have inside : source.skip.ahead = tail := by simp [shape]
  cases parts with
  | none =>
      exact ⟨_, _, .constant closes, inside⟩
  | some parts =>
      exact ⟨_, _, .template closes, inside⟩

/-- Characters after a text complete its last tokens, wherever it stands and whatever follows. -/
def CompletesTokens (braces : Option Nat) (tokens : List Token) (source : Source)
    (more : List Char) : Prop :=
  ∀ ⦃placement : Placement⦄ ⦃tail : List Char⦄ ⦃others : List Token⦄,
    placement.after = more ++ tail →
    (braces = none → tail = []) →
    others.head?.any Token.endsOperand = tokens.head?.any Token.endsOperand →
    Closes braces others (source.placed placement) tail

/-- Characters after a text complete the quoted text that it ends in. -/
def CompletesText (quote : Char) (source : Source) (more : List Char) : Prop :=
  ∀ ⦃placement : Placement⦄ ⦃tail : List Char⦄,
    placement.after = more ++ tail → ClosesText quote (source.placed placement) tail

/-- Characters after a text complete its last tokens, and are not joined to the last of them. -/
def Mends (braces : Option Nat) (tokens : List Token) (source : Source) (more : List Char) : Prop :=
  (source.ahead = [] → more.head? = some '\n') ∧ CompletesTokens braces tokens source more

/-- An interpolation that the text ends in is completed by its closing brace. -/
theorem mends_of_ended
    (atEnd : source.ahead = [])
    (depth : Nat)
    (tokens : List Token) :
    Mends (some depth) tokens source (closing (some depth)) := by
  refine ⟨fun _ => rfl, ?_⟩
  intro placement tail others follows nothingAfter _
  refine closes_closing ?_ nothingAfter others
  rw [Source.ahead_placed, atEnd, follows, List.nil_append]

/-- A quoted text that the text ends in is completed by its closing quote. -/
theorem completesText_of_ended
    (atEnd : source.ahead = [])
    (quote : Char) :
    CompletesText quote source [quote] := by
  intro placement tail follows
  refine closesText_quote ?_
  rw [Source.ahead_placed, atEnd, follows]
  rfl

section Tokens

variable
  {braces nextBraces : Option Nat}
  {tokens : List Token}
  {after : Source}
  {character : Char}
  {rest more : List Char}
  (shape : source.ahead = character :: rest)

include shape

/-- What completes the tokens after a step completes those before it. -/
theorem Mends.next
    {taken : Option Token}
    (mends : Mends nextBraces (taken.toList ++ tokens) after more)
    (stepped : step braces tokens source character rest = .next nextBraces taken after) :
    Mends braces tokens source more := by
  refine ⟨fun atEnd => by simp [shape] at atEnd, ?_⟩
  obtain ⟨startsLine, completes⟩ := mends
  intro placement tail others follows nothingAfter sameOperand
  have stable : (step braces tokens source character rest).Stable placement := by
    rw [stepped]
    by_cases atEnd : after.ahead = []
    · refine .inl fun first isFirst => ?_
      rw [follows, List.head?_append, startsLine atEnd] at isFirst
      exact (Option.some.inj isFirst).symm
    · exact .inr atEnd
  have moves := step_movesOn braces tokens shape
  have stepsThere := step_placed shape stable (stable.sameNumber shape sameOperand)
  rw [stepped] at moves stepsThere
  obtain ⟨-, change, rfl⟩ := moves
  have sameThere :
      ((taken.map (Token.placed placement)).toList ++ others).head?.any Token.endsOperand =
        (taken.toList ++ tokens).head?.any Token.endsOperand := by
    cases taken with
    | none =>
        exact sameOperand
    | some token =>
        simp
  obtain ⟨result, final, run, left⟩ := completes follows
    (fun none => nothingAfter (Option.map_eq_none_iff.mp none)) sameThere
  exact ⟨result, final, .next (ahead_placed_cons placement shape) stepsThere run, left⟩

variable {quote : Char} (stepped : step braces tokens source character rest = .text quote)

include stepped

/-- A quoted text is opened in the longer text too. -/
theorem step_placed_of_text
    {others : List Token}
    (placement : Placement)
    (sameOperand : others.head?.any Token.endsOperand = tokens.head?.any Token.endsOperand) :
    step braces others (source.placed placement) character (rest ++ placement.after) =
      .text quote := by
  have stable : (step braces tokens source character rest).Stable placement := by
    rw [stepped]
    trivial
  rw [step_placed shape stable (stable.sameNumber shape sameOperand), stepped]
  rfl

/-- What completes the tokens after a quoted text completes those before it. -/
theorem Mends.text
    {token : Token}
    (mends : Mends braces (token :: tokens) after more)
    (quoted : ScansText quote source.position none [] source.skip (.ok (token, after))) :
    Mends braces tokens source more := by
  refine ⟨fun atEnd => by simp [shape] at atEnd, ?_⟩
  intro placement tail others follows nothingAfter sameOperand
  have notAtEnd : source.ahead ≠ [] := by simp [shape]
  have quotedThere := quoted.placed placement rfl
  rw [← Source.skip_placed placement notAtEnd] at quotedThere
  have stepsThere := step_placed_of_text shape stepped placement sameOperand
  have sameThere :
      (token.placed placement :: others).head?.any Token.endsOperand =
        (token :: tokens).head?.any Token.endsOperand := by
    simp
  obtain ⟨result, final, run, left⟩ := mends.2 follows nothingAfter sameThere
  exact ⟨result, final, .text (ahead_placed_cons placement shape) stepsThere quotedThere run, left⟩

/-- A quoted text that the text ends in is completed, and then the braces around it are closed. -/
theorem CompletesText.mends (completes : CompletesText quote source.skip more) :
    Mends braces tokens source (more ++ closing braces) := by
  refine ⟨fun atEnd => by simp [shape] at atEnd, ?_⟩
  intro placement tail others follows nothingAfter sameOperand
  rw [List.append_assoc] at follows
  have notAtEnd : source.ahead ≠ [] := by simp [shape]
  obtain ⟨token, after, quotedThere, reached⟩ :=
    completes follows (source.position.placed placement) none []
  rw [← Source.skip_placed placement notAtEnd] at quotedThere
  have stepsThere := step_placed_of_text shape stepped placement sameOperand
  obtain ⟨result, final, run, left⟩ := closes_closing reached nothingAfter (token :: others)
  exact ⟨result, final, .text (ahead_placed_cons placement shape) stepsThere quotedThere run, left⟩

end Tokens

section Text

variable {quote : Char} {more : List Char}

/-- What completes a quoted text after a plain character completes it. -/
theorem CompletesText.plain
    {character : Char}
    (inside : CompletesText quote source.skip more)
    (comes : source.next? = some character)
    (isPlain : character ≠ quote ∧ character ≠ '\\' ∧ character ≠ '{') :
    CompletesText quote source more := by
  intro placement tail follows opened parts text
  obtain ⟨token, final, run, left⟩ := inside follows opened parts (character :: text)
  rw [← Source.skip_placed placement (Source.ahead_ne_nil_of_next? comes)] at run
  exact ⟨token, final, .plain (Source.next?_placed placement comes) isPlain run, left⟩

/-- What completes a quoted text after an interpolation completes it. -/
theorem CompletesText.interpolation
    {tokens : List Token}
    {after : Source}
    (inside : CompletesText quote after more)
    (opens : source.next? = some '{')
    (notQuote : '{' ≠ quote)
    (inner : ScansTokens (some 0) [] source.skip (.ok (tokens, after))) :
    CompletesText quote source more := by
  intro placement tail follows opened parts text
  have innerThere := inner.placed placement [] rfl (by simp) (.inl rfl) rfl
  rw [← Source.skip_placed placement (Source.ahead_ne_nil_of_next? opens)] at innerThere
  obtain ⟨token, final, run, left⟩ := inside follows opened _ []
  exact ⟨token, final,
    .interpolation (Source.next?_placed placement opens) notQuote innerThere run, left⟩

/-- An interpolation that the text ends in is completed, and the closing quote follows. -/
theorem CompletesTokens.text
    (inside : CompletesTokens (some 0) [] source.skip more)
    (opens : source.next? = some '{')
    (notQuote : '{' ≠ quote) :
    CompletesText quote source (more ++ [quote]) := by
  intro placement tail follows opened parts text
  rw [List.append_assoc] at follows
  obtain ⟨tokens, after, inner, reached⟩ := inside follows (by simp) rfl
  rw [← Source.skip_placed placement (Source.ahead_ne_nil_of_next? opens)] at inner
  obtain ⟨token, final, run, left⟩ := closesText_quote reached opened _ []
  exact ⟨token, final, .interpolation (Source.next?_placed placement opens) notQuote inner run,
    left⟩

variable (escapes : source.next? = some '\\') (notQuote : '\\' ≠ quote)

include escapes notQuote

/-- What completes a quoted text after an escape completes it. -/
theorem CompletesText.escape
    {letter meant : Char}
    (inside : CompletesText quote source.skip.skip more)
    (letterFollows : source.skip.next? = some letter)
    (means : unescape? letter = some meant) :
    CompletesText quote source more := by
  intro placement tail follows opened parts text
  have skips := Source.skip_placed placement (Source.ahead_ne_nil_of_next? escapes)
  have followsThere := Source.next?_placed placement letterFollows
  obtain ⟨token, final, run, left⟩ := inside follows opened parts (meant :: text)
  rw [← Source.skip_placed placement (Source.ahead_ne_nil_of_next? letterFollows), ← skips] at run
  rw [← skips] at followsThere
  exact ⟨token, final,
    .escape (Source.next?_placed placement escapes) notQuote followsThere means run, left⟩

/-- An escape that the text ends in is completed by a letter and the closing quote. -/
theorem completesText_of_openEscape (atEnd : source.skip.ahead = []) :
    CompletesText quote source ['n', quote] := by
  intro placement tail follows opened parts text
  have skips := Source.skip_placed placement (Source.ahead_ne_nil_of_next? escapes)
  have letterAhead : (source.placed placement).skip.ahead = 'n' :: quote :: tail := by
    rw [skips, Source.ahead_placed, atEnd, follows]
    rfl
  have letterFollows : (source.placed placement).skip.next? = some 'n' := by
    rw [Source.next?, letterAhead, List.head?_cons]
  have reached : (source.placed placement).skip.skip.ahead = quote :: tail := by
    rw [Source.ahead_skip, letterAhead, List.tail_cons]
  have means : unescape? 'n' = some '\n' := rfl
  obtain ⟨token, final, run, left⟩ := closesText_quote reached opened parts ('\n' :: text)
  exact ⟨token, final,
    .escape (Source.next?_placed placement escapes) notQuote letterFollows means run, left⟩

end Text

mutual

/-- Tokens that end too early are completed by what completes the innermost thing that is open, and
what closes the others from the inside out. -/
theorem ScansTokens.mends
    {braces : Option Nat}
    {tokens : List Token}
    {source : Source}
    {error : LexicalError}
    {outcome : Except LexicalError (List Token × Source)} :
    ScansTokens braces tokens source outcome → outcome = .error error →
      error.fault.endsEarly = true → ∃ more, Mends braces tokens source more
  | .ended atEnd, fails, _ => by
      cases braces with
      | none =>
          cases fails
      | some depth =>
          exact ⟨_, mends_of_ended atEnd depth tokens⟩
  | .next shape stepped others, fails, early => by
      obtain ⟨more, mends⟩ := others.mends fails early
      exact ⟨more, mends.next shape stepped⟩
  | .text shape stepped quoted others, fails, early => by
      obtain ⟨more, mends⟩ := others.mends fails early
      exact ⟨more, mends.text shape stepped quoted⟩
  | .faultyText shape stepped quoted, fails, early => by
      -- The quoted text is completed first, and then nothing of the script is open.
      obtain ⟨more, completes⟩ := quoted.completes (congrArg _ (Except.error.inj fails)) early
      exact ⟨_, completes.mends shape stepped⟩
  | .close _ _, fails, _ => by
      cases fails
  | .refuse shape stepped, fails, early => by
      have moves := step_movesOn braces tokens shape
      cases fails
      rw [stepped] at moves
      cases moves.symm.trans early

/-- So is a quoted text that ends too early. -/
theorem ScansText.completes
    {quote : Char}
    {opened : Position}
    {parts : Option (List Part)}
    {text : List Char}
    {source : Source}
    {error : LexicalError}
    {outcome : Except LexicalError (Token × Source)} :
    ScansText quote opened parts text source outcome → outcome = .error error →
      error.fault.endsEarly = true → ∃ more, CompletesText quote source more
  | .ended atEnd, _, _ => ⟨_, completesText_of_ended atEnd quote⟩
  | .constant _, fails, _ => by
      cases fails
  | .template _, fails, _ => by
      cases fails
  | .escape escapes notQuote follows means others, fails, early => by
      obtain ⟨more, inside⟩ := others.completes fails early
      exact ⟨more, inside.escape escapes notQuote follows means⟩
  | .openEscape escapes notQuote atEnd, _, _ =>
      ⟨_, completesText_of_openEscape escapes notQuote (List.head?_eq_none_iff.mp atEnd)⟩
  | .unknownEscape _ _ _ _, fails, early => by
      cases fails
      cases early
  | .interpolation opens notQuote inner others, fails, early => by
      obtain ⟨more, inside⟩ := others.completes fails early
      exact ⟨more, inside.interpolation opens notQuote inner⟩
  | .faultyInterpolation opens notQuote inner, fails, early => by
      obtain ⟨more, -, inside⟩ := inner.mends (congrArg _ (Except.error.inj fails)) early
      exact ⟨_, inside.text opens notQuote⟩
  | .plain comes isPlain others, fails, early => by
      obtain ⟨more, inside⟩ := others.completes fails early
      exact ⟨more, inside.plain comes isPlain⟩

end

end Scanner

open Scanner in
/-- A text that ends too early can be completed. -/
theorem scan_completes
    {name text : String}
    {error : LexicalError}
    (refused : scan name text = .error error)
    (early : error.fault.endsEarly = true) :
    ∃ more tokens, scan name (text ++ more) = .ok tokens := by
  obtain ⟨more, -, completes⟩ := (scansTokens_of_fault refused).mends rfl early
  let place : Placement := ⟨name, [], more, 0⟩
  have startEq : (Source.ofText name text.toList).placed place =
      .ofText name (text ++ String.ofList more).toList := by
    simp [Source.ofText, Source.placed, place]
  have follows : place.after = more ++ [] := (List.append_nil more).symm
  obtain ⟨tokens, final, run, -⟩ := completes follows (fun _ => rfl) rfl
  rw [startEq] at run
  exact ⟨String.ofList more, tokens, run.scanChars_eq⟩

end Scripting
