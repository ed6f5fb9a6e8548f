import Scripting.Proofs.Token.Step

namespace Scripting.Scanner

/-!
# Runs of the scanner

What the scanner leads to, as rules without a budget: one rule for each way to go on, to end or to
refuse something.  Every step takes at least one character, so a budget of all characters ahead is
enough for every run: the scanner comes to an outcome exactly if the rules lead to it, and whatever
the rules keep, the scanner keeps.
-/

mutual

/-- Tokens are scanned from a place on, after others and inside some braces, with an outcome. -/
inductive ScansTokens :
    Option Nat → List Token → Source → Except LexicalError (List Token × Source) → Prop where
  | ended
      {braces : Option Nat}
      {tokens : List Token}
      {source : Source}
      (atEnd : source.ahead = []) :
      ScansTokens braces tokens source (endOfText braces tokens source)
  | next
      {braces nextBraces : Option Nat}
      {tokens : List Token}
      {taken : Option Token}
      {source after : Source}
      {character : Char}
      {rest : List Char}
      {outcome : Except LexicalError (List Token × Source)}
      (shape : source.ahead = character :: rest)
      (stepped : step braces tokens source character rest = .next nextBraces taken after)
      (others : ScansTokens nextBraces (taken.toList ++ tokens) after outcome) :
      ScansTokens braces tokens source outcome
  | text
      {braces : Option Nat}
      {tokens : List Token}
      {token : Token}
      {source after : Source}
      {quote character : Char}
      {rest : List Char}
      {outcome : Except LexicalError (List Token × Source)}
      (shape : source.ahead = character :: rest)
      (stepped : step braces tokens source character rest = .text quote)
      (quoted : ScansText quote source.position none [] source.skip (.ok (token, after)))
      (others : ScansTokens braces (token :: tokens) after outcome) :
      ScansTokens braces tokens source outcome
  | faultyText
      {braces : Option Nat}
      {tokens : List Token}
      {source : Source}
      {quote character : Char}
      {rest : List Char}
      {error : LexicalError}
      (shape : source.ahead = character :: rest)
      (stepped : step braces tokens source character rest = .text quote)
      (quoted : ScansText quote source.position none [] source.skip (.error error)) :
      ScansTokens braces tokens source (.error error)
  | close
      {braces : Option Nat}
      {tokens : List Token}
      {source : Source}
      {character : Char}
      {rest : List Char}
      (shape : source.ahead = character :: rest)
      (stepped : step braces tokens source character rest = .close) :
      ScansTokens braces tokens source (.ok (tokens.reverse, source.skip))
  | refuse
      {braces : Option Nat}
      {tokens : List Token}
      {source : Source}
      {character : Char}
      {rest : List Char}
      {error : LexicalError}
      (shape : source.ahead = character :: rest)
      (stepped : step braces tokens source character rest = .refuse error) :
      ScansTokens braces tokens source (.error error)

/-- A quoted text is scanned from a place on, after the parts and the characters of it that are
there already, with an outcome. -/
inductive ScansText :
    Char → Position → Option (List Part) → List Char → Source →
      Except LexicalError (Token × Source) → Prop where
  | ended
      {quote : Char}
      {opened : Position}
      {parts : Option (List Part)}
      {text : List Char}
      {source : Source}
      (atEnd : source.ahead = []) :
      ScansText quote opened parts text source (.error ⟨opened, .openText⟩)
  | constant
      {quote : Char}
      {opened : Position}
      {text : List Char}
      {source : Source}
      (closes : source.next? = some quote) :
      ScansText quote opened none text source
        (.ok (.literal (String.ofList text.reverse) (.string (String.ofList text.reverse)) opened,
          source.skip))
  | template
      {quote : Char}
      {opened : Position}
      {parts : List Part}
      {text : List Char}
      {source : Source}
      (closes : source.next? = some quote) :
      ScansText quote opened (some parts) text source
        (.ok (.template (flush text parts).reverse opened, source.skip))
  | escape
      {quote letter meant : Char}
      {opened : Position}
      {parts : Option (List Part)}
      {text : List Char}
      {source : Source}
      {outcome : Except LexicalError (Token × Source)}
      (escapes : source.next? = some '\\')
      (notQuote : '\\' ≠ quote)
      (follows : source.skip.next? = some letter)
      (means : unescape? letter = some meant)
      (others : ScansText quote opened parts (meant :: text) source.skip.skip outcome) :
      ScansText quote opened parts text source outcome
  | openEscape
      {quote : Char}
      {opened : Position}
      {parts : Option (List Part)}
      {text : List Char}
      {source : Source}
      (escapes : source.next? = some '\\')
      (notQuote : '\\' ≠ quote)
      (atEnd : source.skip.next? = none) :
      ScansText quote opened parts text source (.error ⟨source.skip.position, .openEscape⟩)
  | unknownEscape
      {quote letter : Char}
      {opened : Position}
      {parts : Option (List Part)}
      {text : List Char}
      {source : Source}
      (escapes : source.next? = some '\\')
      (notQuote : '\\' ≠ quote)
      (follows : source.skip.next? = some letter)
      (meansNothing : unescape? letter = none) :
      ScansText quote opened parts text source
        (.error ⟨source.skip.position, .unknownEscape letter⟩)
  | interpolation
      {quote : Char}
      {opened : Position}
      {parts : Option (List Part)}
      {text : List Char}
      {tokens : List Token}
      {source after : Source}
      {outcome : Except LexicalError (Token × Source)}
      (opens : source.next? = some '{')
      (notQuote : '{' ≠ quote)
      (inner : ScansTokens (some 0) [] source.skip (.ok (tokens, after)))
      (others :
        ScansText quote opened (some (.interpolation tokens :: flush text (parts.getD []))) [] after
          outcome) :
      ScansText quote opened parts text source outcome
  | faultyInterpolation
      {quote : Char}
      {opened : Position}
      {parts : Option (List Part)}
      {text : List Char}
      {source : Source}
      {error : LexicalError}
      (opens : source.next? = some '{')
      (notQuote : '{' ≠ quote)
      (inner : ScansTokens (some 0) [] source.skip (.error error)) :
      ScansText quote opened parts text source (.error error)
  | plain
      {quote character : Char}
      {opened : Position}
      {parts : Option (List Part)}
      {text : List Char}
      {source : Source}
      {outcome : Except LexicalError (Token × Source)}
      (comes : source.next? = some character)
      (isPlain : character ≠ quote ∧ character ≠ '\\' ∧ character ≠ '{')
      (others : ScansText quote opened parts (character :: text) source.skip outcome) :
      ScansText quote opened parts text source outcome

end

mutual

/-- Characters are only taken, and tokens are only added. -/
theorem ScansTokens.movesOn
    {braces : Option Nat}
    {tokens result : List Token}
    {source final : Source}
    {outcome : Except LexicalError (List Token × Source)} :
    ScansTokens braces tokens source outcome → outcome = .ok (result, final) →
      final.ahead.length ≤ source.ahead.length ∧ ∃ more, result = tokens.reverse ++ more
  | .ended _, succeeds => by
      cases braces with
      | none =>
          cases succeeds
          exact ⟨Nat.le_refl _, [], (List.append_nil _).symm⟩
      | some depth =>
          cases succeeds
  | .next shape stepped others, succeeds => by
      have moves := step_movesOn braces tokens shape
      rw [stepped] at moves
      obtain ⟨notLonger, more, rfl⟩ := others.movesOn succeeds
      exact ⟨Nat.le_trans notLonger (Nat.le_of_lt moves.1), _,
        by rw [List.reverse_append, List.append_assoc]⟩
  | .text shape _ quoted others, succeeds => by
      have shorter := quoted.shortens rfl
      rw [Source.ahead_skip, List.length_tail] at shorter
      obtain ⟨notLonger, more, rfl⟩ := others.movesOn succeeds
      exact ⟨by omega, _, by rw [List.reverse_cons, List.append_assoc]⟩
  | .faultyText _ _ _, succeeds => by
      cases succeeds
  | .refuse _ _, succeeds => by
      cases succeeds
  | .close shape _, succeeds => by
      cases succeeds
      refine ⟨?_, [], (List.append_nil _).symm⟩
      rw [Source.ahead_skip, List.length_tail]
      exact Nat.sub_le _ _

/-- A quoted text takes its closing quote at least. -/
theorem ScansText.shortens
    {quote : Char}
    {opened : Position}
    {parts : Option (List Part)}
    {text : List Char}
    {source final : Source}
    {token : Token}
    {outcome : Except LexicalError (Token × Source)} :
    ScansText quote opened parts text source outcome → outcome = .ok (token, final) →
      final.ahead.length < source.ahead.length
  | .ended _, succeeds => by
      cases succeeds
  | .constant closes, succeeds => by
      cases succeeds
      exact Source.length_skip_lt closes
  | .template closes, succeeds => by
      cases succeeds
      exact Source.length_skip_lt closes
  | .escape escapes _ follows _ others, succeeds =>
      Nat.lt_trans (others.shortens succeeds)
        (Nat.lt_trans (Source.length_skip_lt follows) (Source.length_skip_lt escapes))
  | .interpolation opens _ inner others, succeeds =>
      Nat.lt_trans (Nat.lt_of_lt_of_le (others.shortens succeeds) (inner.movesOn rfl).1)
        (Source.length_skip_lt opens)
  | .openEscape _ _ _, succeeds => by
      cases succeeds
  | .unknownEscape _ _ _ _, succeeds => by
      cases succeeds
  | .faultyInterpolation _ _ _, succeeds => by
      cases succeeds
  | .plain comes _ others, succeeds =>
      Nat.lt_trans (others.shortens succeeds) (Source.length_skip_lt comes)

end

/-- Every run with a budget of all characters ahead follows the rules. -/
structure Runs (budget : Nat) : Prop where
  scanTokens :
    ∀ {braces tokens} {source : Source}, source.ahead.length ≤ budget →
      ScansTokens braces tokens source (Scanner.scanTokens budget braces tokens source)
  scanText :
    ∀ {quote opened parts text} {source : Source}, source.ahead.length ≤ budget →
      ScansText quote opened parts text source
        (Scanner.scanText budget quote opened parts text source)

namespace Runs

variable {budget : Nat} (smaller : Runs budget) {source : Source}

include smaller

private theorem scanTokens_step
    {braces : Option Nat}
    {tokens : List Token}
    (enough : source.ahead.length ≤ budget + 1) :
    ScansTokens braces tokens source
      (Scanner.scanTokens (budget + 1) braces tokens source) := by
  cases shape : source.ahead with
  | nil =>
      rw [scanTokens_of_ended shape]
      exact .ended shape
  | cons character rest =>
      have moves := step_movesOn braces tokens shape
      rw [scanTokens_succ shape]
      cases stepped : step braces tokens source character rest with
      | next nextBraces taken after =>
          rw [stepped] at moves
          exact .next shape stepped
            (smaller.scanTokens (Nat.le_of_lt_succ (Nat.lt_of_lt_of_le moves.1 enough)))
      | text quote =>
          have fewer : source.skip.ahead.length ≤ budget := by
            rw [shape, List.length_cons] at enough
            rw [Source.ahead_skip, shape, List.tail_cons]
            exact Nat.le_of_succ_le_succ enough
          -- A quoted text takes its closing quote, which leaves budget for the tokens after it.
          have quoted := @smaller.scanText quote source.position none [] _ fewer
          dsimp only
          cases read : Scanner.scanText budget quote source.position none [] source.skip with
          | ok result =>
              obtain ⟨token, after⟩ := result
              rw [read] at quoted
              have shorter := quoted.shortens rfl
              exact .text shape stepped quoted (smaller.scanTokens (by omega))
          | error error =>
              rw [read] at quoted
              exact .faultyText shape stepped quoted
      | close =>
          exact .close shape stepped
      | refuse error =>
          exact .refuse shape stepped

private theorem scanText_step
    {quote : Char}
    {opened : Position}
    {parts : Option (List Part)}
    {text : List Char}
    (enough : source.ahead.length ≤ budget + 1) :
    ScansText quote opened parts text source
      (Scanner.scanText (budget + 1) quote opened parts text source) := by
  have fewer : source.skip.ahead.length ≤ budget := by
    rw [Source.ahead_skip, List.length_tail]
    omega
  have fewerStill : source.skip.skip.ahead.length ≤ budget := by
    rw [Source.ahead_skip, List.length_tail]
    omega
  simp only [Scanner.scanText]
  split
  · next atEnd =>
      exact .ended (List.head?_eq_none_iff.mp atEnd)
  · next character comes =>
      split
      · next isQuote =>
          rw [isQuote] at comes
          cases parts with
          | none =>
              exact .constant comes
          | some parts =>
              exact .template comes
      · next notQuote =>
          split
          · next isEscape =>
              subst isEscape
              split
              · next atEnd =>
                  exact .openEscape comes notQuote atEnd
              · next letter follows =>
                  split
                  · next means =>
                      exact .escape comes notQuote follows means (smaller.scanText fewerStill)
                  · next meansNothing =>
                      exact .unknownEscape comes notQuote follows meansNothing
          · next notEscape =>
              split
              · next opens =>
                  subst opens
                  have inner := @smaller.scanTokens (some 0) [] _ fewer
                  cases read : Scanner.scanTokens budget (some 0) [] source.skip with
                  | ok result =>
                      obtain ⟨tokens, after⟩ := result
                      rw [read] at inner
                      have notLonger := (inner.movesOn rfl).1
                      exact .interpolation comes notQuote inner (smaller.scanText (by omega))
                  | error error =>
                      rw [read] at inner
                      exact .faultyInterpolation comes notQuote inner
              · next notOpening =>
                  exact .plain comes ⟨notQuote, notEscape, notOpening⟩ (smaller.scanText fewer)

end Runs

/-- The scanner follows the rules with every budget that is enough. -/
theorem runs (budget : Nat) : Runs budget := by
  induction budget with
  | zero =>
      -- No character is ahead, and both are at the end of the text.
      constructor
      · intro braces tokens source enough
        exact .ended (List.eq_nil_of_length_eq_zero (Nat.le_zero.mp enough))
      · intro quote opened parts text source enough
        exact .ended (List.eq_nil_of_length_eq_zero (Nat.le_zero.mp enough))
  | succ budget smaller =>
      exact ⟨smaller.scanTokens_step, smaller.scanText_step⟩

/-- Where a character is ahead, a budget of all characters is enough to take it. -/
theorem exists_fewer
    {source : Source}
    {budget : Nat}
    (notAtEnd : source.ahead ≠ [])
    (enough : source.ahead.length ≤ budget) :
    ∃ fewer, budget = fewer + 1 ∧ source.skip.ahead.length ≤ fewer := by
  have nonempty := List.length_pos_iff.mpr notAtEnd
  refine ⟨budget - 1, by omega, ?_⟩
  rw [Source.ahead_skip, List.length_tail]
  omega

mutual

/-- What the rules lead to is scanned with every budget of all characters ahead. -/
theorem ScansTokens.scanTokens_eq
    {braces : Option Nat}
    {tokens : List Token}
    {source : Source}
    {outcome : Except LexicalError (List Token × Source)}
    {budget : Nat} :
    ScansTokens braces tokens source outcome → source.ahead.length ≤ budget →
      scanTokens budget braces tokens source = outcome
  | .ended atEnd, _ => scanTokens_of_ended atEnd budget braces tokens
  | .next shape stepped others, enough => by
      have moves := step_movesOn braces tokens shape
      rw [stepped] at moves
      obtain ⟨fewer, rfl, -⟩ := exists_fewer (by simp [shape]) enough
      rw [scanTokens_succ shape, stepped]
      exact others.scanTokens_eq (Nat.le_of_lt_succ (Nat.lt_of_lt_of_le moves.1 enough))
  | .text shape stepped quoted others, enough => by
      obtain ⟨fewer, rfl, fits⟩ := exists_fewer (by simp [shape]) enough
      rw [scanTokens_succ shape, stepped]
      dsimp only
      rw [quoted.scanText_eq fits]
      exact others.scanTokens_eq (Nat.le_trans (Nat.le_of_lt (quoted.shortens rfl)) fits)
  | .faultyText shape stepped quoted, enough => by
      obtain ⟨fewer, rfl, fits⟩ := exists_fewer (by simp [shape]) enough
      rw [scanTokens_succ shape, stepped]
      dsimp only
      rw [quoted.scanText_eq fits]
  | .close shape stepped, enough => by
      obtain ⟨fewer, rfl, -⟩ := exists_fewer (by simp [shape]) enough
      rw [scanTokens_succ shape, stepped]
  | .refuse shape stepped, enough => by
      obtain ⟨fewer, rfl, -⟩ := exists_fewer (by simp [shape]) enough
      rw [scanTokens_succ shape, stepped]

/-- So is a quoted text. -/
theorem ScansText.scanText_eq
    {quote : Char}
    {opened : Position}
    {parts : Option (List Part)}
    {text : List Char}
    {source : Source}
    {outcome : Except LexicalError (Token × Source)}
    {budget : Nat} :
    ScansText quote opened parts text source outcome → source.ahead.length ≤ budget →
      scanText budget quote opened parts text source = outcome
  | .ended atEnd, _ => by
      have nothing : source.next? = none := List.head?_eq_none_iff.mpr atEnd
      cases budget with
      | zero =>
          rfl
      | succ budget =>
          simp only [scanText, nothing]
  | .constant closes, enough => by
      obtain ⟨fewer, rfl, -⟩ := exists_fewer (Source.ahead_ne_nil_of_next? closes) enough
      simp only [scanText, closes, if_true]
  | .template closes, enough => by
      obtain ⟨fewer, rfl, -⟩ := exists_fewer (Source.ahead_ne_nil_of_next? closes) enough
      simp only [scanText, closes, if_true]
  | .escape escapes notQuote follows means others, enough => by
      obtain ⟨fewer, rfl, fits⟩ := exists_fewer (Source.ahead_ne_nil_of_next? escapes) enough
      simp only [scanText, escapes, notQuote, follows, means, if_false, if_true]
      exact others.scanText_eq (Nat.le_trans (Nat.le_of_lt (Source.length_skip_lt follows)) fits)
  | .openEscape escapes notQuote atEnd, enough => by
      obtain ⟨fewer, rfl, -⟩ := exists_fewer (Source.ahead_ne_nil_of_next? escapes) enough
      simp only [scanText, escapes, notQuote, atEnd, if_false, if_true]
  | .unknownEscape escapes notQuote follows meansNothing, enough => by
      obtain ⟨fewer, rfl, -⟩ := exists_fewer (Source.ahead_ne_nil_of_next? escapes) enough
      simp only [scanText, escapes, notQuote, follows, meansNothing, if_false, if_true]
  | .interpolation opens notQuote inner others, enough => by
      obtain ⟨fewer, rfl, fits⟩ := exists_fewer (Source.ahead_ne_nil_of_next? opens) enough
      simp only [scanText, opens, notQuote, Char.reduceEq, if_false, if_true,
        inner.scanTokens_eq fits]
      exact others.scanText_eq (Nat.le_trans (inner.movesOn rfl).1 fits)
  | .faultyInterpolation opens notQuote inner, enough => by
      obtain ⟨fewer, rfl, fits⟩ := exists_fewer (Source.ahead_ne_nil_of_next? opens) enough
      simp only [scanText, opens, notQuote, Char.reduceEq, if_false, if_true,
        inner.scanTokens_eq fits]
  | .plain comes isPlain others, enough => by
      obtain ⟨notQuote, notEscape, notOpening⟩ := isPlain
      obtain ⟨fewer, rfl, fits⟩ := exists_fewer (Source.ahead_ne_nil_of_next? comes) enough
      simp only [scanText, comes, notQuote, notEscape, notOpening, if_false]
      exact others.scanText_eq fits

end

/-- The scanner follows the rules from the start of a script. -/
theorem scansTokens_ofText (file : String) (text : List Char) :
    ScansTokens none [] (.ofText file text)
      (scanTokens text.length none [] (.ofText file text)) :=
  (runs text.length).scanTokens (Nat.le_refl _)

/-- What the rules lead to from the start of a script is what the script is scanned to. -/
theorem ScansTokens.scanChars_eq
    {file : String}
    {text : List Char}
    {outcome : Except LexicalError (List Token × Source)}
    (run : ScansTokens none [] (.ofText file text) outcome) :
    scanChars file text = outcome.map Prod.fst := by
  have scanned : scanTokens text.length none [] (.ofText file text) = outcome :=
    run.scanTokens_eq (Nat.le_refl text.length)
  rw [scanChars, scanned]
  cases outcome <;> rfl

/-- The rules lead to one outcome only. -/
theorem ScansTokens.unique
    {braces : Option Nat}
    {tokens : List Token}
    {source : Source}
    {outcome other : Except LexicalError (List Token × Source)}
    (run : ScansTokens braces tokens source outcome)
    (again : ScansTokens braces tokens source other) :
    outcome = other :=
  (run.scanTokens_eq (Nat.le_refl _)).symm.trans (again.scanTokens_eq (Nat.le_refl _))

/-- So do the rules for a quoted text. -/
theorem ScansText.unique
    {quote : Char}
    {opened : Position}
    {parts : Option (List Part)}
    {text : List Char}
    {source : Source}
    {outcome other : Except LexicalError (Token × Source)}
    (run : ScansText quote opened parts text source outcome)
    (again : ScansText quote opened parts text source other) :
    outcome = other :=
  (run.scanText_eq (Nat.le_refl _)).symm.trans (again.scanText_eq (Nat.le_refl _))

/-- The rules lead to an outcome from everywhere. -/
theorem exists_scansTokens
    (braces : Option Nat)
    (tokens : List Token)
    (source : Source) :
    ∃ outcome, ScansTokens braces tokens source outcome :=
  ⟨_, (runs _).scanTokens (Nat.le_refl _)⟩

/-- So do the rules for a quoted text. -/
theorem exists_scansText
    (quote : Char)
    (opened : Position)
    (parts : Option (List Part))
    (text : List Char)
    (source : Source) :
    ∃ outcome, ScansText quote opened parts text source outcome :=
  ⟨_, (runs _).scanText (Nat.le_refl _)⟩

/-- A script that is scanned is scanned by the rules. -/
theorem scansTokens_of_scanChars
    {file : String}
    {text : List Char}
    {tokens : List Token}
    (scanned : scanChars file text = .ok tokens) :
    ∃ final, ScansTokens none [] (.ofText file text) (.ok (tokens, final)) := by
  have run := scansTokens_ofText file text
  unfold scanChars at scanned
  split at scanned
  · next result final read =>
      cases scanned
      exact ⟨final, read ▸ run⟩
  · cases scanned

/-- A script that is refused is refused by the rules. -/
theorem scansTokens_of_fault
    {file : String}
    {text : List Char}
    {error : LexicalError}
    (refused : scanChars file text = .error error) :
    ScansTokens none [] (.ofText file text) (.error error) := by
  have run := scansTokens_ofText file text
  unfold scanChars at refused
  split at refused
  · cases refused
  · next read =>
      cases refused
      exact read ▸ run

end Scripting.Scanner
