import Scripting.Proofs.Program
import Scripting.Proofs.Token.Faults

namespace Scripting

/-!
# The scanner without a budget

The scanner is a loop over a place in the text.  In each round it takes a blank, a comment or a
token, or is left.  A quoted text is a loop of its own, in which every interpolation is scanned by
the same loop at the same place.  None of them has a budget here: a loop that took nothing in a
round would go on for ever.  Every round takes something, and so the loops stop, with what the
scanner gives.
-/

namespace Scanner.Unbounded

/-- How a round of the loop ends: the loop is left with all tokens, or goes on after some. -/
inductive RoundEnd where
  | left (tokens : List Token)
  | goesOn (braces : Option Nat) (tokens : List Token)

/-- What the scanner does over and over: one round of the loop, the loop itself, in the script or,
with a count of open braces, in an interpolation, and the loop of a quoted text. -/
inductive Task where
  | round (braces : Option Nat) (tokens : List Token)
  | loop (braces : Option Nat) (tokens : List Token)
  | quotedText (quote : Char) (opened : Position) (parts : Option (List Part)) (text : List Char)

/-- What a task comes to. -/
abbrev Task.Answer : Task → Type
  | .round .. => RoundEnd
  | .loop .. => List Token
  | .quotedText .. => Token

/-- A program that steps over characters. -/
abbrev Action :=
  Program Task Task.Answer Source LexicalError

/-- Call for one round of the scanner. -/
def round (braces : Option Nat) (tokens : List Token) : Action RoundEnd :=
  .ask (Task.round braces tokens)

/-- Call for the rounds up to the end of the text. -/
def loop (braces : Option Nat) (tokens : List Token) : Action (List Token) :=
  .ask (Task.loop braces tokens)

/-- Call for the rest of a quoted text. -/
def quotedText (quote : Char) (opened : Position) (parts : Option (List Part))
    (text : List Char) : Action Token :=
  .ask (Task.quotedText quote opened parts text)

/-- A round looks at the next character and takes what starts with it. -/
def roundBody (braces : Option Nat) (tokens : List Token) : Action RoundEnd := do
  let source ← get
  match source.ahead with
  | [] =>
      match braces with
      | none => return .left tokens.reverse
      | some _ => .fail ⟨source.position, .openInterpolation⟩
  | character :: rest =>
      match step braces tokens source character rest with
      | .next nextBraces taken after =>
          set after
          return .goesOn nextBraces (taken.toList ++ tokens)
      | .text quote =>
          set source.skip
          let token ← quotedText quote source.position none []
          return .goesOn braces (token :: tokens)
      | .close =>
          set source.skip
          return .left tokens.reverse
      | .refuse error => .fail error

/-- The loop goes round until it is left. -/
def loopBody (braces : Option Nat) (tokens : List Token) : Action (List Token) := do
  match ← round braces tokens with
  | .left tokens => return tokens
  | .goesOn braces tokens => loop braces tokens

/-- A quoted text goes on up to its closing quote. -/
def quotedTextBody (quote : Char) (opened : Position) (parts : Option (List Part))
    (text : List Char) : Action Token := do
  let source ← get
  match source.next? with
  | none => .fail ⟨opened, .openText⟩
  | some character =>
      set source.skip
      if character = quote then
        match parts with
        | none =>
            let content := String.ofList text.reverse
            return .literal content (.string content) opened
        | some parts => return .template (flush text parts).reverse opened
      else if character = '\\' then
        match source.skip.next? with
        | none => .fail ⟨source.skip.position, .openEscape⟩
        | some letter =>
            set source.skip.skip
            match unescape? letter with
            | some meant => quotedText quote opened parts (meant :: text)
            | none => .fail ⟨source.skip.position, .unknownEscape letter⟩
      else if character = '\x7b' then
        let tokens ← loop (some 0) []
        quotedText quote opened (some (.interpolation tokens :: flush text (parts.getD []))) []
      else
        quotedText quote opened parts (character :: text)

/-- What each task does. -/
def body : (task : Task) → Action task.Answer
  | .round braces tokens => roundBody braces tokens
  | .loop braces tokens => loopBody braces tokens
  | .quotedText quote opened parts text => quotedTextBody quote opened parts text

open Program

variable {file : String} {text : List Char} {source after between : Source}
variable {braces nextBraces : Option Nat} {tokens : List Token} {character : Char}
  {rest : List Char}

section Rounds

/-- A call of a round ends as its body does. -/
theorem ends_round
    {answer : Except LexicalError RoundEnd}
    (ends : Ends body (roundBody braces tokens) source answer after) :
    Ends body (round braces tokens) source answer after :=
  ends_ask ends

/-- At the end of the text a round leaves the loop, or refuses an open interpolation. -/
theorem round_of_ended
    (atEnd : source.ahead = []) :
    Ends body (round braces tokens) source
      ((endOfText braces tokens source).map fun ended => .left ended.1) source := by
  refine ends_round (ends_get_bind ?_)
  simp only [atEnd]
  cases braces with
  | none => exact .done
  | some depth => exact .fail

/-- A round that takes a token, or skips what is none, goes on after it. -/
theorem round_of_next
    {taken : Option Token}
    (shape : source.ahead = character :: rest)
    (stepped : step braces tokens source character rest = .next nextBraces taken after) :
    Ends body (round braces tokens) source
      (.ok (.goesOn nextBraces (taken.toList ++ tokens))) after := by
  refine ends_round (ends_get_bind ?_)
  simp only [shape, stepped]
  exact ends_set_bind .done

/-- A round that takes a quoted text goes on after it. -/
theorem round_of_text
    {quote : Char}
    {token : Token}
    (shape : source.ahead = character :: rest)
    (stepped : step braces tokens source character rest = .text quote)
    (quoted : Ends body (quotedText quote source.position none []) source.skip (.ok token) after) :
    Ends body (round braces tokens) source (.ok (.goesOn braces (token :: tokens))) after := by
  refine ends_round (ends_get_bind ?_)
  simp only [shape, stepped]
  exact ends_set_bind (ends_bind quoted .done)

/-- A round ends with the error of a quoted text. -/
theorem round_of_faultyText
    {quote : Char}
    {error : LexicalError}
    (shape : source.ahead = character :: rest)
    (stepped : step braces tokens source character rest = .text quote)
    (quoted :
      Ends body (quotedText quote source.position none []) source.skip (.error error) after) :
    Ends body (round braces tokens) source (.error error) after := by
  refine ends_round (ends_get_bind ?_)
  simp only [shape, stepped]
  exact ends_set_bind (ends_bind_of_error quoted)

/-- A round leaves the loop of an interpolation at its closing brace. -/
theorem round_of_close
    (shape : source.ahead = character :: rest)
    (stepped : step braces tokens source character rest = .close) :
    Ends body (round braces tokens) source (.ok (.left tokens.reverse)) source.skip := by
  refine ends_round (ends_get_bind ?_)
  simp only [shape, stepped]
  exact ends_set_bind .done

/-- A round ends where a character is refused. -/
theorem round_of_refuse
    {error : LexicalError}
    (shape : source.ahead = character :: rest)
    (stepped : step braces tokens source character rest = .refuse error) :
    Ends body (round braces tokens) source (.error error) source := by
  refine ends_round (ends_get_bind ?_)
  simp only [shape, stepped]
  exact .fail

end Rounds

section Loops

/-- A call of the loop ends as its body does. -/
theorem ends_loop
    {answer : Except LexicalError (List Token)}
    (ends : Ends body (loopBody braces tokens) source answer after) :
    Ends body (loop braces tokens) source answer after :=
  ends_ask ends

/-- A loop ends with the tokens of the round that leaves it. -/
theorem loop_of_left
    {result : List Token}
    (ended : Ends body (round braces tokens) source (.ok (.left result)) after) :
    Ends body (loop braces tokens) source (.ok result) after :=
  ends_loop (ends_bind ended .done)

/-- A loop ends as the loop after its first round does. -/
theorem loop_of_goesOn
    {more : List Token}
    {answer : Except LexicalError (List Token)}
    (ended : Ends body (round braces tokens) source (.ok (.goesOn nextBraces more)) between)
    (others : Ends body (loop nextBraces more) between answer after) :
    Ends body (loop braces tokens) source answer after :=
  ends_loop (ends_bind ended others)

/-- A loop ends with the error of its first round. -/
theorem loop_of_error
    {error : LexicalError}
    (ended : Ends body (round braces tokens) source (.error error) after) :
    Ends body (loop braces tokens) source (.error error) after :=
  ends_loop (ends_bind_of_error ended)

end Loops

section QuotedTexts

variable {quote letter : Char} {opened : Position} {parts : Option (List Part)}
  {content : List Char} {answer : Except LexicalError Token}

/-- A call for a quoted text ends as its body does. -/
theorem ends_quotedText
    (ends : Ends body (quotedTextBody quote opened parts content) source answer after) :
    Ends body (quotedText quote opened parts content) source answer after :=
  ends_ask ends

/-- A quoted text that does not end is refused where it was opened. -/
theorem quotedText_of_ended (atEnd : source.ahead = []) :
    Ends body (quotedText quote opened parts content) source (.error ⟨opened, .openText⟩)
      source := by
  refine ends_quotedText (ends_get_bind ?_)
  simp only [Source.next?, atEnd, List.head?_nil]
  exact .fail

/-- The closing quote makes a constant of a text without interpolations. -/
theorem quotedText_of_constant (closes : source.next? = some quote) :
    Ends body (quotedText quote opened none content) source
      (.ok (.literal (String.ofList content.reverse)
        (.string (String.ofList content.reverse)) opened)) source.skip := by
  refine ends_quotedText (ends_get_bind ?_)
  simp only [closes, if_true]
  exact ends_set_bind .done

/-- The closing quote makes a template of a text with interpolations. -/
theorem quotedText_of_template
    {parts : List Part}
    (closes : source.next? = some quote) :
    Ends body (quotedText quote opened (some parts) content) source
      (.ok (.template (flush content parts).reverse opened)) source.skip := by
  refine ends_quotedText (ends_get_bind ?_)
  simp only [closes, if_true]
  exact ends_set_bind .done

/-- An escape stands for its character. -/
theorem quotedText_of_escape
    {meant : Char}
    (escapes : source.next? = some '\\')
    (notQuote : '\\' ≠ quote)
    (follows : source.skip.next? = some letter)
    (means : unescape? letter = some meant)
    (others :
      Ends body (quotedText quote opened parts (meant :: content)) source.skip.skip answer after) :
    Ends body (quotedText quote opened parts content) source answer after := by
  refine ends_quotedText (ends_get_bind ?_)
  simp only [escapes, notQuote, if_false, if_true, follows, means]
  exact ends_set_bind (ends_set_bind others)

/-- A backslash at the end of the text is refused. -/
theorem quotedText_of_openEscape
    (escapes : source.next? = some '\\')
    (notQuote : '\\' ≠ quote)
    (atEnd : source.skip.next? = none) :
    Ends body (quotedText quote opened parts content) source
      (.error ⟨source.skip.position, .openEscape⟩) source.skip := by
  refine ends_quotedText (ends_get_bind ?_)
  simp only [escapes, notQuote, if_false, if_true, atEnd]
  exact ends_set_bind .fail

/-- An escape that stands for nothing is refused. -/
theorem quotedText_of_unknownEscape
    (escapes : source.next? = some '\\')
    (notQuote : '\\' ≠ quote)
    (follows : source.skip.next? = some letter)
    (meansNothing : unescape? letter = none) :
    Ends body (quotedText quote opened parts content) source
      (.error ⟨source.skip.position, .unknownEscape letter⟩) source.skip.skip := by
  refine ends_quotedText (ends_get_bind ?_)
  simp only [escapes, notQuote, if_false, if_true, follows, meansNothing]
  exact ends_set_bind (ends_set_bind .fail)

/-- An interpolation has a loop of its own, after which the text goes on. -/
theorem quotedText_of_interpolation
    (opens : source.next? = some '\x7b')
    (notQuote : '\x7b' ≠ quote)
    (inner : Ends body (loop (some 0) []) source.skip (.ok tokens) between)
    (others :
      Ends body
        (quotedText quote opened
          (some (.interpolation tokens :: flush content (parts.getD []))) [])
        between answer after) :
    Ends body (quotedText quote opened parts content) source answer after := by
  refine ends_quotedText (ends_get_bind ?_)
  simp only [opens, notQuote, if_false, Char.reduceEq, if_true]
  exact ends_set_bind (ends_bind inner others)

/-- A quoted text ends with the error of its interpolation. -/
theorem quotedText_of_faultyInterpolation
    {error : LexicalError}
    (opens : source.next? = some '\x7b')
    (notQuote : '\x7b' ≠ quote)
    (inner : Ends body (loop (some 0) []) source.skip (.error error) after) :
    Ends body (quotedText quote opened parts content) source (.error error) after := by
  refine ends_quotedText (ends_get_bind ?_)
  simp only [opens, notQuote, if_false, Char.reduceEq, if_true]
  exact ends_set_bind (ends_bind_of_error inner)

/-- Every other character stands for itself. -/
theorem quotedText_of_plain
    (comes : source.next? = some character)
    (isPlain : character ≠ quote ∧ character ≠ '\\' ∧ character ≠ '\x7b')
    (others :
      Ends body (quotedText quote opened parts (character :: content)) source.skip answer after) :
    Ends body (quotedText quote opened parts content) source answer after := by
  refine ends_quotedText (ends_get_bind ?_)
  simp only [comes, isPlain, if_false]
  exact ends_set_bind others

end QuotedTexts

/-- A place is reached from another in the text, over a number of characters at least. -/
structure Reaches (file : String) (text : List Char) (least : Nat) (source after : Source) :
    Prop where
  inside : after.Inside file text
  fewer : after.ahead.length + least ≤ source.ahead.length

namespace Reaches

variable {least more : Nat}

/-- A place inside of a text is reached from itself. -/
theorem refl (inside : source.Inside file text) : Reaches file text 0 source source :=
  ⟨inside, Nat.le_refl _⟩

/-- The steps of two ways in a row add up. -/
theorem trans
    (first : Reaches file text least source between)
    (second : Reaches file text more between after) :
    Reaches file text (least + more) source after :=
  ⟨second.inside, by have := first.fewer; have := second.fewer; omega⟩

/-- A way of many steps is one of fewer at least. -/
theorem weaken
    (reaches : Reaches file text least source after)
    (notMore : more ≤ least) :
    Reaches file text more source after :=
  ⟨reaches.inside, by have := reaches.fewer; omega⟩

/-- A step over a character is a way of one step. -/
theorem skip
    (inside : source.Inside file text)
    (notAtEnd : source.ahead ≠ []) :
    Reaches file text 1 source source.skip := by
  refine ⟨inside.skip, ?_⟩
  have := List.length_pos_iff.mpr notAtEnd
  rw [Source.ahead_skip, List.length_tail]
  omega

/-- Every step that takes or skips something takes a character at least. -/
theorem step
    {taken : Option Token}
    (inside : source.Inside file text)
    (shape : source.ahead = character :: rest)
    (stepped : Scanner.step braces tokens source character rest = .next nextBraces taken after) :
    Reaches file text 1 source after := by
  have moves := step_movesOn braces tokens shape
  rw [stepped] at moves
  exact ⟨lands_of_step inside stepped, moves.1⟩

end Reaches

/-- How an action ends at a place, beside what a reading of the text comes to there: with the same
result at the same place, or the same error somewhere. -/
inductive Follows {Result : Type} (file : String) (text : List Char) (least : Nat)
    (action : Action Result) (source : Source) :
    Except LexicalError (Result × Source) → Prop where
  | ok
      {result : Result}
      {after : Source}
      (ends : Ends body action source (.ok result) after)
      (reaches : Reaches file text least source after) :
      Follows file text least action source (.ok (result, after))
  | error
      {error : LexicalError}
      {after : Source}
      (ends : Ends body action source (.error error) after)
      (reaches : Reaches file text 0 source after) :
      Follows file text least action source (.error error)

/-- An action that ends as another does, from a place that is reached. -/
theorem Follows.further
    {Result : Type}
    {least more : Nat}
    {action other : Action Result}
    {reading : Except LexicalError (Result × Source)}
    (follows : Follows file text more other between reading)
    (reaches : Reaches file text least source between)
    (goesOn :
      ∀ {answer after}, Ends body other between answer after →
        Ends body action source answer after) :
    Follows file text least action source reading := by
  cases follows with
  | ok ends others =>
      exact .ok (goesOn ends) ((reaches.trans others).weaken (Nat.le_add_right _ _))
  | error ends others =>
      exact .error (goesOn ends) ((reaches.trans others).weaken (Nat.zero_le _))

/-- What an action comes to is what the reading comes to that it follows. -/
theorem Follows.reading_eq
    {Result : Type}
    {least : Nat}
    {action : Action Result}
    {reading : Except LexicalError (Result × Source)}
    {answer : Except LexicalError Result}
    (follows : Follows file text least action source reading)
    (ended : Ends body action source answer after) :
    reading = answer.map (·, after) := by
  cases follows with
  | ok ends reaches =>
      obtain ⟨rfl, rfl⟩ := ended.unique ends
      rfl
  | error ends reaches =>
      obtain ⟨rfl, rfl⟩ := ended.unique ends
      rfl

mutual

/-- The loop stops wherever the scanner does, with the same outcome. -/
theorem follows_loop
    {braces : Option Nat}
    {tokens : List Token}
    {source : Source}
    {reading : Except LexicalError (List Token × Source)} :
    ScansTokens braces tokens source reading → source.Inside file text →
      Follows file text 0 (loop braces tokens) source reading
  | .ended atEnd, inside => by
      have ended := @round_of_ended _ braces tokens atEnd
      cases braces with
      | none =>
          exact .ok (loop_of_left ended) (.refl inside)
      | some depth =>
          exact .error (loop_of_error ended) (.refl inside)
  | .next shape stepped others, inside => by
      have reaches := Reaches.step inside shape stepped
      exact (follows_loop others reaches.inside).further (reaches.weaken (Nat.zero_le _))
        (loop_of_goesOn (round_of_next shape stepped))
  | .text shape stepped quoted others, inside => by
      have skipped := Reaches.skip inside (by simp [shape])
      obtain ⟨ends, reaches⟩ := follows_quotedText quoted skipped.inside
      exact (follows_loop others reaches.inside).further
        ((skipped.trans reaches).weaken (Nat.zero_le _))
        (loop_of_goesOn (round_of_text shape stepped ends))
  | .faultyText shape stepped quoted, inside => by
      have skipped := Reaches.skip inside (by simp [shape])
      obtain _ | ⟨ends, reaches⟩ := follows_quotedText quoted skipped.inside
      exact .error (loop_of_error (round_of_faultyText shape stepped ends))
        ((skipped.trans reaches).weaken (Nat.zero_le _))
  | .close shape stepped, inside => by
      have skipped := Reaches.skip inside (by simp [shape])
      exact .ok (loop_of_left (round_of_close shape stepped))
        (skipped.weaken (Nat.zero_le _))
  | .refuse shape stepped, inside =>
      .error (loop_of_error (round_of_refuse shape stepped)) (.refl inside)

/-- So does the loop of a quoted text, which takes its closing quote. -/
theorem follows_quotedText
    {quote : Char}
    {opened : Position}
    {parts : Option (List Part)}
    {content : List Char}
    {source : Source}
    {reading : Except LexicalError (Token × Source)} :
    ScansText quote opened parts content source reading → source.Inside file text →
      Follows file text 1 (quotedText quote opened parts content) source reading
  | .ended atEnd, inside => .error (quotedText_of_ended atEnd) (.refl inside)
  | .constant closes, inside =>
      .ok (quotedText_of_constant closes) (.skip inside (Source.ahead_ne_nil_of_next? closes))
  | .template closes, inside =>
      .ok (quotedText_of_template closes) (.skip inside (Source.ahead_ne_nil_of_next? closes))
  | .escape escapes notQuote follows means others, inside => by
      have first := Reaches.skip inside (Source.ahead_ne_nil_of_next? escapes)
      have second := Reaches.skip first.inside (Source.ahead_ne_nil_of_next? follows)
      exact (follows_quotedText others second.inside).further
        ((first.trans second).weaken (by decide))
        (quotedText_of_escape escapes notQuote follows means)
  | .openEscape escapes notQuote atEnd, inside => by
      have first := Reaches.skip inside (Source.ahead_ne_nil_of_next? escapes)
      exact .error (quotedText_of_openEscape escapes notQuote atEnd)
        (first.weaken (Nat.zero_le _))
  | .unknownEscape escapes notQuote follows meansNothing, inside => by
      have first := Reaches.skip inside (Source.ahead_ne_nil_of_next? escapes)
      have second := Reaches.skip first.inside (Source.ahead_ne_nil_of_next? follows)
      exact .error (quotedText_of_unknownEscape escapes notQuote follows meansNothing)
        ((first.trans second).weaken (Nat.zero_le _))
  | .interpolation opens notQuote inner others, inside => by
      have first := Reaches.skip inside (Source.ahead_ne_nil_of_next? opens)
      obtain ⟨ends, reaches⟩ := follows_loop inner first.inside
      exact (follows_quotedText others reaches.inside).further (first.trans reaches)
        (quotedText_of_interpolation opens notQuote ends)
  | .faultyInterpolation opens notQuote inner, inside => by
      have first := Reaches.skip inside (Source.ahead_ne_nil_of_next? opens)
      obtain _ | ⟨ends, reaches⟩ := follows_loop inner first.inside
      exact .error (quotedText_of_faultyInterpolation opens notQuote ends)
        ((first.trans reaches).weaken (Nat.zero_le _))
  | .plain comes isPlain others, inside => by
      have first := Reaches.skip inside (Source.ahead_ne_nil_of_next? comes)
      exact (follows_quotedText others first.inside).further first
        (quotedText_of_plain comes isPlain)

end

/-- How a round at a place moves: it is over somewhere in the text, and further on if the loop goes
on. -/
structure RoundMoves (file : String) (text : List Char) (source : Source)
    (ended : Except LexicalError RoundEnd) (after : Source) : Prop where
  reaches : Reaches file text 0 source after
  takes :
    ∀ braces tokens, ended = .ok (.goesOn braces tokens) → Reaches file text 1 source after

/-- Every round is over. -/
theorem exists_round
    (braces : Option Nat)
    (tokens : List Token)
    (inside : source.Inside file text) :
    ∃ ended after, Ends body (round braces tokens) source ended after ∧
      RoundMoves file text source ended after := by
  cases shape : source.ahead with
  | nil =>
      refine ⟨_, _, round_of_ended shape, .refl inside, ?_⟩
      intro nextBraces more goesOn
      cases braces <;> cases goesOn
  | cons character rest =>
      have skipped := Reaches.skip inside (by simp [shape])
      cases stepped : step braces tokens source character rest with
      | next nextBraces taken after =>
          have reaches := Reaches.step inside shape stepped
          exact ⟨_, _, round_of_next shape stepped, reaches.weaken (Nat.zero_le _),
            fun _ _ _ => reaches⟩
      | text quote =>
          have quoted := @(runs _).scanText quote source.position none [] _
            (Nat.le_refl source.skip.ahead.length)
          generalize scanText source.skip.ahead.length quote source.position none [] source.skip =
            reading at quoted
          cases follows_quotedText quoted skipped.inside with
          | ok ends reaches =>
              have further := skipped.trans reaches
              exact ⟨_, _, round_of_text shape stepped ends, further.weaken (Nat.zero_le _),
                fun _ _ _ => further.weaken (by decide)⟩
          | error ends reaches =>
              have further := skipped.trans reaches
              exact ⟨_, _, round_of_faultyText shape stepped ends,
                further.weaken (Nat.zero_le _), nofun⟩
      | close =>
          exact ⟨_, _, round_of_close shape stepped, skipped.weaken (Nat.zero_le _), nofun⟩
      | refuse error =>
          exact ⟨_, _, round_of_refuse shape stepped, .refl inside, nofun⟩

/-- Every loop is over, with what the scanner gives for any large enough budget. -/
theorem exists_loop
    (braces : Option Nat)
    (tokens : List Token)
    (inside : source.Inside file text) :
    ∃ answer after, Ends body (loop braces tokens) source answer after ∧
      Reaches file text 0 source after ∧
      ∀ budget ≥ source.ahead.length,
        scanTokens budget braces tokens source = answer.map (·, after) := by
  have follows {budget : Nat} (enough : source.ahead.length ≤ budget) :=
    follows_loop (@(runs budget).scanTokens braces tokens _ enough) inside
  have first := follows (Nat.le_refl _)
  generalize scanTokens source.ahead.length braces tokens source = reading at first
  cases first with
  | ok ends reaches =>
      exact ⟨_, _, ends, reaches, fun _ enough => (follows enough).reading_eq ends⟩
  | error ends reaches =>
      exact ⟨_, _, ends, reaches, fun _ enough => (follows enough).reading_eq ends⟩

/-- A place that is reached from an offset is at an offset that is no smaller. -/
theorem Reaches.offset_le
    {least offset later : Nat}
    (reaches :
      Reaches file text least (.atOffset file text offset) (.atOffset file text later))
    (starts : offset ≤ text.length)
    (ends : later ≤ text.length) :
    offset + least ≤ later := by
  have fewer := reaches.fewer
  simp only [Source.atOffset, List.length_drop] at fewer
  omega

/-- How the scanner stops on a text.  At any offset of the text, in the script or in an
interpolation, a round of the loop leaves the loop or takes characters, none of them beyond the end,
and the loop is over at some offset, with what the scanner gives for any large enough budget. -/
structure Stops (file : String) (text : List Char) : Prop where
  round :
    ∀ braces tokens, ∀ offset ≤ text.length, ∃ ended, ∃ later ≤ text.length,
      Ends body (Unbounded.round braces tokens) (.atOffset file text offset) ended
          (.atOffset file text later) ∧
        offset ≤ later ∧
        ∀ nextBraces more, ended = .ok (.goesOn nextBraces more) → offset < later
  loop :
    ∀ braces tokens, ∀ offset ≤ text.length, ∃ answer, ∃ later ≤ text.length,
      Ends body (Unbounded.loop braces tokens) (.atOffset file text offset) answer
          (.atOffset file text later) ∧
        offset ≤ later ∧
        ∀ budget ≥ text.length - offset,
          scanTokens budget braces tokens (.atOffset file text offset) =
            answer.map (·, .atOffset file text later)
  script :
    ∃ later ≤ text.length,
      Ends body (Unbounded.loop none []) (.ofText file text) (scanChars file text)
        (.atOffset file text later)

/-- The recursive programs of the scanner end at every place inside of a text, by recursion on the
rules of the scanner. -/
theorem stops (file : String) (text : List Char) : Stops file text where
  round := by
    intro braces tokens offset inside
    obtain ⟨ended, after, ends, reaches, takes⟩ :=
      exists_round braces tokens (⟨offset, inside, rfl⟩ : Source.Inside file text _)
    obtain ⟨later, within, rfl⟩ := reaches.inside
    exact ⟨ended, later, within, ends, reaches.offset_le inside within,
      fun nextBraces more goesOn => (takes nextBraces more goesOn).offset_le inside within⟩
  loop := by
    intro braces tokens offset inside
    obtain ⟨answer, after, ends, reaches, agrees⟩ :=
      exists_loop braces tokens (⟨offset, inside, rfl⟩ : Source.Inside file text _)
    obtain ⟨later, within, rfl⟩ := reaches.inside
    simp only [Source.atOffset, List.length_drop] at agrees
    exact ⟨answer, later, within, ends, reaches.offset_le inside within, agrees⟩
  script := by
    obtain ⟨answer, after, ends, reaches, agrees⟩ :=
      exists_loop none [] (Source.inside_ofText file text)
    obtain ⟨later, within, rfl⟩ := reaches.inside
    have scanned : scanChars file text = answer := by
      rw [scanChars, agrees text.length (Nat.le_refl _)]
      cases answer <;> rfl
    exact ⟨later, within, scanned ▸ ends⟩

end Scanner.Unbounded

end Scripting
