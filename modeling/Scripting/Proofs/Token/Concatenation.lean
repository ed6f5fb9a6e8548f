import Scripting.Proofs.Token.Runs

namespace Scripting

/-!
# Scanning text piece by piece

A script that is scanned up to its end is scanned to the same tokens, up to their positions, where
it stands on lines of its own in a longer script.
-/

namespace Scanner

variable (placement : Placement)

/-- The tokens before a text do not turn its first sign into a minus: there are none, or the text
does not start with a number. -/
def Signless (earlier tokens result : List Token) : Prop :=
  earlier = [] ∨ tokens ≠ [] ∨ ∀ first ∈ result.head?, first.kind ≠ .literal

/-- A text of which a token has been taken has its first sign behind it. -/
theorem Signless.of_cons
    (earlier tokens result : List Token)
    (token : Token) :
    Signless earlier (token :: tokens) result :=
  .inr (.inl (List.cons_ne_nil _ _))

/-- More tokens of the text turn no sign. -/
theorem Signless.append
    {earlier tokens result : List Token}
    (signless : Signless earlier tokens result)
    (taken : List Token) :
    Signless earlier (taken ++ tokens) result := by
  cases taken with
  | nil =>
      exact signless
  | cons =>
      exact .of_cons ..

/-- How the scanner comes to an outcome in the longer text when the text ends: with all tokens of an
interpolation it is there, and after those of the script so far it goes on. -/
def Continues (braces : Option Nat) (earlier result : List Token) (final : Source)
    (outcome : Except LexicalError (List Token × Source)) : Prop :=
  match braces with
  | some _ =>
      outcome =
        .ok (earlier.reverse ++ result.map (Token.placed placement), final.placed placement)
  | none =>
      ScansTokens none ((result.map (Token.placed placement)).reverse ++ earlier)
        (final.placed placement) outcome

/-- It is the same with another count of braces in the same interpolation. -/
theorem Continues.map
    {placement : Placement}
    {braces nextBraces : Option Nat}
    {change : Nat → Nat}
    {earlier result : List Token}
    {final : Source}
    {outcome : Except LexicalError (List Token × Source)}
    (continues : Continues placement braces earlier result final outcome)
    (isChanged : nextBraces = braces.map change) :
    Continues placement nextBraces earlier result final outcome := by
  subst isChanged
  cases braces <;> exact continues

/-- A number starts at the same characters in the longer text. -/
theorem startsNumber_placed
    {earlier tokens result : List Token}
    (signless : Signless earlier tokens result)
    {character : Char}
    {rest : List Char}
    (apart : character = '-' → placement.Apart rest)
    (isLiteral :
      tokens = [] → startsNumber tokens character rest = true →
        ∃ first ∈ result.head?, first.kind = .literal) :
    startsNumber (tokens.map (Token.placed placement) ++ earlier) character
        (rest ++ placement.after) =
      startsNumber tokens character rest := by
  cases tokens with
  | cons token tokens =>
      exact startsNumber_append placement (by simp) apart
  | nil =>
      obtain rfl | notEmpty | notLiteral := signless
      · exact startsNumber_append placement (by simp) apart
      · exact (notEmpty rfl).elim
      · have noNumber : startsNumber [] character rest = false := by
          rw [← Bool.not_eq_true]
          intro starts
          obtain ⟨first, isFirst, literal⟩ := isLiteral rfl starts
          exact notLiteral first isFirst literal
        have noNumberThere :=
          startsNumber_append placement (rfl : ([] : List Token).head?.any _ = _) apart
        rw [noNumber] at noNumberThere ⊢
        simp only [startsNumber, Bool.or_eq_false_iff, Bool.and_eq_false_iff] at noNumberThere ⊢
        refine ⟨noNumberThere.1, ?_⟩
        obtain (notMinus | noDigit) | ended := noNumberThere.2
        · exact .inl (.inl notMinus)
        · exact .inl (.inr noDigit)
        · simp at ended

/-- A fragment is the same elsewhere. -/
theorem placedAll_flush (text : List Char) (parts : List Part) :
    Part.placedAll placement (flush text parts) = flush text (Part.placedAll placement parts) := by
  unfold flush
  split
  · rfl
  · rfl

theorem placedAll_getD (parts : Option (List Part)) :
    Part.placedAll placement (parts.getD []) =
      (parts.map (Part.placedAll placement)).getD [] := by
  cases parts <;> rfl

/-- A script is scanned up to the end of the text. -/
theorem ScansTokens.ahead_eq_nil
    {braces : Option Nat}
    {tokens result : List Token}
    {source final : Source}
    {outcome : Except LexicalError (List Token × Source)} :
    ScansTokens braces tokens source outcome → outcome = .ok (result, final) → braces = none →
      final.ahead = []
  | .ended atEnd, succeeds, isScript => by
      subst isScript
      cases succeeds
      exact atEnd
  | .next shape stepped others, succeeds, isScript => by
      have moves := step_movesOn braces tokens shape
      rw [stepped] at moves
      obtain ⟨change, isChanged⟩ := moves.2
      exact others.ahead_eq_nil succeeds (by rw [isChanged, isScript, Option.map_none])
  | .text _ _ _ others, succeeds, isScript => others.ahead_eq_nil succeeds isScript
  | .faultyText _ _ _, succeeds, _ => by
      cases succeeds
  | .close shape stepped, _, isScript => by
      have moves := step_movesOn braces tokens shape
      rw [stepped, isScript] at moves
      cases moves
  | .refuse _ _, succeeds, _ => by
      cases succeeds

section Placed

variable
  {placement}
  {braces : Option Nat}
  {tokens result earlier : List Token}
  {source final : Source}
  {character : Char}
  {rest : List Char}
  (run : ScansTokens braces tokens source (.ok (result, final)))

include run

/-- What is left of a text that is scanned does not join what follows the text. -/
theorem ScansTokens.apart (endsLine : braces = none → placement.EndsLine) :
    placement.Apart source.ahead := by
  cases braces with
  | none =>
      exact .inl (endsLine rfl)
  | some depth =>
      refine .inr fun atEnd => ?_
      cases run.unique (.ended atEnd)

/-- If a number is scanned first, the first token is a constant. -/
theorem ScansTokens.isLiteral
    (shape : source.ahead = character :: rest)
    (notBlank : ¬Text.isBlank character)
    (notName : ¬startsName character)
    (starts : startsNumber tokens character rest = true)
    (noTokens : tokens = []) :
    ∃ first ∈ result.head?, first.kind = .literal := by
  cases number : scanNumber source with
  | ok scanned =>
      obtain ⟨token, after⟩ := scanned
      have stepped :
          step braces tokens source character rest = .next braces (some token) after :=
        (StepCase.number notBlank notName starts number).step_eq
      obtain ⟨outcome, others⟩ := exists_scansTokens braces (token :: tokens) after
      obtain rfl := run.unique (.next shape stepped others)
      obtain ⟨-, more, rfl⟩ := others.movesOn rfl
      rw [noTokens]
      exact ⟨token, rfl, (length_scanNumber_lt shape starts number).2⟩
  | error error =>
      have stepped : step braces tokens source character rest = .refuse error :=
        (StepCase.noNumber notBlank notName starts number).step_eq
      cases run.unique (.refuse shape stepped)

/-- What follows a text that is scanned does not change the steps in it. -/
theorem ScansTokens.stable
    (endsLine : braces = none → placement.EndsLine)
    (shape : source.ahead = character :: rest) :
    (step braces tokens source character rest).Stable placement := by
  have moves := step_movesOn braces tokens shape
  cases stepped : step braces tokens source character rest with
  | next nextBraces taken after =>
      rw [stepped] at moves
      obtain ⟨-, change, rfl⟩ := moves
      obtain ⟨outcome, others⟩ :=
        exists_scansTokens (braces.map change) (taken.toList ++ tokens) after
      obtain rfl := run.unique (.next shape stepped others)
      exact others.apart fun none => endsLine (Option.map_eq_none_iff.mp none)
  | text | close =>
      trivial
  | refuse error =>
      cases run.unique (.refuse shape stepped)

/-- The steps in a text that is scanned are those in the longer text. -/
theorem ScansTokens.step_placed
    (endsLine : braces = none → placement.EndsLine)
    (signless : Signless earlier tokens result)
    (shape : source.ahead = character :: rest) :
    step braces (tokens.map (Token.placed placement) ++ earlier) (source.placed placement) character
        (rest ++ placement.after) =
      (step braces tokens source character rest).placed placement := by
  have stable := run.stable endsLine shape
  refine Scanner.step_placed shape stable fun notBlank notName => ?_
  exact startsNumber_placed placement signless (stable.apart shape)
    fun noTokens starts => run.isLiteral shape notBlank notName starts noTokens

end Placed

/-- The characters of a text are ahead in the longer text too. -/
theorem ahead_placed_cons
    {source : Source}
    {character : Char}
    {rest : List Char}
    (shape : source.ahead = character :: rest) :
    (source.placed placement).ahead = character :: (rest ++ placement.after) := by
  rw [Source.ahead_placed, shape, List.cons_append]

mutual

/-- A text is scanned in the longer text as it is alone, and what follows it there decides about the
outcome. -/
theorem ScansTokens.placed
    (placement : Placement)
    (earlier : List Token)
    {braces : Option Nat}
    {tokens result : List Token}
    {source final : Source}
    {outcome reached : Except LexicalError (List Token × Source)} :
    ScansTokens braces tokens source outcome → outcome = .ok (result, final) →
      (braces = none → placement.EndsLine) → Signless earlier tokens result →
        Continues placement braces earlier result final reached →
          ScansTokens braces (tokens.map (Token.placed placement) ++ earlier)
            (source.placed placement) reached
  | .ended _, succeeds, _, _, continues => by
      cases braces with
      | none =>
          cases succeeds
          simpa [Continues] using continues
      | some depth =>
          cases succeeds
  | .next shape stepped others, succeeds, endsLine, signless, continues => by
      have run := ScansTokens.next shape stepped others
      have stepsThere := (succeeds ▸ run).step_placed endsLine signless shape
      have moves := step_movesOn braces tokens shape
      rw [stepped] at stepsThere moves
      obtain ⟨-, change, isChanged⟩ := moves
      -- A step changes how many braces are open, but not whether they are counted.
      have othersThere := others.placed placement earlier succeeds
        (fun none => endsLine (Option.map_eq_none_iff.mp (isChanged.symm.trans none)))
        (signless.append _) (continues.map isChanged)
      refine .next (ahead_placed_cons placement shape) stepsThere ?_
      rwa [List.map_append, List.append_assoc, ← Option.toList_map] at othersThere
  | .text shape stepped quoted others, succeeds, endsLine, signless, continues => by
      have run := ScansTokens.text shape stepped quoted others
      have stepsThere := (succeeds ▸ run).step_placed endsLine signless shape
      have notAtEnd : source.ahead ≠ [] := by simp [shape]
      have quotedThere := quoted.placed placement rfl
      rw [← Source.skip_placed placement notAtEnd] at quotedThere
      rw [stepped] at stepsThere
      exact .text (ahead_placed_cons placement shape) stepsThere quotedThere
        (others.placed placement earlier succeeds endsLine (.of_cons ..) continues)
  | .faultyText _ _ _, succeeds, _, _, _ => by
      cases succeeds
  | .close shape stepped, succeeds, endsLine, signless, continues => by
      cases succeeds
      have moves := step_movesOn braces tokens shape
      have stepsThere := (ScansTokens.close shape stepped).step_placed endsLine signless shape
      rw [stepped] at stepsThere moves
      obtain rfl : braces = some 0 := moves
      obtain rfl := continues
      have notAtEnd : source.ahead ≠ [] := by simp [shape]
      have closes := ScansTokens.close (ahead_placed_cons placement shape) stepsThere
      rw [Source.skip_placed placement notAtEnd] at closes
      simpa using closes
  | .refuse _ _, succeeds, _, _, _ => by
      cases succeeds

/-- A quoted text is scanned in the longer text as it is alone. -/
theorem ScansText.placed
    (placement : Placement)
    {quote : Char}
    {opened : Position}
    {parts : Option (List Part)}
    {text : List Char}
    {source final : Source}
    {token : Token}
    {outcome : Except LexicalError (Token × Source)} :
    ScansText quote opened parts text source outcome → outcome = .ok (token, final) →
      ScansText quote (opened.placed placement) (parts.map (Part.placedAll placement)) text
        (source.placed placement) (.ok (token.placed placement, final.placed placement))
  | .ended _, succeeds => by
      cases succeeds
  | .constant closes, succeeds => by
      cases succeeds
      have closesThere := Source.next?_placed placement closes
      rw [← Source.skip_placed placement (Source.ahead_ne_nil_of_next? closes)]
      exact .constant closesThere
  | .template closes, succeeds => by
      cases succeeds
      have closesThere := Source.next?_placed placement closes
      rw [← Source.skip_placed placement (Source.ahead_ne_nil_of_next? closes), Token.placed,
        Part.placedAll_reverse, placedAll_flush]
      exact .template closesThere
  | .escape escapes notQuote follows means others, succeeds => by
      have skips := Source.skip_placed placement (Source.ahead_ne_nil_of_next? escapes)
      have skipsTwice := Source.skip_placed placement (Source.ahead_ne_nil_of_next? follows)
      refine .escape (Source.next?_placed placement escapes) notQuote ?_ means ?_
      · rw [skips]
        exact Source.next?_placed placement follows
      · rw [skips, skipsTwice]
        exact others.placed placement succeeds
  | .openEscape _ _ _, succeeds => by
      cases succeeds
  | .unknownEscape _ _ _ _, succeeds => by
      cases succeeds
  | .interpolation opens notQuote inner others, succeeds => by
      have skips := Source.skip_placed placement (Source.ahead_ne_nil_of_next? opens)
      have innerThere := inner.placed placement [] rfl (by simp) (.inl rfl) rfl
      have othersThere := others.placed placement succeeds
      rw [← skips] at innerThere
      refine .interpolation (Source.next?_placed placement opens) notQuote innerThere ?_
      simpa [Part.placedAll, Token.placedAll_eq_map, placedAll_flush, placedAll_getD] using
        othersThere
  | .faultyInterpolation _ _ _, succeeds => by
      cases succeeds
  | .plain comes isPlain others, succeeds => by
      have skips := Source.skip_placed placement (Source.ahead_ne_nil_of_next? comes)
      refine .plain (Source.next?_placed placement comes) isPlain ?_
      rw [skips]
      exact others.placed placement succeeds

end

/-- A script that is scanned is scanned where it stands on lines of its own, and what follows it there
decides about the outcome. -/
theorem scansTokens_placed
    {placement : Placement}
    (endsLine : placement.EndsLine)
    {file : String}
    {text : List Char}
    {result earlier : List Token}
    (scanned : scanChars file text = .ok result)
    (signless : Signless earlier [] result) :
    ∃ final : Source, final.ahead = [] ∧
      ∀ {outcome},
        ScansTokens none ((result.map (Token.placed placement)).reverse ++ earlier)
            (final.placed placement) outcome →
          ScansTokens none earlier ((Source.ofText file text).placed placement) outcome := by
  obtain ⟨final, run⟩ := scansTokens_of_scanChars scanned
  exact ⟨final, run.ahead_eq_nil rfl rfl,
    fun others => run.placed placement earlier rfl (fun _ => endsLine) signless others⟩

end Scanner

/-- Where a script stands that has other lines after it. -/
def Placement.beforeLines (name : String) (more : List Char) : Placement :=
  ⟨name, [], '\n' :: more, 0⟩

/-- Before more lines comes a line end. -/
theorem Placement.endsLine_beforeLines (name : String) (more : List Char) :
    (Placement.beforeLines name more).EndsLine := by
  intro character follows
  simpa [Placement.beforeLines] using follows.symm

/-- A text before more lines is the text of all lines. -/
theorem Source.placed_beforeLines (file name : String) (text more : List Char) :
    (Source.ofText file text).placed (.beforeLines name more) =
      .ofText name (text ++ '\n' :: more) := by
  simp [Source.ofText, Source.placed, Placement.beforeLines]

/-- Where a script stands that has nothing around it. -/
def Placement.alone (name : String) : Placement :=
  ⟨name, [], [], 0⟩

/-- After a text that stands alone comes nothing. -/
theorem Placement.endsLine_alone (name : String) : (Placement.alone name).EndsLine := by
  intro character follows
  cases follows

/-- A text alone is that text in another file. -/
theorem Source.placed_alone (file name : String) (text : List Char) :
    (Source.ofText file text).placed (.alone name) = .ofText name text := by
  simp [Source.ofText, Source.placed, Placement.alone]

open Scanner in
/-- After the first script of a longer text, what follows it decides about the outcome. -/
theorem scansTokens_beforeLines
    {firstName first : String}
    {tokens : List Token}
    (scanned : scan firstName first = .ok tokens)
    (name : String)
    (more : List Char) :
    ∃ final : Source, final.ahead = [] ∧
      ∀ {outcome},
        ScansTokens none (tokens.map (Token.placed (.beforeLines name more))).reverse
            (final.placed (.beforeLines name more)) outcome →
          ScansTokens none [] (.ofText name (first.toList ++ '\n' :: more)) outcome := by
  obtain ⟨final, atEnd, placed⟩ :=
    scansTokens_placed (Placement.endsLine_beforeLines name more) scanned (.inl rfl)
  rw [Source.placed_beforeLines, List.append_nil] at placed
  exact ⟨final, atEnd, placed⟩

open Scanner in
/-- Two scripts on lines of their own are scanned to the tokens of the first and those of the
second, if the second does not start with a number. -/
theorem scan_append_placed
    {firstName secondName : String}
    {first second : String}
    {firstTokens secondTokens : List Token}
    (firstScanned : scan firstName first = .ok firstTokens)
    (secondScanned : scan secondName second = .ok secondTokens)
    (noNumber : ∀ token ∈ secondTokens.head?, token.kind ≠ .literal)
    (name : String) :
    ∃ secondPlace : Placement,
      scan name (first ++ "\n" ++ second) =
        .ok (firstTokens.map (Token.placed (.beforeLines name second.toList)) ++
          secondTokens.map (Token.placed secondPlace)) := by
  have joined : (first ++ "\n" ++ second).toList = first.toList ++ '\n' :: second.toList := by
    simp
  obtain ⟨final, atEnd, firstPlaced⟩ := scansTokens_beforeLines firstScanned name second.toList
  -- The line end is stepped over, and the second script starts.
  let secondPlace : Placement := ⟨name, '\n' :: (final.behind ++ []), [], final.line + 0⟩
  have secondEndsLine : secondPlace.EndsLine := by
    intro character follows
    cases follows
  have finalAhead :
      (final.placed (.beforeLines name second.toList)).ahead = '\n' :: second.toList := by
    simp [atEnd, Placement.beforeLines]
  have restEq : (final.placed (.beforeLines name second.toList)).skip =
      (Source.ofText secondName second.toList).placed secondPlace := by
    simp [Source.skip, Source.placed, atEnd, Placement.beforeLines, secondPlace, Source.past,
      Source.ofText, UInt32.add_comm]
  have signless :
      Signless (firstTokens.map (Token.placed (.beforeLines name second.toList))).reverse []
        secondTokens :=
    .inr (.inr noNumber)
  obtain ⟨last, lastAtEnd, secondPlaced⟩ :=
    scansTokens_placed secondEndsLine secondScanned signless
  have lastAhead : (last.placed secondPlace).ahead = [] := by
    simp [lastAtEnd, secondPlace]
  have run := firstPlaced (.next finalAhead rfl (restEq ▸ secondPlaced (.ended lastAhead)))
  refine ⟨secondPlace, ?_⟩
  rw [scan, joined, run.scanChars_eq]
  simp [endOfText, Except.map]

/-- Two texts on lines of their own are scanned to the tokens of both. -/
theorem scan_append
    {firstName secondName : String}
    {first second : String}
    {firstTokens secondTokens : List Token}
    (firstScanned : scan firstName first = .ok firstTokens)
    (secondScanned : scan secondName second = .ok secondTokens)
    (noNumber : ∀ token ∈ secondTokens.head?, token.kind ≠ .literal)
    (name : String) :
    ∃ firstPlace secondPlace : Placement,
      scan name (first ++ "\n" ++ second) =
        .ok (firstTokens.map (Token.placed firstPlace) ++
          secondTokens.map (Token.placed secondPlace)) := by
  exact ⟨_, scan_append_placed firstScanned secondScanned noNumber name⟩

open Scanner in
/-- The tokens of a script stay where they are when other lines follow. -/
theorem map_placed_of_scan
    {name text : String}
    {tokens : List Token}
    (scanned : scan name text = .ok tokens)
    (more : List Char) :
    tokens.map (Token.placed (.beforeLines name more)) = tokens := by
  -- Positions are the same as with nothing after the script, and then nothing changes at all.
  have agrees : (Placement.beforeLines name more).Agrees (.alone name) := ⟨rfl, rfl⟩
  obtain ⟨final, atEnd, placed⟩ :=
    scansTokens_placed (Placement.endsLine_alone name) scanned (.inl rfl)
  have atEndThere : (final.placed (.alone name)).ahead = [] := by
    simp [atEnd, Placement.alone]
  rw [Source.placed_alone] at placed
  have again := (placed (.ended atEndThere)).scanChars_eq
  rw [scan] at scanned
  simp only [scanned, endOfText, List.append_nil, List.reverse_reverse, Except.map,
    Except.ok.injEq] at again
  rw [List.map_congr_left fun token _ => token.placed_congr agrees]
  exact again.symm

/-- A script keeps its tokens when another one follows on a line of its own. -/
theorem scan_append_line
    {name secondName : String}
    {first second : String}
    {firstTokens secondTokens : List Token}
    (firstScanned : scan name first = .ok firstTokens)
    (secondScanned : scan secondName second = .ok secondTokens)
    (noNumber : ∀ token ∈ secondTokens.head?, token.kind ≠ .literal) :
    ∃ secondPlace : Placement,
      scan name (first ++ "\n" ++ second) =
        .ok (firstTokens ++ secondTokens.map (Token.placed secondPlace)) := by
  obtain ⟨secondPlace, scanned⟩ :=
    scan_append_placed firstScanned secondScanned noNumber name
  rw [map_placed_of_scan firstScanned] at scanned
  exact ⟨secondPlace, scanned⟩

open Scanner in
/-- The tokens of a script stay first whatever is on the lines after it. -/
theorem exists_append_of_scan
    {name first more : String}
    {firstTokens tokens : List Token}
    (firstScanned : scan name first = .ok firstTokens)
    (scanned : scan name (first ++ "\n" ++ more) = .ok tokens) :
    ∃ others, tokens = firstTokens ++ others := by
  have joined : (first ++ "\n" ++ more).toList = first.toList ++ '\n' :: more.toList := by
    simp
  obtain ⟨start, -, placed⟩ := scansTokens_beforeLines firstScanned name more.toList
  rw [map_placed_of_scan firstScanned] at placed
  obtain ⟨outcome, others⟩ :=
    exists_scansTokens none firstTokens.reverse (start.placed (.beforeLines name more.toList))
  rw [scan, joined] at scanned
  obtain ⟨final, run⟩ := scansTokens_of_scanChars scanned
  obtain rfl := (placed others).unique run
  obtain ⟨-, more, rfl⟩ := others.movesOn rfl
  exact ⟨more, by rw [List.reverse_reverse]⟩

end Scripting
