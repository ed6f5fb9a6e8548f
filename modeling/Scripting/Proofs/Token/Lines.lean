import Scripting.Proofs.Token.Concatenation

namespace Scripting

/-!
# Scanning line by line

The scanner never looks beyond the end of a line for what it decides on the line, except inside a
quoted text or an interpolation that is still open there.  So more lines after a text neither
change its tokens nor the fault for which it is refused, unless the fault is that it ends too
early.
-/

namespace Scanner

variable (placement : Placement)

section Refused

variable
  {placement}
  (endsLine : placement.EndsLine)
  {braces : Option Nat}
  {tokens others : List Token}
  {source : Source}
  {character : Char}
  {rest : List Char}

include endsLine

/-- Before a line end every step is the one in the longer text. -/
theorem step_placed_of_endsLine
    {taken : Step}
    (shape : source.ahead = character :: rest)
    (stepped : step braces tokens source character rest = taken)
    (sameOperand : others.head?.any Token.endsOperand = tokens.head?.any Token.endsOperand) :
    step braces others (source.placed placement) character (rest ++ placement.after) =
      taken.placed placement := by
  have stable : (step braces tokens source character rest).Stable placement := by
    cases step braces tokens source character rest with
    | next => exact .inl endsLine
    | text | close => trivial
    | refuse => exact endsLine
  rw [← stepped]
  exact step_placed shape stable (stable.sameNumber shape sameOperand)

end Refused

mutual

/-- A text that is refused for something that more text cannot mend is refused in the longer text. -/
theorem ScansTokens.refused
    {placement : Placement}
    (endsLine : placement.EndsLine)
    {braces : Option Nat}
    {tokens others : List Token}
    {source : Source}
    {error : LexicalError}
    {outcome : Except LexicalError (List Token × Source)} :
    ScansTokens braces tokens source outcome → outcome = .error error →
      error.fault.endsEarly = false →
        others.head?.any Token.endsOperand = tokens.head?.any Token.endsOperand →
          ScansTokens braces others (source.placed placement) (.error (error.placed placement))
  | .ended _, fails, notEarly, _ => by
      cases braces with
      | none =>
          cases fails
      | some depth =>
          cases fails
          cases notEarly
  | @ScansTokens.next _ _ _ taken _ _ _ _ _ shape stepped more, fails, notEarly, sameOperand => by
      have stepsThere := step_placed_of_endsLine endsLine shape stepped sameOperand
      refine .next (ahead_placed_cons placement shape) stepsThere
        (more.refused endsLine fails notEarly ?_)
      cases taken with
      | none =>
          exact sameOperand
      | some token =>
          simp
  | .text shape stepped quoted more, fails, notEarly, sameOperand => by
      have stepsThere := step_placed_of_endsLine endsLine shape stepped sameOperand
      have notAtEnd : source.ahead ≠ [] := by simp [shape]
      have quotedThere := quoted.placed placement rfl
      rw [← Source.skip_placed placement notAtEnd] at quotedThere
      exact .text (ahead_placed_cons placement shape) stepsThere quotedThere
        (more.refused endsLine fails notEarly (by simp))
  | .faultyText shape stepped quoted, fails, notEarly, sameOperand => by
      have stepsThere := step_placed_of_endsLine endsLine shape stepped sameOperand
      have notAtEnd : source.ahead ≠ [] := by simp [shape]
      have quotedThere := quoted.refused endsLine (congrArg _ (Except.error.inj fails)) notEarly
        (source.position.placed placement) none []
      rw [← Source.skip_placed placement notAtEnd] at quotedThere
      exact .faultyText (ahead_placed_cons placement shape) stepsThere quotedThere
  | .close _ _, fails, _, _ => by
      cases fails
  | .refuse shape stepped, fails, _, sameOperand => by
      have stepsThere := step_placed_of_endsLine endsLine shape stepped sameOperand
      cases fails
      exact .refuse (ahead_placed_cons placement shape) stepsThere

/-- So is a quoted text, whatever was read of it before. -/
theorem ScansText.refused
    {placement : Placement}
    (endsLine : placement.EndsLine)
    {quote : Char}
    {opened : Position}
    {parts : Option (List Part)}
    {text : List Char}
    {source : Source}
    {error : LexicalError}
    {outcome : Except LexicalError (Token × Source)} :
    ScansText quote opened parts text source outcome → outcome = .error error →
      error.fault.endsEarly = false → ∀ openedThere partsThere textThere,
        ScansText quote openedThere partsThere textThere (source.placed placement)
          (.error (error.placed placement))
  | .ended _, fails, notEarly, _, _, _ => by
      cases fails
      cases notEarly
  | .constant _, fails, _, _, _, _ => by
      cases fails
  | .template _, fails, _, _, _, _ => by
      cases fails
  | .escape escapes notQuote follows means others, fails, notEarly, _, _, _ => by
      have skips := Source.skip_placed placement (Source.ahead_ne_nil_of_next? escapes)
      have skipsTwice := Source.skip_placed placement (Source.ahead_ne_nil_of_next? follows)
      refine .escape (Source.next?_placed placement escapes) notQuote ?_ means ?_
      · rw [skips]
        exact Source.next?_placed placement follows
      · rw [skips, skipsTwice]
        exact others.refused endsLine fails notEarly _ _ _
  | .openEscape _ _ _, fails, notEarly, _, _, _ => by
      cases fails
      cases notEarly
  | .unknownEscape escapes notQuote follows meansNothing, fails, _, _, _, _ => by
      cases fails
      have skips := Source.skip_placed placement (Source.ahead_ne_nil_of_next? escapes)
      have followsThere := Source.next?_placed placement follows
      rw [← skips] at followsThere
      rw [LexicalError.placed, ← Source.position_placed, ← skips]
      exact .unknownEscape (Source.next?_placed placement escapes) notQuote followsThere
        meansNothing
  | .interpolation opens notQuote inner others, fails, notEarly, _, _, _ => by
      have skips := Source.skip_placed placement (Source.ahead_ne_nil_of_next? opens)
      have innerThere := inner.placed placement [] rfl (by simp) (.inl rfl) rfl
      rw [← skips] at innerThere
      exact .interpolation (Source.next?_placed placement opens) notQuote innerThere
        (others.refused endsLine fails notEarly _ _ _)
  | .faultyInterpolation opens notQuote inner, fails, notEarly, _, _, _ => by
      have skips := Source.skip_placed placement (Source.ahead_ne_nil_of_next? opens)
      have innerThere :=
        inner.refused endsLine (congrArg _ (Except.error.inj fails)) notEarly rfl
      rw [← skips] at innerThere
      exact .faultyInterpolation (Source.next?_placed placement opens) notQuote innerThere
  | .plain comes isPlain others, fails, notEarly, _, _, _ => by
      have skips := Source.skip_placed placement (Source.ahead_ne_nil_of_next? comes)
      refine .plain (Source.next?_placed placement comes) isPlain ?_
      rw [skips]
      exact others.refused endsLine fails notEarly _ _ _

end

/-- A script that is refused for good is refused for the same fault where it stands in a longer
text. -/
theorem scanChars_refused
    {placement : Placement}
    (endsLine : placement.EndsLine)
    {file name : String}
    {text longer : List Char}
    {error : LexicalError}
    (refused : scanChars file text = .error error)
    (notEarly : error.fault.endsEarly = false)
    (startEq : (Source.ofText file text).placed placement = .ofText name longer) :
    scanChars name longer = .error (error.placed placement) := by
  have run := (scansTokens_of_fault refused).refused endsLine rfl notEarly rfl
  rw [startEq] at run
  exact run.scanChars_eq

end Scanner

open Scanner in
/-- A fault is where it is when other lines follow. -/
theorem placed_of_scan_refused
    {name text : String}
    {error : LexicalError}
    (refused : scan name text = .error error)
    (notEarly : error.fault.endsEarly = false)
    (more : List Char) :
    error.placed (.beforeLines name more) = error := by
  -- Positions are the same as with nothing after the script, and then nothing changes at all.
  have refusedAgain : scan name text = .error (error.placed (.alone name)) :=
    scanChars_refused (Placement.endsLine_alone name) refused notEarly (Source.placed_alone ..)
  rw [refused] at refusedAgain
  exact (Except.error.inj refusedAgain).symm

open Scanner in
/-- A script that is refused for good is refused for the same fault when other lines follow. -/
theorem scan_refused_append
    {name first : String}
    {error : LexicalError}
    (refused : scan name first = .error error)
    (notEarly : error.fault.endsEarly = false)
    (more : String) :
    scan name (first ++ "\n" ++ more) = .error error := by
  have joined : (first ++ "\n" ++ more).toList = first.toList ++ '\n' :: more.toList := by
    simp
  rw [scan, joined, scanChars_refused (Placement.endsLine_beforeLines name more.toList) refused notEarly
    (Source.placed_beforeLines ..), placed_of_scan_refused refused notEarly]

/-- Lines after a text change neither its tokens nor the fault for which it is refused, unless it
ends too early.  So of a text that is scanned, every front of whole lines is scanned or ends too
early. -/
theorem scan_goes_line_by_line (name first more : String) :
    (∀ tokens, scan name first = .ok tokens →
        ∀ all, scan name (first ++ "\n" ++ more) = .ok all → tokens <+: all) ∧
      (∀ error, scan name first = .error error → error.fault.endsEarly = false →
        scan name (first ++ "\n" ++ more) = .error error) ∧
      ∀ all, scan name (first ++ "\n" ++ more) = .ok all →
        (∃ tokens, scan name first = .ok tokens) ∨
          ∃ error, scan name first = .error error ∧ error.fault.endsEarly = true := by
  refine ⟨fun tokens firstScanned all scanned => ?_,
    fun error refused notEarly => scan_refused_append refused notEarly more,
    fun all scanned => ?_⟩
  · obtain ⟨others, rfl⟩ := exists_append_of_scan firstScanned scanned
    exact List.prefix_append tokens others
  · cases firstScanned : scan name first with
    | ok tokens =>
        exact .inl ⟨tokens, rfl⟩
    | error error =>
        refine .inr ⟨error, rfl, ?_⟩
        cases early : error.fault.endsEarly with
        | true =>
            rfl
        | false =>
            rw [scan_refused_append firstScanned early more] at scanned
            cases scanned

/-- A number that ends its line keeps its point, and a fault on a line stays the fault. -/
theorem number_and_fault_keep_their_line :
    (∃ tokens all,
      scan "main" "x = -1." = .ok tokens ∧
        scan "main" ("x = -1." ++ "\n" ++ "...\"a\"") = .ok all ∧
        tokens.length = 3 ∧
        tokens <+: all) ∧
      scan "main" ("x = 1.2.3" ++ "\n" ++ "\"a") =
        .error ⟨⟨"main", 1, 8⟩, .secondPoint "1.2"⟩ := by
  refine ⟨?_, (scan_goes_line_by_line "main" "x = 1.2.3" "\"a").2.1 _ rfl rfl⟩
  have three : (scan "main" "x = -1.").toOption.map List.length = some 3 := by
    decide +kernel
  have isScanned : (scan "main" ("x = -1." ++ "\n" ++ "...\"a\"")).toOption.isSome = true := by
    decide +kernel
  cases scanned : scan "main" "x = -1." with
  | error error =>
      rw [scanned] at three
      cases three
  | ok tokens =>
      cases scannedAll : scan "main" ("x = -1." ++ "\n" ++ "...\"a\"") with
      | error error =>
          rw [scannedAll] at isScanned
          cases isScanned
      | ok all =>
          rw [scanned] at three
          exact ⟨tokens, all, rfl, rfl, Option.some.inj three,
            (scan_goes_line_by_line "main" "x = -1." "...\"a\"").1 tokens scanned all scannedAll⟩

end Scripting
