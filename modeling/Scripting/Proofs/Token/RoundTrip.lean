import Scripting.Proofs.Token.Rendering

namespace Scripting

/-!
# Scanning what was scanned

Tokens that the scanner finds in a script are found again in the script that consists of them.
The scanner looks at the kind of the token before and at the count of braces; both are as they were,
and so an interpolation ends where it is written to end.
-/

namespace Scanner

/-- What is written after the tokens of a sequence: the brace that ends an interpolation. -/
def closer : Option Nat → List Char
  | none => []
  | some _ => ['}']

theorem closer_map (change : Nat → Nat) (braces : Option Nat) :
    closer (braces.map change) = closer braces := by
  cases braces <;> rfl

/-- Tokens are found again where they are written, after tokens that end an operand or do not as
some tokens before did. -/
def FoundAll (braces : Option Nat) (before tokens : List Token) : Prop :=
  ∀ (others) {again tail},
    others.head?.any Token.endsOperand = before.head?.any Token.endsOperand →
    (braces = none → tail = []) →
    again.ahead = Token.writtenAll tokens ++ (closer braces ++ tail) →
    ∃ found final,
      ScansTokens braces others again (.ok (others.reverse ++ found, final)) ∧
        Token.bareAll found = Token.bareAll tokens ∧
        final.ahead = tail

/-- A token is found again where it is written, and what follows it decides about the outcome. -/
def Found (braces nextBraces : Option Nat) (before : List Token) (token : Token) : Prop :=
  ∀ ⦃others again tail⦄,
    others.head?.any Token.endsOperand = before.head?.any Token.endsOperand →
    EndsToken tail →
    again.ahead = token.written ++ tail →
    ∃ found after,
      found.bare = token.bare ∧
        after.ahead = tail ∧
        ∀ {outcome}, ScansTokens nextBraces (found :: others) after outcome →
          ScansTokens braces others again outcome

/-- How a quoted text so far is written. -/
def writtenSoFar (parts : Option (List Part)) (text : List Char) : List Char :=
  Part.writtenAll (parts.getD []).reverse ++ text.reverse.flatMap writtenChar

/-- The rest of a quoted text is found again where it is written. -/
def FoundText (parts : Option (List Part)) (text : List Char) (token : Token) : Prop :=
  ∃ body,
    token.written = '"' :: (writtenSoFar parts text ++ body) ∧
      ∀ (opened others) {again tail},
        others.map Part.bareAll = parts.map Part.bareAll →
        again.ahead = body ++ tail →
        ∃ found after,
          ScansText '"' opened others text again (.ok (found, after)) ∧
            found.bare = token.bare ∧
            after.ahead = tail

section Sequences

variable {braces : Option Nat} {before : List Token}

theorem endsToken_cons
    {next : Char}
    (ends : next ∈ tokenEnders)
    (rest : List Char) :
    EndsToken (next :: rest) := by
  rintro other ⟨⟩
  exact ends

theorem endsToken_closer
    {tail : List Char}
    (ended : braces = none → tail = []) :
    EndsToken (closer braces ++ tail) := by
  cases braces with
  | none =>
      rw [ended rfl]
      exact nofun
  | some depth =>
      exact endsToken_cons (by decide) tail

/-- After the last token of a script there is nothing to be found. -/
theorem foundAll_nil_of_none : FoundAll none before [] := by
  intro others again tail _ isLast shape
  have atEnd : again.ahead = [] := by rw [shape, isLast rfl]; rfl
  refine ⟨[], again, ?_, rfl, by rw [atEnd, isLast rfl]⟩
  rw [List.append_nil]
  exact .ended atEnd

/-- After the last token of an interpolation its closing brace is found. -/
theorem foundAll_nil_of_close : FoundAll (some 0) before [] := by
  intro others again tail _ _ shape
  have closes : again.ahead = '}' :: tail := shape
  refine ⟨[], again.skip, ?_, rfl, by simp [closes]⟩
  rw [List.append_nil]
  exact .close closes rfl

/-- A sequence is found again if its first token is, and then the others. -/
theorem Found.foundAll
    {nextBraces : Option Nat}
    {token : Token}
    {tokens : List Token}
    (first : Found braces nextBraces before token)
    (keeps : ∃ change, nextBraces = braces.map change)
    (rest : FoundAll nextBraces (token :: before) tokens) :
    FoundAll braces before (token :: tokens) := by
  obtain ⟨change, rfl⟩ := keeps
  intro others again tail sameOperand isLast shape
  -- What happens once the first token is found and nothing stands before the others.
  have continues : ∀ {found after},
      found.bare = token.bare →
      after.ahead = Token.writtenAll tokens ++ (closer braces ++ tail) →
      ∃ all final,
        ScansTokens (braces.map change) (found :: others) after
            (.ok (others.reverse ++ all, final)) ∧
          Token.bareAll all = Token.bareAll (token :: tokens) ∧
          final.ahead = tail := by
    intro found after same shapeRest
    have sameNext : (found :: others).head?.any Token.endsOperand =
        (token :: before).head?.any Token.endsOperand := by
      simp [Token.endsOperand_of_bare_eq same]
    rw [← closer_map change] at shapeRest
    obtain ⟨more, final, run, sameRest, left⟩ :=
      rest _ sameNext (fun none => isLast (Option.map_eq_none_iff.mp none)) shapeRest
    refine ⟨found :: more, final, ?_, ?_, left⟩
    · rwa [List.reverse_cons, List.append_assoc] at run
    · rw [Token.bareAll, Token.bareAll, same, sameRest]
  cases tokens with
  | nil =>
      have shapeFirst : again.ahead = token.written ++ (closer braces ++ tail) := by
        rw [shape, Token.writtenAll, Token.writtenEach, Token.writtenEach,
          List.intercalate_singleton]
      obtain ⟨found, after, same, left, scans⟩ :=
        first sameOperand (endsToken_closer isLast) shapeFirst
      obtain ⟨all, final, run, sameAll, leftAll⟩ := continues same left
      exact ⟨all, final, scans run, sameAll, leftAll⟩
  | cons next tokens =>
      have shapeFirst : again.ahead = token.written ++
          ' ' :: (Token.writtenAll (next :: tokens) ++ (closer braces ++ tail)) := by
        rw [shape]
        simp [Token.writtenAll, Token.writtenEach]
      obtain ⟨found, after, same, left, scans⟩ :=
        first sameOperand (endsToken_cons (by decide) _) shapeFirst
      have leftInside : after.skip.ahead =
          Token.writtenAll (next :: tokens) ++ (closer braces ++ tail) := by
        rw [Source.ahead_skip, left, List.tail_cons]
      obtain ⟨all, final, run, sameAll, leftAll⟩ := continues same leftInside
      -- The blank between the tokens is stepped over.
      exact ⟨all, final, scans (.next left rfl run), sameAll, leftAll⟩

end Sequences

/-- A word, a number or a mark is found again. -/
theorem found_of_step
    {braces nextBraces : Option Nat}
    {tokens : List Token}
    {token : Token}
    {source after : Source}
    {character : Char}
    {rest : List Char}
    (shape : source.ahead = character :: rest)
    (stepped : step braces tokens source character rest = .next nextBraces (some token) after) :
    Found braces nextBraces tokens token := by
  intro others again tail sameOperand ends shapeAgain
  obtain ⟨more, found, final, shapeMore, steppedAgain, same, left⟩ :=
    step_written shape stepped sameOperand ends shapeAgain
  exact ⟨found, final, same, left, .next shapeMore steppedAgain⟩

/-- A quoted text is found again. -/
theorem FoundText.found
    {token : Token}
    (text : FoundText none [] token)
    (braces : Option Nat)
    (tokens : List Token) :
    Found braces braces tokens token := by
  intro others again tail _ _ shape
  obtain ⟨body, written, scans⟩ := text
  have shapeQuote : again.ahead = '"' :: (body ++ tail) := by
    rw [shape, written]
    rfl
  have shapeInside : again.skip.ahead = body ++ tail := by simp [shapeQuote]
  obtain ⟨found, after, quoted, same, left⟩ := scans again.position none rfl shapeInside
  exact ⟨found, after, same, left, .text shapeQuote rfl quoted⟩

section Texts

variable {parts : Option (List Part)} {text : List Char} {token : Token}

theorem writtenAll_flush (text : List Char) (parts : List Part) :
    Part.writtenAll (flush text parts).reverse = writtenSoFar (some parts) text := by
  unfold flush writtenSoFar
  split
  · next isEmpty =>
      simp [List.isEmpty_iff.mp isEmpty]
  · simp [Part.writtenAll_append, Part.writtenAll]

theorem bareAll_flush (text : List Char) (parts : List Part) :
    Part.bareAll (flush text parts) = flush text (Part.bareAll parts) := by
  unfold flush
  split
  · rfl
  · rfl

/-- A string constant is found again at its closing quote. -/
theorem foundText_of_literal
    (text : List Char)
    (opened : Position) :
    FoundText none text
      (.literal (String.ofList text.reverse) (.string (String.ofList text.reverse)) opened) := by
  refine ⟨['"'], by simp [Token.written, writtenString, writtenSoFar, Part.writtenAll], ?_⟩
  intro openedAgain others again tail sameParts shape
  obtain rfl : others = none := Option.map_eq_none_iff.mp sameParts
  have closes : again.next? = some '"' := by simp [Source.next?, shape]
  exact ⟨_, again.skip, .constant closes, rfl, by simp [shape]⟩

/-- A template is found again at its closing quote. -/
theorem foundText_of_template
    (text : List Char)
    (parts : List Part)
    (opened : Position) :
    FoundText (some parts) text (.template (flush text parts).reverse opened) := by
  refine ⟨['"'], by rw [Token.written, writtenAll_flush], ?_⟩
  intro openedAgain others again tail sameParts shape
  obtain ⟨others, rfl, same⟩ := Option.map_eq_some_iff.mp sameParts
  have closes : again.next? = some '"' := by simp [Source.next?, shape]
  refine ⟨_, again.skip, .template closes, ?_, by simp [shape]⟩
  simp only [Token.bare, Part.bareAll_reverse, bareAll_flush, same]

/-- A quoted text is found again with one character before the rest. -/
theorem FoundText.character
    {character : Char}
    (rest : FoundText parts (character :: text) token) :
    FoundText parts text token := by
  obtain ⟨body, written, scans⟩ := rest
  refine ⟨writtenChar character ++ body, by simp [written, writtenSoFar], ?_⟩
  intro opened others again tail sameParts shape
  rw [List.append_assoc] at shape
  obtain ⟨after, left, reads⟩ := (spells_writtenChar character).scansText shape
  obtain ⟨found, final, run, same, leftRest⟩ := scans opened others sameParts left
  exact ⟨found, final, reads run, same, leftRest⟩

/-- A quoted text is found again with one interpolation before the rest. -/
theorem FoundText.interpolation
    {tokens : List Token}
    (inside : FoundAll (some 0) [] tokens)
    (rest : FoundText (some (.interpolation tokens :: flush text (parts.getD []))) [] token) :
    FoundText parts text token := by
  obtain ⟨body, written, scans⟩ := rest
  refine ⟨'{' :: (Token.writtenAll tokens ++ '}' :: body), ?_, ?_⟩
  · rw [written]
    simp [writtenSoFar, Part.writtenAll_append, writtenAll_flush, Part.writtenAll,
      Token.writtenAll]
  · intro opened others again tail sameParts shape
    have opens : again.next? = some '{' := by simp [Source.next?, shape]
    have shapeInside : again.skip.ahead =
        Token.writtenAll tokens ++ (closer (some 0) ++ (body ++ tail)) := by
      simp [shape, closer]
    obtain ⟨found, after, inner, same, left⟩ := inside [] rfl (by simp) shapeInside
    have sameBefore : Part.bareAll (others.getD []) = Part.bareAll (parts.getD []) := by
      cases others <;> cases parts <;> simp_all
    have sameNext : (some (.interpolation found :: flush text (others.getD []))).map Part.bareAll =
        (some (.interpolation tokens :: flush text (parts.getD []))).map Part.bareAll := by
      simp only [Option.map_some, Part.bareAll, bareAll_flush, same, sameBefore]
    obtain ⟨token, final, run, sameToken, leftRest⟩ := scans opened _ sameNext left
    exact ⟨token, final, .interpolation opens (by decide) inner run, sameToken, leftRest⟩

end Texts

mutual

/-- Tokens that are scanned are found again. -/
theorem ScansTokens.foundAll
    {braces : Option Nat}
    {tokens result : List Token}
    {source final : Source}
    {outcome : Except LexicalError (List Token × Source)} :
    ScansTokens braces tokens source outcome → outcome = .ok (result, final) →
      ∃ more, result = tokens.reverse ++ more ∧ FoundAll braces tokens more
  | .ended _, succeeds => by
      cases braces with
      | none =>
          cases succeeds
          exact ⟨[], by simp, foundAll_nil_of_none⟩
      | some depth =>
          cases succeeds
  | @ScansTokens.next _ _ _ none _ _ _ _ _ _ stepped others, succeeds =>
      braces_of_step stepped ▸ others.foundAll succeeds
  | @ScansTokens.next _ _ _ (some token) _ _ _ _ _ shape stepped others, succeeds => by
      have moves := step_movesOn braces tokens shape
      rw [stepped] at moves
      obtain ⟨more, rfl, rest⟩ := others.foundAll succeeds
      exact ⟨token :: more, by simp, (found_of_step shape stepped).foundAll moves.2 rest⟩
  | @ScansTokens.text _ _ token _ _ _ _ _ _ _ _ quoted others, succeeds => by
      obtain ⟨more, rfl, rest⟩ := others.foundAll succeeds
      have keeps : ∃ change, braces = braces.map change := ⟨id, by simp⟩
      exact ⟨token :: more, by simp,
        ((quoted.foundText rfl).found braces tokens).foundAll keeps rest⟩
  | .faultyText _ _ _, succeeds => by
      cases succeeds
  | .close shape stepped, succeeds => by
      have moves := step_movesOn braces tokens shape
      rw [stepped] at moves
      cases succeeds
      obtain rfl : braces = some 0 := moves
      exact ⟨[], by simp, foundAll_nil_of_close⟩
  | .refuse _ _, succeeds => by
      cases succeeds

/-- So is a quoted text. -/
theorem ScansText.foundText
    {quote : Char}
    {opened : Position}
    {parts : Option (List Part)}
    {text : List Char}
    {source final : Source}
    {token : Token}
    {outcome : Except LexicalError (Token × Source)} :
    ScansText quote opened parts text source outcome → outcome = .ok (token, final) →
      FoundText parts text token
  | .ended _, succeeds => by
      cases succeeds
  | .constant _, succeeds => by
      cases succeeds
      exact foundText_of_literal text opened
  | .template _, succeeds => by
      cases succeeds
      exact foundText_of_template text _ opened
  | .escape _ _ _ _ others, succeeds => (others.foundText succeeds).character
  | .openEscape _ _ _, succeeds => by
      cases succeeds
  | .unknownEscape _ _ _ _, succeeds => by
      cases succeeds
  | .interpolation _ _ inner others, succeeds => by
      obtain ⟨more, same, inside⟩ := inner.foundAll rfl
      exact .interpolation (same ▸ inside) (others.foundText succeeds)
  | .faultyInterpolation _ _ _, succeeds => by
      cases succeeds
  | .plain _ _ others, succeeds => (others.foundText succeeds).character

end

end Scanner

/-- Tokens that are scanned are scanned again, up to their positions, from the script that consists
of them. -/
theorem scan_script
    {file text : String}
    {tokens : List Token}
    (scanned : scan file text = .ok tokens)
    (name : String) :
    ∃ again,
      scan name (Token.script tokens) = .ok again ∧
        again.map Token.bare = tokens.map Token.bare := by
  obtain ⟨last, run⟩ := Scanner.scansTokens_of_scanChars scanned
  obtain ⟨more, same, found⟩ := run.foundAll rfl
  obtain rfl : tokens = more := same
  have shape : (Source.ofText name (Token.writtenAll tokens)).ahead =
      Token.writtenAll tokens ++ (Scanner.closer none ++ []) := by
    simp [Source.ofText, Scanner.closer]
  obtain ⟨again, final, runAgain, sameBare, -⟩ := found [] rfl (fun _ => rfl) shape
  refine ⟨again, ?_, ?_⟩
  · rw [scan, Token.script, String.toList_ofList, runAgain.scanChars_eq]
    rfl
  · rw [← Token.bareAll_eq_map, ← Token.bareAll_eq_map, sameBare]

/-- A script with signs, points, escapes, a comment, and a template inside a template. -/
def crowdedScript : String :=
  "var* x=-1-1. ...'it\\'s \"'+\"a\\\"\x7b f(\x7b\"\x7b-2L\x7d\"\x7d) \x7d\\n\x7b\x7d\" // eif\n" ++
    "eif 3f...4"

/-- The crowded script with single blanks. -/
def spacedScript : String :=
  "var* x = -1 - 1. ... \"it's \\\"\" + " ++
    "\"a\\\"\x7bf ( \x7b \"\x7b-2L\x7d\" \x7d )\x7d\\n\x7b\x7d\" eif 3f ... 4"

theorem script_crowded :
    ∃ tokens again,
      scan "crowded" crowdedScript = .ok tokens ∧
        Token.script tokens = spacedScript ∧
        scan "spaced" spacedScript = .ok again ∧
        again.map Token.bare = tokens.map Token.bare := by
  have rendered :
      (scan "crowded" crowdedScript).toOption.map Token.script = some spacedScript := by
    decide +kernel
  cases scanned : scan "crowded" crowdedScript with
  | error error =>
      rw [scanned] at rendered
      cases rendered
  | ok tokens =>
      rw [scanned] at rendered
      have spaced : Token.script tokens = spacedScript := Option.some.inj rendered
      obtain ⟨again, scannedAgain, same⟩ := scan_script scanned "spaced"
      exact ⟨tokens, again, rfl, spaced, spaced ▸ scannedAgain, same⟩

end Scripting
