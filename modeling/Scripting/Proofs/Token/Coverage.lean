import Scripting.Proofs.Token.Lexemes
import Scripting.Proofs.Token.RoundTrip

namespace Scripting

/-!
# The scanner takes every character

From its first character to its last a script is taken step by step, and a quoted text or an
interpolation from its first character to the quote or the brace that ends it.  So the tokens of a
script partition its text, and their positions count all that is before them.
-/

namespace Scanner

/-- A token that leaves some braces open leaves the same end to be found. -/
theorem Counts.closer
    {token : Token}
    {braces nextBraces : Option Nat}
    (counts : Counts token braces nextBraces) :
    Scanner.closer nextBraces = Scanner.closer braces := by
  cases counts <;> rfl

/-- What is scanned up to the end of the script or of an interpolation: all characters up to there
are partitioned, and the braces among the tokens are closed. -/
structure CutsUp (file : String) (before : List Char) (braces : Option Nat) (source : Source)
    (tokens : List Token) (text : List Char) (final : Source) : Prop where
  taken : source.Takes (text ++ closer braces) final
  ended : braces = none → final.ahead = []
  partitions : Partitions file before tokens text (closer braces ++ final.ahead)
  closed : ∀ depth, braces = some depth → Token.bracesAfter depth tokens = some 0

namespace CutsUp

variable {file : String} {before text : List Char} {braces : Option Nat} {source final : Source}
  {tokens : List Token}

/-- What is cut up lies ahead, with the closing brace of an interpolation after it. -/
theorem ahead
    (cuts : CutsUp file before braces source tokens text final) :
    source.ahead = text ++ (closer braces ++ final.ahead) := by
  rw [cuts.taken.ahead, List.append_assoc]

/-- At the end of a script nothing is left to be cut. -/
theorem atEnd
    (ended : source.ahead = []) :
    CutsUp file before none source [] [] source :=
  ⟨source.takes_nil, fun _ => ended, .nil .nil, nofun⟩

/-- At its closing brace nothing of an interpolation is left to be cut. -/
theorem close
    {rest : List Char}
    (shape : source.ahead = '}' :: rest) :
    CutsUp file before (some 0) source [] [] source.skip := by
  refine ⟨Source.takes_skip shape, nofun, .nil .nil, ?_⟩
  rintro depth ⟨⟩
  rfl

/-- A spacer before what is cut up belongs to the gap before the next token. -/
theorem spacer
    {spacer : List Char}
    {after : Source}
    (taken : source.Takes spacer after)
    (isSpacer : Spacer spacer after.ahead)
    (rest : CutsUp file (before ++ spacer) braces after tokens text final) :
    CutsUp file before braces source tokens (spacer ++ text) final := by
  refine ⟨?_, rest.ended, ?_, rest.closed⟩
  · rw [List.append_assoc]
    exact taken.trans rest.taken
  · rw [rest.ahead] at isSpacer
    exact rest.partitions.spacer isSpacer

/-- A token before what is cut up is the next one, with the spelling that it takes. -/
theorem token
    {token : Token}
    {spelled : List Char}
    {nextBraces : Option Nat}
    {after : Source}
    (taken : source.Takes spelled after)
    (spells : Spells file before token spelled after.ahead)
    (counts : Counts token braces nextBraces)
    (rest : CutsUp file (before ++ spelled) nextBraces after tokens text final) :
    CutsUp file before braces source (token :: tokens) (spelled ++ text) final := by
  have sameCloser := counts.closer
  refine ⟨?_, ?_, ?_, ?_⟩
  · rw [List.append_assoc, ← sameCloser]
    exact taken.trans rest.taken
  · rintro rfl
    cases counts
    exact rest.ended rfl
  · rw [rest.ahead] at spells
    rw [← sameCloser]
    exact rest.partitions.token spells
  · rintro depth rfl
    cases counts with
    | @inside depth next past =>
        rw [Token.bracesAfter, List.foldlM_cons, past]
        exact rest.closed next rfl

end CutsUp

/-- What is scanned up to the end of a quoted text: all characters up to there are its content and
the quote. -/
structure CutsText (file : String) (quote : Char) (before : List Char) (source : Source)
    (characters : List Char) (more : List Part) (content : List Char) (final : Source) : Prop where
  taken : source.Takes (content ++ [quote]) final
  quoted : SpellsContent file quote before characters more content (quote :: final.ahead)

namespace CutsText

variable {file : String} {quote : Char} {before characters content : List Char}
  {source final : Source} {more : List Part}

/-- The rest of a text lies ahead, with its closing quote after it. -/
theorem ahead
    (cuts : CutsText file quote before source characters more content final) :
    source.ahead = content ++ (quote :: final.ahead) := by
  rw [cuts.taken.ahead, List.append_assoc]
  rfl

/-- At its closing quote nothing of a text is left to be cut. -/
theorem close
    {rest : List Char}
    (shape : source.ahead = quote :: rest) :
    CutsText file quote before source [] [] [] source.skip :=
  ⟨Source.takes_skip shape, .nil⟩

/-- A plain character spells itself. -/
theorem plain
    {character : Char}
    {rest : List Char}
    (shape : source.ahead = character :: rest)
    (isPlain : character ≠ quote ∧ character ≠ '\\' ∧ character ≠ '{')
    (inside :
      CutsText file quote (before ++ [character]) source.skip characters more content final) :
    CutsText file quote before source (character :: characters) more (character :: content)
      final :=
  ⟨(Source.takes_skip shape).trans inside.taken, .plain isPlain inside.quoted⟩

/-- An escape spells the character that it stands for. -/
theorem escape
    {letter character : Char}
    {after : Source}
    (taken : source.Takes ['\\', letter] after)
    (means : unescape? letter = some character)
    (inside :
      CutsText file quote (before ++ ['\\', letter]) after characters more content final) :
    CutsText file quote before source (character :: characters) more ('\\' :: letter :: content)
      final :=
  ⟨taken.trans inside.taken, .escape means inside.quoted⟩

/-- An interpolation ends a fragment, and is cut up as a script is. -/
theorem interpolation
    {rest text : List Char}
    {tokens : List Token}
    {after : Source}
    (shape : source.ahead = '{' :: rest)
    (cuts : CutsUp file (before ++ ['{']) (some 0) source.skip tokens text after)
    (inside :
      CutsText file quote (before ++ ('{' :: (text ++ ['}']))) after characters more content
        final) :
    CutsText file quote before source [] (.interpolation tokens :: (fragments characters ++ more))
      ('{' :: (text ++ '}' :: content)) final := by
  have opened : source.Takes ('{' :: (text ++ ['}'])) after :=
    (Source.takes_skip shape).trans cuts.taken
  have taken := opened.trans inside.taken
  refine ⟨by simpa using taken, ?_⟩
  have partitions := cuts.partitions
  have quoted := inside.quoted
  rw [inside.ahead] at partitions
  have regrouped : before ++ ('{' :: (text ++ ['}'])) = before ++ ['{'] ++ text ++ ['}'] := by
    simp
  rw [regrouped] at quoted
  exact .interpolation partitions (cuts.closed 0 rfl) quoted

end CutsText

/-- The token that a quoted text is, by the parts so far, the characters after them, and the parts
from the next interpolation on. -/
def quotedToken (opened : Position) (parts : Option (List Part)) (characters : List Char)
    (more : List Part) : Token :=
  match parts, more with
  | none, [] => .literal (String.ofList characters) (.string (String.ofList characters)) opened
  | parts, more => .template ((parts.getD []).reverse ++ (fragments characters ++ more)) opened

/-- What was read since the last interpolation is a fragment, unless it is empty. -/
theorem reverse_flush (text : List Char) (parts : List Part) :
    (flush text parts).reverse = parts.reverse ++ fragments text.reverse := by
  unfold flush fragments
  rw [List.isEmpty_reverse]
  split
  · rw [List.append_nil]
  · rw [List.reverse_cons]

/-- A quoted text spells its token. -/
theorem CutsText.spells
    {file : String}
    {quote : Char}
    {before characters content : List Char}
    {source final : Source}
    {more : List Part}
    {opened : Position}
    (cuts : CutsText file quote (before ++ [quote]) source characters more content final)
    (quotes : quote = '"' ∨ quote = '\'')
    (stands : opened.At file before) :
    Spells file before (quotedToken opened none characters more) (quote :: (content ++ [quote]))
      final.ahead := by
  cases more with
  | nil =>
      exact .constant stands quotes cuts.quoted
  | cons part others =>
      exact .template stands quotes (List.cons_ne_nil part others) cuts.quoted

/-- A quoted text opens and closes no braces around it. -/
theorem bracesPast_quotedToken
    (opened : Position)
    (characters : List Char)
    (more : List Part)
    (depth : Nat) :
    (quotedToken opened none characters more).bracesPast depth = some depth := by
  cases more <;> rfl

/-- All is cut up after a first token if it is cut up from there on. -/
theorem exists_cutsUp_token
    {file : String}
    {before spelled : List Char}
    {braces nextBraces : Option Nat}
    {token : Token}
    {tokens result : List Token}
    {source after final : Source}
    (taken : source.Takes spelled after)
    (spells : Spells file before token spelled after.ahead)
    (counts : Counts token braces nextBraces)
    (rest :
      ∃ more text, result = (token :: tokens).reverse ++ more ∧
        CutsUp file (before ++ spelled) nextBraces after more text final) :
    ∃ more text,
      result = tokens.reverse ++ more ∧ CutsUp file before braces source more text final := by
  obtain ⟨more, text, rfl, cuts⟩ := rest
  exact ⟨token :: more, spelled ++ text, by simp, .token taken spells counts cuts⟩

mutual

/-- All that is scanned is cut up. -/
theorem ScansTokens.cutsUp
    {file : String}
    {before : List Char}
    {braces : Option Nat}
    {tokens result : List Token}
    {source final : Source}
    {outcome : Except LexicalError (List Token × Source)} :
    ScansTokens braces tokens source outcome → outcome = .ok (result, final) →
      source.Ready file before →
        ∃ more text,
          result = tokens.reverse ++ more ∧ CutsUp file before braces source more text final
  | .ended atEnd, succeeds, _ => by
      cases braces with
      | none =>
          cases succeeds
          exact ⟨[], [], by simp, .atEnd atEnd⟩
      | some depth =>
          cases succeeds
  | @ScansTokens.next _ nextBraces _ none _ _ _ _ _ shape stepped others, succeeds, ready => by
      have sameBraces := braces_of_step stepped
      obtain ⟨spacer, taken, isSpacer⟩ := spacer_of_step shape stepped
      obtain ⟨more, text, same, cuts⟩ := others.cutsUp succeeds (ready.move taken)
      exact ⟨more, spacer ++ text, same, .spacer taken isSpacer (sameBraces ▸ cuts)⟩
  | @ScansTokens.next _ _ _ (some token) _ _ _ _ _ shape stepped others, succeeds, ready => by
      have stands := ready.position shape
      obtain ⟨text, taken, spelled, samePosition⟩ := lexeme_of_step shape stepped
      rw [← samePosition] at stands
      exact exists_cutsUp_token taken (.lexeme stands spelled) (counts_of_step shape stepped)
        (others.cutsUp succeeds (ready.move taken))
  | .text shape stepped quoted others, succeeds, ready => by
      have stands := ready.position shape
      obtain ⟨isQuote, quotes⟩ := step_eq_text stepped
      rw [← isQuote] at shape
      have opens := Source.takes_skip shape
      obtain ⟨characters, more, content, same, cuts⟩ := quoted.cutsText rfl (ready.move opens)
      have taken := opens.trans cuts.taken
      have spells := cuts.spells quotes stands
      have noBrace := bracesPast_quotedToken source.position characters more
      rw [List.reverse_nil, List.nil_append] at same
      rw [← same] at spells noBrace
      exact exists_cutsUp_token taken spells (counts_of_no_brace noBrace braces)
        (others.cutsUp succeeds (ready.move taken))
  | .faultyText _ _ _, succeeds, _ => by
      cases succeeds
  | .close shape stepped, succeeds, _ => by
      obtain ⟨rfl, rfl⟩ := step_eq_close stepped
      cases succeeds
      exact ⟨[], [], by simp, .close shape⟩
  | .refuse _ _, succeeds, _ => by
      cases succeeds

/-- So is a quoted text, after the characters and the parts of it that are there already. -/
theorem ScansText.cutsText
    {file : String}
    {before : List Char}
    {quote : Char}
    {opened : Position}
    {parts : Option (List Part)}
    {text : List Char}
    {source final : Source}
    {token : Token}
    {outcome : Except LexicalError (Token × Source)} :
    ScansText quote opened parts text source outcome → outcome = .ok (token, final) →
      source.Ready file before →
        ∃ characters more content,
          token = quotedToken opened parts (text.reverse ++ characters) more ∧
            CutsText file quote before source characters more content final
  | .ended _, succeeds, _ => by
      cases succeeds
  | .constant closes, succeeds, _ => by
      obtain ⟨rest, shape⟩ := List.head?_eq_some_iff.mp closes
      cases succeeds
      exact ⟨[], [], [], by rw [List.append_nil]; rfl, .close shape⟩
  | .template closes, succeeds, _ => by
      obtain ⟨rest, shape⟩ := List.head?_eq_some_iff.mp closes
      cases succeeds
      exact ⟨[], [], [], by simp [quotedToken, reverse_flush], .close shape⟩
  | .escape escapes _ follows means others, succeeds, ready => by
      obtain ⟨rest, shape⟩ := List.head?_eq_some_iff.mp escapes
      obtain ⟨inside, shapeInside⟩ := List.head?_eq_some_iff.mp follows
      have taken := (Source.takes_skip shape).trans (Source.takes_skip shapeInside)
      obtain ⟨characters, more, content, rfl, cuts⟩ := others.cutsText succeeds (ready.move taken)
      exact ⟨_ :: characters, more, _, by simp, .escape taken means cuts⟩
  | .openEscape _ _ _, succeeds, _ => by
      cases succeeds
  | .unknownEscape _ _ _ _, succeeds, _ => by
      cases succeeds
  | .interpolation opens _ inner others, succeeds, ready => by
      obtain ⟨rest, shape⟩ := List.head?_eq_some_iff.mp opens
      have opened := Source.takes_skip shape
      obtain ⟨found, inside, same, cuts⟩ := inner.cutsUp rfl (ready.move opened)
      rw [List.reverse_nil, List.nil_append] at same
      rw [← same] at cuts
      have taken := opened.trans cuts.taken
      obtain ⟨characters, more, content, rfl, cutsRest⟩ :=
        others.cutsText succeeds (ready.move taken)
      refine ⟨[], _, _, ?_, .interpolation shape cuts cutsRest⟩
      simp [quotedToken, reverse_flush]
  | .faultyInterpolation _ _ _, succeeds, _ => by
      cases succeeds
  | .plain comes isPlain others, succeeds, ready => by
      obtain ⟨rest, shape⟩ := List.head?_eq_some_iff.mp comes
      obtain ⟨characters, more, content, rfl, cuts⟩ :=
        others.cutsText succeeds (ready.move (Source.takes_skip shape))
      exact ⟨_ :: characters, more, _, by simp, .plain shape isPlain cuts⟩

end

/-- The tokens of a script partition its characters. -/
theorem partitions_of_scan
    {file text : String}
    {tokens : List Token}
    (short : text.toList.length < UInt32.size)
    (scanned : scan file text = .ok tokens) :
    Partitions file [] tokens text.toList [] := by
  obtain ⟨final, run⟩ := scansTokens_of_scanChars scanned
  have ready : (Source.ofText file text.toList).Ready file [] :=
    ⟨Source.tracks_ofText file text.toList, by simpa [Source.ofText] using short⟩
  obtain ⟨more, taken, same, cuts⟩ := run.cutsUp rfl ready
  obtain rfl : tokens = more := same
  have whole := cuts.ahead
  have partitions := cuts.partitions
  rw [cuts.ended rfl] at whole partitions
  obtain rfl : text.toList = taken := by simpa [Source.ofText, closer] using whole
  exact partitions

end Scanner

/-- The tokens of a script that is accepted partition its text, with gaps of blanks and comments
between them.  With the tokens of interpolations they stand where their positions say, one after
another. -/
theorem tokens_partition_the_script
    {file text : String}
    {tokens : List Token}
    (short : text.toList.length < UInt32.size)
    (scanned : scan file text = .ok tokens) :
    Scanner.Partitions file [] tokens text.toList [] ∧
      Scanner.Within file [] text.toList (Token.flattenedAll tokens) := by
  have partitions := Scanner.partitions_of_scan short scanned
  exact ⟨partitions, partitions.within⟩

/-- A script with a template over two lines, whose interpolation holds braces and a comment. -/
def linedScript : String :=
  "var* x = 'a\x7b f(\x7b\x7d) // \x7d\n\x7d b'\n + -1 // end"

/-- The script of three lines is cut up, and its tokens stand where the lines say. -/
theorem tokens_partition_the_lined_script :
    ∃ tokens,
      scan "lined" linedScript = .ok tokens ∧
        linedScript.toList.length < UInt32.size ∧
        (Token.flattenedAll tokens).map
            (fun token => (token.position.line, token.position.column)) =
          [(1, 1), (1, 6), (1, 8), (1, 10), (1, 14), (1, 15), (1, 16), (1, 17), (1, 18), (3, 2),
            (3, 4)] ∧
        Scanner.Partitions "lined" [] tokens linedScript.toList [] ∧
        Scanner.Within "lined" [] linedScript.toList (Token.flattenedAll tokens) := by
  have places :
      (scan "lined" linedScript).toOption.map (fun tokens =>
          (Token.flattenedAll tokens).map
            (fun token => (token.position.line, token.position.column))) =
        some [(1, 1), (1, 6), (1, 8), (1, 10), (1, 14), (1, 15), (1, 16), (1, 17), (1, 18), (3, 2),
          (3, 4)] := by
    decide +kernel
  have short : linedScript.toList.length < UInt32.size := by decide +kernel
  cases scanned : scan "lined" linedScript with
  | error error =>
      rw [scanned] at places
      cases places
  | ok tokens =>
      rw [scanned] at places
      exact ⟨tokens, rfl, short, Option.some.inj places, tokens_partition_the_script short scanned⟩

end Scripting
