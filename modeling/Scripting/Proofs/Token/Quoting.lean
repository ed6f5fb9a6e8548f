import Scripting.Proofs.Token.RoundTrip
import Scripting.Tree.Text

namespace Scripting

/-!
# Quoted constants as source

The text of a string constant is the constant in quotes.  The quotes are those of messages, which
know other escapes than a script does and leave a brace alone; so a script that consists of that
text has the constant for its only token exactly if all characters of the constant are read back.
-/

namespace Scanner

/-- Whether a character in quotes is read back as itself.  An open brace starts an interpolation,
and of the escapes for what is not printable a script knows three. -/
def readsBack (character : Char) : Bool :=
  character ≠ '{' &&
    (Text.isPrintable character || character = '\n' || character = '\t' || character = '\r')

section Characters

variable {character : Char}

/-- A character that is read back is quoted as it can be spelled in a script. -/
theorem spells_escape (reads : readsBack character = true) :
    SpellsCharacter (Text.escape '"' character) character := by
  simp only [readsBack, Bool.and_eq_true, Bool.or_eq_true, decide_eq_true_eq] at reads
  obtain ⟨notBrace, ((isPrintable | rfl) | rfl) | rfl⟩ := reads
  · by_cases isQuote : character = '"'
    · exact .inr ⟨'"', by simp [Text.escape, isQuote], by simp [isQuote, unescape?]⟩
    · by_cases isBackslash : character = '\\'
      · exact .inr ⟨'\\', by simp [Text.escape, isBackslash], by simp [isBackslash, unescape?]⟩
      · exact .inl ⟨by simp [Text.escape, isQuote, isBackslash, isPrintable], isQuote, isBackslash,
          notBrace⟩
  · exact .inr ⟨'n', rfl, rfl⟩
  · exact .inr ⟨'t', rfl, rfl⟩
  · exact .inr ⟨'r', rfl, rfl⟩

/-- A character that is not read back is quoted as the start of an interpolation, or with an escape
that a script does not know. -/
theorem escape_of_not_readsBack (fails : readsBack character = false) :
    Text.escape '"' character = ['{'] ∨
      ∃ letter more,
        Text.escape '"' character = '\\' :: letter :: more ∧ unescape? letter = none := by
  by_cases isBrace : character = '{'
  · exact .inl (by subst isBrace; rfl)
  · right
    simp only [readsBack, isBrace, ne_eq, not_false_eq_true, decide_true, Bool.true_and,
      Bool.or_eq_false_iff, decide_eq_false_iff_not] at fails
    obtain ⟨⟨⟨notPrintable, notLineEnd⟩, notTab⟩, notReturn⟩ := fails
    have notQuoted : (decide (character = '"') || decide (character = '\\')) = false := by
      rw [Bool.or_eq_false_iff, decide_eq_false_iff_not, decide_eq_false_iff_not]
      constructor <;> rintro rfl <;> cases notPrintable
    have ofCode : ∀ known : Char, character.toNat = known.toNat → character = known := by
      intro known same
      exact Char.ext (UInt32.toNat_inj.mp same)
    rw [Text.escape, if_neg (by simp [notQuoted]), if_neg (by simp [notPrintable])]
    split
    · exact ⟨'a', [], rfl, rfl⟩
    · exact ⟨'b', [], rfl, rfl⟩
    · next code => exact (notTab (ofCode '\t' code)).elim
    · next code => exact (notLineEnd (ofCode '\n' code)).elim
    · exact ⟨'v', [], rfl, rfl⟩
    · exact ⟨'f', [], rfl, rfl⟩
    · next code => exact (notReturn (ofCode '\r' code)).elim
    · split
      · exact ⟨'x', _, rfl, rfl⟩
      · split
        · exact ⟨'u', _, rfl, rfl⟩
        · exact ⟨'U', _, rfl, rfl⟩

end Characters

/-- A quoted text with an interpolation is a template. -/
theorem ScansText.kind_eq_template
    {quote : Char}
    {opened : Position}
    {parts : Option (List Part)}
    {text : List Char}
    {source final : Source}
    {token : Token}
    {outcome : Except LexicalError (Token × Source)} :
    ScansText quote opened parts text source outcome → outcome = .ok (token, final) →
      parts ≠ none → token.kind = .template
  | .ended _, succeeds, _ => by
      cases succeeds
  | .constant _, _, someParts => (someParts rfl).elim
  | .template _, succeeds, _ => by
      cases succeeds
      rfl
  | .escape _ _ _ _ others, succeeds, someParts => others.kind_eq_template succeeds someParts
  | .openEscape _ _ _, succeeds, _ => by
      cases succeeds
  | .unknownEscape _ _ _ _, succeeds, _ => by
      cases succeeds
  | .interpolation _ _ _ others, succeeds, _ => others.kind_eq_template succeeds nofun
  | .faultyInterpolation _ _ _, succeeds, _ => by
      cases succeeds
  | .plain _ _ others, succeeds, someParts => others.kind_eq_template succeeds someParts

section Constants

variable {characters : List Char} {opened : Position} {tail text : List Char} {again : Source}

/-- The rest of a quoted constant is found if all of its characters are read back. -/
theorem scansText_quoted
    (reads : ∀ character ∈ characters, readsBack character = true)
    (shape : again.ahead = characters.flatMap (Text.escape '"') ++ '"' :: tail)
    (opened : Position)
    (text : List Char) :
    ∃ after,
      ScansText '"' opened none text again
          (.ok (.literal (String.ofList (text.reverse ++ characters))
            (.string (String.ofList (text.reverse ++ characters))) opened, after)) ∧
        after.ahead = tail := by
  induction characters generalizing text again with
  | nil =>
      have closes : again.next? = some '"' := by simp [Source.next?, shape]
      rw [List.append_nil]
      exact ⟨again.skip, .constant closes, by simp [shape]⟩
  | cons character others inductionHypothesis =>
      obtain ⟨readsFirst, readsOthers⟩ := List.forall_mem_cons.mp reads
      rw [List.flatMap_cons, List.append_assoc] at shape
      obtain ⟨after, left, scans⟩ := (spells_escape readsFirst).scansText shape
      obtain ⟨final, run, leftFinal⟩ := inductionHypothesis readsOthers left (character :: text)
      refine ⟨final, scans ?_, leftFinal⟩
      rwa [List.reverse_cons, List.append_assoc, List.singleton_append] at run

/-- If a quoted text is a constant, all characters of a constant that it starts with are read
back. -/
theorem readsBack_of_scansText
    {token : Token}
    {final : Source}
    (shape : again.ahead = characters.flatMap (Text.escape '"') ++ tail)
    (run : ScansText '"' opened none text again (.ok (token, final)))
    (isConstant : token.kind ≠ .template) :
    ∀ character ∈ characters, readsBack character = true := by
  induction characters generalizing text again with
  | nil =>
      exact List.forall_mem_nil _
  | cons character others inductionHypothesis =>
      rw [List.flatMap_cons, List.append_assoc] at shape
      cases reads : readsBack character with
      | true =>
          obtain ⟨after, left, scans⟩ := (spells_escape reads).scansText shape
          obtain ⟨outcome, rest⟩ := exists_scansText '"' opened none (character :: text) after
          obtain rfl := (scans rest).unique run
          exact List.forall_mem_cons.mpr ⟨reads, inductionHypothesis left rest⟩
      | false =>
          rcases escape_of_not_readsBack reads with opens | ⟨letter, more, escaped, unknown⟩
          · rw [opens] at shape
            have opens : again.next? = some '{' := by simp [Source.next?, shape]
            obtain ⟨reading, inner⟩ := exists_scansTokens (some 0) [] again.skip
            cases reading with
            | error error =>
                cases (ScansText.faultyInterpolation opens (by decide) inner).unique run
            | ok result =>
                obtain ⟨tokens, after⟩ := result
                obtain ⟨outcome, rest⟩ :=
                  exists_scansText '"' opened (some (.interpolation tokens :: flush text [])) []
                    after
                obtain rfl := (ScansText.interpolation opens (by decide) inner rest).unique run
                exact (isConstant (rest.kind_eq_template rfl (by simp))).elim
          · rw [escaped] at shape
            have escapes : again.next? = some '\\' := by simp [Source.next?, shape]
            have follows : again.skip.next? = some letter := by simp [Source.next?, shape]
            cases (ScansText.unknownEscape escapes (by decide) follows unknown).unique run

end Constants

/-- The first token of a script that starts with a quote is the quoted text. -/
theorem exists_scansText_of_quote
    {file : String}
    {body : List Char}
    {token : Token}
    {others : List Token}
    (scanned : scanChars file ('"' :: body) = .ok (token :: others)) :
    ∃ after,
      ScansText '"' (Source.ofText file ('"' :: body)).position none []
        (Source.ofText file ('"' :: body)).skip (.ok (token, after)) := by
  have shape : (Source.ofText file ('"' :: body)).ahead = '"' :: body := rfl
  obtain ⟨final, run⟩ := scansTokens_of_scanChars scanned
  generalize Source.ofText file ('"' :: body) = start at shape run ⊢
  have stepped : step none [] start '"' body = .text '"' := rfl
  obtain ⟨reading, quoted⟩ := exists_scansText '"' start.position none [] start.skip
  cases reading with
  | error error =>
      cases (ScansTokens.faultyText shape stepped quoted).unique run
  | ok result =>
      obtain ⟨first, after⟩ := result
      obtain ⟨outcome, rest⟩ := exists_scansTokens none [first] after
      obtain rfl := (ScansTokens.text shape stepped quoted rest).unique run
      obtain ⟨-, more, all⟩ := rest.movesOn rfl
      obtain ⟨rfl, -⟩ := List.cons.inj all
      exact ⟨after, quoted⟩

end Scanner

theorem toList_quoted (content : String) :
    (Text.quoted content).toList =
      '"' :: (content.toList.flatMap (Text.escape '"') ++ ['"']) := by
  simp [Text.quoted, Text.escapeAll]

/-- The text of a string constant, as a script, has that constant for its only token exactly if
every character of the constant is read back. -/
theorem constants_are_read_back_exactly
    (file content text : String)
    (place : Position) :
    (∃ spelling position,
        scan file (Expr.literal text (.string content) place).text =
          .ok [.literal spelling (.string content) position]) ↔
      ∀ character ∈ content.toList, Scanner.readsBack character = true := by
  rw [Expr.text, Literal.shown, scan, toList_quoted]
  have shape :
      (Source.ofText file ('"' :: (content.toList.flatMap (Text.escape '"') ++ ['"']))).skip.ahead =
        content.toList.flatMap (Text.escape '"') ++ ['"'] := by
    rw [Source.ahead_skip]
    rfl
  constructor
  · rintro ⟨spelling, position, scanned⟩
    obtain ⟨after, quoted⟩ := Scanner.exists_scansText_of_quote scanned
    exact Scanner.readsBack_of_scansText shape quoted (by simp [Token.kind])
  · intro reads
    obtain ⟨after, quoted, left⟩ := Scanner.scansText_quoted reads shape ⟨file, 1, 1⟩ []
    rw [List.reverse_nil, List.nil_append, String.ofList_toList] at quoted
    exact ⟨content, ⟨file, 1, 1⟩, (Scanner.ScansTokens.text rfl rfl quoted (.ended left)).scanChars_eq⟩

/-- A brace in a constant starts an interpolation in its text. -/
theorem brace_is_not_read_back :
    (Expr.literal "\x7b" (.string "\x7b") .none).text = "\"\x7b\"" ∧
      ¬∃ spelling position,
        scan "main" (Expr.literal "\x7b" (.string "\x7b") .none).text =
          .ok [.literal spelling (.string "\x7b") position] := by
  refine ⟨by decide +kernel, ?_⟩
  rintro ⟨spelling, position, scanned⟩
  have refused :
      (scan "main" (Expr.literal "\x7b" (.string "\x7b") .none).text).isOk = false := by
    decide +kernel
  rw [scanned] at refused
  cases refused

/-- The escape for a bell is one that a script does not know. -/
example :
    (match scan "main" (Expr.literal "\x07" (.string "\x07") .none).text with
      | .error error => error.fault.message
      | .ok _ => "") = "unknown escape sequence \\a" := by
  decide +kernel

end Scripting
