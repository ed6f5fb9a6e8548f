import Scripting.Proofs.Parser.Precedence
import Scripting.Proofs.Parser.ReflowedScripts
import Scripting.Proofs.Token.Origins
import Scripting.Proofs.Token.RoundTrip
import Scripting.Tree.Text

namespace Scripting

/-!
# Expressions are read back from their text

The text of an expression has its tokens again, with other blanks between them, unless there are
quotes in it.  An expression that was parsed is canonical, so that its text needs no parentheses
beyond its own, and is parsed as the same expression.
-/

namespace Expr

mutual

/-- Whether no string constant and no template occurs in an expression. -/
def isQuoteless : Expr → Bool
  | .name _ => true
  | .literal _ value _ =>
      match value with
      | .string _ => false
      | _ => true
  | .null _ => true
  | .template .. => false
  | .binary _ left right => left.isQuoteless && right.isQuoteless
  | .call _ arguments => areQuoteless arguments
  | .list elements _ => areQuoteless elements
  | .paren inner _ => inner.isQuoteless

/-- Whether no string constant and no template occurs in some expressions. -/
def areQuoteless : List Expr → Bool
  | [] => true
  | first :: rest => first.isQuoteless && areQuoteless rest

end

end Expr

namespace Scanner

/-- Scanning a text after some tokens and before other characters yields tokens, and then the
characters after it decide about the outcome. -/
def Yields (before : List Token) (text tail : List Char) (tokens : List Token) : Prop :=
  ∀ ⦃others again⦄,
    others.head?.any Token.endsOperand = before.head?.any Token.endsOperand →
    again.ahead = text ++ tail →
    ∃ found after,
      Token.bareAll found = Token.bareAll tokens ∧
        after.ahead = tail ∧
        ∀ {outcome}, ScansTokens none (found.reverse ++ others) after outcome →
          ScansTokens none others again outcome

variable {before tokens more : List Token} {token : Token} {text rest tail : List Char}

/-- What tokens end with is an operand or not, whatever their positions. -/
theorem endsOperand_of_bareAll_eq
    {found others : List Token}
    (same : Token.bareAll found = Token.bareAll tokens)
    (sameBefore :
      others.head?.any Token.endsOperand = before.head?.any Token.endsOperand) :
    (found.reverse ++ others).head?.any Token.endsOperand =
      (tokens.reverse ++ before).head?.any Token.endsOperand := by
  rw [Token.bareAll_eq_map, Token.bareAll_eq_map] at same
  have sameLast := congrArg List.getLast? same
  rw [List.getLast?_map, List.getLast?_map] at sameLast
  rw [List.head?_append, List.head?_append, List.head?_reverse, List.head?_reverse]
  generalize found.getLast? = foundLast at sameLast ⊢
  generalize tokens.getLast? = tokensLast at sameLast ⊢
  rcases foundLast with _ | last <;> rcases tokensLast with _ | other <;>
    simp only [Option.map_none, Option.map_some, reduceCtorEq, Option.some.injEq] at sameLast
  · simpa using sameBefore
  · simpa using Token.endsOperand_of_bare_eq sameLast

/-- One text after the other yields the tokens of both. -/
theorem Yields.append
    (first : Yields before text (rest ++ tail) tokens)
    (second : Yields (tokens.reverse ++ before) rest tail more) :
    Yields before (text ++ rest) tail (tokens ++ more) := by
  intro others again sameOperand shape
  rw [List.append_assoc] at shape
  obtain ⟨found, after, same, left, scans⟩ := first sameOperand shape
  obtain ⟨foundMore, final, sameMore, leftFinal, scansMore⟩ :=
    second (endsOperand_of_bareAll_eq same sameOperand) left
  refine ⟨found ++ foundMore, final, ?_, leftFinal, fun others => scans (scansMore ?_)⟩
  · rw [Token.bareAll_eq_map, List.map_append, ← Token.bareAll_eq_map, ← Token.bareAll_eq_map, same,
      sameMore, Token.bareAll_eq_map, Token.bareAll_eq_map, Token.bareAll_eq_map, List.map_append]
  · rwa [List.reverse_append, List.append_assoc] at others

/-- No text yields no tokens. -/
theorem yields_nil : Yields before [] tail [] :=
  fun _ again _ shape => ⟨[], again, rfl, shape, id⟩

/-- A token comes first, and then what the rest yields. -/
theorem Yields.cons
    (first : Yields before text (rest ++ tail) [token])
    (second : Yields (token :: before) rest tail more) :
    Yields before (text ++ rest) tail (token :: more) :=
  first.append second

/-- A blank yields nothing. -/
theorem Yields.blank (yields : Yields before text tail tokens) :
    Yields before (' ' :: text) tail tokens := by
  intro others again sameOperand shape
  have shapeInside : again.skip.ahead = text ++ tail := by
    rw [Source.ahead_skip, shape]
    rfl
  obtain ⟨found, after, same, left, scans⟩ := yields sameOperand shapeInside
  exact ⟨found, after, same, left, fun others => .next shape rfl (scans others)⟩

/-- A token that is found where it is written is what its text yields. -/
theorem Found.yields
    (found : Found none none before token)
    (ends : EndsToken tail) :
    Yields before token.written tail [token] := by
  intro others again sameOperand shape
  obtain ⟨again, after, same, left, scans⟩ := found sameOperand ends shape
  refine ⟨[again], after, ?_, left, scans⟩
  rw [Token.bareAll, Token.bareAll, Token.bareAll, Token.bareAll, same]

/-- A step that takes a word or a number takes it after anything but an operand. -/
theorem step_of_no_mark
    {braces nextBraces : Option Nat}
    {earlier : List Token}
    {source after : Source}
    {character : Char}
    (stepped : step braces earlier source character rest = .next nextBraces (some token) after)
    (noMark : ∀ fixed, token.kind = .mark fixed → ∃ word, fixed = .keyword word)
    (noOperand : before.head?.any Token.endsOperand = false) :
    step none before source character rest = .next none (some token) after := by
  have isCase := step_case braces earlier source character rest
  rw [stepped] at isCase
  cases isCase with
  | word notBlank starts =>
      exact (StepCase.word notBlank starts).step_eq
  | number notBlank notName starts scanned =>
      have startsHere : startsNumber before character rest = true := by
        simp only [startsNumber, noOperand, Bool.or_eq_true, Bool.and_eq_true] at starts ⊢
        exact starts.imp_right fun signed => ⟨signed.1, rfl⟩
      exact (StepCase.number notBlank notName startsHere scanned).step_eq
  | mark notBlank notName notNumber notQuote notClosing notComment leads =>
      obtain ⟨word, isKeyword⟩ := noMark _ rfl
      exact (ne_keyword_of_leadingMark leads word isKeyword).elim

/-- A word or a number is found again after anything but an operand. -/
theorem Made.found
    (made : Made token)
    (noMark : ∀ fixed, token.kind = .mark fixed → ∃ word, fixed = .keyword word)
    (noConstant : ∀ text content position, token ≠ .literal text (.string content) position)
    (noTemplate : ∀ parts position, token ≠ .template parts position)
    (noOperand : before.head?.any Token.endsOperand = false) :
    Found none none before token := by
  cases made with
  | step shape stepped =>
      exact found_of_step shape (step_of_no_mark stepped noMark noOperand)
  | constant =>
      exact (noConstant _ _ _ rfl).elim
  | template =>
      exact (noTemplate _ _ rfl).elim

/-- A mark is spelled as it is named, except for the keyword with two spellings. -/
theorem spelling_of_made
    {fixed : Mark}
    {spelling : String}
    {position : Position}
    (made : Made (.mark fixed spelling position))
    (notElseIf : fixed ≠ .keyword .elseIfWord) :
    spelling = fixed.text := by
  cases made with
  | step shape stepped =>
      obtain ⟨text, -, spelled, -⟩ := lexeme_of_step shape stepped
      cases spelled with
      | mutableVar =>
          rfl
      | mark =>
          rfl
      | keyword isKeyword =>
          unfold Keyword.ofWord? at isKeyword
          split at isKeyword <;> cases isKeyword <;> first | rfl | exact (notElseIf rfl).elim

/-- An operator is found again after anything. -/
theorem found_operator
    (operator : Operator)
    (position : Position) :
    Found none none before (.mark (.operator operator) operator.text position) := by
  obtain ⟨character, more, after, spelled, stepped⟩ : ∃ character more after,
      (Source.ofText "" operator.text.toList).ahead = character :: more ∧
        step none before (Source.ofText "" operator.text.toList) character more =
          .next none (some (.mark (.operator operator) operator.text
            (Source.ofText "" operator.text.toList).position)) after := by
    cases operator with
    | arithmetic operation =>
        cases operation <;> exact ⟨_, _, _, rfl, rfl⟩
    | _ =>
        exact ⟨_, _, _, rfl, rfl⟩
  -- That a token is found does not depend on its position.
  have found := found_of_step spelled stepped
  exact found

/-- A separator is a mark of its own, whatever follows it. -/
theorem yields_separator
    (separator : Separator)
    (position : Position) :
    Yields before separator.text.toList tail
      [.mark (.separator separator) separator.text position] := by
  obtain ⟨character, spelled, stepped⟩ : ∃ character, separator.text.toList = [character] ∧
      ∀ others (source : Source), step none others source character tail =
        .next none (some (.mark (.separator separator) separator.text source.position))
          (Source.advance 1 source) := by
    cases separator <;> exact ⟨_, rfl, fun _ _ => rfl⟩
  intro others again _ shape
  rw [spelled, List.singleton_append] at shape
  refine ⟨[.mark (.separator separator) separator.text again.position], Source.advance 1 again,
    rfl, ?_, .next shape (stepped others again)⟩
  rw [Source.ahead_advance, shape]
  rfl

theorem yields_name
    {identifier : Identifier}
    (made : Made identifier.token)
    (noOperand : before.head?.any Token.endsOperand = false)
    (ends : EndsToken tail) :
    Yields before identifier.text.toList tail [identifier.token] :=
  Found.yields (made.found nofun nofun nofun noOperand) ends

theorem yields_literal
    {text : String}
    {value : Literal}
    {place position : Position}
    (quoteless : (Expr.literal text value place).isQuoteless = true)
    (made : Made (.literal text value position))
    (noOperand : before.head?.any Token.endsOperand = false)
    (ends : EndsToken tail) :
    Yields before (Expr.literal text value place).text.toList tail
      [.literal text value position] := by
  have noConstant : ∀ other content place,
      Token.literal text value position ≠ .literal other (.string content) place := by
    rintro _ content _ ⟨⟩
    cases quoteless
  have found : Found none none before (.literal text value position) :=
    made.found nofun noConstant nofun noOperand
  cases value with
  | string content =>
      cases quoteless
  | _ =>
      exact Found.yields found ends

theorem yields_null
    {place : Position}
    (isNull : token.kind = .keyword .nullWord)
    (made : Made token)
    (noOperand : before.head?.any Token.endsOperand = false)
    (ends : EndsToken tail) :
    Yields before (Expr.null place).text.toList tail [token] := by
  obtain ⟨spelling, position, rfl⟩ := Token.eq_mark_of_kind isNull
  obtain rfl := spelling_of_made made (by simp)
  have isWord : ∀ fixed, Token.kind (.mark (.keyword .nullWord) "null" position) = .mark fixed →
      ∃ word, fixed = .keyword word := by
    rintro _ ⟨⟩
    exact ⟨_, rfl⟩
  have found : Found none none before (.mark (.keyword .nullWord) "null" position) :=
    made.found isWord nofun nofun noOperand
  exact Found.yields found ends

/-- An operator between blanks comes first, and then what the rest yields. -/
theorem Yields.operator
    {operator : Operator}
    (isOperator : token.kind = .operator operator)
    (made : Made token)
    (yields : Yields (token :: before) text tail tokens) :
    Yields before (' ' :: (operator.text.toList ++ ' ' :: text)) tail (token :: tokens) := by
  obtain ⟨spelling, position, rfl⟩ := Token.eq_mark_of_kind isOperator
  obtain rfl := spelling_of_made made (by simp)
  have found : Found none none before (.mark (.operator operator) operator.text position) :=
    found_operator operator position
  have ends : EndsToken (' ' :: text ++ tail) := endsToken_cons (by decide) _
  exact (Yields.cons (Found.yields found ends) yields.blank).blank

/-- A separator comes first, and then what the rest yields. -/
theorem Yields.separator
    {separator : Separator}
    (isSeparator : token.kind = .separator separator)
    (made : Made token)
    (yields : Yields (token :: before) text tail tokens) :
    Yields before (separator.text.toList ++ text) tail (token :: tokens) := by
  obtain ⟨spelling, position, rfl⟩ := Token.eq_mark_of_kind isSeparator
  obtain rfl := spelling_of_made made (by simp)
  exact Yields.cons (yields_separator separator position) yields

/-- What is enclosed in parentheses or brackets yields what it yields anywhere. -/
theorem Yields.enclosed
    {opening closing : Token}
    {left right : Separator}
    (opens : opening.kind = .separator left)
    (closes : closing.kind = .separator right)
    (isPair : left = .leftParen ∧ right = .rightParen ∨ left = .leftBracket ∧ right = .rightBracket)
    (made : ∀ token ∈ opening :: (tokens ++ [closing]), Made token)
    (inside :
      ∀ {before tail}, (∀ token ∈ tokens, Made token) →
        before.head?.any Token.endsOperand = false → EndsToken tail →
        Yields before text tail tokens)
    (before : List Token)
    (tail : List Char) :
    Yields before (left.text.toList ++ (text ++ right.text.toList)) tail
      (opening :: (tokens ++ [closing])) := by
  obtain ⟨openingMade, made⟩ := List.forall_mem_cons.mp made
  obtain ⟨insideMade, closingMade⟩ := List.forall_mem_append.mp made
  have noOperand : (opening :: before).head?.any Token.endsOperand = false := by
    rcases isPair with ⟨rfl, rfl⟩ | ⟨rfl, rfl⟩ <;> simp [Token.endsOperand, opens]
  have ends : EndsToken (right.text.toList ++ tail) := by
    rcases isPair with ⟨rfl, rfl⟩ | ⟨rfl, rfl⟩ <;> exact endsToken_cons (by decide) _
  have last : Yields (tokens.reverse ++ opening :: before) right.text.toList tail [closing] := by
    rw [← List.append_nil right.text.toList]
    exact .separator closes (closingMade closing List.mem_cons_self) yields_nil
  exact .separator opens openingMade ((inside insideMade noOperand ends).append last)

end Scanner

section Derivations

open Scripting.Scanner

theorem Expr.texts_ne_nil
    {values : List Expr}
    (notEmpty : values ≠ []) :
    Expr.texts values ≠ [] := by
  cases values with
  | nil =>
      exact (notEmpty rfl).elim
  | cons first rest =>
      exact List.cons_ne_nil _ _

mutual

/-- The text of an expression yields the tokens that derive it. -/
theorem DerivesExpr.yields
    {before : List Token}
    {tail : List Char}
    {value : Expr}
    {taken : List Token} :
    DerivesExpr value taken → value.isQuoteless = true → (∀ token ∈ taken, Made token) →
    before.head?.any Token.endsOperand = false → EndsToken tail →
    Yields before value.text.toList tail taken
  | .node form _, quoteless, made, noOperand, ends => form.yields quoteless made noOperand ends

theorem ExprForm.yields
    {before : List Token}
    {tail : List Char}
    {value : Expr}
    {taken : List Token} :
    ExprForm value taken → value.isQuoteless = true → (∀ token ∈ taken, Made token) →
    before.head?.any Token.endsOperand = false → EndsToken tail →
    Yields before value.text.toList tail taken
  | .name, _, made, noOperand, ends => yields_name (made _ (by simp)) noOperand ends
  | .literal, quoteless, made, noOperand, ends =>
      yields_literal quoteless (made _ (by simp)) noOperand ends
  | .null isNull, _, made, noOperand, ends =>
      yields_null isNull (made _ (by simp)) noOperand ends
  | .template _, quoteless, _, _, _ => nomatch quoteless
  | .binary isOperator left right, quoteless, made, noOperand, ends => by
      obtain ⟨leftQuoteless, rightQuoteless⟩ := Bool.and_eq_true_iff.mp quoteless
      obtain ⟨leftMade, made⟩ := List.forall_mem_append.mp made
      obtain ⟨signMade, rightMade⟩ := List.forall_mem_cons.mp made
      simp only [Expr.text, String.toList_append, List.append_assoc]
      have ending : ∀ rest, EndsToken (' ' :: rest) := endsToken_cons (by decide)
      refine (left.yields leftQuoteless leftMade noOperand (ending _)).append ?_
      refine .operator isOperator signMade (right.yields rightQuoteless rightMade ?_ ends)
      simp [Token.endsOperand, isOperator]
  | .call opens closes arguments, quoteless, made, noOperand, _ => by
      obtain ⟨nameMade, made⟩ := List.forall_mem_cons.mp made
      simp only [Expr.text, String.toList_append, List.append_assoc]
      have enclosed :=
        Yields.enclosed opens closes (.inl ⟨rfl, rfl⟩) made (arguments.yields quoteless)
      exact .cons (yields_name nameMade noOperand (endsToken_cons (by decide) _)) (enclosed _ tail)
  | .list opens closes elements, quoteless, made, _, _ => by
      simp only [Expr.text, String.toList_append, List.append_assoc]
      have enclosed :=
        Yields.enclosed opens closes (.inr ⟨rfl, rfl⟩) made (elements.yields quoteless)
      exact enclosed before tail
  | .paren opens closes inner, quoteless, made, _, _ => by
      simp only [Expr.text, String.toList_append, List.append_assoc]
      have enclosed := Yields.enclosed opens closes (.inl ⟨rfl, rfl⟩) made (inner.yields quoteless)
      exact enclosed before tail

theorem DerivesExprs.yields
    {before : List Token}
    {tail : List Char}
    {values : List Expr}
    {taken : List Token} :
    DerivesExprs values taken → Expr.areQuoteless values = true → (∀ token ∈ taken, Made token) →
    before.head?.any Token.endsOperand = false → EndsToken tail →
    Yields before (", ".intercalate (Expr.texts values)).toList tail taken
  | .nil, _, _, _, _ => yields_nil
  | .last first, quoteless, made, noOperand, ends => by
      obtain ⟨firstQuoteless, -⟩ := Bool.and_eq_true_iff.mp quoteless
      rw [Expr.texts, Expr.texts, String.intercalate_singleton]
      exact first.yields firstQuoteless made noOperand ends
  | .more isComma notLast first others, quoteless, made, noOperand, ends => by
      obtain ⟨firstQuoteless, othersQuoteless⟩ := Bool.and_eq_true_iff.mp quoteless
      obtain ⟨firstMade, made⟩ := List.forall_mem_append.mp made
      obtain ⟨commaMade, othersMade⟩ := List.forall_mem_cons.mp made
      rw [Expr.texts, String.intercalate_cons_of_ne_nil (Expr.texts_ne_nil notLast)]
      simp only [String.toList_append, List.append_assoc]
      have ending : ∀ rest, EndsToken (',' :: rest) := endsToken_cons (by decide)
      refine (first.yields firstQuoteless firstMade noOperand (ending _)).append ?_
      refine .separator isComma commaMade
        (.blank (others.yields othersQuoteless othersMade ?_ ends))
      simp [Token.endsOperand, isComma]

end

/-- The text of an expression is scanned as the tokens that derive it. -/
theorem DerivesExpr.scan_text
    {value : Expr}
    {taken : List Token}
    (derives : DerivesExpr value taken)
    (quoteless : value.isQuoteless = true)
    (made : ∀ token ∈ taken, Made token)
    (file : String) :
    ∃ again, scan file value.text = .ok again ∧ Token.bareAll again = Token.bareAll taken := by
  have yields : Yields [] value.text.toList [] taken :=
    derives.yields quoteless made rfl nofun
  have shape : (Source.ofText file value.text.toList).ahead = value.text.toList ++ [] := by
    rw [List.append_nil]
    rfl
  obtain ⟨found, after, same, left, scans⟩ := yields rfl shape
  refine ⟨found, ?_, same⟩
  rw [scan, (scans (.ended left)).scanChars_eq]
  simp [endOfText, Except.map]

end Derivations

namespace Parser

/-- If the parser reads an expression without quotes from tokens of a script, the text of that
expression can be scanned, and is read to its end as the same expression up to positions. -/
theorem printed_expressions_are_parsed_again
    {grammar : Grammar}
    {scope : Scope}
    {budget : Nat}
    {behind tokens : List Token}
    {value : Expr}
    {rest : TokenCursor}
    (scanned : ∀ token ∈ tokens, token.Scanned)
    (accepted : expr budget grammar scope ⟨behind, tokens⟩ = .ok (value, rest))
    (quoteless : value.isQuoteless = true)
    (file : String) :
    ∃ again, scan file value.text = .ok again ∧
      ∀ larger ≥ budgetFor again, ∀ before, ∃ other passed,
        expr larger grammar scope ⟨before, again⟩ = .ok (other, ⟨passed, []⟩) ∧
          value.Alike other := by
  obtain ⟨taken, shape, derives, canonical, visible, -⟩ :=
    ((acceptsExprs budget).expr accepted).startsWith
  obtain rfl : tokens = taken ++ rest.ahead := shape
  have made : ∀ token ∈ taken, Scanner.Made token :=
    fun token member => (scanned token (List.mem_append_left _ member)).made
  obtain ⟨again, scannedAgain, same⟩ := derives.scan_text quoteless made file
  have reflowed : Token.Reflowed false taken again := Token.reflowed_of_bareAll same.symm
  refine ⟨again, scannedAgain, fun larger enough before => ?_⟩
  -- The tokens of the expression alone are read as it, and so are the same ones elsewhere.
  have ends : EndsBefore taken [] := ⟨nofun, fun _ _ _ => nofun⟩
  have reads := (derives.leads canonical visible).readsExpr ends
  rw [List.append_nil] at reads
  obtain ⟨passed, read⟩ := reads.completes larger (by
    rw [← reflowed.sizeAll_eq]
    unfold budgetFor at enough
    omega)
  have readTaken : expr larger grammar scope ⟨[], taken⟩ = .ok (value, ⟨passed [], []⟩) := read []
  have agrees := (exprsAgree larger).expr grammar (Scope.Alike.refl scope)
    (TokenCursor.Reflowed.of_tokens reflowed [] before)
  rw [readTaken] at agrees
  generalize expr larger grammar scope ⟨before, again⟩ = outcome at agrees ⊢
  cases agrees with
  | alike together =>
      cases together with
      | @mk _ other _ otherRest alike left =>
          obtain ⟨otherPassed, ahead⟩ := otherRest
          obtain rfl : ahead = [] := by
            cases left
            rfl
          exact ⟨other, otherPassed, rfl, alike⟩

/-- An expression with a sign, a point before an operator and a name with a dash. -/
def denseScript : String :=
  "a -1.-b...top-1(-2L,[],[true,null,( c )])^3f"

theorem denseScript_is_read_again :
    ∃ tokens value passed again other otherPassed,
      scan "main" denseScript = .ok tokens ∧
        expr (budgetFor tokens) ⟨true, false⟩ threeVariables ⟨[], tokens⟩ =
          .ok (value, ⟨passed, []⟩) ∧
        value.text = "a - 1. - b ... top-1(-2L, [], [true, null, (c)]) ^ 3f" ∧
        scan "again" value.text = .ok again ∧
        expr (budgetFor again) ⟨true, false⟩ threeVariables ⟨[], again⟩ =
          .ok (other, ⟨otherPassed, []⟩) ∧
        value.Alike other := by
  have isRead : (readWhole? denseScript).any (fun found =>
      found.2.1.isQuoteless &&
        found.2.1.text = "a - 1. - b ... top-1(-2L, [], [true, null, (c)]) ^ 3f") = true := by
    decide +kernel
  unfold readWhole? at isRead
  split at isRead
  · cases isRead
  · next tokens scanned =>
      split at isRead
      · cases isRead
      · next value rest accepted =>
          rcases rest with ⟨passed, _ | ⟨next, more⟩⟩
          · have isValue : (value.isQuoteless &&
                value.text = "a - 1. - b ... top-1(-2L, [], [true, null, (c)]) ^ 3f") = true :=
              isRead
            rw [Bool.and_eq_true, decide_eq_true_eq] at isValue
            obtain ⟨again, scannedAgain, readAgain⟩ := printed_expressions_are_parsed_again
              (fun token member => ⟨_, _, _, scanned, Token.mem_flattenedAll_of_mem member⟩)
              accepted isValue.1 "again"
            obtain ⟨other, otherPassed, read, alike⟩ := readAgain _ (Nat.le_refl _) []
            exact ⟨tokens, value, passed, again, other, otherPassed, scanned, accepted, isValue.2,
              scannedAgain, read, alike⟩
          · cases isRead

end Parser

end Scripting
