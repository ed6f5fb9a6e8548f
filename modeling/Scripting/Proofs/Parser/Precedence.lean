import Scripting.Proofs.Parser.Derivation

namespace Scripting

/-!
# Expressions are parsed exactly

A grammar orders the operators by how strongly they bind.  A tree is canonical if it groups the
operands of every chain of operators by that order, and from left to right where operators bind
alike, unless parentheses say otherwise.

The parser reads an expression from tokens exactly if the tree is canonical, its variables are
visible, the tokens derive it, and what comes next does not continue it.
-/

/-- How strongly an operator binds: all alike in a flat grammar, in five tiers otherwise. -/
def Grammar.strength (grammar : Grammar) (operator : Operator) : Nat :=
  if grammar.tiered then
    match operator with
    | .range => 1
    | .equal | .notEqual | .less | .greater => 2
    | .arithmetic .add | .arithmetic .subtract => 3
    | .arithmetic .multiply | .arithmetic .divide | .arithmetic .remainder => 4
    | .arithmetic .power => 5
  else
    1

namespace Expr

/-- How strongly the outermost operator of an expression binds, if that is an operation without
parentheses around it. -/
def bareStrength? (grammar : Grammar) : Expr → Option Nat
  | .binary operator _ _ => some (grammar.strength operator)
  | _ => none

mutual

/-- No operation stands without parentheses as the left operand of an operator that binds more
strongly, or as the right operand of one that binds as strongly or more strongly. -/
def Canonical (grammar : Grammar) : Expr → Prop
  | .name _ => True
  | .literal .. => True
  | .null _ => True
  | .template parts _ => CanonicalAll grammar parts
  | .binary operator left right =>
      left.Canonical grammar ∧ right.Canonical grammar ∧
        (∀ inner ∈ left.bareStrength? grammar, grammar.strength operator ≤ inner) ∧
        (∀ inner ∈ right.bareStrength? grammar, grammar.strength operator < inner)
  | .call _ arguments => CanonicalAll grammar arguments
  | .list elements _ => CanonicalAll grammar elements
  | .paren inner _ => inner.Canonical grammar

/-- Every one of some expressions is canonical. -/
def CanonicalAll (grammar : Grammar) : List Expr → Prop
  | [] => True
  | first :: rest => first.Canonical grammar ∧ CanonicalAll grammar rest

end

end Expr

namespace Parser

/-- What comes next does not call the name that some tokens end with. -/
def NotCalled (taken following : List Token) : Prop :=
  ∀ last ∈ taken.getLast?, last.kind = .name → nextKind following ≠ .separator .leftParen

/-- What comes next does not continue an expression: it neither operates on its value nor calls
its last name. -/
structure EndsBefore (taken following : List Token) : Prop where
  noOperator : ∀ operator, nextKind following ≠ .operator operator
  notCalled : NotCalled taken following

/-- Tokens start with all that a canonical expression of visible variables is written with, and go
on with something else. -/
def StartsWith (grammar : Grammar) (scope : Scope) (tokens : List Token) (value : Expr)
    (following : List Token) : Prop :=
  ∃ taken, tokens = taken ++ following ∧ DerivesExpr value taken ∧ value.Canonical grammar ∧
    scope.layout.Shows value.reads ∧ EndsBefore taken following

section Readings

variable {grammar : Grammar} {scope : Scope}

/-- The ranks that the parser compares are the strengths of the operators. -/
theorem rank_eq_strength (grammar : Grammar) (operator : Operator) :
    rank grammar operator = grammar.strength operator := by
  unfold rank Grammar.strength
  cases operator with
  | arithmetic operation =>
      cases operation <;> rfl
  | _ =>
      rfl

theorem strength_pos (grammar : Grammar) (operator : Operator) :
    0 < grammar.strength operator :=
  rank_eq_strength grammar operator ▸ rank_pos grammar operator

/-- A call is no bare operation. -/
theorem ReadsCall.bareStrength?_eq_none
    {function : Identifier}
    {tokens rest : List Token}
    {value : Expr}
    (reads : ReadsCall grammar scope function tokens value rest) :
    value.bareStrength? grammar = none := by
  cases reads <;> rfl

/-- An operand is no operation without parentheses. -/
theorem ReadsOperand.bareStrength?_eq_none
    {tokens rest : List Token}
    {value : Expr}
    (reads : ReadsOperand grammar scope tokens value rest) :
    value.bareStrength? grammar = none := by
  cases reads with
  | call _ call =>
      exact call.bareStrength?_eq_none
  | _ =>
      rfl

/-- What continues an expression past a rank makes only operations that bind more strongly. -/
theorem ReadsOperation.bound_lt
    {bound : Nat}
    {left value : Expr}
    {tokens rest : List Token} :
    ReadsOperation grammar scope bound left tokens value rest →
    (∀ inner ∈ left.bareStrength? grammar, bound < inner) →
    ∀ inner ∈ value.bareStrength? grammar, bound < inner
  | .stop _, leftBinds => leftBinds
  | .extend _ tighter _ _ whole, _ => by
      refine whole.bound_lt fun inner isInner => ?_
      rw [rank_eq_strength] at tighter
      cases isInner
      exact tighter

/-- Where an expression ends that was continued past a rank, no operator above it comes next. -/
theorem ReadsOperation.strength_le
    {bound : Nat}
    {operator : Operator}
    {left value : Expr}
    {tokens rest : List Token} :
    ReadsOperation grammar scope bound left tokens value rest →
    nextKind rest = .operator operator →
    grammar.strength operator ≤ bound
  | .stop loose, isNext => rank_eq_strength grammar operator ▸ loose operator isNext
  | .extend _ _ _ _ whole, isNext => whole.strength_le isNext

mutual

/-- Precedence climbing builds canonical trees. -/
theorem ReadsExpr.canonical
    {tokens rest : List Token}
    {value : Expr} :
    ReadsExpr grammar scope tokens value rest → value.Canonical grammar
  | .chain left operation =>
      operation.canonical left.canonical (by simp [left.bareStrength?_eq_none])

/-- A chain of operators is canonical if its first operand is and no operator after it binds more
strongly than that operand does. -/
theorem ReadsOperation.canonical
    {bound : Nat}
    {left value : Expr}
    {tokens rest : List Token} :
    ReadsOperation grammar scope bound left tokens value rest →
    left.Canonical grammar →
    (∀ inner ∈ left.bareStrength? grammar, ∀ operator, nextKind tokens = .operator operator →
      grammar.strength operator ≤ inner) →
    value.Canonical grammar
  | .stop _, leftCanonical, _ => leftCanonical
  | .extend isOperator _ first right whole, leftCanonical, leftBinds => by
      have rightCanonical := right.canonical first.canonical (by simp [first.bareStrength?_eq_none])
      have rightBinds := right.bound_lt (by simp [first.bareStrength?_eq_none])
      rw [rank_eq_strength] at rightBinds
      refine whole.canonical ?_ fun inner isInner operator isNext => ?_
      · exact ⟨leftCanonical, rightCanonical,
          fun inner isInner => leftBinds inner isInner _ isOperator, rightBinds⟩
      · cases isInner
        exact Nat.le_trans (right.strength_le isNext) (Nat.le_of_eq (rank_eq_strength grammar _))

/-- An operand is canonical, and with it the expressions inside of it. -/
theorem ReadsOperand.canonical
    {tokens rest : List Token}
    {value : Expr} :
    ReadsOperand grammar scope tokens value rest → value.Canonical grammar
  | .literal => trivial
  | .template parts => parts.canonical
  | .null => trivial
  | .name _ _ => trivial
  | .call _ call => call.canonical
  | .paren _ inner => inner.canonical
  | .emptyList _ => trivial
  | .list _ elements => elements.canonical

/-- The arguments of a call are canonical. -/
theorem ReadsCall.canonical
    {function : Identifier}
    {tokens rest : List Token}
    {value : Expr} :
    ReadsCall grammar scope function tokens value rest → value.Canonical grammar
  | .empty _ _ => trivial
  | .arguments _ _ arguments => arguments.canonical

/-- The expressions of a list are canonical. -/
theorem ReadsExprList.canonical
    {closing : Separator}
    {tokens rest : List Token}
    {values : List Expr} :
    ReadsExprList grammar scope closing tokens values rest → Expr.CanonicalAll grammar values
  | .last _ _ first => ⟨first.canonical, trivial⟩
  | .more _ first others => ⟨first.canonical, others.canonical⟩

/-- The interpolations of a template are canonical. -/
theorem ReadsParts.canonical
    {position : Position}
    {parts : List Part}
    {values : List Expr} :
    ReadsParts grammar scope position parts values → Expr.CanonicalAll grammar values
  | .nil => trivial
  | .fragment others => ⟨trivial, others.canonical⟩
  | .interpolation first others => ⟨first.canonical, others.canonical⟩

end

/-- Tokens that do not end with a name are not called by what follows. -/
theorem notCalled_of_kind
    (front : List Token)
    {last : Token}
    (noName : last.kind ≠ .name)
    (following : List Token) :
    NotCalled (front ++ [last]) following := by
  intro found isLast isName
  rw [List.getLast?_append, List.getLast?_singleton, Option.some_or] at isLast
  cases isLast
  exact (noName isName).elim

/-- Tokens that end with a mark are not called by what follows. -/
theorem notCalled_of_mark
    (front : List Token)
    {last : Token}
    {fixed : Mark}
    (isMark : last.kind = .mark fixed)
    (following : List Token) :
    NotCalled (front ++ [last]) following :=
  notCalled_of_kind front (by simp [isMark]) following

/-- Nothing calls the last name of two sequences of tokens, where nothing calls that of either. -/
theorem NotCalled.append
    {first second following : List Token}
    (firstNotCalled : NotCalled first (second ++ following))
    (secondNotCalled : NotCalled second following) :
    NotCalled (first ++ second) following := by
  intro last isLast
  rw [List.getLast?_append] at isLast
  cases isSecond : second.getLast? with
  | none =>
      obtain rfl := List.getLast?_eq_none_iff.mp isSecond
      exact firstNotCalled last isLast
  | some found =>
      rw [isSecond] at isLast
      exact secondNotCalled last (isSecond.trans isLast)

/-- A call ends with a parenthesis. -/
theorem ReadsCall.closes
    {function : Identifier}
    {tokens rest : List Token}
    {value : Expr}
    (reads : ReadsCall grammar scope function tokens value rest) :
    ∃ front last, tokens = front ++ last :: rest ∧ last.kind = .separator .rightParen := by
  cases reads with
  | empty _ closes =>
      exact ⟨[_], _, rfl, closes⟩
  | arguments _ _ arguments =>
      obtain ⟨taken, last, rfl, closes, -⟩ := arguments.derives
      exact ⟨_ :: taken, last, rfl, closes⟩

mutual

/-- Where an expression ends, nothing calls the name that it ends with. -/
theorem ReadsExpr.notCalled
    {tokens rest : List Token}
    {value : Expr} :
    ReadsExpr grammar scope tokens value rest →
    ∃ taken, tokens = taken ++ rest ∧ NotCalled taken rest
  | .chain left operation => by
      obtain ⟨leftTaken, rfl, leftNotCalled⟩ := left.notCalled
      obtain ⟨taken, rfl, notCalled⟩ := operation.notCalled
      exact ⟨_, (List.append_assoc ..).symm, leftNotCalled.append notCalled⟩

/-- What an operation takes is not called by what it leaves. -/
theorem ReadsOperation.notCalled
    {bound : Nat}
    {left value : Expr}
    {tokens rest : List Token} :
    ReadsOperation grammar scope bound left tokens value rest →
    ∃ taken, tokens = taken ++ rest ∧ NotCalled taken rest
  | .stop _ => ⟨[], rfl, nofun⟩
  | .extend isOperator _ first right whole => by
      obtain ⟨firstTaken, rfl, firstNotCalled⟩ := first.notCalled
      obtain ⟨rightTaken, rfl, rightNotCalled⟩ := right.notCalled
      obtain ⟨taken, rfl, notCalled⟩ := whole.notCalled
      have signNotCalled := notCalled_of_mark [] isOperator
        (firstTaken ++ (rightTaken ++ (taken ++ rest)))
      rw [← List.append_assoc rightTaken] at firstNotCalled signNotCalled ⊢
      rw [← List.append_assoc firstTaken] at signNotCalled ⊢
      exact ⟨_, rfl, signNotCalled.append (firstNotCalled.append
        (rightNotCalled.append notCalled))⟩

/-- What an operand takes is not called by what it leaves. -/
theorem ReadsOperand.notCalled
    {tokens rest : List Token}
    {value : Expr} :
    ReadsOperand grammar scope tokens value rest →
    ∃ taken, tokens = taken ++ rest ∧ NotCalled taken rest
  | .literal => ⟨[_], rfl, notCalled_of_kind [] (by simp [Token.kind]) rest⟩
  | .template _ => ⟨[_], rfl, notCalled_of_kind [] (by simp [Token.kind]) rest⟩
  | .null => ⟨[_], rfl, notCalled_of_mark [] rfl rest⟩
  | .name noCall _ => ⟨[_], rfl, fun _ _ _ => noCall⟩
  | .call _ call => by
      obtain ⟨front, last, rfl, closes⟩ := call.closes
      rw [← List.cons_append, List.append_cons]
      exact ⟨_, rfl, notCalled_of_mark (_ :: front) closes rest⟩
  | .paren closes inner => by
      obtain ⟨taken, rfl, -⟩ := inner.derives
      rw [List.append_cons]
      exact ⟨_, rfl, notCalled_of_mark (_ :: taken) closes rest⟩
  | .emptyList closes => ⟨_, rfl, notCalled_of_mark [_] closes rest⟩
  | .list _ elements => by
      obtain ⟨taken, last, rfl, closes, -⟩ := elements.derives
      rw [List.append_cons]
      exact ⟨_, rfl, notCalled_of_mark (_ :: taken) closes rest⟩

end

/-- Whatever the parser reads is what the tokens start with. -/
theorem ReadsExpr.startsWith
    {tokens rest : List Token}
    {value : Expr}
    (reads : ReadsExpr grammar scope tokens value rest) :
    StartsWith grammar scope tokens value rest := by
  obtain ⟨taken, rfl, derives⟩ := reads.derives
  obtain ⟨same, shape, notCalled⟩ := reads.notCalled
  obtain rfl := List.append_cancel_right shape
  refine ⟨taken, rfl, derives, reads.canonical, reads.shows, ?_, notCalled⟩
  intro operator isNext
  obtain ⟨_, operation⟩ := reads
  have weak := operation.strength_le isNext
  have strong := strength_pos grammar operator
  omega

/-- An operand does not start with a closing mark. -/
theorem ReadsOperand.nextKind_ne
    {closing : Separator}
    {tokens rest : List Token}
    {value : Expr}
    (reads : ReadsOperand grammar scope tokens value rest)
    (closes : closing = .rightParen ∨ closing = .rightBracket) :
    nextKind tokens ≠ .separator closing := by
  cases reads <;> rcases closes with rfl | rfl <;> simp [Token.kind]

/-- No expression starts with a closing separator. -/
theorem ReadsExprList.nextKind_ne
    {closing : Separator}
    {tokens rest : List Token}
    {values : List Expr}
    (reads : ReadsExprList grammar scope closing tokens values rest)
    (closes : closing = .rightParen ∨ closing = .rightBracket) :
    nextKind tokens ≠ .separator closing := by
  cases reads with
  | last _ _ first =>
      obtain ⟨left, _⟩ := first
      exact left.nextKind_ne closes
  | more _ first _ =>
      obtain ⟨left, _⟩ := first
      exact left.nextKind_ne closes

/-- From the tokens of an expression the parser gets to wherever a chain of operators goes on from
the expression, as long as it takes the expression whole. -/
def Leads (grammar : Grammar) (scope : Scope) (value : Expr) (taken : List Token) : Prop :=
  ∀ bound following final after,
    NotCalled taken following →
    (∀ inner ∈ value.bareStrength? grammar, bound < inner ∧
      ∀ operator, nextKind following = .operator operator → grammar.strength operator ≤ inner) →
    ReadsOperation grammar scope bound value following final after →
    ∃ first rest, ReadsOperand grammar scope (taken ++ following) first rest ∧
      ReadsOperation grammar scope bound first rest final after

/-- What is read as an operand may be followed by operations. -/
theorem Leads.of_operand
    {taken : List Token}
    {value : Expr}
    (operand :
      ∀ following, NotCalled taken following →
        ReadsOperand grammar scope (taken ++ following) value following) :
    Leads grammar scope value taken :=
  fun _ following _ _ notCalled _ operation =>
    ⟨value, following, operand following notCalled, operation⟩

/-- An expression is read where it ends. -/
theorem Leads.readsExpr
    {taken following : List Token}
    {value : Expr}
    (leads : Leads grammar scope value taken)
    (ends : EndsBefore taken following) :
    ReadsExpr grammar scope (taken ++ following) value following := by
  have stays : ReadsOperation grammar scope 0 value following value following :=
    .stop fun operator isNext => (ends.noOperator operator isNext).elim
  have binds (inner : Nat) (isInner : inner ∈ value.bareStrength? grammar) : 0 < inner := by
    cases value <;> cases isInner
    exact strength_pos grammar _
  obtain ⟨first, rest, operand, operation⟩ := leads 0 following value following ends.notCalled
    (fun inner isInner =>
      ⟨binds inner isInner, fun operator isNext => (ends.noOperator operator isNext).elim⟩) stays
  exact .chain operand operation

/-- A separator other than an opening parenthesis ends an expression. -/
theorem endsBefore_separator
    {separator : Separator}
    {next : Token}
    (isSeparator : next.kind = .separator separator)
    (notParen : separator ≠ .leftParen)
    (taken following : List Token) :
    EndsBefore taken (next :: following) where
  noOperator := by simp [isSeparator]
  notCalled := fun _ _ _ => by simpa [isSeparator] using notParen

/-- An operation leads on if its operands do: the right one up to where it ends, and the left one
to the operator, which binds at most as strongly. -/
theorem Leads.binary
    {operator : Operator}
    {left right : Expr}
    {token : Token}
    {leftTaken rightTaken : List Token}
    (isOperator : token.kind = .operator operator)
    (leftBinds : ∀ inner ∈ left.bareStrength? grammar, grammar.strength operator ≤ inner)
    (rightBinds : ∀ inner ∈ right.bareStrength? grammar, grammar.strength operator < inner)
    (leftLeads : Leads grammar scope left leftTaken)
    (rightLeads : Leads grammar scope right rightTaken)
    (rightNotEmpty : rightTaken ≠ []) :
    Leads grammar scope (.binary operator left right) (leftTaken ++ token :: rightTaken) := by
  intro bound following final after notCalled binds operation
  obtain ⟨tighter, loose⟩ := binds _ rfl
  have rightNotCalled : NotCalled rightTaken following := by
    intro last isLast
    refine notCalled last ?_
    rw [List.getLast?_append, List.getLast?_cons_of_ne_nil rightNotEmpty, isLast]
    rfl
  have rightStops : ReadsOperation grammar scope (rank grammar operator) right following right
      following :=
    .stop fun next isNext => by
      rw [rank_eq_strength, rank_eq_strength]
      exact loose next isNext
  obtain ⟨first, rest, rightOperand, rightOperation⟩ :=
    rightLeads (rank grammar operator) following right following rightNotCalled
      (fun inner isInner => by
        have innerBinds := rightBinds inner isInner
        refine ⟨rank_eq_strength grammar operator ▸ innerBinds, fun next isNext => ?_⟩
        have nextBinds := loose next isNext
        omega)
      rightStops
  rw [List.append_assoc, List.cons_append]
  refine leftLeads bound _ final after (fun _ _ _ => by simp [isOperator])
    (fun inner isInner => ?_) ?_
  · have innerBinds := leftBinds inner isInner
    refine ⟨by omega, fun next isNext => ?_⟩
    obtain rfl : operator = next := by simpa [isOperator] using isNext
    exact innerBinds
  · exact .extend isOperator (rank_eq_strength grammar operator ▸ tighter) rightOperand
      rightOperation operation

/-- A name leads where it is visible. -/
theorem leads_name
    {identifier : Identifier}
    (visible : scope.layout.Shows [identifier]) :
    Leads grammar scope (.name identifier) [identifier.token] :=
  .of_operand fun _ notCalled => .name (notCalled _ rfl rfl) (by
    simpa [Layout.Shows] using visible)

/-- A literal leads with its token. -/
theorem leads_literal
    {text : String}
    {value : Literal}
    {place position : Position}
    (starts : StartsAt [.literal text value position] place) :
    Leads grammar scope (.literal text value place) [.literal text value position] := by
  cases starts
  exact .of_operand fun _ _ => .literal

/-- The null leads with its keyword. -/
theorem leads_null
    {token : Token}
    {place : Position}
    (isNull : token.kind = .keyword .nullWord)
    (starts : StartsAt [token] place) :
    Leads grammar scope (.null place) [token] := by
  obtain ⟨spelling, position, rfl⟩ := Token.eq_mark_of_kind isNull
  cases starts
  exact .of_operand fun _ _ => .null

/-- A template leads with its token, its parts being read apart. -/
theorem leads_template
    {parts : List Part}
    {expressions : List Expr}
    {place position : Position}
    (starts : StartsAt [.template parts position] place)
    (reads : ReadsParts grammar scope position parts expressions) :
    Leads grammar scope (.template expressions place) [.template parts position] := by
  cases starts
  exact .of_operand fun _ _ => .template reads

/-- Parentheses around what leads are an operand. -/
theorem Leads.paren
    {content : Expr}
    {taken : List Token}
    {opening closing : Token}
    {place : Position}
    (leads : Leads grammar scope content taken)
    (opens : opening.kind = .separator .leftParen)
    (closes : closing.kind = .separator .rightParen)
    (starts : StartsAt (opening :: (taken ++ [closing])) place) :
    Leads grammar scope (.paren content place) (opening :: (taken ++ [closing])) := by
  obtain ⟨spelling, position, rfl⟩ := Token.eq_mark_of_kind opens
  cases starts
  refine .of_operand fun following _ => ?_
  rw [List.cons_append, ← List.append_cons]
  exact .paren closes (leads.readsExpr (endsBefore_separator closes nofun taken following))

/-- An interpolation is read whole. -/
theorem Leads.readsParts
    {position : Position}
    {first : Expr}
    {expressions : List Expr}
    {tokens : List Token}
    {parts : List Part}
    (leads : Leads grammar scope first tokens)
    (notEmpty : tokens ≠ [])
    (others : ReadsParts grammar scope position parts expressions) :
    ReadsParts grammar scope position (.interpolation tokens :: parts) (first :: expressions) := by
  have ends : EndsBefore tokens [] := ⟨nofun, fun _ _ _ => nofun⟩
  have reads := leads.readsExpr ends
  rw [List.append_nil] at reads
  cases tokens with
  | nil =>
      exact (notEmpty rfl).elim
  | cons token rest =>
      exact .interpolation reads others

/-- Expressions are read from some tokens up to a closing separator, unless there are none. -/
def ReadsAll (grammar : Grammar) (scope : Scope) (values : List Expr) (taken : List Token) :
    Prop :=
  ∀ separator closing following,
    separator = .rightParen ∨ separator = .rightBracket →
    closing.kind = .separator separator →
    values = [] ∧ taken = [] ∨
      ReadsExprList grammar scope separator (taken ++ closing :: following) values following

/-- Arguments in parentheses make a call. -/
theorem ReadsAll.call
    {arguments : List Expr}
    {taken : List Token}
    {opening closing : Token}
    (reads : ReadsAll grammar scope arguments taken)
    (opens : opening.kind = .separator .leftParen)
    (closes : closing.kind = .separator .rightParen)
    (function : Identifier) :
    Leads grammar scope (.call function arguments)
      (function.token :: opening :: (taken ++ [closing])) := by
  refine .of_operand fun following _ => ?_
  rw [List.cons_append, List.cons_append, ← List.append_cons]
  refine .call opens ?_
  rcases reads .rightParen closing following (.inl rfl) closes with ⟨rfl, rfl⟩ | read
  · exact .empty opens closes
  · exact .arguments opens (read.nextKind_ne (.inl rfl)) read

/-- Elements in brackets make a list. -/
theorem ReadsAll.list
    {elements : List Expr}
    {taken : List Token}
    {opening closing : Token}
    (reads : ReadsAll grammar scope elements taken)
    (opens : opening.kind = .separator .leftBracket)
    (closes : closing.kind = .separator .rightBracket)
    {place : Position}
    (starts : StartsAt (opening :: (taken ++ [closing])) place) :
    Leads grammar scope (.list elements place) (opening :: (taken ++ [closing])) := by
  obtain ⟨spelling, position, rfl⟩ := Token.eq_mark_of_kind opens
  cases starts
  refine .of_operand fun following _ => ?_
  rw [List.cons_append, ← List.append_cons]
  rcases reads .rightBracket closing following (.inr rfl) closes with ⟨rfl, rfl⟩ | read
  · exact .emptyList closes
  · exact .list (read.nextKind_ne (.inr rfl)) read

/-- An expression that leads is a list of one. -/
theorem ReadsAll.one
    {value : Expr}
    {taken : List Token}
    (leads : Leads grammar scope value taken) :
    ReadsAll grammar scope [value] taken := by
  intro separator closing following isClosing closes
  refine .inr (.last ?_ closes (leads.readsExpr (endsBefore_separator closes ?_ taken following)))
  · rcases isClosing with rfl | rfl <;> simp [closes]
  · rcases isClosing with rfl | rfl <;> simp

/-- An expression before a comma is added to a list. -/
theorem ReadsAll.more
    {first : Expr}
    {others : List Expr}
    {firstTaken othersTaken : List Token}
    {comma : Token}
    (isComma : comma.kind = .separator .comma)
    (notLast : others ≠ [])
    (leads : Leads grammar scope first firstTaken)
    (reads : ReadsAll grammar scope others othersTaken) :
    ReadsAll grammar scope (first :: others) (firstTaken ++ comma :: othersTaken) := by
  intro separator closing following isClosing closes
  rw [List.append_assoc, List.cons_append]
  rcases reads separator closing following isClosing closes with ⟨none, -⟩ | read
  · exact (notLast none).elim
  · exact .inr (.more isComma
      (leads.readsExpr (endsBefore_separator isComma (by simp) firstTaken _)) read)

end Readings

end Parser

section Derivations

open Scripting.Parser

variable {grammar : Grammar} {scope : Scope}

/-- No expression is derived from nothing. -/
theorem DerivesExpr.ne_nil
    {taken : List Token}
    {value : Expr}
    (derives : DerivesExpr value taken) :
    taken ≠ [] := by
  rintro rfl
  cases derives.startsAt

mutual

/-- The tokens of a canonical expression of visible variables lead on from it. -/
theorem DerivesExpr.leads
    {taken : List Token}
    {value : Expr} :
    DerivesExpr value taken → value.Canonical grammar → scope.layout.Shows value.reads →
    Leads grammar scope value taken
  | .node form starts, canonical, visible => form.leads starts canonical visible

/-- A canonical form is read from the tokens that derive it. -/
theorem ExprForm.leads
    {taken : List Token}
    {value : Expr} :
    ExprForm value taken → StartsAt taken value.position → value.Canonical grammar →
    scope.layout.Shows value.reads → Leads grammar scope value taken
  | .name, _, _, visible => leads_name visible
  | .literal, starts, _, _ => leads_literal starts
  | .null isNull, starts, _, _ => leads_null isNull starts
  | .template parts, starts, canonical, visible =>
      leads_template starts (parts.reads canonical visible)
  | .binary isOperator left right, _, canonical, visible => by
      obtain ⟨leftCanonical, rightCanonical, leftBinds, rightBinds⟩ := canonical
      obtain ⟨leftVisible, rightVisible⟩ := Layout.shows_append.mp visible
      exact .binary isOperator leftBinds rightBinds (left.leads leftCanonical leftVisible)
        (right.leads rightCanonical rightVisible) right.ne_nil
  | .call opens closes arguments, _, canonical, visible =>
      (arguments.reads canonical visible).call opens closes _
  | .list opens closes elements, starts, canonical, visible =>
      (elements.reads canonical visible).list opens closes starts
  | .paren opens closes inner, starts, canonical, visible =>
      (inner.leads canonical visible).paren opens closes starts

/-- Canonical expressions are read from the tokens that derive them. -/
theorem DerivesExprs.reads
    {taken : List Token}
    {values : List Expr} :
    DerivesExprs values taken → Expr.CanonicalAll grammar values →
    scope.layout.Shows (Expr.readsAll values) → ReadsAll grammar scope values taken
  | .nil, _, _ => fun _ _ _ _ _ => .inl ⟨rfl, rfl⟩
  | .last first, canonical, visible =>
      .one (first.leads canonical.1 (Layout.shows_append.mp visible).1)
  | .more isComma notLast first others, canonical, visible => by
      obtain ⟨firstVisible, othersVisible⟩ := Layout.shows_append.mp visible
      exact .more isComma notLast (first.leads canonical.1 firstVisible)
        (others.reads canonical.2 othersVisible)

/-- The parts of a template are read if their expressions are canonical. -/
theorem DerivesParts.reads
    {position : Position}
    {parts : List Part}
    {values : List Expr} :
    DerivesParts position values parts → Expr.CanonicalAll grammar values →
    scope.layout.Shows (Expr.readsAll values) →
    ReadsParts grammar scope position parts values
  | .nil, _, _ => .nil
  | .fragment others, canonical, visible =>
      .fragment (others.reads canonical.2 (Layout.shows_append.mp visible).2)
  | .interpolation first others, canonical, visible => by
      obtain ⟨firstVisible, othersVisible⟩ := Layout.shows_append.mp visible
      exact (first.leads canonical.1 firstVisible).readsParts first.ne_nil
        (others.reads canonical.2 othersVisible)

end

end Derivations

namespace Parser

/-- Tokens start with an expression exactly if the parser reads it from them. -/
theorem startsWith_iff
    {grammar : Grammar}
    {scope : Scope}
    {tokens following : List Token}
    {value : Expr} :
    StartsWith grammar scope tokens value following ↔
      ReadsExpr grammar scope tokens value following := by
  constructor
  · rintro ⟨taken, rfl, derives, canonical, visible, ends⟩
    exact (derives.leads canonical visible).readsExpr ends
  · exact ReadsExpr.startsWith

/-- The parser reads an expression from tokens exactly if they start with all that it is written
with, if it is canonical and its variables are visible, and if what comes next is neither an
operator nor a parenthesis that makes a call of its last name. -/
theorem expressions_are_parsed_exactly
    (grammar : Grammar)
    (scope : Scope)
    (tokens : List Token)
    (value : Expr)
    (following : List Token) :
    (∀ budget behind passed,
      expr budget grammar scope ⟨behind, tokens⟩ = .ok (value, ⟨passed, following⟩) →
      StartsWith grammar scope tokens value following) ∧
    (StartsWith grammar scope tokens value following →
      ∀ budget ≥ budgetFor tokens, ∀ behind, ∃ passed,
        expr budget grammar scope ⟨behind, tokens⟩ = .ok (value, ⟨passed, following⟩)) := by
  constructor
  · intro budget behind passed accepted
    exact ((acceptsExprs budget).expr accepted).startsWith
  · intro starts budget enough behind
    obtain ⟨passed, read⟩ := (startsWith_iff.mp starts).completes budget (by
      unfold budgetFor at enough
      omega)
    exact ⟨passed behind, read behind⟩

/-- A scope with three variables. -/
def threeVariables : Scope :=
  ["a", "b", "c"].foldl (fun scope name => scope.define name ⟨true, ⟨"main", 1, 1⟩⟩)
    (.empty "main")

/-- A chain of operators of every tier, with a call, a list, a template and parentheses. -/
def chainScript : String :=
  "a - b * c ^ 2 - 1 == f(a, [b, \"<\x7bc + a % 2\x7d>\"]) ... (a ... b) ^ c"

/-- Read an expression that ends with the text of a script. -/
def readWhole? (text : String) : Option (List Token × Expr × TokenCursor) :=
  match scan "main" text with
  | .error _ => none
  | .ok tokens =>
      match expr (budgetFor tokens) ⟨true, false⟩ threeVariables (.ofTokens tokens) with
      | .error _ => none
      | .ok (value, rest) => if rest.atEnd then some (tokens, value, rest) else none

/-- A chain of operators is read as the tree that starts with its tokens. -/
theorem chainScript_is_parsed :
    ∃ tokens value, scan "main" chainScript = .ok tokens ∧
      StartsWith ⟨true, false⟩ threeVariables tokens value [] ∧
      ∃ passed, expr (budgetFor tokens) ⟨true, false⟩ threeVariables ⟨[], tokens⟩ =
        .ok (value, ⟨passed, []⟩) := by
  have isRead : (readWhole? chainScript).isSome = true := by
    decide +kernel
  unfold readWhole? at isRead
  split at isRead
  · cases isRead
  · next tokens scanned =>
      split at isRead
      · cases isRead
      · next value rest accepted =>
          rcases rest with ⟨passed, _ | ⟨next, more⟩⟩
          · have starts := (expressions_are_parsed_exactly ⟨true, false⟩ threeVariables tokens value
              []).1 _ _ _ accepted
            exact ⟨tokens, value, scanned, starts,
              (expressions_are_parsed_exactly ⟨true, false⟩ threeVariables tokens value []).2 starts
                (budgetFor tokens) (Nat.le_refl _) []⟩
          · cases isRead

/-- A variable at the end of a line. -/
def lastName : Identifier := ⟨"a", ⟨"main", 2, 5⟩⟩

/-- A number in parentheses on the next line. -/
def nextLine : List Token :=
  [.mark (.separator .leftParen) "(" ⟨"main", 3, 1⟩,
    .literal "2" (.integer 2) ⟨"main", 3, 2⟩,
    .mark (.separator .rightParen) ")" ⟨"main", 3, 3⟩]

/-- A parenthesis is no operator, yet a variable is not read as an expression before one, not even
across lines: it is read as the function of a call. -/
theorem name_before_parenthesis_is_called :
    (Expr.name lastName).Canonical ⟨false, false⟩ ∧
    threeVariables.layout.Shows (Expr.name lastName).reads ∧
    DerivesExpr (.name lastName) [lastName.token] ∧
    (∀ operator, nextKind nextLine ≠ .operator operator) ∧
    (∀ budget behind passed,
      expr budget ⟨false, false⟩ threeVariables ⟨behind, [lastName.token] ++ nextLine⟩ ≠
        .ok (.name lastName, ⟨passed, nextLine⟩)) ∧
    ∃ passed,
      expr (budgetFor ([lastName.token] ++ nextLine)) ⟨false, false⟩ threeVariables
          ⟨[], [lastName.token] ++ nextLine⟩ =
        .ok (.call lastName [.literal "2" (.integer 2) ⟨"main", 3, 2⟩], ⟨passed, []⟩) := by
  refine ⟨trivial, ?_, .node .name rfl, ?_, ?_, ?_⟩
  · exact shows_name _ (by decide)
  · simp [nextLine, Token.kind]
  · intro budget behind passed accepted
    obtain ⟨taken, shape, -, -, -, ends⟩ := ((acceptsExprs budget).expr accepted).startsWith
    obtain rfl := List.append_cancel_right shape
    exact ends.notCalled lastName.token rfl rfl rfl
  · exact ⟨_, rfl⟩

end Parser

end Scripting
