import Scripting.Proofs.Parser.Completeness
import Scripting.Proofs.Parser.Lawfulness
import Scripting.Tree.Walk

namespace Scripting

/-!
# Strict assignment

The strict grammar differs from the lenient one in a single rule: an assignment may not declare its
variable.  So each reads in the same way what the other reads, as long as no node of the tree, at
any depth, is an assignment that declares its variable.
-/

/-- Whether a node is an assignment that declares its variable. -/
def Node.assignsNew : Node → Bool
  | .statement (.assign defines _ _) => defines
  | _ => false

/-- Every node is entered by a walk. -/
def Node.everywhere : Node → Bool :=
  fun _ => true

@[simp] theorem Node.visit_everywhere (node : Node) (inside : List Node) :
    Node.visit Node.everywhere node inside = node :: inside :=
  rfl

namespace Grammar

/-- A grammar permits nodes unless it is strict and one of them is an assignment that declares its
variable. -/
def Permits (grammar : Grammar) (nodes : List Node) : Prop :=
  nodes.any Node.assignsNew = true → grammar.strict = false

@[simp] theorem permits_nil (grammar : Grammar) : grammar.Permits [] := by
  simp [Permits]

@[simp] theorem permits_cons
    {grammar : Grammar}
    {first : Node}
    {rest : List Node} :
    grammar.Permits (first :: rest) ↔
      (first.assignsNew = true → grammar.strict = false) ∧ grammar.Permits rest := by
  simp only [Permits, List.any_cons, Bool.or_eq_true, or_imp]

/-- A grammar permits nodes in a row if it permits all of them. -/
@[simp] theorem permits_append
    {grammar : Grammar}
    {first second : List Node} :
    grammar.Permits (first ++ second) ↔ grammar.Permits first ∧ grammar.Permits second := by
  simp only [Permits, List.any_append, Bool.or_eq_true, or_imp]

end Grammar

mutual

/-- Expressions contain no statements. -/
@[simp] theorem Expr.permits_walk (grammar : Grammar) :
    (value : Expr) → grammar.Permits (value.walk Node.everywhere)
  | .name _ => by simp [Expr.walk, Node.assignsNew]
  | .literal .. => by simp [Expr.walk, Node.assignsNew]
  | .null _ => by simp [Expr.walk, Node.assignsNew]
  | .template parts _ => by
      simpa [Expr.walk, Node.assignsNew] using Expr.permits_walkAll grammar parts
  | .binary _ left right => by
      simpa [Expr.walk, Node.assignsNew] using
        And.intro (Expr.permits_walk grammar left) (Expr.permits_walk grammar right)
  | .call _ arguments => by
      simpa [Expr.walk, Node.assignsNew, Identifier.node] using
        Expr.permits_walkAll grammar arguments
  | .list elements _ => by
      simpa [Expr.walk, Node.assignsNew] using Expr.permits_walkAll grammar elements
  | .paren inner _ => by
      simpa [Expr.walk, Node.assignsNew] using Expr.permits_walk grammar inner

/-- Expressions hold no assignments, and are permitted always. -/
@[simp] theorem Expr.permits_walkAll (grammar : Grammar) :
    (values : List Expr) → grammar.Permits (Expr.walkAll Node.everywhere values)
  | [] => by simp [Expr.walkAll]
  | first :: rest => by
      simpa [Expr.walkAll] using
        And.intro (Expr.permits_walk grammar first) (Expr.permits_walkAll grammar rest)

end

mutual

/-- The nodes of a statement that may stand where it does are permitted. -/
theorem Stmt.Allowed.permits
    {grammar : Grammar}
    {place : Parser.Place} :
    (statement : Stmt) → statement.Allowed grammar place →
      grammar.Permits (statement.walk Node.everywhere)
  | .expr value, _ => by
      simp [Stmt.walk, Node.assignsNew]
  | .declare .., _ => by
      simp [Stmt.walk, Node.assignsNew, Identifier.node]
  | .assign defines name value, allowed => by
      simpa [Stmt.walk, Stmt.Allowed, Node.assignsNew, Identifier.node] using allowed
  | .choice branches _, allowed => by
      simpa [Stmt.walk, Node.assignsNew] using Branch.AllowedAll.permits branches allowed
  | .forEach _ bound body _, allowed => by
      simpa [Stmt.walk, Node.assignsNew, Identifier.node] using
        Block.Allowed.permits body allowed
  | .whileLoop _ body _, allowed => by
      simpa [Stmt.walk, Node.assignsNew] using Block.Allowed.permits body allowed
  | .return none _, _ => by
      simp [Stmt.walk, Node.assignsNew]
  | .return (some value) _, _ => by
      simp [Stmt.walk, Node.assignsNew]
  | .control .., _ => by
      simp [Stmt.walk, Node.assignsNew]

/-- Statements that a grammar allows hold nothing that it does not permit. -/
theorem Stmt.AllowedAll.permits
    {grammar : Grammar}
    {place : Parser.Place} :
    (statements : List Stmt) → Stmt.AllowedAll grammar place statements →
      grammar.Permits (Stmt.walkAll Node.everywhere statements)
  | [], _ => by
      simp [Stmt.walkAll]
  | first :: rest, allowed => by
      simpa [Stmt.walkAll] using
        And.intro (Stmt.Allowed.permits first allowed.1) (Stmt.AllowedAll.permits rest allowed.2)

/-- Branches that a grammar allows hold nothing that it does not permit. -/
theorem Branch.AllowedAll.permits
    {grammar : Grammar}
    {place : Parser.Place} :
    (branches : List Branch) → Branch.AllowedAll grammar place branches →
      grammar.Permits (Branch.walkAll Node.everywhere branches)
  | [], _ => by
      simp [Branch.walkAll]
  | .mk _ body _ :: rest, allowed => by
      simpa [Branch.walkAll, Branch.walk, Node.assignsNew] using
        And.intro (Block.Allowed.permits body allowed.1)
          (Branch.AllowedAll.permits rest allowed.2)

/-- A block that a grammar allows holds nothing that it does not permit. -/
theorem Block.Allowed.permits
    {grammar : Grammar}
    {place : Parser.Place} :
    (body : Block) → body.Allowed grammar place →
      grammar.Permits (body.walk Node.everywhere)
  | .mk statements _ _, allowed => by
      simpa [Block.walk, Node.assignsNew] using Stmt.AllowedAll.permits statements allowed

end

/-- The nodes of an item that may stand where it does are permitted. -/
theorem Item.Allowed.permits
    {grammar : Grammar}
    {value : Item}
    (allowed : value.Allowed grammar) :
    grammar.Permits (value.walk Node.everywhere) := by
  cases value with
  | function declaration =>
      have noNames (names : List Identifier) : grammar.Permits (names.map Identifier.node) := by
        induction names with
        | nil => simp
        | cons first rest inductionHypothesis =>
            simpa [Identifier.node, Node.assignsNew] using inductionHypothesis
      simpa [Item.walk, Node.assignsNew, Identifier.node, noNames] using
        Block.Allowed.permits declaration.body allowed
  | type _ =>
      simp [Item.walk, Node.assignsNew, Identifier.node]
  | statement inner =>
      exact Stmt.Allowed.permits inner allowed

/-- The nodes of a file whose items may stand where they do are permitted. -/
theorem File.permits_walk
    {grammar : Grammar}
    {file : File}
    (allowed : ∀ item ∈ file.items, item.Allowed grammar) :
    grammar.Permits (file.walk Node.everywhere) := by
  rcases file with ⟨items, position⟩
  have itemsPermitted : grammar.Permits (items.flatMap (Item.walk Node.everywhere)) := by
    induction items with
    | nil => simp
    | cons first rest inductionHypothesis =>
        simp only [List.forall_mem_cons] at allowed
        simpa using And.intro allowed.1.permits (inductionHypothesis allowed.2)
  simpa [File.walk, Node.assignsNew] using itemsPermitted

namespace Parser

variable {grammar other : Grammar}

section Expressions

variable {scope : Scope}

/-- Grammars with the same tiers rank operators alike. -/
theorem rank_eq
    (sameTiers : other.tiered = grammar.tiered)
    (operator : Operator) :
    rank other operator = rank grammar operator := by
  simp only [rank, sameTiers]

mutual

/-- How expressions are read depends on the tiers of operators alone. -/
theorem ReadsExpr.regrade
    (sameTiers : other.tiered = grammar.tiered)
    {tokens rest : List Token}
    {value : Expr} :
    ReadsExpr grammar scope tokens value rest →
    ReadsExpr other scope tokens value rest
  | .chain left operation => .chain (left.regrade sameTiers) (operation.regrade sameTiers)

/-- Operations are read in any grammar with the same tiers. -/
theorem ReadsOperation.regrade
    (sameTiers : other.tiered = grammar.tiered)
    {bound : Nat}
    {left value : Expr}
    {tokens rest : List Token} :
    ReadsOperation grammar scope bound left tokens value rest →
    ReadsOperation other scope bound left tokens value rest
  | .stop loose =>
      .stop fun operator isNext => rank_eq sameTiers operator ▸ loose operator isNext
  | .extend isOperator tighter first right whole => by
      rw [← rank_eq sameTiers] at tighter
      have rightReads := (right.regrade sameTiers)
      rw [← rank_eq sameTiers] at rightReads
      exact .extend isOperator tighter (first.regrade sameTiers) rightReads
        (whole.regrade sameTiers)

/-- An operand is read in any grammar with the same tiers. -/
theorem ReadsOperand.regrade
    (sameTiers : other.tiered = grammar.tiered)
    {tokens rest : List Token}
    {value : Expr} :
    ReadsOperand grammar scope tokens value rest →
    ReadsOperand other scope tokens value rest
  | .literal => .literal
  | .template parts => .template (parts.regrade sameTiers)
  | .null => .null
  | .name noCall visible => .name noCall visible
  | .call opens call => .call opens (call.regrade sameTiers)
  | .paren closes inner => .paren closes (inner.regrade sameTiers)
  | .emptyList closes => .emptyList closes
  | .list notEmpty elements => .list notEmpty (elements.regrade sameTiers)

/-- A call is read in any grammar with the same tiers. -/
theorem ReadsCall.regrade
    (sameTiers : other.tiered = grammar.tiered)
    {function : Identifier}
    {tokens rest : List Token}
    {value : Expr} :
    ReadsCall grammar scope function tokens value rest →
    ReadsCall other scope function tokens value rest
  | .empty opens closes => .empty opens closes
  | .arguments opens notEmpty arguments => .arguments opens notEmpty (arguments.regrade sameTiers)

/-- A list of expressions is read in any grammar with the same tiers. -/
theorem ReadsExprList.regrade
    (sameTiers : other.tiered = grammar.tiered)
    {closing : Separator}
    {tokens rest : List Token}
    {values : List Expr} :
    ReadsExprList grammar scope closing tokens values rest →
    ReadsExprList other scope closing tokens values rest
  | .last noComma closes first => .last noComma closes (first.regrade sameTiers)
  | .more isComma first others => .more isComma (first.regrade sameTiers) (others.regrade sameTiers)

/-- The parts of a template are read in any grammar with the same tiers. -/
theorem ReadsParts.regrade
    (sameTiers : other.tiered = grammar.tiered)
    {position : Position}
    {parts : List Part}
    {values : List Expr} :
    ReadsParts grammar scope position parts values →
    ReadsParts other scope position parts values
  | .nil => .nil
  | .fragment others => .fragment (others.regrade sameTiers)
  | .interpolation first others =>
      .interpolation (first.regrade sameTiers) (others.regrade sameTiers)

end

/-- A condition is read in any grammar with the same tiers. -/
theorem ReadsCondition.regrade
    (sameTiers : other.tiered = grammar.tiered)
    {tokens rest : List Token}
    {value : Expr}
    (reads : ReadsCondition grammar scope tokens value rest) :
    ReadsCondition other scope tokens value rest := by
  cases reads with
  | mk opens closes inner =>
      exact .mk opens closes (inner.regrade sameTiers)

end Expressions

mutual

/-- A statement is read alike by a grammar with the same tiers that permits its nodes. -/
theorem ReadsStmt.regrade
    (sameTiers : other.tiered = grammar.tiered)
    {place : Place}
    {scope inside : Scope}
    {tokens rest : List Token}
    {value : Stmt} :
    ReadsStmt grammar place scope tokens value inside rest →
    other.Permits (value.walk Node.everywhere) →
    ReadsStmt other place scope tokens value inside rest
  | .declare isKeyword isSign new value, _ =>
      .declare isKeyword isSign new (value.regrade sameTiers)
  | .assignNew isSign _ new value, permitted => by
      have lenient : other.strict = false := by
        simp only [Stmt.walk, Node.visit_everywhere, Grammar.permits_cons] at permitted
        exact permitted.1 rfl
      exact .assignNew isSign lenient new (value.regrade sameTiers)
  | .assignOld isSign known mutable value, _ =>
      .assignOld isSign known mutable (value.regrade sameTiers)
  | .call opens call operation, _ =>
      .call opens (call.regrade sameTiers) (operation.regrade sameTiers)
  | .operate isOperator visible operation, _ =>
      .operate isOperator visible (operation.regrade sameTiers)
  | .choice isKeyword first others, permitted => by
      simp only [Stmt.walk, Branch.walkAll, Node.visit_everywhere, Grammar.permits_cons,
        Grammar.permits_append] at permitted
      obtain ⟨-, firstPermitted, othersPermitted⟩ := permitted
      exact .choice isKeyword (first.regrade sameTiers firstPermitted)
        (others.regrade sameTiers othersPermitted)
  | .forEach isKeyword iterable bound body, permitted => by
      simp only [Stmt.walk, Node.visit_everywhere, Grammar.permits_cons,
        Grammar.permits_append] at permitted
      obtain ⟨-, -, bodyPermitted⟩ := permitted
      exact .forEach isKeyword iterable (bound.regrade sameTiers)
        (body.regrade sameTiers bodyPermitted)
  | .whileLoop isKeyword test body, permitted => by
      simp only [Stmt.walk, Node.visit_everywhere, Grammar.permits_cons,
        Grammar.permits_append] at permitted
      obtain ⟨-, -, bodyPermitted⟩ := permitted
      exact .whileLoop isKeyword (test.regrade sameTiers)
        (body.regrade sameTiers bodyPermitted)
  | .returnNothing isKeyword allowed noValue, _ =>
      .returnNothing isKeyword allowed noValue
  | .returnValue isKeyword allowed hasValue value, _ =>
      .returnValue isKeyword allowed hasValue (value.regrade sameTiers)
  | .control isKeyword allowed, _ =>
      .control isKeyword allowed

/-- A branch is read in any grammar that permits what is in it. -/
theorem ReadsBranch.regrade
    (sameTiers : other.tiered = grammar.tiered)
    {place : Place}
    {scope : Scope}
    {position : Position}
    {context : String}
    {tokens rest : List Token}
    {value : Branch} :
    ReadsBranch grammar place scope position context tokens value rest →
    other.Permits (value.walk Node.everywhere) →
    ReadsBranch other place scope position context tokens value rest
  | .mk test body, permitted => by
      simp only [Branch.walk, Node.visit_everywhere, Grammar.permits_cons,
        Grammar.permits_append] at permitted
      obtain ⟨-, -, bodyPermitted⟩ := permitted
      exact .mk (test.regrade sameTiers) (body.regrade sameTiers bodyPermitted)

/-- Alternatives are read in any grammar that permits what is in them. -/
theorem ReadsAlternatives.regrade
    (sameTiers : other.tiered = grammar.tiered)
    {place : Place}
    {scope : Scope}
    {tokens rest : List Token}
    {values : List Branch} :
    ReadsAlternatives grammar place scope tokens values rest →
    other.Permits (Branch.walkAll Node.everywhere values) →
    ReadsAlternatives other place scope tokens values rest
  | .elseIf isKeyword next others, permitted => by
      simp only [Branch.walkAll, Grammar.permits_append] at permitted
      exact .elseIf isKeyword (next.regrade sameTiers permitted.1)
        (others.regrade sameTiers permitted.2)
  | .elseThenIf isElse isIf next others, permitted => by
      simp only [Branch.walkAll, Grammar.permits_append] at permitted
      exact .elseThenIf isElse isIf (next.regrade sameTiers permitted.1)
        (others.regrade sameTiers permitted.2)
  | .otherwise isElse noIf body, permitted => by
      simp only [Branch.walkAll, Branch.walk, Node.visit_everywhere, Grammar.permits_cons,
        Grammar.permits_append] at permitted
      obtain ⟨⟨-, -, bodyPermitted⟩, -⟩ := permitted
      exact .otherwise isElse noIf (body.regrade sameTiers bodyPermitted)
  | .none noElseIf noElse, _ =>
      .none noElseIf noElse

/-- A block is read in any grammar that permits what is in it. -/
theorem ReadsBlock.regrade
    (sameTiers : other.tiered = grammar.tiered)
    {place : Place}
    {scope : Scope}
    {tokens rest : List Token}
    {value : Block} :
    ReadsBlock grammar place scope tokens value rest →
    other.Permits (value.walk Node.everywhere) →
    ReadsBlock other place scope tokens value rest
  | .mk opens closes statements, permitted => by
      simp only [Block.walk, Node.visit_everywhere, Grammar.permits_cons] at permitted
      exact .mk opens closes (statements.regrade sameTiers permitted.2)

/-- Statements are read in any grammar that permits what is in them. -/
theorem ReadsStmts.regrade
    (sameTiers : other.tiered = grammar.tiered)
    {place : Place}
    {scope : Scope}
    {tokens rest : List Token}
    {values : List Stmt} :
    ReadsStmts grammar place scope tokens values rest →
    other.Permits (Stmt.walkAll Node.everywhere values) →
    ReadsStmts other place scope tokens values rest
  | .nil ends, _ =>
      .nil ends
  | .cons starts notEmpty first others, permitted => by
      simp only [Stmt.walkAll, Grammar.permits_append] at permitted
      exact .cons starts notEmpty (first.regrade sameTiers permitted.1)
        (others.regrade sameTiers permitted.2)

end

section Items

variable {known between final : Declarations} {tokens rest : List Token}

/-- An item is read in any grammar that permits what is in it, and declares the same. -/
theorem ReadsItem.regrade
    (sameTiers : other.tiered = grammar.tiered)
    {value : Item}
    (reads : ReadsItem grammar known tokens value between rest)
    (permitted : other.Permits (value.walk Node.everywhere)) :
    ReadsItem other known tokens value between rest := by
  cases reads with
  | function isKeyword new declares parameters body =>
      simp only [Item.walk, Node.visit_everywhere, Grammar.permits_cons, List.cons_append,
        Grammar.permits_append] at permitted
      obtain ⟨-, -, -, bodyPermitted⟩ := permitted
      exact .function isKeyword new declares parameters (body.regrade sameTiers bodyPermitted)
  | type isKeyword new =>
      exact .type isKeyword new
  | statement inner =>
      exact .statement (inner.regrade sameTiers permitted)

/-- Items are read alike by a grammar with the same tiers that permits their nodes. -/
theorem ReadsItems.regrade
    (sameTiers : other.tiered = grammar.tiered)
    {values : List Item}
    (reads : ReadsItems grammar known tokens values final)
    (permitted : other.Permits (values.flatMap (Item.walk Node.everywhere))) :
    ReadsItems other known tokens values final := by
  induction reads with
  | nil =>
      exact .nil
  | cons first _ inductionHypothesis =>
      simp only [List.flatMap_cons, Grammar.permits_append] at permitted
      exact .cons (first.regrade sameTiers permitted.1) (inductionHypothesis permitted.2)

end Items

end Parser

/-- What a grammar accepts is accepted, with the same outcome and the same declarations, by a
grammar with the same tiers that permits its nodes. -/
theorem parseTokens_regrade
    {grammar other : Grammar}
    {known : Declarations}
    {tokens : List Token}
    {file : File}
    (accepted : (parseTokens grammar known tokens).outcome = .ok file)
    (permitted : other.Permits (file.walk Node.everywhere))
    (sameTiers : other.tiered = grammar.tiered) :
    parseTokens other known tokens = parseTokens grammar known tokens := by
  obtain ⟨final, reads, -, -, resolved⟩ := parseTokens_eq_ok accepted
  simp only [File.walk, Node.visit_everywhere, Grammar.permits_cons] at permitted
  have otherReads := reads.regrade sameTiers permitted.2
  rw [parseTokens_of_reads reads resolved, parseTokens_of_reads otherReads resolved]

/-- The strict grammar is the lenient one without assignments that declare their variables.  It
accepts a file exactly if the lenient one accepts the same file, positions included, and no node of
it, at any depth, is such an assignment; and then both leave the same scope and functions. -/
theorem strict_grammar_forbids_only_new_assignments
    (tiered : Bool)
    (known : Declarations)
    (tokens : List Token)
    (file : File) :
    ((parseTokens ⟨tiered, true⟩ known tokens).outcome = .ok file ↔
        (parseTokens ⟨tiered, false⟩ known tokens).outcome = .ok file ∧
          ∀ node ∈ file.walk Node.everywhere, node.assignsNew = false) ∧
      ((parseTokens ⟨tiered, true⟩ known tokens).outcome = .ok file →
        (parseTokens ⟨tiered, true⟩ known tokens).scope =
            (parseTokens ⟨tiered, false⟩ known tokens).scope ∧
          (parseTokens ⟨tiered, true⟩ known tokens).functions =
            (parseTokens ⟨tiered, false⟩ known tokens).functions) := by
  have loosened
      (accepted : (parseTokens ⟨tiered, true⟩ known tokens).outcome = .ok file) :
      parseTokens ⟨tiered, false⟩ known tokens = parseTokens ⟨tiered, true⟩ known tokens := by
    have permitted : (⟨tiered, false⟩ : Grammar).Permits (file.walk Node.everywhere) :=
      fun _ => rfl
    exact parseTokens_regrade accepted permitted rfl
  refine ⟨⟨fun accepted => ?_, fun ⟨accepted, noneNew⟩ => ?_⟩, fun accepted => ?_⟩
  · have permitted : (⟨tiered, true⟩ : Grammar).Permits (file.walk Node.everywhere) :=
      File.permits_walk (accepted_file_is_lawful accepted).placement
    have noneNew : ∀ node ∈ file.walk Node.everywhere, node.assignsNew = false := by
      simpa [Grammar.Permits] using permitted
    rw [loosened accepted]
    exact ⟨accepted, noneNew⟩
  · have permitted : (⟨tiered, true⟩ : Grammar).Permits (file.walk Node.everywhere) := by
      simpa [Grammar.Permits] using noneNew
    rw [parseTokens_regrade accepted permitted rfl]
    exact accepted
  · rw [loosened accepted]
    exact ⟨rfl, rfl⟩

end Scripting
