import Scripting.Proofs.Parser.Stop
import Scripting.Proofs.Parser.Unbounded

namespace Scripting

/-!
# Programs of the parser beside its functions

A function of the parser leads from one cursor to another or to an error.  A program of the parser
follows it if it comes to the same result at the same place, or to the same error, and has moved its
index on.  Rules for sequences build such a pair from the pairs of its parts.
-/

namespace Parser.Unbounded

open Token

namespace Pointer

/-- An index that is not beyond the end moves on by a number of tokens at least, and again is not
beyond the end. -/
structure Moves (least : Nat) (pointer final : Pointer) : Prop where
  sameTokens : final.tokens = pointer.tokens
  forward : pointer.index + least ≤ final.index
  within : final.index ≤ final.tokens.length

namespace Moves

variable {least more : Nat} {pointer between final : Pointer}

/-- A pointer inside of its tokens has moved by none. -/
theorem refl (within : pointer.index ≤ pointer.tokens.length) : Moves 0 pointer pointer :=
  ⟨rfl, Nat.le_refl _, within⟩

/-- Moves in a row add up. -/
theorem trans
    (first : Moves least pointer between)
    (second : Moves more between final) :
    Moves (least + more) pointer final where
  sameTokens := second.sameTokens.trans first.sameTokens
  forward := by
    have := first.forward
    have := second.forward
    omega
  within := second.within

/-- Moves of many tokens are moves of fewer at least. -/
theorem weaken
    (moves : Moves least pointer final)
    (notMore : more ≤ least) :
    Moves more pointer final :=
  ⟨moves.sameTokens, by have := moves.forward; omega, moves.within⟩

end Moves

end Pointer

end Parser.Unbounded

/-- Tokens are no more than their size, which counts those of templates too. -/
theorem Token.length_le_sizeAll (tokens : List Token) : tokens.length ≤ sizeAll tokens := by
  induction tokens with
  | nil =>
      exact Nat.zero_le _
  | cons token tokens inductionHypothesis =>
      have := token.size_pos
      simp only [List.length_cons, sizeAll_cons]
      omega

namespace TokenCursor

open Token Parser.Unbounded

/-- The pointer that is where a cursor is. -/
def pointer (cursor : TokenCursor) : Pointer :=
  ⟨cursor.behind.reverse ++ cursor.ahead, cursor.behind.length⟩

@[simp] theorem cursor_pointer (cursor : TokenCursor) : cursor.pointer.cursor = cursor := by
  simp [pointer, Pointer.cursor]

/-- The pointer of a cursor is inside of its tokens. -/
theorem pointer_within (cursor : TokenCursor) :
    cursor.pointer.index ≤ cursor.pointer.tokens.length := by
  simp [pointer]

/-- The pointer of a cursor has moved by none. -/
theorem moves_refl (cursor : TokenCursor) : cursor.pointer.Moves 0 cursor.pointer :=
  .refl cursor.pointer_within

/-- What has been moved over is not ahead any more. -/
theorem fewer_of_moves
    {least : Nat}
    {cursor rest : TokenCursor}
    (moves : cursor.pointer.Moves least rest.pointer) :
    sizeAll rest.ahead + least ≤ sizeAll cursor.ahead := by
  obtain ⟨sameTokens, forward, -⟩ := moves
  simp only [pointer] at sameTokens forward
  obtain ⟨taken, behind, ahead⟩ | ⟨taken, behind, ahead⟩ :=
    List.append_eq_append_iff.mp sameTokens
  · -- The cursor would have moved backwards, or not at all.
    have lengths := congrArg List.length behind
    simp only [List.length_reverse, List.length_append] at lengths
    have nothing : taken = [] := List.length_eq_zero_iff.mp (by omega)
    rw [ahead, nothing, List.nil_append]
    omega
  · have lengths := congrArg List.length behind
    simp only [List.length_reverse, List.length_append] at lengths
    have := length_le_sizeAll taken
    rw [ahead, sizeAll_append]
    omega

end TokenCursor

namespace Parser.Unbounded

open Token Program

/-- A pointer inside of its tokens is that of its cursor. -/
theorem Pointer.pointer_cursor
    {pointer : Pointer}
    (within : pointer.index ≤ pointer.tokens.length) :
    pointer.cursor.pointer = pointer := by
  simp [cursor, TokenCursor.pointer, within]

variable {First Result Found FoundFirst : Type} {cursor rest : TokenCursor}
  {least total : Nat}

/-- An action comes to a result, and moves from one cursor to another. -/
structure Comes (least : Nat) (action : Action Result) (cursor : TokenCursor) (result : Result)
    (rest : TokenCursor) : Prop where
  ends : Ends body action cursor.pointer (.ok result) rest.pointer
  moves : cursor.pointer.Moves least rest.pointer

/-- An action does not move, and ends as a reading does. -/
def Stays (action : Action Result) (cursor : TokenCursor)
    (reading : Except SyntaxError Result) : Prop :=
  Ends body action cursor.pointer (reading.mapError .refused) cursor.pointer

/-- An action ends as a reading does: with the same result at the same place, or the same error
somewhere. -/
inductive Follows (shape : Result → TokenCursor → Found) (least : Nat) (action : Action Result)
    (cursor : TokenCursor) : Except SyntaxError Found → Prop where
  | ok
      {result : Result}
      {rest : TokenCursor}
      (comes : Comes least action cursor result rest) :
      Follows shape least action cursor (.ok (shape result rest))
  | error
      {error : SyntaxError}
      {final : Pointer}
      (ends : Ends body action cursor.pointer (.error (.refused error)) final)
      (moves : cursor.pointer.Moves 0 final) :
      Follows shape least action cursor (.error error)

section Steps

/-- A result comes without a move. -/
theorem comes_pure (result : Result) : Comes 0 (pure result) cursor result cursor :=
  ⟨.done, cursor.moves_refl⟩

/-- Looking at the cursor does not move it. -/
theorem comes_cursor : Comes 0 Unbounded.cursor cursor cursor cursor := by
  have ends : Ends body Unbounded.cursor cursor.pointer (.ok cursor.pointer.cursor)
      cursor.pointer :=
    ends_get_bind .done
  rw [TokenCursor.cursor_pointer] at ends
  exact ⟨ends, cursor.moves_refl⟩

/-- Tokens that are there are stepped over. -/
theorem comes_move (taken behind tokens : List Token) :
    Comes taken.length (move taken.length) ⟨behind, taken ++ tokens⟩ ⟨⟩
      ⟨taken.reverse ++ behind, tokens⟩ := by
  have lands :
      (⟨behind.reverse ++ (taken ++ tokens), behind.length + taken.length⟩ : Pointer) =
        TokenCursor.pointer ⟨taken.reverse ++ behind, tokens⟩ := by
    simp [TokenCursor.pointer, Nat.add_comm]
  refine ⟨lands ▸ .look (.enter .done), ?_, ?_, TokenCursor.pointer_within _⟩
  · simp [TokenCursor.pointer]
  · simp [TokenCursor.pointer, Nat.add_comm]

/-- A token that is there is stepped over. -/
theorem comes_skip (behind tokens : List Token) (token : Token) :
    Comes 1 (move 1) ⟨behind, token :: tokens⟩ ⟨⟩ ⟨token :: behind, tokens⟩ :=
  comes_move [token] behind tokens

/-- Less than the whole move may be asked for. -/
theorem Comes.weaken
    {action : Action Result}
    {result : Result}
    (comes : Comes total action cursor result rest)
    (notMore : least ≤ total) :
    Comes least action cursor result rest :=
  ⟨comes.ends, comes.moves.weaken notMore⟩

/-- What comes after an action has the rest of the move to make. -/
theorem Comes.after
    {first : Action First}
    {next : First → Action Result}
    {result : First}
    {final : Result}
    {between : TokenCursor}
    (comes : Comes least first cursor result between)
    (others : Comes (total - least) (next result) between final rest) :
    Comes total (first >>= next) cursor final rest where
  ends := ends_bind comes.ends others.ends
  moves := (comes.moves.trans others.moves).weaken (by omega)

/-- A token that is as expected is taken, so that no error is there to discard. -/
theorem comes_take
    {fault : SyntaxError → Halt}
    {expected : Expectation}
    {token : Token}
    (accepted : expected.accepts token.kind = true)
    (behind tokens : List Token)
    (context : String) :
    Comes 1 (take fault expected context) ⟨behind, token :: tokens⟩ token
      ⟨token :: behind, tokens⟩ := by
  refine comes_cursor.after ?_
  simp only [TokenCursor.expect, accepted, if_true]
  exact (comes_skip behind tokens token).after (comes_pure token)

/-- A token of a kind is stepped over. -/
theorem comes_got
    {kind : TokenKind}
    (accepted : cursor.accept? kind = some rest) :
    Comes 1 (got kind) cursor true rest := by
  refine comes_cursor.after ?_
  simp only [accepted]
  rcases cursor with ⟨behind, _ | ⟨token, tokens⟩⟩
  · cases accepted
  · simp only [TokenCursor.accept?] at accepted
    split at accepted
    · cases accepted
      exact (comes_skip behind tokens token).after (comes_pure true)
    · cases accepted

/-- A token of another kind is not stepped over. -/
theorem comes_got_false
    {kind : TokenKind}
    (refused : cursor.accept? kind = none) :
    Comes 0 (got kind) cursor false cursor := by
  refine comes_cursor.after ?_
  simp only [refused]
  exact comes_pure false

/-- A check does not move. -/
theorem stays_check (reading : Except SyntaxError Result) :
    Stays (check reading) cursor reading := by
  cases reading with
  | ok result => exact .done
  | error error => exact .fail

/-- Checks in a row do not move. -/
theorem Stays.bind
    {first : Action First}
    {next : First → Action Result}
    {reading : Except SyntaxError First}
    {nextReading : First → Except SyntaxError Result}
    (stays : Stays first cursor reading)
    (others : ∀ result, Stays (next result) cursor (nextReading result)) :
    Stays (first >>= next) cursor (reading >>= nextReading) := by
  cases reading with
  | ok result =>
      exact ends_bind stays (others result)
  | error error =>
      exact ends_bind_of_error stays

/-- The parser of an interpolation is over when the one inside is. -/
theorem ends_interpolation
    {grammar : Grammar}
    {scope : Scope}
    {tokens : List Token}
    {answer : Except Halt Expr}
    {final around : Pointer}
    (inner : Ends body (expr grammar scope) (.ofTokens tokens) answer final)
    (position : Position) :
    Ends body (interpolation grammar scope position tokens) around
      (ofInterpolation position final answer) around :=
  ends_get_bind (ends_set_bind (ends_bind (ends_attempt inner)
    (ends_get_bind (ends_set_bind (ends_ofExcept _)))))

/-- The end of an interpolation is looked at by the template around it. -/
theorem ofInterpolation_ok (position : Position) (value : Expr) (rest : TokenCursor) :
    ofInterpolation position rest.pointer (.ok value) =
      (inTemplate position (do
        endOfInterpolation rest
        .ok value)).mapError .refused := by
  simp only [ofInterpolation, TokenCursor.cursor_pointer]
  cases endOfInterpolation rest <;> rfl

end Steps

namespace Follows

variable {shape : Result → TokenCursor → Found} {shapeFirst : First → TokenCursor → FoundFirst}
  {first : Action First} {next : First → Action Result} {action : Action Result}

/-- Less than the whole move may be asked for. -/
theorem weaken
    {reading : Except SyntaxError Found}
    (follows : Follows shape total action cursor reading)
    (notMore : least ≤ total) :
    Follows shape least action cursor reading := by
  cases follows with
  | ok comes =>
      exact .ok (comes.weaken notMore)
  | error ends moves =>
      exact .error ends moves

/-- After an action has come to a result, the rest is read from where it has moved. -/
theorem after
    {result : First}
    {reading : Except SyntaxError Found}
    (comes : Comes least first cursor result rest)
    (others : Follows shape (total - least) (next result) rest reading) :
    Follows shape total (first >>= next) cursor reading := by
  cases others with
  | ok further =>
      exact .ok (comes.after further)
  | error ends moves =>
      exact .error (ends_bind comes.ends ends)
        ((comes.moves.trans moves).weaken (Nat.zero_le _))

/-- A call follows a reading if its body does. -/
theorem ask
    {task : Task}
    {shape : task.Answer → TokenCursor → Found}
    {reading : Except SyntaxError Found}
    (follows : Follows shape least (body task) cursor reading) :
    Follows shape least (.ask task) cursor reading := by
  cases follows with
  | ok comes =>
      exact .ok ⟨ends_ask comes.ends, comes.moves⟩
  | error ends moves =>
      exact .error (ends_ask ends) moves

/-- What is read after a reading has fewer tokens. -/
theorem bind
    {reading : Except SyntaxError FoundFirst}
    {nextReading : FoundFirst → Except SyntaxError Found}
    (follows : Follows shapeFirst least first cursor reading)
    (others :
      ∀ result rest, sizeAll rest.ahead + least ≤ sizeAll cursor.ahead →
        Follows shape (total - least) (next result) rest (nextReading (shapeFirst result rest))) :
    Follows shape total (first >>= next) cursor (reading >>= nextReading) := by
  cases follows with
  | ok comes =>
      exact .after comes (others _ _ (TokenCursor.fewer_of_moves comes.moves))
  | error ends moves =>
      exact .error (ends_bind_of_error ends) moves

/-- What is read after a reading that does not move is read at the same place. -/
theorem still
    {reading : Except SyntaxError First}
    {nextReading : First → Except SyntaxError Found}
    (stays : Stays first cursor reading)
    (others : ∀ result, Follows shape total (next result) cursor (nextReading result)) :
    Follows shape total (first >>= next) cursor (reading >>= nextReading) := by
  cases reading with
  | ok result =>
      have comes : Comes 0 first cursor result cursor := ⟨stays, cursor.moves_refl⟩
      exact .after comes (others result)
  | error error =>
      exact .error (ends_bind_of_error stays) cursor.moves_refl

/-- An action that follows a reading is over, and has moved on. -/
theorem ended
    {reading : Except SyntaxError Found}
    (follows : Follows shape least action cursor reading) :
    ∃ (answer : Except SyntaxError Result) (final : Pointer),
      Ends body action cursor.pointer (answer.mapError .refused) final ∧
      cursor.pointer.Moves 0 final ∧
      ∀ result, answer = .ok result → cursor.pointer.Moves least final := by
  cases follows with
  | @ok result rest comes =>
      exact ⟨.ok result, rest.pointer, comes.ends, comes.moves.weaken (Nat.zero_le _),
        fun _ _ => comes.moves⟩
  | @error error final ends moves =>
      exact ⟨.error error, final, ends, moves, nofun⟩

/-- What an action comes to is what the reading comes to that it follows. -/
theorem reading_eq
    {reading : Except SyntaxError Found}
    {answer : Except SyntaxError Result}
    {final : Pointer}
    (follows : Follows shape least action cursor reading)
    (ended : Ends body action cursor.pointer (answer.mapError .refused) final) :
    reading = answer.map (shape · final.cursor) := by
  cases follows with
  | ok comes =>
      obtain ⟨sameAnswer, rfl⟩ := comes.ends.unique ended
      cases answer <;> cases sameAnswer
      rw [TokenCursor.cursor_pointer]
      rfl
  | error ends moves =>
      obtain ⟨sameAnswer, rfl⟩ := ends.unique ended
      cases answer <;> cases sameAnswer
      rfl

/-- A result follows itself. -/
theorem pure (result : Result) :
    Follows shape 0 (Pure.pure result) cursor (.ok (shape result cursor)) :=
  .ok (comes_pure result)

/-- An error follows itself. -/
theorem refused (error : SyntaxError) :
    Follows shape least (check (.error error)) cursor (.error error) :=
  .error .fail cursor.moves_refl

/-- An error is enclosed in a construct. -/
theorem inside
    {reading : Except SyntaxError Found}
    (follows : Follows shape least action cursor reading)
    (position : Position)
    (enclosure : Enclosure) :
    Follows shape least
      (action.mapFault (Halt.inside position enclosure)) cursor
      (reading.mapError (.inside position enclosure)) := by
  cases follows with
  | ok comes =>
      exact .ok ⟨ends_mapFault comes.ends _, comes.moves⟩
  | error ends moves =>
      exact .error (ends_mapFault ends _) moves

/-- A check that takes no tokens. -/
theorem checked (reading : Except SyntaxError Result) :
    Follows shape 0 (check reading) cursor
      (reading >>= fun result => .ok (shape result cursor)) := by
  cases reading with
  | ok result =>
      exact .pure result
  | error error =>
      exact .refused error

/-- No token is left to be taken. -/
theorem atEnd
    {behind : List Token}
    {next : Token → Action Result}
    (expected : Expectation)
    (context : String) :
    Follows shape least (take .refused expected context >>= next) ⟨behind, []⟩
      (.error (.unexpected (TokenCursor.position ⟨behind, []⟩) expected none context)) := by
  refine .error (ends_bind_of_error ?_) (TokenCursor.moves_refl _)
  exact ends_bind comes_cursor.ends .fail

/-- The next token is stepped over if it is of a kind. -/
theorem got
    {kind : TokenKind}
    {next : Bool → Action Result}
    {reading : Except SyntaxError Found}
    (accepts :
      ∀ rest, cursor.accept? kind = some rest →
        sizeAll rest.ahead + 1 ≤ sizeAll cursor.ahead →
        Follows shape (total - 1) (next true) rest reading)
    (refuses : cursor.accept? kind = none → Follows shape total (next false) cursor reading) :
    Follows shape total (Unbounded.got kind >>= next) cursor reading := by
  cases accepted : cursor.accept? kind with
  | none =>
      exact .after (comes_got_false accepted) (refuses accepted)
  | some rest =>
      have comes := comes_got accepted
      exact .after comes (accepts rest accepted (TokenCursor.fewer_of_moves comes.moves))

end Follows

section Tokens

/-- Taking a token moves by one, or is refused alike. -/
theorem follows_take (expected : Expectation) (context : String) :
    Follows Prod.mk 1 (take .refused expected context) cursor
      (cursor.expect expected context) := by
  rcases cursor with ⟨behind, _ | ⟨token, tokens⟩⟩
  · refine .after comes_cursor ?_
    exact .error .fail (TokenCursor.moves_refl _)
  · cases accepted : expected.accepts token.kind with
    | true =>
        simp only [TokenCursor.expect, accepted, if_true]
        exact .ok (comes_take accepted behind tokens context)
    | false =>
        refine .after comes_cursor ?_
        simp only [TokenCursor.expect, accepted, Bool.false_eq_true, if_false]
        exact .error .fail (TokenCursor.moves_refl _)

/-- A wanted token is taken by both, or refused by both. -/
theorem follows_want (kind : TokenKind) (context : String) :
    Follows Prod.mk 1 (want kind context) cursor (cursor.want kind context) :=
  follows_take _ context

/-- A name is taken by both, or refused by both. -/
theorem follows_name (context : String) :
    Follows Prod.mk 1 (name context) cursor (Parser.name cursor context) :=
  (follows_want .name context).bind fun token _ _ => .pure (identifierOf token)

end Tokens

end Parser.Unbounded

end Scripting
