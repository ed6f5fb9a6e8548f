namespace Scripting

/-!
# Programs with calls

A program looks at a state and changes it, and comes to a result or to a fault.  It may call tasks,
whose programs go on from its state, and it goes on with what a task has come to.  Nothing bounds
the calls.  A program ends if finitely many steps lead to its end.  No step can be refused, so that
a program without an end is one that calls over and over.
-/

/-- A program: what it does first, and how it goes on after that. -/
inductive Program (Task : Type) (Answer : Task → Type) (State Fault Result : Type) where
  | done (result : Result)
  | fail (fault : Fault)
  | look (next : State → Program Task Answer State Fault Result)
  | enter (state : State) (next : Program Task Answer State Fault Result)
  | call (task : Task)
      (next : Except Fault (Answer task) → Program Task Answer State Fault Result)

namespace Program

variable {Task : Type} {Answer : Task → Type} {State Fault First Result : Type}

/-- One program after another. -/
def bind (first : Program Task Answer State Fault First)
    (next : First → Program Task Answer State Fault Result) :
    Program Task Answer State Fault Result :=
  match first with
  | .done result => next result
  | .fail fault => .fail fault
  | .look others => .look fun state => (others state).bind next
  | .enter state others => .enter state (others.bind next)
  | .call task others => .call task fun answer => (others answer).bind next

instance : Monad (Program Task Answer State Fault) where
  pure := .done
  bind := .bind

instance : MonadStateOf State (Program Task Answer State Fault) where
  get := .look .done
  set state := .enter state (.done ⟨⟩)
  modifyGet change := .look fun state => .enter (change state).2 (.done (change state).1)

/-- A program that has come to its end. -/
def ofExcept : Except Fault Result → Program Task Answer State Fault Result
  | .ok result => .done result
  | .error fault => .fail fault

/-- Call a task, and fail if it fails. -/
def ask (task : Task) : Program Task Answer State Fault (Answer task) :=
  .call task ofExcept

/-- Call a task, and go on whatever it comes to. -/
def attempt (task : Task) : Program Task Answer State Fault (Except Fault (Answer task)) :=
  .call task .done

/-- A program with other faults. -/
def mapFault (change : Fault → Fault) :
    Program Task Answer State Fault Result → Program Task Answer State Fault Result
  | .done result => .done result
  | .fail fault => .fail (change fault)
  | .look next => .look fun state => (next state).mapFault change
  | .enter state next => .enter state (next.mapFault change)
  | .call task next => .call task fun answer => (next answer).mapFault change

/-- How programs end from a state, and in which state, where every task has a program. -/
inductive Ends (body : (task : Task) → Program Task Answer State Fault (Answer task)) :
    {Result : Type} → Program Task Answer State Fault Result → State →
      Except Fault Result → State → Prop where
  | done
      {Result : Type}
      {result : Result}
      {state : State} :
      Ends body (.done result) state (.ok result) state
  | fail
      {Result : Type}
      {fault : Fault}
      {state : State} :
      Ends body (.fail fault : Program Task Answer State Fault Result) state (.error fault) state
  | look
      {Result : Type}
      {next : State → Program Task Answer State Fault Result}
      {state final : State}
      {answer : Except Fault Result}
      (others : Ends body (next state) state answer final) :
      Ends body (.look next) state answer final
  | enter
      {Result : Type}
      {next : Program Task Answer State Fault Result}
      {state entered final : State}
      {answer : Except Fault Result}
      (others : Ends body next entered answer final) :
      Ends body (.enter entered next) state answer final
  | call
      {Result : Type}
      {task : Task}
      {next : Except Fault (Answer task) → Program Task Answer State Fault Result}
      {state between final : State}
      {reply : Except Fault (Answer task)}
      {answer : Except Fault Result}
      (inner : Ends body (body task) state reply between)
      (others : Ends body (next reply) between answer final) :
      Ends body (.call task next) state answer final

variable {body : (task : Task) → Program Task Answer State Fault (Answer task)}
  {state between final : State}

/-- A program has no two ends. -/
theorem Ends.unique
    {program : Program Task Answer State Fault Result}
    {answer otherAnswer : Except Fault Result}
    {otherFinal : State}
    (ends : Ends body program state answer final)
    (other : Ends body program state otherAnswer otherFinal) :
    answer = otherAnswer ∧ final = otherFinal := by
  induction ends generalizing otherFinal with
  | done =>
      cases other
      exact ⟨rfl, rfl⟩
  | fail =>
      cases other
      exact ⟨rfl, rfl⟩
  | look _ inductionHypothesis =>
      cases other with
      | look others => exact inductionHypothesis others
  | enter _ inductionHypothesis =>
      cases other with
      | enter others => exact inductionHypothesis others
  | call _ _ innerHypothesis othersHypothesis =>
      cases other with
      | call inner others =>
          obtain ⟨rfl, rfl⟩ := innerHypothesis inner
          exact othersHypothesis others

section Sequences

variable {first : Program Task Answer State Fault First}
  {next : First → Program Task Answer State Fault Result} {answer : Except Fault Result}

/-- A program that ends with a result goes on as what comes after it. -/
theorem ends_bind
    {result : First}
    (ends : Ends body first state (.ok result) between)
    (others : Ends body (next result) between answer final) :
    Ends body (first >>= next) state answer final := by
  generalize ended : Except.ok result = reply at ends
  induction ends with
  | done =>
      cases ended
      exact others
  | fail =>
      cases ended
  | look _ inductionHypothesis =>
      exact .look (inductionHypothesis others ended)
  | enter _ inductionHypothesis =>
      exact .enter (inductionHypothesis others ended)
  | call inner _ _ inductionHypothesis =>
      exact .call inner (inductionHypothesis others ended)

/-- A program that ends with an error does so before what comes after it. -/
theorem ends_bind_of_error
    {fault : Fault}
    (ends : Ends body first state (.error fault) final) :
    Ends body (first >>= next) state (.error fault) final := by
  generalize ended : Except.error fault = reply at ends
  induction ends with
  | done =>
      cases ended
  | fail =>
      cases ended
      exact .fail
  | look _ inductionHypothesis =>
      exact .look (inductionHypothesis ended)
  | enter _ inductionHypothesis =>
      exact .enter (inductionHypothesis ended)
  | call inner _ _ inductionHypothesis =>
      exact .call inner (inductionHypothesis ended)

/-- What comes after a look at the state. -/
theorem ends_get_bind
    {next : State → Program Task Answer State Fault Result}
    (others : Ends body (next state) state answer final) :
    Ends body (get >>= next) state answer final :=
  .look others

/-- What comes after a change of the state starts with the new one. -/
theorem ends_set_bind
    {next : PUnit → Program Task Answer State Fault Result}
    (others : Ends body (next ⟨⟩) between answer final) :
    Ends body (set between >>= next) state answer final :=
  .enter others

/-- Changing the errors of a program does not change how it ends otherwise. -/
theorem ends_mapFault
    {program : Program Task Answer State Fault Result}
    (ends : Ends body program state answer final)
    (change : Fault → Fault) :
    Ends body (program.mapFault change) state (answer.mapError change) final := by
  induction ends with
  | done =>
      exact .done
  | fail =>
      exact .fail
  | look _ inductionHypothesis =>
      exact .look inductionHypothesis
  | enter _ inductionHypothesis =>
      exact .enter inductionHypothesis
  | call inner _ _ inductionHypothesis =>
      exact .call inner inductionHypothesis

end Sequences

section Calls

variable {task : Task} {reply : Except Fault (Answer task)}

/-- An answer is given where it stands. -/
theorem ends_ofExcept (answer : Except Fault Result) :
    Ends body (ofExcept answer) state answer state := by
  cases answer with
  | ok result => exact .done
  | error fault => exact .fail

/-- A call ends as its body does. -/
theorem ends_ask (ends : Ends body (body task) state reply final) :
    Ends body (ask task) state reply final :=
  .call ends (ends_ofExcept reply)

/-- A task that is attempted comes to what it comes to where it is asked. -/
theorem ends_attempt (ends : Ends body (ask task) state reply final) :
    Ends body (attempt task) state (.ok reply) final := by
  cases ends with
  | call inner others =>
      obtain ⟨rfl, rfl⟩ := others.unique (ends_ofExcept _)
      exact .call inner .done

end Calls

end Program

end Scripting
