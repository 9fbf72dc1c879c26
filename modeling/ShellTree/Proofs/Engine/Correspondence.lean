import ShellTree.Engine.Evaluation
import ShellTree.Proofs.Arithmetic.Operand

/-!
# Correspondence of two engines

Evaluation is put together from few actions: pure results, failures, reading and
binding variables, warnings, scopes, captured output and calls of programs.  A
correspondence relates the actions of two engines, and each of these ways of making an
action keeps it.  Then the two engines correspond on every tree.

What may happen to a shell depends on the place.  Expansion binds nothing but
variables that are counted up or down, a call may do more inside of its scope, and
the statements of a substitution have a scope and an output of their own.  So there
is one relation for each place.  Words look at what their parts give; of a statement
only the status is left, and nothing that is executed looks at it.  So calls and
statements may correspond even where their statuses differ.
-/

namespace ShellTree

abbrev ActionRelation (ε ε' : Type) :=
  {α : Type} → Action ε α → Action ε' α → Prop

/-- A relation that pure results, failures and sequences keep. -/
structure ActionRelation.Closed {ε ε' : Type} (related : ActionRelation ε ε') : Prop where
  pure {α : Type} (value : α) : related (Pure.pure value) (Pure.pure value)
  fail {α : Type} (failure : Failure) : related (α := α) (throw failure) (throw failure)
  bind {α β : Type} {first : Action ε α} {first' : Action ε' α} {next : α → Action ε β}
      {next' : α → Action ε' β} (agree : related first first')
      (agree' : ∀ value, related (next value) (next' value)) :
      related (first >>= next) (first' >>= next')

namespace ActionRelation.Closed

variable {ε ε' : Type} {related : ActionRelation ε ε'}

theorem ofExcept (closed : Closed related) {α : Type} (result : Except Failure α) :
    related (Action.ofExcept result) (Action.ofExcept result) := by
  cases result with
  | ok value => exact closed.pure value
  | error failure => exact closed.fail failure

end ActionRelation.Closed

/-- A relation that pure results, failures, changed results and actions one after the other keep,
where the later action does not look at what the earlier one gives. -/
structure ActionRelation.Sequential {ε ε' : Type} (related : ActionRelation ε ε') : Prop where
  pure {α : Type} (value : α) : related (Pure.pure value) (Pure.pure value)
  fail {α : Type} (failure : Failure) : related (α := α) (throw failure) (throw failure)
  change {α β : Type} {action : Action ε α} {action' : Action ε' α} (agree : related action action')
      (next : α → β) :
      related (action >>= fun value => Pure.pure (next value))
        (action' >>= fun value => Pure.pure (next value))
  andThen {α β : Type} {first : Action ε α} {first' : Action ε' α} {next : Action ε β}
      {next' : Action ε' β} (agree : related first first') (agree' : related next next') :
      related (first >>= fun _ => next) (first' >>= fun _ => next')

theorem ActionRelation.Closed.sequential {ε ε' : Type} {related : ActionRelation ε ε'}
    (closed : Closed related) : Sequential related where
  pure := closed.pure
  fail := closed.fail
  change agree _ := closed.bind agree fun _ => closed.pure _
  andThen agree agree' := closed.bind agree fun _ => agree'

theorem ActionRelation.closed_eq {ε : Type} :
    Closed (fun action action' => action = action' : ActionRelation ε ε) where
  pure _ := rfl
  fail _ := rfl
  bind agree agree' := by
    rw [agree]
    exact congrArg _ (funext agree')

namespace Engine

variable {ε ε' : Type} [Store ε] [Store ε']

/-- Two engines correspond through relations between their actions: in a word, inside the scope
of a call, and in a statement. -/
structure Correspondence (engine : Engine ε) (engine' : Engine ε')
    (inWord inCall inStatement : ActionRelation ε ε') : Prop where
  sliceMode : engine.options.sliceMode = engine'.options.sliceMode
  wordClosed : ActionRelation.Closed inWord
  callSequential : ActionRelation.Sequential inCall
  statementSequential : ActionRelation.Sequential inStatement
  /-- Expansion sees of a store only the values of names. -/
  read {α : Type} {next : ε → Action ε α} {next' : ε' → Action ε' α}
    (agree : ∀ store store', Store.get? store = Store.get? store' →
      inWord (next store) (next' store')) :
    inWord (Action.store >>= next) (Action.store >>= next')
  count (name : String) (number : Int64) (identifier : isIdentifier name.toList = true) :
    inWord (Action.set name (Decimal.text number.toInt))
      (Action.set name (Decimal.text number.toInt))
  capture {body : Action ε Unit} {body' : Action ε' Unit} (agree : inStatement body body') :
    inWord (Action.captured (Action.inScope body)) (Action.captured (Action.inScope body'))
  afterWord {α β : Type} {word : Action ε α} {word' : Action ε' α} {next : α → Action ε β}
    {next' : α → Action ε' β} (agree : inWord word word')
    (agree' : ∀ value, inCall (next value) (next' value)) :
    inCall (word >>= next) (word' >>= next')
  set (name value : String) : inCall (Action.set name value) (Action.set name value)
  invoke (arguments : List String) : inCall (engine.invoke arguments) (engine'.invoke arguments)
  warn (warning : Warning) : inStatement (Action.warn warning) (Action.warn warning)
  scope {α : Type} {action : Action ε α} {action' : Action ε' α}
    (agree : inCall action action') : inStatement (Action.inScope action) (Action.inScope action')

end Engine

namespace Store

variable {ε ε' : Type} [Store ε] [Store ε'] {store : ε} {store' : ε'}

theorem get_congr (same : get? store = get? store') : get store = get store' := by
  funext name
  exact get_congr_at (congrFun same name)

theorem lacks_congr_at {name : String} (same : get? store name = get? store' name)
    (checkEmpty : Bool) : lacks store name checkEmpty = lacks store' name checkEmpty := by
  rw [lacks, lacks, same]

theorem lacks_congr (same : get? store = get? store') : lacks store = lacks store' := by
  funext name checkEmpty
  exact lacks_congr_at (congrFun same name) checkEmpty

end Store

theorem Operand.resolve_congr {ε ε' : Type} [Store ε] [Store ε'] {store : ε} {store' : ε'}
    (same : Store.get? store = Store.get? store') :
    Operand.resolve store = Operand.resolve store' := by
  funext text
  exact resolve_congr_name? fun name _ => congrFun same name

/-- A variable that an operand names has an identifier as its name. -/
theorem Operand.isIdentifier_of_resolve {ε : Type} [Store ε] {store : ε} {text name : String}
    {value : Int64} (resolved : Operand.resolve store text = .ok (.named name value)) :
    isIdentifier name.toList = true := by
  have named := name?_of_resolve resolved
  unfold name? at named
  split at named
  · next identifier =>
      rw [← Option.some.inj named, String.toList_ofList]
      exact identifier
  · cases named

namespace Engine.Correspondence

variable {ε ε' : Type} [Store ε] [Store ε'] {engine : Engine ε} {engine' : Engine ε'}
  {inWord inCall inStatement : ActionRelation ε ε'}

theorem indirect_congr {store : ε} {store' : ε'} (same : Store.get? store = Store.get? store') :
    indirect store = indirect store' := by
  funext name
  simp only [indirect, same, Store.get_congr same]

/-- Counting a variable corresponds: the operand stands for the same on both sides, and only
an identifier is bound. -/
theorem update (correspondence : Correspondence engine engine' inWord inCall inStatement)
    (operator : UnaryOperator) (isPostfix : Bool) (text : String) :
    inWord (Engine.update (ε := ε) operator isPostfix text)
      (Engine.update (ε := ε') operator isPostfix text) := by
  unfold Engine.update
  refine correspondence.read fun store store' same => ?_
  rw [← Operand.resolve_congr same]
  cases resolved : Operand.resolve store text with
  | error failure => exact correspondence.wordClosed.fail failure
  | ok operand =>
      cases operand with
      | literal value => exact correspondence.wordClosed.fail _
      | named name old =>
          have bound := correspondence.count name (operator.apply old)
            (Operand.isIdentifier_of_resolve resolved)
          have counted := correspondence.wordClosed.bind bound fun _ =>
            correspondence.wordClosed.pure (if isPostfix then old else operator.apply old)
          exact counted

mutual

theorem expandPart (correspondence : Correspondence engine engine' inWord inCall inStatement) :
    ∀ part : Part, inWord (engine.expandPart part) (engine'.expandPart part)
  | .literal value => by
      simp only [Engine.expandPart]
      exact correspondence.wordClosed.pure value
  | .singleQuoted value => by
      simp only [Engine.expandPart]
      exact correspondence.wordClosed.pure value
  | .doubleQuoted parts => by
      simp only [Engine.expandPart]
      exact expandWord correspondence parts
  | .parameter name none => by
      simp only [Engine.expandPart]
      refine correspondence.read fun store store' same => ?_
      rw [Store.get_congr same]
      exact correspondence.wordClosed.pure _
  | .parameter name (some operation) => by
      simp only [Engine.expandPart]
      exact expandOperation correspondence name operation
  | .arithmetic expression => by
      simp only [Engine.expandPart]
      exact correspondence.wordClosed.bind (evaluate correspondence expression)
        fun _ => correspondence.wordClosed.pure _
  | .substitution body => by
      simp only [Engine.expandPart]
      exact correspondence.wordClosed.bind (correspondence.capture (executeAll correspondence body))
        fun _ => correspondence.wordClosed.pure _
  | .brace _ => by
      simp only [Engine.expandPart]
      exact correspondence.wordClosed.fail _
  | .extGlob .. => by
      simp only [Engine.expandPart]
      exact correspondence.wordClosed.fail _
  | .process .. => by
      simp only [Engine.expandPart]
      exact correspondence.wordClosed.fail _

theorem expandWord (correspondence : Correspondence engine engine' inWord inCall inStatement) :
    ∀ word : List Part, inWord (engine.expandWord word) (engine'.expandWord word)
  | [] => by
      simp only [Engine.expandWord]
      exact correspondence.wordClosed.pure _
  | part :: rest => by
      simp only [Engine.expandWord]
      exact correspondence.wordClosed.bind (expandPart correspondence part) fun _ =>
        correspondence.wordClosed.bind (expandWord correspondence rest) fun _ =>
          correspondence.wordClosed.pure _

theorem expandWords (correspondence : Correspondence engine engine' inWord inCall inStatement) :
    ∀ words : List (List Part),
      inWord (engine.expandWords words) (engine'.expandWords words)
  | [] => by
      simp only [Engine.expandWords]
      exact correspondence.wordClosed.pure _
  | word :: rest => by
      simp only [Engine.expandWords]
      exact correspondence.wordClosed.bind (expandWord correspondence word) fun _ =>
        correspondence.wordClosed.bind (expandWords correspondence rest) fun _ =>
          correspondence.wordClosed.pure _

theorem expandOperation (correspondence : Correspondence engine engine' inWord inCall inStatement)
    (name : String) :
    ∀ operation : Operation,
      inWord (engine.expandOperation name operation)
        (engine'.expandOperation name operation)
  | .length => by
      simp only [Engine.expandOperation]
      refine correspondence.read fun store store' same => ?_
      rw [Store.get_congr same]
      exact correspondence.wordClosed.pure _
  | .indirect => by
      simp only [Engine.expandOperation]
      refine correspondence.read fun store store' same => ?_
      rw [indirect_congr same]
      exact correspondence.wordClosed.ofExcept _
  | .slice offset none => by
      simp only [Engine.expandOperation]
      refine correspondence.read fun store store' same => ?_
      rw [Store.get_congr same, correspondence.sliceMode]
      exact correspondence.wordClosed.bind (evaluate correspondence offset) fun _ =>
        correspondence.wordClosed.ofExcept _
  | .slice offset (some bound) => by
      simp only [Engine.expandOperation]
      refine correspondence.read fun store store' same => ?_
      rw [Store.get_congr same, correspondence.sliceMode]
      exact correspondence.wordClosed.bind (evaluate correspondence offset) fun _ =>
        correspondence.wordClosed.bind (evaluate correspondence bound) fun _ =>
          correspondence.wordClosed.ofExcept _
  | .replace pattern replacement all => by
      simp only [Engine.expandOperation]
      refine correspondence.read fun store store' same => ?_
      rw [Store.get_congr same]
      exact correspondence.wordClosed.bind (expandWord correspondence pattern) fun _ =>
        correspondence.wordClosed.bind (expandWord correspondence replacement) fun _ =>
          correspondence.wordClosed.pure _
  | .default word checkEmpty => by
      simp only [Engine.expandOperation]
      refine correspondence.read fun store store' same => ?_
      rw [Store.lacks_congr same, Store.get_congr same]
      split
      · exact expandWord correspondence word
      · exact correspondence.wordClosed.pure _
  | .alternate word checkEmpty => by
      simp only [Engine.expandOperation]
      refine correspondence.read fun store store' same => ?_
      rw [Store.lacks_congr same]
      split
      · exact correspondence.wordClosed.pure _
      · exact expandWord correspondence word
  | .modifyCase direction all => by
      simp only [Engine.expandOperation]
      refine correspondence.read fun store store' same => ?_
      rw [Store.get_congr same]
      exact correspondence.wordClosed.pure _
  | .width => by
      simp only [Engine.expandOperation]
      exact correspondence.wordClosed.fail _
  | .index _ => by
      simp only [Engine.expandOperation]
      exact correspondence.wordClosed.fail _

theorem evaluate (correspondence : Correspondence engine engine' inWord inCall inStatement) :
    ∀ expression : Arith,
      inWord (engine.evaluate expression) (engine'.evaluate expression)
  | .word parts => by
      simp only [Engine.evaluate]
      refine correspondence.wordClosed.bind (expandWord correspondence parts) fun text => ?_
      refine correspondence.read fun store store' same => ?_
      rw [Operand.resolve_congr same]
      exact correspondence.wordClosed.bind (correspondence.wordClosed.ofExcept _) fun _ =>
        correspondence.wordClosed.pure _
  | .paren expression => by
      simp only [Engine.evaluate]
      exact evaluate correspondence expression
  | .unary operator operand isPostfix => by
      simp only [Engine.evaluate]
      split
      · exact updateOperand correspondence operator isPostfix operand
      · exact correspondence.wordClosed.bind (evaluate correspondence operand) fun _ =>
          correspondence.wordClosed.pure _
  | .binary operator left right => by
      simp only [Engine.evaluate]
      refine correspondence.wordClosed.bind (evaluate correspondence left) fun first => ?_
      split
      · exact correspondence.wordClosed.pure _
      · exact correspondence.wordClosed.bind (evaluate correspondence right) fun _ =>
          correspondence.wordClosed.ofExcept _

theorem updateOperand (correspondence : Correspondence engine engine' inWord inCall inStatement)
    (operator : UnaryOperator) (isPostfix : Bool) :
    ∀ operand : Arith, inWord (engine.updateOperand operator isPostfix operand)
      (engine'.updateOperand operator isPostfix operand)
  | .word parts => by
      simp only [Engine.updateOperand]
      exact correspondence.wordClosed.bind (expandWord correspondence parts)
        (update correspondence operator isPostfix)
  | .paren _ | .unary .. | .binary .. => by
      simp only [Engine.updateOperand]
      exact correspondence.wordClosed.fail _

theorem assign (correspondence : Correspondence engine engine' inWord inCall inStatement) :
    ∀ assignments : List Assignment,
      inCall (engine.assign assignments) (engine'.assign assignments)
  | [] => by
      simp only [Engine.assign]
      exact correspondence.callSequential.pure ()
  | ⟨name, word⟩ :: rest => by
      simp only [Engine.assign]
      exact correspondence.afterWord (expandWord correspondence word) fun _ =>
        correspondence.callSequential.andThen (correspondence.set name _)
          (assign correspondence rest)

theorem execute (correspondence : Correspondence engine engine' inWord inCall inStatement) :
    ∀ statement : Statement,
      inStatement (engine.execute statement) (engine'.execute statement)
  | ⟨none, _, _, _, _⟩ => by
      simp only [Engine.execute]
      exact correspondence.statementSequential.pure 0
  | ⟨some command, negated, background, coprocess, redirections⟩ => by
      simp only [Engine.execute]
      split
      · exact correspondence.statementSequential.andThen (correspondence.warn _)
          (correspondence.statementSequential.pure 0)
      · split
        · exact correspondence.statementSequential.fail _
        · exact correspondence.statementSequential.change (executeCommand correspondence command) _

theorem executeCommand (correspondence : Correspondence engine engine' inWord inCall inStatement) :
    ∀ command : Command,
      inStatement (engine.executeCommand command) (engine'.executeCommand command)
  | .call assignments arguments => by
      simp only [Engine.executeCommand]
      refine correspondence.scope
        (correspondence.callSequential.andThen (assign correspondence assignments) ?_)
      exact correspondence.afterWord (expandWords correspondence arguments) correspondence.invoke
  | .arithmetic _ | .binary .. | .block _ | .choice .. | .coproc .. | .declare .. | .forLoop ..
  | .function .. | .conditional .. | .letAll _ | .subshell _ | .test _ | .timed ..
  | .whileLoop .. => by
      simp only [Engine.executeCommand]
      exact correspondence.statementSequential.fail _

theorem executeAll (correspondence : Correspondence engine engine' inWord inCall inStatement) :
    ∀ body : List Statement,
      inStatement (engine.executeAll body) (engine'.executeAll body)
  | [] => by
      simp only [Engine.executeAll]
      exact correspondence.statementSequential.pure ()
  | statement :: rest => by
      simp only [Engine.executeAll]
      exact correspondence.statementSequential.andThen (execute correspondence statement)
        (executeAll correspondence rest)

end

end Engine.Correspondence

end ShellTree
