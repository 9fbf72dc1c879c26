import ShellTree.Proofs.Engine.Correspondence

/-!
# Agreement of two engines

An agreement is a correspondence whose relations are kept by sequences in which the
later action looks at what the earlier one gives.  So statements that agree also have
the same status.
-/

namespace ShellTree

namespace Engine

variable {ε ε' : Type} [Store ε] [Store ε']

/-- Two engines agree through relations between their actions: in a word, inside the scope of
a call, and in a statement. -/
structure Agreement (engine : Engine ε) (engine' : Engine ε')
    (inWord inCall inStatement : ActionRelation ε ε') : Prop where
  sliceMode : engine.options.sliceMode = engine'.options.sliceMode
  wordClosed : ActionRelation.Closed inWord
  callClosed : ActionRelation.Closed inCall
  statementClosed : ActionRelation.Closed inStatement
  /-- Expansion sees of a store only the values of names. -/
  read {α : Type} {next : ε → Action ε α} {next' : ε' → Action ε' α}
    (agree : ∀ store store', Store.get? store = Store.get? store' →
      inWord (next store) (next' store')) :
    inWord (Action.store >>= next) (Action.store >>= next')
  count (name : String) (number : Int64) (identifier : isIdentifier name.toList = true) :
    inWord (Action.set name (Decimal.text number.toInt))
      (Action.set name (Decimal.text number.toInt))
  capture {body : Action ε Unit} {body' : Action ε' Unit} (agree : inStatement body body') :
    inWord (Action.captured (Action.inScope body)) (Action.captured (Action.inScope body'))
  ofWord {α : Type} {action : Action ε α} {action' : Action ε' α}
    (agree : inWord action action') : inCall action action'
  set (name value : String) : inCall (Action.set name value) (Action.set name value)
  invoke (arguments : List String) : inCall (engine.invoke arguments) (engine'.invoke arguments)
  warn (warning : Warning) : inStatement (Action.warn warning) (Action.warn warning)
  scope {α : Type} {action : Action ε α} {action' : Action ε' α}
    (agree : inCall action action') : inStatement (Action.inScope action) (Action.inScope action')

namespace Agreement

variable {engine : Engine ε} {engine' : Engine ε'} {inWord inCall inStatement : ActionRelation ε ε'}

theorem correspondence (agreement : Agreement engine engine' inWord inCall inStatement) :
    Correspondence engine engine' inWord inCall inStatement where
  sliceMode := agreement.sliceMode
  wordClosed := agreement.wordClosed
  callSequential := agreement.callClosed.sequential
  statementSequential := agreement.statementClosed.sequential
  read := agreement.read
  count := agreement.count
  capture := agreement.capture
  afterWord agree agree' := agreement.callClosed.bind (agreement.ofWord agree) agree'
  set := agreement.set
  invoke := agreement.invoke
  warn := agreement.warn
  scope := agreement.scope

theorem expandPart (agreement : Agreement engine engine' inWord inCall inStatement) (part : Part) :
    inWord (engine.expandPart part) (engine'.expandPart part) :=
  agreement.correspondence.expandPart part

theorem expandWord (agreement : Agreement engine engine' inWord inCall inStatement) (word : Word) :
    inWord (engine.expandWord word) (engine'.expandWord word) :=
  agreement.correspondence.expandWord word

theorem evaluate (agreement : Agreement engine engine' inWord inCall inStatement)
    (expression : Arith) : inWord (engine.evaluate expression) (engine'.evaluate expression) :=
  agreement.correspondence.evaluate expression

theorem execute (agreement : Agreement engine engine' inWord inCall inStatement)
    (statement : Statement) :
    inStatement (engine.execute statement) (engine'.execute statement) :=
  agreement.correspondence.execute statement

theorem executeAll (agreement : Agreement engine engine' inWord inCall inStatement)
    (body : List Statement) :
    inStatement (engine.executeAll body) (engine'.executeAll body) :=
  agreement.correspondence.executeAll body

end Agreement

end Engine

end ShellTree
