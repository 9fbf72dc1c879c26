import ShellTree.Proofs.Engine.Correspondence

/-!
# What an expansion comes upon

An expansion depends on few places of a word: the parameters, indirections, arithmetic
leaves, counted variables and command substitutions in it.  These are its mentions.  A
relation between the actions of two engines that holds at every mention of a word and is
kept by sequences holds of the expansion of the word, so a property of the mentions,
which is a matter of the tree alone, becomes a property of every run.
-/

namespace ShellTree

/-- A place that the expansion of a word can come upon. -/
inductive Mention where
  | parameter (name : String)
  | indirection (name : String)
  | operand (leaf : Word)
  | counting
  | substitution (body : List Statement)

mutual

/-- The mentions of a part.  The body of a command substitution is not entered.  Braces, extended
globs, process substitutions, widths and indices fail before anything inside of them is looked
at. -/
def Part.mentions : Part → List Mention
  | .literal _ => []
  | .singleQuoted _ => []
  | .doubleQuoted parts => Word.mentions parts
  | .parameter name none => [.parameter name]
  | .parameter name (some operation) => .parameter name :: operation.mentions name
  | .arithmetic expression => expression.mentions
  | .substitution body => [.substitution body]
  | .brace _ => []
  | .extGlob .. => []
  | .process .. => []

def Word.mentions : List Part → List Mention
  | [] => []
  | part :: rest => part.mentions ++ Word.mentions rest

/-- The mentions of an operation on a parameter, besides the parameter itself. -/
def Operation.mentions (name : String) : Operation → List Mention
  | .length => []
  | .indirect => [.indirection name]
  | .slice offset none => offset.mentions
  | .slice offset (some bound) => offset.mentions ++ bound.mentions
  | .replace pattern replacement _ => Word.mentions pattern ++ Word.mentions replacement
  | .default word _ => Word.mentions word
  | .alternate word _ => Word.mentions word
  | .modifyCase .. => []
  | .width => []
  | .index _ => []

/-- The mentions of an expression.  A leaf is mentioned as an operand, and what is in it too. -/
def Arith.mentions : Arith → List Mention
  | .word parts => .operand parts :: Word.mentions parts
  | .paren expression => expression.mentions
  | .unary operator operand _ =>
      if operator.assigns then .counting :: operand.mentions else operand.mentions
  | .binary _ left right => left.mentions ++ right.mentions

end

variable {ε ε' : Type} [Store ε] [Store ε']

namespace Engine

/-- A relation between the actions of two engines that sequences keep and that holds wherever an
expansion comes upon an admitted mention. -/
structure Handling (engine : Engine ε) (engine' : Engine ε') (related : ActionRelation ε ε')
    (admitted : Mention → Prop) : Prop where
  sliceMode : engine.options.sliceMode = engine'.options.sliceMode
  closed : ActionRelation.Closed related
  /-- What is done with a parameter depends on its value alone. -/
  parameter {α : Type} {name : String} {next : ε → Action ε α} {next' : ε' → Action ε' α}
    (known : admitted (.parameter name))
    (agree : ∀ store store', Store.get? store name = Store.get? store' name →
      related (next store) (next' store')) :
    related (Action.store >>= next) (Action.store >>= next')
  indirection {name : String} (known : admitted (.indirection name)) :
    related (engine.expandOperation name .indirect) (engine'.expandOperation name .indirect)
  operand {leaf : Word} (known : admitted (.operand leaf))
    (agree : related (engine.expandWord leaf) (engine'.expandWord leaf)) :
    related (engine.evaluate (.word leaf)) (engine'.evaluate (.word leaf))
  counting {leaf : Word} (known : admitted .counting) (known' : admitted (.operand leaf))
    (agree : related (engine.expandWord leaf) (engine'.expandWord leaf))
    (operator : UnaryOperator) (isPostfix : Bool) :
    related (engine.updateOperand operator isPostfix (.word leaf))
      (engine'.updateOperand operator isPostfix (.word leaf))
  substitution {body : List Statement} (known : admitted (.substitution body)) :
    related (engine.expandPart (.substitution body)) (engine'.expandPart (.substitution body))

namespace Handling

variable {engine : Engine ε} {engine' : Engine ε'} {related : ActionRelation ε ε'}
  {admitted : Mention → Prop}

mutual

theorem expandPart (handling : Handling engine engine' related admitted) :
    ∀ part : Part, (∀ mention ∈ part.mentions, admitted mention) →
      related (engine.expandPart part) (engine'.expandPart part)
  | .literal value, _ => by
      simp only [Engine.expandPart]
      exact handling.closed.pure value
  | .singleQuoted value, _ => by
      simp only [Engine.expandPart]
      exact handling.closed.pure value
  | .doubleQuoted parts, known => by
      simp only [Engine.expandPart]
      exact expandWord handling parts known
  | .parameter name none, known => by
      simp only [Engine.expandPart]
      refine handling.parameter (known _ List.mem_cons_self) fun store store' same => ?_
      rw [Store.get_congr_at same]
      exact handling.closed.pure _
  | .parameter name (some operation), known => by
      obtain ⟨here, inside⟩ := List.forall_mem_cons.mp known
      simp only [Engine.expandPart]
      exact expandOperation handling here operation inside
  | .arithmetic expression, known => by
      simp only [Engine.expandPart]
      exact handling.closed.bind (evaluate handling expression known) fun _ =>
        handling.closed.pure _
  | .substitution body, known => handling.substitution (known _ List.mem_cons_self)
  | .brace _, _ => by
      simp only [Engine.expandPart]
      exact handling.closed.fail _
  | .extGlob .., _ => by
      simp only [Engine.expandPart]
      exact handling.closed.fail _
  | .process .., _ => by
      simp only [Engine.expandPart]
      exact handling.closed.fail _

theorem expandWord (handling : Handling engine engine' related admitted) :
    ∀ word : List Part, (∀ mention ∈ Word.mentions word, admitted mention) →
      related (engine.expandWord word) (engine'.expandWord word)
  | [], _ => by
      simp only [Engine.expandWord]
      exact handling.closed.pure _
  | part :: rest, known => by
      obtain ⟨here, behind⟩ := List.forall_mem_append.mp known
      simp only [Engine.expandWord]
      exact handling.closed.bind (expandPart handling part here) fun _ =>
        handling.closed.bind (expandWord handling rest behind) fun _ => handling.closed.pure _

theorem expandOperation (handling : Handling engine engine' related admitted) {name : String}
    (named : admitted (.parameter name)) :
    ∀ operation : Operation, (∀ mention ∈ operation.mentions name, admitted mention) →
      related (engine.expandOperation name operation) (engine'.expandOperation name operation)
  | .length, _ => by
      simp only [Engine.expandOperation]
      refine handling.parameter named fun store store' same => ?_
      rw [Store.get_congr_at same]
      exact handling.closed.pure _
  | .indirect, known => handling.indirection (known _ List.mem_cons_self)
  | .slice offset none, known => by
      simp only [Engine.expandOperation]
      refine handling.parameter named fun store store' same => ?_
      rw [Store.get_congr_at same, handling.sliceMode]
      exact handling.closed.bind (evaluate handling offset known) fun _ =>
        handling.closed.ofExcept _
  | .slice offset (some bound), known => by
      obtain ⟨first, second⟩ := List.forall_mem_append.mp known
      simp only [Engine.expandOperation]
      refine handling.parameter named fun store store' same => ?_
      rw [Store.get_congr_at same, handling.sliceMode]
      exact handling.closed.bind (evaluate handling offset first) fun _ =>
        handling.closed.bind (evaluate handling bound second) fun _ => handling.closed.ofExcept _
  | .replace pattern replacement all, known => by
      obtain ⟨first, second⟩ := List.forall_mem_append.mp known
      simp only [Engine.expandOperation]
      refine handling.parameter named fun store store' same => ?_
      rw [Store.get_congr_at same]
      exact handling.closed.bind (expandWord handling pattern first) fun _ =>
        handling.closed.bind (expandWord handling replacement second) fun _ =>
          handling.closed.pure _
  | .default word checkEmpty, known => by
      simp only [Engine.expandOperation]
      refine handling.parameter named fun store store' same => ?_
      rw [Store.lacks_congr_at same, Store.get_congr_at same]
      split
      · exact expandWord handling word known
      · exact handling.closed.pure _
  | .alternate word checkEmpty, known => by
      simp only [Engine.expandOperation]
      refine handling.parameter named fun store store' same => ?_
      rw [Store.lacks_congr_at same]
      split
      · exact handling.closed.pure _
      · exact expandWord handling word known
  | .modifyCase direction all, _ => by
      simp only [Engine.expandOperation]
      refine handling.parameter named fun store store' same => ?_
      rw [Store.get_congr_at same]
      exact handling.closed.pure _
  | .width, _ => by
      simp only [Engine.expandOperation]
      exact handling.closed.fail _
  | .index _, _ => by
      simp only [Engine.expandOperation]
      exact handling.closed.fail _

theorem evaluate (handling : Handling engine engine' related admitted) :
    ∀ expression : Arith, (∀ mention ∈ expression.mentions, admitted mention) →
      related (engine.evaluate expression) (engine'.evaluate expression)
  | .word parts, known => by
      obtain ⟨here, inside⟩ := List.forall_mem_cons.mp known
      exact handling.operand here (expandWord handling parts inside)
  | .paren expression, known => by
      simp only [Engine.evaluate]
      exact evaluate handling expression known
  | .unary operator operand isPostfix, known => by
      simp only [Engine.evaluate]
      unfold Arith.mentions at known
      split at known
      · next assigns =>
          obtain ⟨counts, inside⟩ := List.forall_mem_cons.mp known
          rw [if_pos assigns, if_pos assigns]
          exact updateOperand handling counts operator isPostfix operand inside
      · next keeps =>
          rw [if_neg keeps, if_neg keeps]
          exact handling.closed.bind (evaluate handling operand known) fun _ =>
            handling.closed.pure _
  | .binary operator left right, known => by
      obtain ⟨first, second⟩ := List.forall_mem_append.mp known
      simp only [Engine.evaluate]
      refine handling.closed.bind (evaluate handling left first) fun _ => ?_
      split
      · exact handling.closed.pure _
      · exact handling.closed.bind (evaluate handling right second) fun _ =>
          handling.closed.ofExcept _

theorem updateOperand (handling : Handling engine engine' related admitted)
    (counts : admitted .counting) (operator : UnaryOperator) (isPostfix : Bool) :
    ∀ operand : Arith, (∀ mention ∈ operand.mentions, admitted mention) →
      related (engine.updateOperand operator isPostfix operand)
        (engine'.updateOperand operator isPostfix operand)
  | .word parts, known => by
      obtain ⟨here, inside⟩ := List.forall_mem_cons.mp known
      exact handling.counting counts here (expandWord handling parts inside) operator isPostfix
  | .paren _, _ | .unary .., _ | .binary .., _ => by
      simp only [Engine.updateOperand]
      exact handling.closed.fail _

end

end Handling

end Engine

/-! ## Literal text -/

mutual

/-- The text of a part that is literal text, quoted or not. -/
def Part.text? : Part → Option String
  | .literal value => some value
  | .singleQuoted value => some value
  | .doubleQuoted parts => Word.text? parts
  | .parameter .. => none
  | .arithmetic _ => none
  | .substitution _ => none
  | .brace _ => none
  | .extGlob .. => none
  | .process .. => none

def Word.text? : List Part → Option String
  | [] => some ""
  | part :: rest => part.text?.bind fun first => (Word.text? rest).map (first ++ ·)

end

namespace Engine

mutual

theorem expandPart_of_text? (engine : Engine ε) :
    ∀ (part : Part) {text : String}, part.text? = some text → engine.expandPart part = pure text
  | .literal value, _, rfl => by rw [Engine.expandPart]
  | .singleQuoted value, _, rfl => by rw [Engine.expandPart]
  | .doubleQuoted parts, _, literal => by
      rw [Engine.expandPart]
      exact expandWord_of_text? engine parts literal

/-- A word of literal text expands to its text, in every shell. -/
theorem expandWord_of_text? (engine : Engine ε) :
    ∀ (word : List Part) {text : String}, Word.text? word = some text →
      engine.expandWord word = pure text
  | [], _, rfl => by rw [Engine.expandWord]
  | part :: rest, _, literal => by
      obtain ⟨first, here, behind⟩ := Option.bind_eq_some_iff.mp literal
      obtain ⟨second, others, rfl⟩ := Option.map_eq_some_iff.mp behind
      rw [Engine.expandWord, expandPart_of_text? engine part here,
        expandWord_of_text? engine rest others]
      rfl

end

/-- A leaf of literal text has the value of what its text stands for. -/
theorem evaluate_text {engine : Engine ε} {shell : Shell ε} {leaf : Word} {text : String}
    {operand : Operand} (literal : Word.text? leaf = some text)
    (resolved : Operand.resolve shell.store text = .ok operand) :
    engine.evaluate (.word leaf) shell = .ok operand.value shell := by
  simp only [evaluate, expandWord_of_text? engine leaf literal, bind, EStateM.bind, pure,
    EStateM.pure, Action.store, Action.ofExcept, resolved]

end Engine

end ShellTree
