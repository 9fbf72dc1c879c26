import ShellTree.Proofs.Arithmetic.Operand
import ShellTree.Proofs.Engine.Mention
import ShellTree.Proofs.Engine.Simulation
import ShellTree.Proofs.Environment.Flattening
import ShellTree.Tree.Build

/-!
# The variables that a word names

A word whose arithmetic leaves are literal text says which variables it depends on,
unless it goes through an indirection or runs programs.  Two environments that agree on
these variables cannot be told apart by it: its expansion gives the same text or the same
failure in both, counts the same variables up and down in both, and leaves all others
alone.
-/

namespace ShellTree

def Mention.name? : Mention → Option String
  | .parameter name => some name
  | .operand leaf => (Word.text? leaf).bind Operand.name?
  | .indirection _ => none
  | .counting => none
  | .substitution _ => none

/-- The mention reaches no variable but the one that it names. -/
def Mention.isExplicit : Mention → Bool
  | .parameter _ => true
  | .operand leaf => (Word.text? leaf).isSome
  | .indirection _ => false
  | .counting => true
  | .substitution _ => false

/-- The names of a word: those of its parameters, and the literal leaves of its arithmetic that
are names when they are trimmed. -/
def Word.names (word : Word) : List String :=
  (Word.mentions word).filterMap Mention.name?

/-- The word has no substitution and no indirection, and its arithmetic leaves are literal text. -/
def Word.Explicit (word : Word) : Prop :=
  ∀ mention ∈ Word.mentions word, mention.isExplicit = true

instance (word : Word) : Decidable word.Explicit :=
  inferInstanceAs (Decidable (∀ mention ∈ Word.mentions word, mention.isExplicit = true))

/-- Two shells that agree on some variables and whose other variables have the values that they
had at the start on each side. -/
structure Shell.AgreesOn (names : String → Prop) (start start' shell shell' : Shell Environment) :
    Prop where
  agree : ∀ name, names name → shell.store.get? name = shell'.store.get? name
  kept : ∀ name, ¬ names name → shell.store.get? name = start.store.get? name
  kept' : ∀ name, ¬ names name → shell'.store.get? name = start'.store.get? name

variable {names : String → Prop} {start start' : Shell Environment}

/-- Binding one of the variables to the same value on both sides keeps the agreement. -/
theorem Shell.AgreesOn.set {name : String} (named : names name) (value : String) :
    Action.Simulates (AgreesOn names start start') (Action.set name value)
      (Action.set name value) := by
  intro shell shell' agrees
  have other {asked : String} (unnamed : ¬ names asked) : asked ≠ name := fun same =>
    unnamed (same ▸ named)
  refine .ok () ⟨fun asked known => ?_, fun asked unnamed => ?_, fun asked unnamed => ?_⟩
  · change (shell.store.set name value).get? asked = (shell'.store.set name value).get? asked
    rw [Environment.get?_set, Environment.get?_set, agrees.agree asked known]
  · change (shell.store.set name value).get? asked = _
    rw [Environment.get?_set, if_neg (other unnamed), agrees.kept asked unnamed]
  · change (shell'.store.set name value).get? asked = _
    rw [Environment.get?_set, if_neg (other unnamed), agrees.kept' asked unnamed]

namespace Engine

open Shell

variable {engine engine' : Engine Environment}

/-- An operand stands for the same on both sides if its variable is one that they agree on. -/
theorem resolve_agrees {shell shell' : Shell Environment}
    (agrees : AgreesOn names start start' shell shell') {text : String}
    (known : ∀ name, Operand.name? text = some name → names name) :
    Operand.resolve shell.store text = Operand.resolve shell'.store text :=
  Operand.resolve_congr_name? fun name found => agrees.agree name (known name found)

theorem update_simulates {text : String}
    (known : ∀ name, Operand.name? text = some name → names name) (operator : UnaryOperator)
    (isPostfix : Bool) :
    Action.Simulates (AgreesOn names start start') (update operator isPostfix text)
      (update operator isPostfix text) := by
  have closed := ActionRelation.closed_simulates (AgreesOn names start start')
  unfold update
  refine Action.Simulates.read fun shell shell' agrees => ?_
  rw [resolve_agrees agrees known]
  cases resolved : Operand.resolve shell'.store text with
  | error failure => exact closed.fail failure
  | ok operand =>
      cases operand with
      | literal value => exact closed.fail _
      | named name old =>
          have named := known name (Operand.name?_of_resolve resolved)
          have counted := closed.bind (AgreesOn.set named (Decimal.text (operator.apply old).toInt))
            fun _ => closed.pure (if isPostfix then old else operator.apply old)
          exact counted

/-- A mention of a literal operand has a text, and its variable is one of the admitted names. -/
theorem exists_operand_text {leaf : Word}
    (known : (Mention.operand leaf).isExplicit = true ∧
      ∀ name, (Mention.operand leaf).name? = some name → names name) :
    ∃ text, Word.text? leaf = some text ∧
      ∀ name, Operand.name? text = some name → names name := by
  obtain ⟨text, literal⟩ := Option.isSome_iff_exists.mp known.1
  refine ⟨text, literal, fun name found => known.2 name ?_⟩
  rw [Mention.name?, literal]
  exact found

/-- Wherever a mention is explicit and names a variable that both sides agree on, expansion does
the same on both sides. -/
theorem localized (sliceMode : engine.options.sliceMode = engine'.options.sliceMode)
    (names : String → Prop) (start start' : Shell Environment) :
    Handling engine engine' (Action.Simulates (AgreesOn names start start'))
      (fun mention => mention.isExplicit = true ∧
        ∀ name, mention.name? = some name → names name) where
  sliceMode := sliceMode
  closed := ActionRelation.closed_simulates _
  parameter known agree := Action.Simulates.read fun _ _ agrees =>
    agree _ _ (agrees.agree _ (known.2 _ rfl))
  indirection known := absurd known.1 Bool.false_ne_true
  operand {leaf} known _ := by
    obtain ⟨text, literal, named⟩ := exists_operand_text known
    have closed := ActionRelation.closed_simulates (AgreesOn names start start')
    simp only [evaluate, expandWord_of_text? _ leaf literal, pure_bind]
    refine Action.Simulates.read fun shell shell' agrees => ?_
    rw [resolve_agrees agrees named]
    exact closed.bind (closed.ofExcept _) fun _ => closed.pure _
  counting {leaf} _ known _ operator isPostfix := by
    obtain ⟨text, literal, named⟩ := exists_operand_text known
    simp only [updateOperand, expandWord_of_text? _ leaf literal, pure_bind]
    exact update_simulates named operator isPostfix
  substitution known := absurd known.1 Bool.false_ne_true

/-- The expansion of an explicit word depends on the variables that it names and on no others.
Take any set of names with these in it: where two environments agree on the set, the expansion
gives the same text or the same failure, they agree on the set afterwards, and all other names
have the values that they had in each. -/
theorem expansion_local (engine engine' : Engine Environment)
    (sliceMode : engine.options.sliceMode = engine'.options.sliceMode) (word : Word)
    (explicit : word.Explicit) (names : String → Prop) (named : ∀ name ∈ word.names, names name)
    (shell shell' : Shell Environment)
    (agree : ∀ name, names name → shell.store.get? name = shell'.store.get? name) :
    Action.Alike (Shell.AgreesOn names shell shell')
      (engine.expandWord word shell) (engine'.expandWord word shell') := by
  have handling := localized sliceMode names shell shell'
  refine handling.expandWord word (fun mention member => ⟨explicit mention member, ?_⟩)
    ⟨agree, fun _ _ => rfl, fun _ _ => rfl⟩
  intro name found
  exact named name (List.mem_filterMap.mpr ⟨mention, member, found⟩)

/-- A word that counts a variable whose name is quoted, cuts a value at it, and takes it for a
variable that is unset. -/
def namingWord : Word :=
  [.arithmetic (.unary .inc (.word [.doubleQuoted [.literal " x"], .singleQuoted " "]) true),
    .parameter "y" (some (.slice (.ofText "0") (some (.ofText "x")))),
    .parameter "z" (some (.default [.parameter "x" none] true))]

def stackedShell : Shell Environment where
  store := ⟨.ofPairs [("w", "5"), ("x", "1")], [.ofPairs [("y", "abc"), ("x", "7")]]⟩

def plainShell : Shell Environment where
  store := .ofPairs [("x", "1"), ("y", "abc")]
  stdout := { limit := some 0 }

theorem namingWord_local :
    namingWord.Explicit ∧ namingWord.names = ["x", "y", "x", "z", "x"] ∧
      (∀ name ∈ namingWord.names, stackedShell.store.get? name = plainShell.store.get? name) ∧
      (expandWord ⟨{}, {}⟩ namingWord).run' stackedShell = some "1ab2" ∧
      Action.Alike (Shell.AgreesOn (· ∈ namingWord.names) stackedShell plainShell)
        (expandWord ⟨{}, {}⟩ namingWord stackedShell)
        (expandWord ⟨{ exitOnError := true }, {}⟩ namingWord plainShell) := by
  have explicit : namingWord.Explicit := by decide +kernel
  have agree : ∀ name ∈ namingWord.names,
      stackedShell.store.get? name = plainShell.store.get? name := by
    decide +kernel
  exact ⟨explicit, by decide +kernel, agree, by decide +kernel,
    expansion_local ⟨{}, {}⟩ ⟨{ exitOnError := true }, {}⟩ rfl namingWord explicit
      (· ∈ namingWord.names) (fun _ member => member) stackedShell plainShell agree⟩

end Engine

end ShellTree
