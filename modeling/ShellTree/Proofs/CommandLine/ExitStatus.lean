import ShellTree.CommandLine.Run
import ShellTree.Proofs.Engine.Restoration
import ShellTree.Proofs.Tree.RoundTrip

/-!
# Exit statuses

The built-in programs give status zero or one, negation gives one of these again, and every
failure counts as minus one.  So the exit code of a script tells success from failure, and
this is not lost when the system keeps the lowest eight bits of it.  A run that stops at
the first status other than zero succeeds exactly if all statements do.
-/

namespace ShellTree

/-! ## Values that actions give -/

/-- What the action gives, if it does not fail, is allowed. -/
def Action.Gives {ε α : Type} (allowed : α → Prop) (action : Action ε α) : Prop :=
  ∀ ⦃shell value after⦄, action shell = .ok value after → allowed value

namespace Action.Gives

variable {ε α β : Type} {allowed : α → Prop}

theorem pure {value : α} (right : allowed value) :
    (Pure.pure value : Action ε α).Gives allowed := by
  intro shell given after done
  cases done
  exact right

theorem fail (failure : Failure) : (throw failure : Action ε α).Gives allowed := by
  intro shell given after done
  cases done

/-- Only the last action of a sequence counts. -/
theorem bind {first : Action ε β} {next : β → Action ε α}
    (gives : ∀ value, (next value).Gives allowed) : (first >>= next).Gives allowed := by
  intro shell given after done
  simp only [Bind.bind, EStateM.bind] at done
  split at done
  · exact gives _ done
  · cases done

theorem inScope [Store ε] {action : Action ε α} (gives : action.Gives allowed) :
    (Action.inScope action).Gives allowed := by
  intro shell given after done
  simp only [Action.inScope] at done
  split at done
  · next inner =>
      cases done
      exact gives inner
  · cases done

end Action.Gives

/-! ## Statuses of statements -/

/-- The status of a test: zero for yes and one for no. -/
def Status.IsBit (status : Status) : Prop :=
  status = 0 ∨ status = 1

theorem Status.isBit_ite (test : Prop) [Decidable test] {first second : Status}
    (bit : IsBit first) (bit' : IsBit second) : IsBit (if test then first else second) := by
  split
  · exact bit
  · exact bit'

theorem negateStatus_isBit (status : Status) : Status.IsBit (negateStatus status) :=
  Status.isBit_ite _ (.inr rfl) (.inl rfl)

def Registry.GivesBits {ε : Type} (registry : Registry ε) : Prop :=
  ∀ program ∈ registry.programs, ∀ arguments, (program.run arguments).Gives Status.IsBit

namespace Registry

variable {ε : Type}

theorem mem_registerAll {registry : Registry ε} {programs : List (Program ε)}
    {program : Program ε} (member : program ∈ (registry.registerAll programs).programs) :
    program ∈ registry.programs ∨ program ∈ programs := by
  induction programs generalizing registry with
  | nil => exact .inl member
  | cons first rest ih =>
      rcases ih member with registered | later
      · rcases List.mem_append.mp registered with kept | new
        · exact .inl (List.mem_filter.mp kept).1
        · exact .inr (List.mem_singleton.mp new ▸ List.mem_cons_self)
      · exact .inr (List.mem_cons_of_mem first later)

theorem builtin_givesBits [Store ε] : (builtin : Registry ε).GivesBits := by
  intro program member arguments
  rcases mem_registerAll member with none | known
  · cases none
  · simp only [Program.builtins, List.mem_cons, List.not_mem_nil, or_false] at known
    rcases known with rfl | rfl | rfl | rfl | rfl
    · exact .bind fun _ => .pure (.inl rfl)
    · refine .bind fun store => ?_
      cases arguments with
      | nil => exact .bind fun _ => .pure (.inl rfl)
      | cons name rest => exact .bind fun _ => .pure (Status.isBit_ite _ (.inl rfl) (.inr rfl))
    · exact .pure (.inl rfl)
    · exact .pure (.inr rfl)
    · exact .pure (.inl rfl)

end Registry

namespace Engine

variable {ε : Type} {engine : Engine ε}

theorem invoke_gives (bits : engine.registry.GivesBits) (arguments : List String) :
    (engine.invoke arguments).Gives Status.IsBit := by
  cases arguments with
  | nil => exact .fail _
  | cons name rest =>
      unfold invoke
      dsimp only
      split
      · next program found => exact bits program (Registry.mem_of_get? found) rest
      · exact .fail _

variable [Store ε]

theorem executeCommand_gives (bits : engine.registry.GivesBits) (command : Command) :
    (engine.executeCommand command).Gives Status.IsBit := by
  cases command with
  | call assignments arguments =>
      rw [executeCommand]
      exact .inScope (.bind fun _ => .bind fun _ => invoke_gives bits _)
  | _ =>
      rw [executeCommand]
      · exact .fail _
      · nofun

/-- Negation keeps to zero and one, and a statement that is skipped counts as zero. -/
theorem execute_gives (bits : engine.registry.GivesBits) (statement : Statement) :
    (engine.execute statement).Gives Status.IsBit := by
  obtain ⟨command, negated, background, coprocess, redirections⟩ := statement
  cases command with
  | none =>
      rw [execute]
      exact .pure (.inl rfl)
  | some command =>
      rw [execute]
      split
      · exact .bind fun _ => .pure (.inl rfl)
      · split
        · exact .fail _
        · cases negated with
          | true => exact .bind fun status => .pure (negateStatus_isBit status)
          | false =>
              simp only [Bool.false_eq_true, if_false, bind_pure]
              exact executeCommand_gives bits command

theorem traceAndExecute_gives (bits : engine.registry.GivesBits) (statement : Statement) :
    (engine.traceAndExecute statement).Gives Status.IsBit := by
  unfold traceAndExecute
  split
  · exact .bind fun _ => .bind fun _ => execute_gives bits statement
  · exact execute_gives bits statement

end Engine

/-! ## Outcomes of scripts -/

/-- The outcomes that can be told from each other by their exit codes. -/
inductive Outcome.Plain : Outcome → Prop where
  | yes : Plain ⟨0, none⟩
  | no : Plain ⟨1, none⟩
  | failed (failure : Failure) : Plain (.failed failure)

theorem Outcome.plain_of_isBit {status : Status} (bit : Status.IsBit status) :
    Plain ⟨status, none⟩ := by
  rcases bit with rfl | rfl
  · exact .yes
  · exact .no

namespace Engine

variable {ε : Type} [Store ε] {engine : Engine ε}

theorem runStatement_plain (bits : engine.registry.GivesBits) (statement : Statement)
    (shell : Shell ε) : (engine.runStatement statement shell).1.Plain := by
  unfold runStatement
  split
  · next status after done =>
      exact Outcome.plain_of_isBit (traceAndExecute_gives bits statement done)
  · next failure after failed => exact .failed failure

theorem runStatements_plain (bits : engine.registry.GivesBits) {last : Outcome} (plain : last.Plain)
    (script : List Statement) (shell : Shell ε) :
    (engine.runStatements last script shell).1.Plain := by
  induction script generalizing last shell with
  | nil => exact plain
  | cons statement rest ih =>
      have first := runStatement_plain bits statement shell
      simp only [runStatements]
      split
      · exact first
      · exact ih first _

inductive Succeeds (engine : Engine ε) : List Statement → Shell ε → Shell ε → Prop where
  | nil (shell : Shell ε) : Succeeds engine [] shell shell
  | cons {statement : Statement} {rest : List Statement} {shell middle after : Shell ε}
      (first : engine.traceAndExecute statement shell = .ok 0 middle)
      (others : Succeeds engine rest middle after) : Succeeds engine (statement :: rest) shell after

theorem runStatement_of_ok {statement : Statement} {shell after : Shell ε} {status : Status}
    (done : engine.traceAndExecute statement shell = .ok status after) :
    engine.runStatement statement shell = (⟨status, none⟩, after) := by
  rw [runStatement, done]

/-- The outcome of a statement has exit code zero only if the statement gave it: a failure has
another one. -/
theorem exists_ok_zero {statement : Statement} {shell : Shell ε}
    (zero : (engine.runStatement statement shell).1.exitCode = 0) :
    ∃ after, engine.traceAndExecute statement shell = .ok 0 after := by
  unfold runStatement at zero
  split at zero
  · next status after done => exact ⟨after, (zero : status = 0) ▸ done⟩
  · exact absurd zero (by decide : (-1 : Status) ≠ 0)

/-- Statements that all give status zero are all executed, one after the other. -/
theorem runStatements_of_succeeds {script : List Statement} {shell after : Shell ε}
    (succeeds : engine.Succeeds script shell after) {last : Outcome} (begun : last.exitCode = 0) :
    (engine.runStatements last script shell).1.exitCode = 0 ∧
      (engine.runStatements last script shell).2 = after := by
  induction succeeds generalizing last with
  | nil shell => exact ⟨begun, rfl⟩
  | cons first others ih =>
      simp only [runStatements, runStatement_of_ok first, ne_eq, not_true_eq_false, decide_false,
        Bool.and_false, Bool.false_eq_true, if_false]
      exact ih rfl

/-- A run that stops at other statuses than zero ends with zero only if it does not stop. -/
theorem exists_succeeds (stops : engine.options.exitOnError = true) (script : List Statement)
    {last : Outcome} {shell : Shell ε}
    (zero : (engine.runStatements last script shell).1.exitCode = 0) :
    ∃ after, engine.Succeeds script shell after := by
  induction script generalizing last shell with
  | nil => exact ⟨shell, .nil shell⟩
  | cons statement rest ih =>
      simp only [runStatements, stops, Bool.true_and, decide_eq_true_eq] at zero
      by_cases first : (engine.runStatement statement shell).1.exitCode = 0
      · obtain ⟨middle, done⟩ := exists_ok_zero first
        rw [if_neg (not_not_intro first), runStatement_of_ok done] at zero
        obtain ⟨after, others⟩ := ih zero
        exact ⟨after, .cons done others⟩
      · rw [if_pos first] at zero
        exact absurd zero first

theorem run_exitCode_eq_zero (stops : engine.options.exitOnError = true) (script : Script)
    (shell : Shell ε) :
    (engine.run script shell).1.exitCode = 0 ↔
      ∃ after, engine.Succeeds script shell after ∧ (engine.run script shell).2 = after.flush := by
  constructor
  · intro zero
    obtain ⟨after, succeeds⟩ := exists_succeeds stops script zero
    exact ⟨after, succeeds, congrArg Shell.flush (runStatements_of_succeeds succeeds rfl).2⟩
  · rintro ⟨after, succeeds, -⟩
    exact (runStatements_of_succeeds succeeds rfl).1

end Engine

/-! ## The command line -/

namespace Outcome.Plain

open CommandLine (exitStatus)

variable {outcome : Outcome}

theorem exitCode_cases (plain : outcome.Plain) :
    outcome.exitCode = -1 ∨ outcome.exitCode = 0 ∨ outcome.exitCode = 1 := by
  cases plain with
  | yes => exact .inr (.inl rfl)
  | no => exact .inr (.inr rfl)
  | failed failure => exact .inl rfl

theorem isSome_failure (plain : outcome.Plain) :
    outcome.failure.isSome = true ↔ outcome.exitCode = -1 := by
  cases plain with
  | yes => decide
  | no => decide
  | failed failure => exact iff_of_true rfl rfl

theorem isSuccess_iff (plain : outcome.Plain) :
    outcome.isSuccess = true ↔ outcome.exitCode = 0 := by
  cases plain with
  | yes => decide
  | no => decide
  | failed failure => exact iff_of_false Bool.false_ne_true (by decide : (-1 : Status) ≠ 0)

theorem exitStatus_cases (plain : outcome.Plain) :
    exitStatus outcome.exitCode = 0 ∨ exitStatus outcome.exitCode = 1 ∨
      exitStatus outcome.exitCode = 255 := by
  rcases plain.exitCode_cases with code | code | code <;> rw [code] <;> decide

/-- No other exit code than zero has zero as its lowest eight bits. -/
theorem exitStatus_eq_zero (plain : outcome.Plain) :
    exitStatus outcome.exitCode = 0 ↔ outcome.exitCode = 0 := by
  rcases plain.exitCode_cases with code | code | code <;> rw [code] <;> decide

end Outcome.Plain

namespace CommandLine

/-- The arguments, the files and the standard input ask for a run of the script, with the settings
of the file that the arguments name, if they name one. -/
structure Asks (texts : List String) (read : String → Except FileFault String) (stdin : String)
    (arguments : Arguments) (settings : Settings) (script : Script) : Prop where
  parsed : Arguments.parse? {} texts = some (.run arguments)
  loaded : arguments.settings.elim (.ok {}) (loadSettings read) = .ok settings
  given : ∃ source, arguments.tree.elim (.ok stdin) read = .ok source ∧
    Reader.ofText? Reader.script? source = some script

def engine (settings : Settings) : Engine Environment where
  options := settings.options
  registry := .builtin

def start (settings : Settings) (stdout stderr : Sink) : Shell Environment where
  store := settings.environment
  stdout := stdout
  stderr := stderr

/-- A run that is asked for takes place, and its exit code is what the exit status is made of. -/
theorem run_of_asks {texts : List String} {read : String → Except FileFault String}
    {stdin : String} {arguments : Arguments} {settings : Settings} {script : Script}
    (asks : Asks texts read stdin arguments settings script) :
    ∃ result, run texts read stdin = .ok result ∧ result.exitStatus =
      exitStatus ((engine (applyArguments arguments settings)).run script
        (start (applyArguments arguments settings) {} {})).1.exitCode := by
  obtain ⟨parsed, loaded, source, given, known⟩ := asks
  rw [run, parsed]
  dsimp only
  simp only [runScript, bind, Except.bind]
  cases named : arguments.settings with
  | none =>
      rw [named] at loaded
      cases loaded
      cases tree : arguments.tree with
      | none =>
          rw [tree] at given
          cases given
          simp only [known]
          exact ⟨_, rfl, rfl⟩
      | some path =>
          rw [tree, Option.elim_some] at given
          simp only [given, Except.mapError, known]
          exact ⟨_, rfl, rfl⟩
  | some file =>
      rw [named, Option.elim_some] at loaded
      cases tree : arguments.tree with
      | none =>
          rw [tree] at given
          cases given
          simp only [loaded, known]
          exact ⟨_, rfl, rfl⟩
      | some path =>
          rw [tree, Option.elim_some] at given
          simp only [loaded, given, Except.mapError, known]
          exact ⟨_, rfl, rfl⟩

/-- A script that is run with the built-in programs, whatever its settings are and whether its
sinks take what it writes or not, ends with exit code zero, one or minus one, and with minus one
exactly if it ends with a failure.  So the exit status is zero, one or 255, and zero exactly for
success; with the option to stop, exactly if all statements were executed and gave zero.  The
command line ends with this exit status. -/
theorem exit_status_exact (arguments : Arguments) (settings : Settings) (script : Script) :
    let applied := applyArguments arguments settings
    (∀ stdout stderr : Sink,
      let done := (engine applied).run script (start applied stdout stderr)
      let status := exitStatus done.1.exitCode
      (done.1.exitCode = -1 ∨ done.1.exitCode = 0 ∨ done.1.exitCode = 1) ∧
        (done.1.failure.isSome = true ↔ done.1.exitCode = -1) ∧
        (status = 0 ∨ status = 1 ∨ status = 255) ∧
        (status = 0 ↔ done.1.isSuccess = true) ∧
        (applied.options.exitOnError = true → (status = 0 ↔
          ∃ after, (engine applied).Succeeds script (start applied stdout stderr) after ∧
            done.2 = after.flush))) ∧
      ∀ texts read stdin, Asks texts read stdin arguments settings script →
        ∃ result, run texts read stdin = .ok result ∧ result.exitStatus =
          exitStatus ((engine applied).run script (start applied {} {})).1.exitCode := by
  intro applied
  refine ⟨fun stdout stderr => ?_, fun texts read stdin => run_of_asks⟩
  intro done status
  have plain : done.1.Plain :=
    Engine.runStatements_plain Registry.builtin_givesBits .yes script (start applied stdout stderr)
  refine ⟨plain.exitCode_cases, plain.isSome_failure, plain.exitStatus_cases,
    plain.exitStatus_eq_zero.trans plain.isSuccess_iff.symm, fun stops => ?_⟩
  exact plain.exitStatus_eq_zero.trans (Engine.run_exitCode_eq_zero stops script _)

def cautious : Arguments where
  exitOnError := true

def refused : Script :=
  [.negation (.ofTexts ["true"]), .ofCommand (.ofTexts ["echo", "on"])]

theorem refused_exit_status :
    let applied := applyArguments cautious {}
    (∃ result, run ["-e"] (fun _ => .error .missing) (scriptJson refused).text = .ok result ∧
        result.exitStatus = 1) ∧
      ¬ ∃ after, (engine applied).Succeeds refused (start applied {} {}) after ∧
        ((engine applied).run refused (start applied {} {})).2 = after.flush := by
  intro applied
  obtain ⟨outcomes, runs⟩ := exit_status_exact cautious {} refused
  have stopped :
      exitStatus ((engine applied).run refused (start applied {} {})).1.exitCode = 1 := by
    decide +kernel
  have asks : Asks ["-e"] (fun _ => .error .missing) (scriptJson refused).text cautious {}
      refused :=
    { parsed := by decide +kernel
      loaded := rfl
      given := ⟨_, rfl,
        (Reader.writes_script (Reader.writes_statementsJson refused)).ofText? (by decide)⟩ }
  constructor
  · obtain ⟨result, ran, status⟩ := runs _ _ _ asks
    exact ⟨result, ran, status.trans stopped⟩
  · intro succeeds
    have zero := ((outcomes {} {}).2.2.2.2 rfl).mpr succeeds
    exact absurd (stopped.symm.trans zero) (by decide)

end CommandLine

end ShellTree
