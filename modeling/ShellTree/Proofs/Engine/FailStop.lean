import ShellTree.Proofs.Engine.Expansion

/-!
# A full standard output

A run whose standard output takes a limited number of bytes does the same as one without
a limit, up to the first text that does not fit.  This text is not written, and the
failure is caught by nobody: it ends the statement, and with it a run that stops at
the first status other than zero.  Since captured output has no limit, only what the
statements of the script write themselves can fail in this way.

The two runs are related by the shells that they reach.  Either both are at the same
point, or the limited one has ended and the other one has written more than the limit.
-/

namespace ShellTree

/-- Two shells at the same point of a run, the first one with a limit for the standard output
which is not exceeded yet. -/
structure Shell.Throttled {ε : Type} (limit : Nat) (shell shell' : Shell ε) : Prop where
  store : shell.store = shell'.store
  stderr : shell.stderr = shell'.stderr
  warnings : shell.warnings = shell'.warnings
  contents : shell.stdout.contents = shell'.stdout.contents
  limited : shell.stdout.limit = some limit
  unlimited : shell'.stdout.limit = none
  fits : shell.stdout.size ≤ limit

/-- The first shell got the beginning of what was written to the second one, which is more
than the limit. -/
structure Shell.CutOff {ε : Type} (limit : Nat) (shell shell' : Shell ε) : Prop where
  contents : ∃ rest, shell'.stdout.contents = shell.stdout.contents ++ rest
  fits : shell.stdout.size ≤ limit
  exceeds : limit < shell'.stdout.size

namespace Sink

theorem accepts_iff {sink : Sink} {limit : Nat} (limited : sink.limit = some limit) (count : Nat) :
    sink.accepts count = true ↔ sink.size + count ≤ limit := by
  unfold accepts
  rw [limited]
  exact decide_eq_true_iff

theorem Extends.size_le {after before : Sink} (more : after.Extends before) :
    before.size ≤ after.size := by
  obtain ⟨bytes, contents⟩ := more.contents
  unfold size
  rw [contents, ByteArray.size_append]
  exact Nat.le_add_right _ _

end Sink

namespace Shell

variable {ε : Type} {limit : Nat} {shell shell' : Shell ε}

theorem wrote_extends (shell : Shell ε) (text : String) :
    (shell.wrote text).stdout.Extends shell.stdout :=
  ⟨⟨text.toUTF8, rfl⟩, rfl, rfl⟩

/-- A report goes to the standard error, and it is the same on both sides. -/
theorem Throttled.report (start : Throttled limit shell shell') (failure : Failure) :
    Throttled limit (shell.report failure) (shell'.report failure) := by
  unfold Shell.report
  rw [start.stderr]
  split
  · exact { start with stderr := rfl }
  · exact { start with warnings := congrArg (· ++ [_]) start.warnings }

namespace CutOff

/-- Once a shell is cut off, it stays so whatever is written to the other one. -/
theorem later {after : Shell ε} (cut : CutOff limit shell shell')
    (more : after.stdout.Extends shell'.stdout) : CutOff limit shell after := by
  obtain ⟨rest, contents⟩ := cut.contents
  obtain ⟨bytes, added⟩ := more.contents
  refine ⟨⟨rest ++ bytes, ?_⟩, cut.fits, Nat.lt_of_lt_of_le cut.exceeds more.size_le⟩
  rw [added, contents, ByteArray.append_assoc]

theorem report_left (cut : CutOff limit shell shell') (failure : Failure) :
    CutOff limit (shell.report failure) shell' := by
  have same := shell.report_stdout failure
  exact ⟨same ▸ cut.contents, same ▸ cut.fits, cut.exceeds⟩

theorem report_right (cut : CutOff limit shell shell') (failure : Failure) :
    CutOff limit shell (shell'.report failure) := by
  have same := shell'.report_stdout failure
  exact ⟨same ▸ cut.contents, cut.fits, same ▸ cut.exceeds⟩

end CutOff

end Shell

/-! ## Actions -/

namespace Action

variable {ε α : Type} {action : Action ε α} {shell after : Shell ε}

theorem after_of_ok {value : α} (done : action shell = .ok value after) :
    action.after shell = after := by
  rw [Action.after, done]

theorem after_of_error {failure : Failure} (failed : action shell = .error failure after) :
    action.after shell = after := by
  rw [Action.after, failed]

end Action

/-- The action only adds to the standard output.  With a limit it does the same as without one, or
it fails because the standard output is full. -/
structure Action.FailStop {ε α : Type} (limit : Nat) (action : Action ε α) : Prop where
  adds : action.Leads fun before after => after.stdout.Extends before.stdout
  stops : ∀ ⦃shell shell'⦄, Shell.Throttled limit shell shell' →
    Alike (Shell.Throttled limit) (action shell) (action shell') ∨
      ∃ after, action shell = .error (.stream .closed) after ∧
        Shell.CutOff limit after (action.after shell')

namespace Action.FailStop

variable {ε α β : Type} {limit : Nat}

theorem adds_bind {first : Action ε α} {next : α → Action ε β} (begins : first.FailStop limit)
    (goes : ∀ value, (next value).FailStop limit) :
    (first >>= next).Leads fun before after => after.stdout.Extends before.stdout :=
  begins.adds.bind (fun _ _ _ earlier later => later.trans earlier) fun value => (goes value).adds

/-- Where the first action fails because of the limit, the second one is not reached.  Without
a limit it is, but it can only add to what is too much already. -/
theorem bind {first : Action ε α} {next : α → Action ε β} (begins : first.FailStop limit)
    (goes : ∀ value, (next value).FailStop limit) : (first >>= next).FailStop limit := by
  refine ⟨adds_bind begins goes, fun shell shell' start => ?_⟩
  rw [after_bind]
  simp only [Bind.bind, EStateM.bind]
  rcases begins.stops start with alike | ⟨after, failed, cut⟩
  · generalize first shell = result at alike
    generalize first shell' = result' at alike
    cases alike with
    | ok value still => exact (goes value).stops still
    | error failure still => exact .inl (.error failure still)
  · rw [failed]
    refine .inr ⟨after, rfl, ?_⟩
    cases begun : first shell' with
    | ok value after' =>
        rw [after_of_ok begun] at cut
        exact cut.later ((goes value).adds after')
    | error failure after' =>
        rw [after_of_error begun] at cut
        exact cut

theorem closed : ActionRelation.Closed
    (fun action _ => action.FailStop limit : ActionRelation ε ε) where
  pure value := ⟨fun _ => .refl _, fun _ _ start => .inl (.ok value start)⟩
  fail failure := ⟨fun _ => .refl _, fun _ _ start => .inl (.error failure start)⟩
  bind := bind

theorem store : (Action.store : Action ε ε).FailStop limit := by
  refine ⟨fun _ => .refl _, fun shell shell' start => .inl ?_⟩
  unfold Action.store
  rw [start.store]
  exact .ok _ start

/-- Either the text fits, and then both shells get it, or the limited one has ended. -/
theorem write (text : String) : (Action.write text : Action ε Unit).FailStop limit := by
  constructor
  · intro shell
    by_cases room : shell.stdout.accepts text.toUTF8.size = true
    · rw [after_of_ok (write_of_accepts room)]
      exact shell.wrote_extends text
    · rw [after_of_error (write_of_not_accepts room)]
      exact .refl _
  · intro shell shell' start
    have room' := Sink.accepts_of_unlimited start.unlimited text.toUTF8.size
    have size : (shell.wrote text).stdout.size = shell.stdout.size + text.toUTF8.size :=
      ByteArray.size_append
    by_cases room : shell.stdout.accepts text.toUTF8.size = true
    · rw [write_of_accepts room, write_of_accepts room']
      refine .inl (.ok () ⟨start.store, start.stderr, start.warnings, ?_, start.limited,
        start.unlimited, ?_⟩)
      · exact congrArg (· ++ text.toUTF8) start.contents
      · rw [size]
        exact (Sink.accepts_iff start.limited _).mp room
    · refine .inr ⟨shell, write_of_not_accepts room, ?_⟩
      rw [after_of_ok (write_of_accepts room')]
      refine ⟨⟨text.toUTF8, congrArg (· ++ text.toUTF8) start.contents.symm⟩, start.fits, ?_⟩
      have beyond := mt (Sink.accepts_iff start.limited _).mpr room
      have same : (shell'.wrote text).stdout.size = (shell.wrote text).stdout.size :=
        congrArg (fun bytes => (bytes ++ text.toUTF8).size) start.contents.symm
      omega

theorem writeError (text : String) : (Action.writeError text : Action ε Unit).FailStop limit := by
  constructor
  · intro shell
    unfold Action.after Action.writeError
    cases shell.stderr.write text with
    | ok sink => exact .refl _
    | error fault => exact .refl _
  · intro shell shell' start
    unfold Action.writeError
    rw [start.stderr]
    cases shell'.stderr.write text with
    | ok sink => exact .inl (.ok () { start with stderr := rfl })
    | error fault => exact .inl (.error _ start)

theorem warn (warning : Warning) : (Action.warn warning : Action ε Unit).FailStop limit :=
  ⟨fun _ => .refl _, fun _ _ start =>
    .inl (.ok () { start with warnings := congrArg (· ++ [warning]) start.warnings })⟩

theorem change (next : ε → ε) : ((Effect.change next).perform).FailStop limit :=
  ⟨fun _ => .refl _, fun _ _ start =>
    .inl (.ok _ { start with store := congrArg next start.store })⟩

theorem inScope [Store ε] {action : Action ε α} (failStop : action.FailStop limit) :
    (Action.inScope action).FailStop limit := by
  constructor
  · intro shell
    rw [after_inScope]
    exact failStop.adds { shell with store := (Store.push shell.store).2 }
  · intro shell shell' start
    have pushed : Shell.Throttled limit { shell with store := (Store.push shell.store).2 }
        { shell' with store := (Store.push shell'.store).2 } :=
      { start with store := by rw [start.store] }
    have inner := failStop.stops pushed
    rw [after_inScope]
    simp only [Action.inScope]
    rcases inner with alike | ⟨after, failed, cut⟩
    · generalize action { shell with store := (Store.push shell.store).2 } = result at alike
      generalize action { shell' with store := (Store.push shell'.store).2 } = result' at alike
      cases alike with
      | ok value still =>
          exact .inl (.ok value { still with store := by rw [still.store, start.store] })
      | error failure still =>
          exact .inl (.error failure { still with store := by rw [still.store, start.store] })
    · rw [failed]
      exact .inr ⟨_, rfl, cut.contents, cut.fits, cut.exceeds⟩

/-- What does not touch the standard output does not run into its limit. -/
theorem of_apart {action : Action ε α}
    (apart : ∀ sink sink', Simulates (Shell.Apart sink sink') action action) :
    action.FailStop limit := by
  constructor
  · intro shell
    have start : Shell.Apart shell.stdout shell.stdout shell shell := ⟨rfl, rfl, rfl, rfl, rfl⟩
    have alike := apart _ _ start
    suffices kept : (action.after shell).stdout = shell.stdout by
      rw [kept]
      exact .refl _
    unfold Action.after
    generalize action shell = result at alike
    cases alike with
    | ok value still => exact still.stdout
    | error failure still => exact still.stdout
  · intro shell shell' start
    have begun : Shell.Apart shell.stdout shell'.stdout shell shell' :=
      ⟨start.store, start.stderr, start.warnings, rfl, rfl⟩
    refine .inl ((apart _ _ begun).mono fun after after' still => ?_)
    refine ⟨still.store, still.stderr, still.warnings, ?_, ?_, ?_, ?_⟩
    · rw [still.stdout, still.stdout', start.contents]
    · rw [still.stdout, start.limited]
    · rw [still.stdout', start.unlimited]
    · rw [still.stdout]
      exact start.fits

end Action.FailStop

/-! ## Statements -/

namespace Engine

variable {ε : Type} [Store ε] {engine : Engine ε} {limit : Nat}

theorem invoke_failStop (uses : engine.registry.Uses fun _ => True) (arguments : List String) :
    (engine.invoke arguments).FailStop limit := by
  refine (invoke_uses uses arguments).related_self Action.FailStop.closed .store ?_
  intro effect _
  cases effect with
  | change next => exact .change next
  | write text => exact .write text
  | complain text => exact .writeError text

/-- Words do not touch the standard output, and everything else only writes to it. -/
theorem failStop (uses : engine.registry.Uses fun _ => True) (limit : Nat) :
    Agreement engine engine
      (fun action action' => action = action' ∧
        ∀ sink sink', Action.Simulates (Shell.Apart sink sink') action action')
      (fun action action' => action = action' ∧ action.FailStop limit)
      (fun action action' => action = action' ∧ action.FailStop limit) where
  sliceMode := rfl
  wordClosed := (secluded rfl rfl : Agreement engine engine _ _ _).wordClosed
  callClosed := ActionRelation.closed_eq.and Action.FailStop.closed
  statementClosed := ActionRelation.closed_eq.and Action.FailStop.closed
  read := (secluded rfl rfl : Agreement engine engine _ _ _).read
  count := (secluded rfl rfl : Agreement engine engine _ _ _).count
  capture agree := (secluded rfl rfl : Agreement engine engine _ _ _).capture agree.1
  ofWord {_ action action'} agree := by
    obtain ⟨rfl, apart⟩ := agree
    exact ⟨rfl, .of_apart apart⟩
  set name value := ⟨rfl, .change (Store.set · name value)⟩
  invoke arguments := ⟨rfl, invoke_failStop uses arguments⟩
  warn warning := ⟨rfl, .warn warning⟩
  scope agree := ⟨congrArg Action.inScope agree.1, agree.2.inScope⟩

theorem traceAndExecute_failStop (uses : engine.registry.Uses fun _ => True)
    (statement : Statement) : (engine.traceAndExecute statement).FailStop limit := by
  have executed := ((failStop uses limit).execute statement).2
  unfold traceAndExecute
  split
  · exact .bind .store fun store => .bind (.write _) fun _ => executed
  · exact executed

/-- How a run with a limit ends beside one without: in the same way and at the same point, or with
the failure of a full standard output, cut off from what the other one wrote. -/
inductive EndsBeside (limit : Nat) : Outcome × Shell ε → Outcome × Shell ε → Prop where
  | same (outcome : Outcome) {after after' : Shell ε} (still : Shell.Throttled limit after after') :
      EndsBeside limit (outcome, after) (outcome, after')
  | full {after : Shell ε} {done : Outcome × Shell ε} (cut : Shell.CutOff limit after done.2) :
      EndsBeside limit (.failed (.stream .closed), after) done

theorem runStatement_endsBeside (uses : engine.registry.Uses fun _ => True) (statement : Statement)
    {shell shell' : Shell ε} (start : Shell.Throttled limit shell shell') :
    EndsBeside limit (engine.runStatement statement shell)
      (engine.runStatement statement shell') := by
  have done := (traceAndExecute_failStop uses statement).stops start
  unfold Action.after at done
  unfold runStatement
  rcases done with alike | ⟨after, failed, cut⟩
  · generalize engine.traceAndExecute statement shell = result at alike
    generalize engine.traceAndExecute statement shell' = result' at alike
    cases alike with
    | ok status still => exact .same _ still
    | error failure still => exact .same _ (still.report failure)
  · rw [failed]
    generalize engine.traceAndExecute statement shell' = result' at cut
    cases result' with
    | ok status after' => exact .full (cut.report_left _)
    | error failure after' => exact .full ((cut.report_left _).report_right _)

end Engine

/-! ## Scripts -/

namespace Engine

variable {engine : Engine Environment} {limit : Nat}

theorem runStatements_endsBeside (standard : engine.registry.Standard)
    (stops : engine.options.exitOnError = true) (last : Outcome) (script : List Statement)
    {shell shell' : Shell Environment} (start : Shell.Throttled limit shell shell') :
    EndsBeside limit (engine.runStatements last script shell)
      (engine.runStatements last script shell') := by
  induction script generalizing last shell shell' with
  | nil => exact .same last start
  | cons statement rest ih =>
      have first := runStatement_endsBeside standard.uses statement start
      simp only [runStatements]
      generalize engine.runStatement statement shell = done at first
      generalize engine.runStatement statement shell' = done' at first
      cases first with
      | same outcome still =>
          split
          · exact .same outcome still
          · exact ih outcome still
      | full cut =>
          have stopped : (engine.options.exitOnError &&
              decide ((Outcome.failed (.stream .closed)).exitCode ≠ 0)) = true := by
            rw [stops]
            rfl
          rw [if_pos stopped]
          apply EndsBeside.full
          split
          · exact cut
          · exact cut.later (runStatements_restored standard.confined _ rest _).stdout

def limitOutput (shell : Shell Environment) (limit : Nat) : Shell Environment :=
  { shell with stdout := { shell.stdout with limit := some limit } }

/-- A run that stops at the first failure ends the same with a limit to the standard output as
without one if everything fits.  If not, it ends with the failure of the first text that
does not fit, and what was written is the beginning of what is written without a limit.
In both cases the variables are as they were. -/
theorem run_failStop (engine : Engine Environment) (standard : engine.registry.Standard)
    (stops : engine.options.exitOnError = true) (script : Script) (shell : Shell Environment)
    (unlimited : shell.stdout.limit = none) (limit : Nat) (fits : shell.stdout.size ≤ limit) :
    let whole := engine.run script shell
    let limited := engine.run script (limitOutput shell limit)
    (whole.2.stdout.size ≤ limit →
        limited.1 = whole.1 ∧ limited.2.stdout.contents = whole.2.stdout.contents ∧
          limited.2.stderr.contents = whole.2.stderr.contents) ∧
      (limit < whole.2.stdout.size →
        limited.1.exitCode = -1 ∧ limited.1.failure = some (.stream .closed) ∧
          limited.2.stdout.size ≤ limit ∧
          ∃ rest, whole.2.stdout.contents = limited.2.stdout.contents ++ rest) ∧
      limited.2.store = shell.store ∧ whole.2.store = shell.store := by
  intro whole limited
  have start : Shell.Throttled limit (limitOutput shell limit) shell :=
    ⟨rfl, rfl, rfl, rfl, rfl, unlimited, fits⟩
  have beside := runStatements_endsBeside standard stops {} script start
  have restored := run_restored standard.confined script shell
  have restored' := run_restored standard.confined script (limitOutput shell limit)
  refine ⟨fun within => ?_, fun beyond => ?_, restored'.store, restored.store⟩
  · simp only [whole, limited, run, flush_stdout, flush_stderr] at within ⊢
    generalize engine.runStatements {} script (limitOutput shell limit) = done at beside
    generalize engine.runStatements {} script shell = done' at beside within
    cases beside with
    | same outcome still => exact ⟨rfl, still.contents, congrArg Sink.contents still.stderr⟩
    | full cut => exact absurd within (Nat.not_le.mpr cut.exceeds)
  · simp only [whole, limited, run, flush_stdout] at beyond ⊢
    generalize engine.runStatements {} script (limitOutput shell limit) = done at beside
    generalize engine.runStatements {} script shell = done' at beside beyond
    cases beside with
    | same outcome still =>
        have size := congrArg ByteArray.size still.contents.symm
        exact absurd (Nat.le_trans (Nat.le_of_eq size) still.fits) (Nat.not_le.mpr beyond)
    | full cut => exact ⟨rfl, rfl, cut.fits, cut.contents⟩

/-- Output in a substitution, which has no limit, and then two texts. -/
def overflowing : Script :=
  [.ofCommand (.call [⟨"z", [.substitution
      [.ofCommand (Command.ofTexts ["echo", "captured", "without", "a", "limit"])]]⟩]
      (["echo", "ab"].map Word.ofText)),
    .ofCommand (Command.ofTexts ["echo", "cd"]),
    .ofCommand (Command.ofTexts ["warn", "e"])]

theorem overflowing_failStop :
    strict.registry.Standard ∧ strict.options.exitOnError = true ∧
      layered.stdout.limit = none ∧ layered.stdout.size ≤ 5 ∧
      (strict.run overflowing layered).2.stdout.text = "ab\ncd\n" ∧
      (strict.run overflowing (limitOutput layered 5)).1.exitCode = -1 ∧
      (strict.run overflowing (limitOutput layered 5)).1.failure = some (.stream .closed) ∧
      (strict.run overflowing (limitOutput layered 5)).2.stdout.text = "ab\n" ∧
      (strict.run overflowing (limitOutput layered 6)).1 = (strict.run overflowing layered).1 := by
  have standard : strict.registry.Standard := fun _ member => member
  obtain ⟨-, fails, -, -⟩ :=
    run_failStop strict standard rfl overflowing layered rfl 5 (by decide)
  obtain ⟨succeeds, -, -, -⟩ :=
    run_failStop strict standard rfl overflowing layered rfl 6 (by decide)
  obtain ⟨code, failure, -, -⟩ := fails (by decide +kernel)
  obtain ⟨outcome, -, -⟩ := succeeds (by decide +kernel)
  exact ⟨standard, rfl, rfl, by decide, by decide +kernel, code, failure, by decide +kernel,
    outcome⟩

end Engine

end ShellTree
