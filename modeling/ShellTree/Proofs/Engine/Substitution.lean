import ShellTree.Proofs.Engine.Independence
import ShellTree.Proofs.Engine.Snapshot

/-!
# What a command substitution gives

The statements of a substitution run one after the other in a scope of its own, and what
they print is captured.  Each of them prints what it prints alone: it sees the variables
as they are around the substitution, since the new scope shows the same ones and every
statement before it has left them alone.  So the substitution gives the texts of its
statements, joined, without the newlines at the end, or it fails like the first
statement that fails.

A statement may end with another status in the new scope, because a program can tell how
many scopes are open.  Nothing that is executed looks at a status, and the comparison
leaves it out.
-/

namespace ShellTree

/-! ## Actions without their results -/

def Action.discarded {ε α : Type} (action : Action ε α) : Action ε Unit :=
  action >>= fun _ => pure ()

theorem Action.discarded_unit {ε : Type} (action : Action ε Unit) : action.discarded = action := by
  funext shell
  simp only [discarded, bind, EStateM.bind]
  cases action shell <;> rfl

theorem Action.discarded_bind {ε α β : Type} (first : Action ε α) (next : α → Action ε β) :
    (first >>= next).discarded = first >>= fun value => (next value).discarded := by
  funext shell
  simp only [discarded, bind, EStateM.bind]
  cases first shell <;> rfl

theorem Action.discarded_andThen {ε α β : Type} (first : Action ε α) (next : Action ε β) :
    (first >>= fun _ => next).discarded = first.discarded >>= fun _ => next.discarded := by
  funext shell
  simp only [discarded, bind, EStateM.bind]
  cases first shell <;> rfl

theorem Action.discarded_change {ε α β : Type} (action : Action ε α) (next : α → β) :
    (action >>= fun value => pure (next value)).discarded = action.discarded := by
  funext shell
  simp only [discarded, bind, EStateM.bind]
  cases action shell <;> rfl

theorem Action.discarded_inScope {ε α : Type} [Store ε] (action : Action ε α) :
    (inScope action).discarded = inScope action.discarded := by
  funext shell
  simp only [discarded, inScope, bind, EStateM.bind]
  cases action { shell with store := (Store.push shell.store).2 } <;> rfl

namespace ActionRelation

variable {ε ε' : Type} {related related' : ActionRelation ε ε'}

def discarding (related : ActionRelation ε ε') : ActionRelation ε ε' := fun action action' =>
  related action.discarded action'.discarded

theorem Closed.discarding (closed : Closed related) : Sequential (discarding related) where
  pure _ := closed.pure ()
  fail failure := closed.fail failure
  change {α β action action'} agree next := by
    unfold ActionRelation.discarding
    rw [Action.discarded_change, Action.discarded_change]
    exact agree
  andThen {α β first first' next next'} agree agree' := by
    unfold ActionRelation.discarding
    rw [Action.discarded_andThen, Action.discarded_andThen]
    exact closed.bind agree fun _ => agree'

/-- What follows related actions may be related without its result. -/
theorem Closed.bind_discarding (closed : Closed related) {α β : Type} {first : Action ε α}
    {first' : Action ε' α} {next : α → Action ε β} {next' : α → Action ε' β}
    (agree : related first first')
    (agree' : ∀ value, ActionRelation.discarding related (next value) (next' value)) :
    ActionRelation.discarding related (first >>= next) (first' >>= next') := by
  unfold ActionRelation.discarding
  rw [Action.discarded_bind, Action.discarded_bind]
  exact closed.bind agree agree'

theorem Closed.discarding_of (closed : Closed related) {α : Type} {action : Action ε α}
    {action' : Action ε' α} (agree : related action action') :
    ActionRelation.discarding related action action' :=
  closed.bind agree fun _ => closed.pure ()

theorem Sequential.and (sequential : Sequential related) (sequential' : Sequential related') :
    Sequential (fun action action' => related action action' ∧ related' action action') where
  pure value := ⟨sequential.pure value, sequential'.pure value⟩
  fail failure := ⟨sequential.fail failure, sequential'.fail failure⟩
  change agree next := ⟨sequential.change agree.1 next, sequential'.change agree.2 next⟩
  andThen agree agree' :=
    ⟨sequential.andThen agree.1 agree'.1, sequential'.andThen agree.2 agree'.2⟩

/-- A closed relation is closed the other way round. -/
theorem Closed.swap (closed : Closed related) :
    Closed (fun action action' => related action' action : ActionRelation ε' ε) where
  pure := closed.pure
  fail := closed.fail
  bind agree agree' := closed.bind agree agree'

end ActionRelation

/-! ## Shells that show the same variables -/

/-- Two shells that show the same variables in the same order and are otherwise the same,
whatever their layers are. -/
def Shell.SameView (shell shell' : Shell Environment) : Prop :=
  shell.flatten = shell'.flatten

namespace Shell.SameView

variable {shell shell' after after' : Shell Environment}

theorem stdout (same : SameView shell shell') : shell.stdout = shell'.stdout :=
  congrArg (fun flat => flat.stdout) same

theorem stderr (same : SameView shell shell') : shell.stderr = shell'.stderr :=
  congrArg (fun flat => flat.stderr) same

theorem bindings (same : SameView shell shell') : shell.store.bindings = shell'.store.bindings :=
  congrArg (fun flat => flat.store.all) same

theorem get? (same : SameView shell shell') :
    Store.get? shell.store = Store.get? shell'.store := by
  rw [shell.store.get?_flatten, shell'.store.get?_flatten, same.bindings]

/-- The variables of one pair of shells with the rest of another one. -/
theorem withStore (still : SameView after after') (same : SameView shell shell') :
    SameView { after with store := shell.store } { after' with store := shell'.store } := by
  have rest : { after.flatten with store := shell.flatten.store } =
      { after'.flatten with store := shell'.flatten.store } := by
    rw [show shell.flatten = shell'.flatten from same,
      show after.flatten = after'.flatten from still]
  exact rest

theorem withStdout (still : SameView after after') {sink sink' : Sink} (same : sink = sink') :
    SameView { after with stdout := sink } { after' with stdout := sink' } := by
  subst same
  exact congrArg (fun flat => { flat with stdout := sink }) still

/-- What does the same to a shell and to its flat view does the same to all shells with that
view. -/
theorem of_flattens {α : Type} {action : Action Environment α} {action' : Action Snapshot α}
    (simulates : Action.Simulates Flattens action action') :
    Action.Simulates SameView action action := by
  intro shell shell' same
  have one := simulates (show shell.Flattens shell.flatten from rfl)
  have two := simulates (show shell'.Flattens shell.flatten from same)
  generalize action shell = result at one
  generalize action shell' = result' at two
  generalize action' shell.flatten = flat at one two
  cases one with
  | ok value still =>
      cases two with
      | ok _ still' => exact .ok value (still.symm.trans still')
  | error failure still =>
      cases two with
      | error _ still' => exact .error failure (still.symm.trans still')

/-- An action in a scope of its own does the same to both, if the scopes are undone. -/
theorem inScope {α : Type} {action action' : Action Environment α} (framed : action.Leads Framed)
    (framed' : action'.Leads Framed) (simulates : Action.Simulates SameView action action') :
    Action.Simulates SameView (Action.inScope action) (Action.inScope action') := by
  intro shell shell' same
  have pushed : SameView { shell with store := (Store.push shell.store).2 }
      { shell' with store := (Store.push shell'.store).2 } := same
  have done := simulates pushed
  have kept := (Action.inScope_restored framed shell).store
  have kept' := (Action.inScope_restored framed' shell').store
  rw [Action.after_inScope] at kept kept'
  unfold Action.after at kept kept'
  simp only [Action.inScope]
  generalize action { shell with store := (Store.push shell.store).2 } = result at done kept
  generalize action' { shell' with store := (Store.push shell'.store).2 } = result' at done kept'
  cases done with
  | ok value still =>
      dsimp only at kept kept' ⊢
      rw [kept, kept']
      exact .ok value (still.withStore same)
  | error failure still =>
      dsimp only at kept kept' ⊢
      rw [kept, kept']
      exact .error failure (still.withStore same)

theorem captured {action action' : Action Environment Unit}
    (simulates : Action.Simulates SameView action action') :
    Action.Simulates SameView (Action.captured action) (Action.captured action') := by
  refine simulates.captures (fun shell shell' same => ?_) (fun after after' still => ?_)
    fun shell shell' after after' same still => ?_
  · exact same.withStdout rfl
  · rw [still.stdout]
  · exact still.withStdout same.stdout

theorem leakScope (arguments : List String) :
    Action.Simulates SameView (Program.leakScope.run arguments).discarded
      (Program.leakScope.run arguments).discarded := by
  unfold Program.leakScope
  dsimp only
  split
  · next name value =>
      intro shell shell' same
      have pushed : SameView { shell with store := shell.store.push.2 }
          { shell' with store := shell'.store.push.2 } := same
      have set := of_flattens (Action.Simulates.set name value) pushed
      cases set with
      | ok _ still => exact .ok () still
  · exact (ActionRelation.closed_simulates SameView).fail _

/-- A known program does the same to shells with the same view, but for its status. -/
theorem program {program : Program Environment}
    (known : program ∈ Program.builtins ++ Program.probes) (arguments : List String) :
    Action.Simulates SameView (program.run arguments).discarded
      (program.run arguments).discarded := by
  have plain {program : Program Environment} {program' : Program Snapshot}
      (plain : program.Plain program') :
      Action.Simulates SameView (program.run arguments).discarded
        (program.run arguments).discarded :=
    (ActionRelation.closed_simulates SameView).discarding_of
      (of_flattens (plain.simulates arguments))
  simp only [Program.builtins, Program.probes, List.cons_append, List.nil_append, List.mem_cons,
    List.not_mem_nil, or_false] at known
  rcases known with rfl | rfl | rfl | rfl | rfl | rfl | rfl | rfl | rfl | rfl
  · exact plain .echo
  · exact plain .printenv
  · exact plain (.constant _ _)
  · exact plain (.constant _ _)
  · exact plain (.constant _ _)
  · exact plain .exitWith
  · exact plain .explode
  · exact plain .setVar
  · exact leakScope arguments
  · exact plain .warn

end Shell.SameView

namespace Engine

open ActionRelation Shell

variable {engine : Engine Environment}

theorem invoke_sameView (standard : engine.registry.Standard) (arguments : List String) :
    Action.Simulates SameView (engine.invoke arguments).discarded
      (engine.invoke arguments).discarded := by
  have closed := closed_simulates SameView
  cases arguments with
  | nil => exact closed.fail _
  | cons name rest =>
      unfold invoke
      dsimp only
      split
      · next program found =>
          exact SameView.program (standard program (Registry.mem_of_get? found)) rest
      · exact closed.fail _

/-- Nothing depends on how the variables lie in layers, but for statuses. -/
theorem viewing (standard : engine.registry.Standard) :
    Correspondence engine engine
      (fun action action' => (action.Leads Framed ∧ action'.Leads Framed) ∧
        Action.Simulates SameView action action')
      (fun action action' => (action.Leads Framed ∧ action'.Leads Framed) ∧
        discarding (Action.Simulates SameView) action action')
      (fun action action' => (action.Leads Restored ∧ action'.Leads Restored) ∧
        discarding (Action.Simulates SameView) action action') := by
  have closed := closed_simulates SameView
  have framed : Closed (fun action action' => action.Leads Framed ∧ action'.Leads Framed :
      ActionRelation Environment Environment) :=
    (closed_leads Framed.refl Framed.trans).and (closed_leads Framed.refl Framed.trans).swap
  have restored : Closed (fun action action' => action.Leads Restored ∧ action'.Leads Restored :
      ActionRelation Environment Environment) :=
    (closed_leads Restored.refl Restored.trans).and (closed_leads Restored.refl Restored.trans).swap
  exact {
    sliceMode := rfl
    wordClosed := framed.and closed
    callSequential := framed.sequential.and closed.discarding
    statementSequential := restored.sequential.and closed.discarding
    read := fun agree => by
      refine ⟨⟨fun shell => (agree _ _ rfl).1.1 shell, fun shell => (agree _ _ rfl).1.2 shell⟩, ?_⟩
      exact Action.Simulates.read fun shell shell' same => (agree _ _ same.get?).2
    count := fun name number _ =>
      ⟨⟨Action.set_framed name _, Action.set_framed name _⟩, SameView.of_flattens (.set name _)⟩
    capture := fun {body body'} agree => by
      have inside : body.Leads Framed := fun shell => (agree.1.1 shell).framed
      have inside' : body'.Leads Framed := fun shell => (agree.1.2 shell).framed
      have simulates := agree.2
      unfold ActionRelation.discarding at simulates
      rw [Action.discarded_unit, Action.discarded_unit] at simulates
      have kept := Action.captured_restored (Action.inScope_restored inside)
      have kept' := Action.captured_restored (Action.inScope_restored inside')
      exact ⟨⟨fun shell => (kept shell).framed, fun shell => (kept' shell).framed⟩,
        SameView.captured (SameView.inScope inside inside' simulates)⟩
    afterWord := fun agree agree' =>
      ⟨framed.bind agree.1 fun value => (agree' value).1,
        closed.bind_discarding agree.2 fun value => (agree' value).2⟩
    set := fun name value =>
      ⟨⟨Action.set_framed name value, Action.set_framed name value⟩,
        closed.discarding_of (SameView.of_flattens (.set name value))⟩
    invoke := fun arguments =>
      ⟨⟨invoke_framed standard.confined arguments, invoke_framed standard.confined arguments⟩,
        invoke_sameView standard arguments⟩
    warn := fun warning =>
      ⟨⟨fun _ => ⟨rfl, .refl _, .refl _⟩, fun _ => ⟨rfl, .refl _, .refl _⟩⟩,
        closed.discarding_of (SameView.of_flattens (.warn warning))⟩
    scope := fun agree => by
      refine ⟨⟨Action.inScope_restored agree.1.1, Action.inScope_restored agree.1.2⟩, ?_⟩
      unfold ActionRelation.discarding
      rw [Action.discarded_inScope, Action.discarded_inScope]
      have inside := framed.discarding_of agree.1
      exact SameView.inScope inside.1 inside.2 agree.2 }

end Engine

/-! ## A statement alone and beside others -/

def Action.failure? {ε α : Type} (action : Action ε α) (shell : Shell ε) : Option Failure :=
  match action shell with
  | .ok .. => none
  | .error failure _ => some failure

namespace Action

variable {ε α β : Type} {action : Action ε α} {shell : Shell ε}

theorem discarded_eq (action : Action ε α) (shell : Shell ε) :
    action.discarded shell =
      (action.failure? shell).elim (.ok () (action.after shell))
        fun failure => .error failure (action.after shell) := by
  simp only [discarded, failure?, after, bind, EStateM.bind]
  cases action shell <;> rfl

/-- Actions that are alike without their results fail alike, and what they leave is related. -/
theorem Alike.of_discarded {ε' : Type} {related : Shell ε → Shell ε' → Prop}
    {action' : Action ε' β} {shell' : Shell ε'}
    (alike : Alike related (action.discarded shell) (action'.discarded shell')) :
    action.failure? shell = action'.failure? shell' ∧
      related (action.after shell) (action'.after shell') := by
  rw [discarded_eq, discarded_eq] at alike
  generalize action.failure? shell = end? at alike ⊢
  generalize action'.failure? shell' = end?' at alike ⊢
  cases end? <;> cases end?' <;> cases alike <;> exact ⟨rfl, ‹_›⟩

/-- Behind an action that succeeds, the next one takes over. -/
theorem andThen_of_succeeds (succeeds : action.failure? shell = none) (next : Action ε β) :
    (action >>= fun _ => next) shell = next (action.after shell) := by
  simp only [failure?, after, bind, EStateM.bind] at succeeds ⊢
  cases result : action shell with
  | ok => rfl
  | error =>
      rw [result] at succeeds
      cases succeeds

/-- Behind an action that fails, nothing happens. -/
theorem andThen_of_fails {failure : Failure} (fails : action.failure? shell = some failure)
    (next : Action ε β) :
    (action >>= fun _ => next) shell = .error failure (action.after shell) := by
  simp only [failure?, after, bind, EStateM.bind] at fails ⊢
  cases result : action shell with
  | ok =>
      rw [result] at fails
      cases fails
  | error =>
      rw [result] at fails
      cases fails
      rfl

end Action

/-- A shell for a statement alone, and a shell that shows the same variables; both have
unlimited sinks. -/
structure Shell.Beside (alone now : Shell Environment) : Prop where
  bindings : now.store.bindings = alone.store.bindings
  stdout : alone.stdout.limit = none
  stderr : alone.stderr.limit = none
  stdout' : now.stdout.limit = none
  stderr' : now.stderr.limit = none

namespace Engine

open ActionRelation Shell

variable {engine : Engine Environment} {alone now : Shell Environment}

def written (engine : Engine Environment) (shell : Shell Environment) (statement : Statement) :
    String :=
  ((engine.execute statement).after shell).stdout.textFrom shell.stdout.size

/-- A statement fails alike and writes the same texts alone and beside others.  The shell with the
variables of the one and the sinks of the other stands between the two: nothing depends on what
was written before, and nothing on how the variables lie in layers. -/
theorem execute_alike (standard : engine.registry.Standard) (beside : Beside alone now)
    (statement : Statement) :
    (engine.execute statement).failure? alone = (engine.execute statement).failure? now ∧
      Sink.SameSince alone.stdout now.stdout ((engine.execute statement).after alone).stdout
        ((engine.execute statement).after now).stdout ∧
      Sink.SameSince alone.stderr now.stderr ((engine.execute statement).after alone).stderr
        ((engine.execute statement).after now).stderr := by
  let middle := { now with store := alone.store }
  have since : SameSince alone middle alone middle :=
    ⟨rfl, .refl beside.stdout beside.stdout', .refl beside.stderr beside.stderr'⟩
  have view : SameView middle now := by
    simp only [SameView, flatten, middle, beside.bindings]
  have first := Action.Alike.of_discarded ((closed_simulates (SameSince alone middle)).discarding_of
    ((appending standard).execute statement alone middle) since)
  have second := Action.Alike.of_discarded (((viewing standard).execute statement).2 view)
  refine ⟨first.1.trans second.1, ?_, ?_⟩
  · rw [← second.2.stdout]
    exact first.2.stdout
  · rw [← second.2.stderr]
    exact first.2.stderr

/-- After a statement the shell shows the same variables still. -/
theorem execute_beside (standard : engine.registry.Standard) (beside : Beside alone now)
    (statement : Statement) : Beside alone ((engine.execute statement).after now) := by
  obtain ⟨-, stdout, stderr⟩ := execute_alike standard beside statement
  have restored := execute_restored standard.confined statement now
  exact ⟨by rw [restored.store, beside.bindings], beside.stdout, beside.stderr, stdout.limit',
    stderr.limit'⟩

/-- A statement adds the text that it writes alone. -/
theorem execute_contents (standard : engine.registry.Standard) (beside : Beside alone now)
    (statement : Statement) :
    ((engine.execute statement).after now).stdout.contents =
      now.stdout.contents ++ (engine.written alone statement).toUTF8 := by
  obtain ⟨text, contents, contents'⟩ := (execute_alike standard beside statement).2.1.written
  rw [contents', written, Sink.textFrom_append contents]

/-- Statements that succeed alone succeed one after the other and add what they write alone;
then the later ones take over. -/
theorem executeAll_append (standard : engine.registry.Standard) (beside : Beside alone now)
    (earlier : List Statement)
    (succeed : ∀ statement ∈ earlier, (engine.execute statement).failure? alone = none) :
    ∃ after, Beside alone after ∧
      after.stdout.contents =
        now.stdout.contents ++ (String.join (earlier.map (engine.written alone))).toUTF8 ∧
      ∀ later, engine.executeAll (earlier ++ later) now = engine.executeAll later after := by
  induction earlier generalizing now with
  | nil => exact ⟨now, beside, ByteArray.append_empty.symm, fun _ => rfl⟩
  | cons statement rest ih =>
      obtain ⟨after, still, contents, continues⟩ := ih (execute_beside standard beside statement)
        fun other member => succeed other (List.mem_cons_of_mem _ member)
      have here : (engine.execute statement).failure? now = none := by
        rw [← (execute_alike standard beside statement).1]
        exact succeed statement List.mem_cons_self
      refine ⟨after, still, ?_, fun later => ?_⟩
      · rw [contents, execute_contents standard beside statement, List.map_cons, String.join_cons,
          ByteArray.append_assoc]
        simp only [String.toUTF8_eq_toByteArray, String.toByteArray_append]
      · rw [List.cons_append, executeAll, Action.andThen_of_succeeds here]
        exact continues later

end Engine

/-! ## Newlines at the end -/

theorem getLast?_stripNewlines (text : String) :
    (stripNewlines text).toList.getLast? ≠ some '\n' := by
  intro last
  rw [stripNewlines, String.toList_ofList, List.getLast?_reverse] at last
  have stays := List.head?_dropWhile_not (· == '\n') text.toList.reverse
  rw [last] at stays
  cases stays

/-- Nothing but newlines at the end is stripped. -/
theorem exists_eq_stripNewlines_append (text : String) :
    ∃ count, text = stripNewlines text ++ String.ofList (List.replicate count '\n') := by
  let newlines := text.toList.reverse.takeWhile (· == '\n')
  have all : newlines.reverse = List.replicate newlines.length '\n' := by
    refine List.eq_replicate_iff.mpr ⟨List.length_reverse, fun char member => ?_⟩
    exact eq_of_beq (List.all_eq_true.mp List.all_takeWhile char (List.mem_reverse.mp member))
  refine ⟨newlines.length, String.toList_injective ?_⟩
  rw [String.toList_append, stripNewlines, String.toList_ofList, String.toList_ofList, ← all,
    ← List.reverse_append, List.takeWhile_append_dropWhile, List.reverse_reverse]

/-! ## Substitutions -/

def Shell.substituting (shell : Shell Environment) : Shell Environment :=
  { shell with store := (Store.push shell.store).2, stdout := {} }

/-- The shell behind a substitution whose statements left the other shell. -/
def Shell.resumed (shell after : Shell Environment) : Shell Environment :=
  { after with store := Store.pop after.store (Store.push shell.store).1, stdout := shell.stdout }

namespace Engine

open Shell

variable {engine : Engine Environment} {shell alone after : Shell Environment}
  {body : List Statement}

theorem substitution_of_ok (executed : engine.executeAll body shell.substituting = .ok () after) :
    engine.expandPart (.substitution body) shell =
      .ok (stripNewlines after.stdout.text) (shell.resumed after) := by
  unfold substituting at executed
  simp only [expandPart, bind, EStateM.bind, Action.captured, Action.inScope, executed]
  rfl

theorem substitution_of_error {failure : Failure}
    (executed : engine.executeAll body shell.substituting = .error failure after) :
    engine.expandPart (.substitution body) shell = .error failure (shell.resumed after) := by
  unfold substituting at executed
  simp only [expandPart, bind, EStateM.bind, Action.captured, Action.inScope, executed]
  rfl

theorem substituting_beside (store : alone.store = shell.store) (stdout : alone.stdout.limit = none)
    (stderr : alone.stderr.limit = none) (unlimited : shell.stderr.limit = none) :
    Beside alone shell.substituting := by
  have bindings : shell.substituting.store.bindings = shell.store.bindings := rfl
  exact ⟨by rw [bindings, store], stdout, stderr, rfl, unlimited⟩

/-- A substitution gives what its statements write alone, joined, without the newlines at the
end; or it fails like the first statement that fails alone, and the statements behind that one
do nothing. -/
theorem substitution_eq_written (engine : Engine Environment)
    (standard : engine.registry.Standard) (shell alone : Shell Environment)
    (unlimited : shell.stderr.limit = none) (store : alone.store = shell.store)
    (stdout : alone.stdout.limit = none) (stderr : alone.stderr.limit = none) :
    (∀ statement, ((engine.execute statement).after alone).stdout.contents =
      alone.stdout.contents ++ (engine.written alone statement).toUTF8) ∧
    (∀ body : List Statement,
      (∀ statement ∈ body, (engine.execute statement).failure? alone = none) →
        ∃ text count after, engine.expandPart (.substitution body) shell = .ok text after ∧
          text.toList.getLast? ≠ some '\n' ∧
          String.join (body.map (engine.written alone)) =
            text ++ String.ofList (List.replicate count '\n')) ∧
    ∀ (earlier : List Statement) (statement : Statement) (failure : Failure),
      (∀ statement ∈ earlier, (engine.execute statement).failure? alone = none) →
      (engine.execute statement).failure? alone = some failure →
        ∃ after, ∀ later,
          engine.expandPart (.substitution (earlier ++ statement :: later)) shell =
            .error failure after := by
  have beside := substituting_beside store stdout stderr unlimited
  refine ⟨?_, ?_, ?_⟩
  · intro statement
    exact execute_contents standard ⟨rfl, stdout, stderr, stdout, stderr⟩ statement
  · intro body succeed
    obtain ⟨after, -, contents, continues⟩ := executeAll_append standard beside body succeed
    have executed : engine.executeAll body shell.substituting = .ok () after := by
      rw [← List.append_nil body, continues]
      rfl
    have text : after.stdout.text = String.join (body.map (engine.written alone)) :=
      Sink.textFrom_append contents
    obtain ⟨count, split⟩ := exists_eq_stripNewlines_append after.stdout.text
    exact ⟨_, count, _, substitution_of_ok executed, getLast?_stripNewlines _, text ▸ split⟩
  · intro earlier statement failure succeed fails
    obtain ⟨after, still, -, continues⟩ := executeAll_append standard beside earlier succeed
    refine ⟨shell.resumed ((engine.execute statement).after after), fun later => ?_⟩
    have here : (engine.execute statement).failure? after = some failure := by
      rw [← (execute_alike standard still statement).1, fails]
    refine substitution_of_error ?_
    rw [continues, executeAll]
    exact Action.andThen_of_fails here _

def closedOutput : Shell Environment :=
  { layered with stdout := { limit := some 0 } }

/-- Statements of which the first leaves a scope open, the third has a status other than zero,
the fourth holds a substitution, and the others end with newlines. -/
def mixedBody : List Statement :=
  [.ofCommand (.ofTexts ["leak-scope", "y", "3"]), .ofCommand (.ofTexts ["printenv", "y"]),
    .ofCommand (.ofTexts ["exit-with", "3"]),
    .ofCommand (.call [] [Word.ofText "echo",
      [.substitution [.ofCommand (.ofTexts ["echo", "é\n"])]]]),
    .ofCommand (.ofTexts ["echo"])]

theorem mixedBody_eq_written :
    strict.registry.Standard ∧ closedOutput.stderr.limit = none ∧
      layered.store = closedOutput.store ∧ layered.stdout.limit = none ∧
      layered.stderr.limit = none ∧
      (∀ statement ∈ mixedBody, (strict.execute statement).failure? layered = none) ∧
      (∃ text count after,
        strict.expandPart (.substitution mixedBody) closedOutput = .ok text after ∧
          text.toList.getLast? ≠ some '\n' ∧
          "2\né\n\n" = text ++ String.ofList (List.replicate count '\n')) ∧
      ∃ after, ∀ later, strict.expandPart
        (.substitution (mixedBody ++ .ofCommand (.ofTexts ["nothing"]) :: later)) closedOutput =
          .error (.commandNotFound "nothing") after := by
  have standard : strict.registry.Standard := fun _ member => member
  have succeed : ∀ statement ∈ mixedBody, (strict.execute statement).failure? layered = none := by
    decide +kernel
  have fails : (strict.execute (.ofCommand (.ofTexts ["nothing"]))).failure? layered =
      some (.commandNotFound "nothing") := by
    decide +kernel
  obtain ⟨-, texts, stops⟩ :=
    substitution_eq_written strict standard closedOutput layered rfl rfl rfl rfl
  have joined : String.join (mixedBody.map (strict.written layered)) = "2\né\n\n" := by
    decide +kernel
  exact ⟨standard, rfl, rfl, rfl, rfl, succeed, joined ▸ texts mixedBody succeed,
    stops mixedBody _ _ succeed fails⟩

end Engine

end ShellTree
