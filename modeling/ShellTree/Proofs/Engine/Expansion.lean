import ShellTree.Proofs.Arithmetic.Numeral
import ShellTree.Proofs.Engine.Independence

/-!
# What expansion changes and what it sees

Expanding a word and evaluating an expression change the environment in one way only:
variables that are counted up or down are bound in the top layer, to decimal numerals.
Whatever the statements of a command substitution bind is undone, and what they write is
captured.

For the same reason a substitution is cut off from what is around it: an expansion sees
neither the standard output nor the options that steer a run.
-/

namespace ShellTree

/-! ## Counted variables -/

def IsCount (binding : String × String) : Prop :=
  IsName binding.1 ∧ ∃ number : Int64, binding.2 = toString number.toInt

/-- Putting a binding into a list leaves no other binding new or changed. -/
theorem Bindings.mem_putPair {name value : String} {pairs : List (String × String)}
    {pair : String × String} (member : pair ∈ putPair name value pairs) :
    pair ∈ pairs ∨ pair = (name, value) := by
  induction pairs with
  | nil => exact .inr (List.mem_singleton.mp member)
  | cons head rest ih =>
      obtain ⟨bound, old⟩ := head
      unfold putPair at member
      split at member
      · next same =>
          rcases List.mem_cons.mp member with changed | later
          · exact .inr (same ▸ changed)
          · exact .inl (List.mem_cons_of_mem _ later)
      · rcases List.mem_cons.mp member with unchanged | later
        · exact .inl (unchanged ▸ List.mem_cons_self)
        · rcases ih later with old | new
          · exact .inl (List.mem_cons_of_mem _ old)
          · exact .inr new

/-- What counting may do to an environment: the layers below the top stay, the names of the
top layer stay in front and in order, and every new or changed binding is a count. -/
structure Environment.Counts (before after : Environment) : Prop where
  below : after.below = before.below
  names : before.top.pairs.map Prod.fst <+: after.top.pairs.map Prod.fst
  changed : ∀ binding ∈ after.top.pairs, binding ∉ before.top.pairs → IsCount binding

namespace Environment.Counts

theorem refl (environment : Environment) : Counts environment environment :=
  ⟨rfl, List.prefix_rfl, fun _ member new => absurd member new⟩

theorem of_eq {before after : Environment} (same : after = before) : Counts before after :=
  same ▸ refl after

theorem trans {first second third : Environment} (earlier : Counts first second)
    (later : Counts second third) : Counts first third := by
  refine ⟨later.below.trans earlier.below, earlier.names.trans later.names, ?_⟩
  intro binding member new
  by_cases known : binding ∈ second.top.pairs
  · exact earlier.changed binding known new
  · exact later.changed binding member known

/-- Binding a name to a numeral is counting. -/
theorem set (environment : Environment) {name value : String} (count : IsCount (name, value)) :
    Counts environment (environment.set name value) := by
  refine ⟨rfl, ?_, ?_⟩
  · simp only [Environment.set, Bindings.put, Bindings.names_putPair]
    split
    · exact List.prefix_rfl
    · exact List.prefix_append _ _
  · intro binding member new
    rcases Bindings.mem_putPair member with old | counted
    · exact absurd old new
    · exact counted ▸ count

end Environment.Counts

/-- What expansion may do to a shell: count variables and write to the standard error. -/
structure Shell.Counted (before after : Shell Environment) : Prop where
  store : before.store.Counts after.store
  stdout : after.stdout = before.stdout
  stderr : after.stderr.Extends before.stderr

namespace Shell.Counted

theorem refl (shell : Shell Environment) : Counted shell shell :=
  ⟨.refl _, rfl, .refl _⟩

theorem trans ⦃first second third : Shell Environment⦄ (earlier : Counted first second)
    (later : Counted second third) : Counted first third :=
  ⟨earlier.store.trans later.store, later.stdout.trans earlier.stdout,
    later.stderr.trans earlier.stderr⟩

theorem framed {before after : Shell Environment} (counted : Counted before after) :
    Framed before after :=
  ⟨counted.store.below ▸ List.suffix_rfl, counted.stdout ▸ .refl _, counted.stderr⟩

/-- A substitution keeps the environment and the standard output: its statements have a scope
and an output of their own. -/
theorem capture {body : Action Environment Unit} (framed : body.Leads Framed) :
    (Action.captured (Action.inScope body)).Leads Counted := by
  intro shell
  have inner := Action.inScope_restored framed { shell with stdout := {} }
  rw [Action.after_captured]
  exact ⟨.of_eq inner.store, rfl, inner.stderr⟩

end Shell.Counted

namespace Engine

/-- Expansion counts variables, calls keep what lies below their scope, and statements keep
all layers. -/
theorem counting {engine : Engine Environment} (confined : engine.registry.Confined) :
    Agreement engine engine (fun action _ => action.Leads Shell.Counted)
      (fun action _ => action.Leads Shell.Framed)
      (fun action _ => action.Leads Shell.Restored) where
  sliceMode := rfl
  wordClosed := ActionRelation.closed_leads Shell.Counted.refl Shell.Counted.trans
  callClosed := (restoring confined).callClosed
  statementClosed := (restoring confined).statementClosed
  read agree shell := agree shell.store shell.store rfl shell
  count name number identifier shell := by
    have named := isName_of_isIdentifier identifier
    have numeral := Decimal.text_eq_toString number.toInt
    exact ⟨.set shell.store ⟨named, number, numeral⟩, rfl, .refl _⟩
  capture agree := Shell.Counted.capture fun shell => (agree shell).framed
  ofWord agree shell := (agree shell).framed
  set := (restoring confined).set
  invoke := (restoring confined).invoke
  warn := (restoring confined).warn
  scope := Action.inScope_restored

/-- Whether it fails or not, expansion leaves all layers below the top as they were and the
names of the top layer in their places, and binds nothing but names to decimal numerals. -/
theorem expansion_counts (engine : Engine Environment) (confined : engine.registry.Confined)
    (shell : Shell Environment) :
    (∀ word, shell.store.Counts ((engine.expandWord word).after shell).store) ∧
      (∀ part, shell.store.Counts ((engine.expandPart part).after shell).store) ∧
      ∀ expression, shell.store.Counts ((engine.evaluate expression).after shell).store := by
  refine ⟨fun word => ?_, fun part => ?_, fun expression => ?_⟩
  · exact ((counting confined).expandWord word shell).store
  · exact ((counting confined).expandPart part shell).store
  · exact ((counting confined).evaluate expression shell).store

/-- A word that counts one variable up in a slice, binds it in a substitution that leaves a
scope open, counts a new one down and then divides by zero. -/
def countingWord : Word :=
  [.doubleQuoted [.parameter "y" (some (.slice
      (.unary .inc (.word [.literal " x "]) true) none))],
    .substitution [.ofCommand (Command.ofTexts ["leak-scope", "x", "9"])],
    .parameter "w" (some (.default
      [.arithmetic (.binary .div (.unary .dec (.word [.literal "n_1"]) false)
        (.word [.literal "0"]))] true))]

theorem countingWord_counts :
    Registry.Confined ⟨Program.builtins ++ Program.probes⟩ ∧
      ((expandWord ⟨{}, ⟨Program.builtins ++ Program.probes⟩⟩ countingWord).after
        layered).store.layers.map (·.pairs) = [[("x", "2"), ("n_1", "-1")], [("y", "2")]] ∧
      layered.store.Counts
        ((expandWord ⟨{}, ⟨Program.builtins ++ Program.probes⟩⟩ countingWord).after
          layered).store :=
  ⟨fun _ => Program.confined_of_mem, by decide +kernel,
    (expansion_counts ⟨{}, ⟨Program.builtins ++ Program.probes⟩⟩
      (fun _ => Program.confined_of_mem) layered).1 countingWord⟩

end Engine

/-! ## Output and options around an expansion -/

/-- Two shells that differ in nothing but their standard output, which is the given one on
each side. -/
structure Shell.Apart {ε : Type} (sink sink' : Sink) (shell shell' : Shell ε) : Prop where
  store : shell.store = shell'.store
  stderr : shell.stderr = shell'.stderr
  warnings : shell.warnings = shell'.warnings
  stdout : shell.stdout = sink
  stdout' : shell'.stdout = sink'

namespace Shell.Apart

variable {ε : Type} {sink sink' : Sink} {shell shell' : Shell ε}

/-- With the same standard output in both, the shells are the same. -/
theorem captured_eq (apart : Apart sink sink' shell shell') (own : Sink) :
    { shell with stdout := own } = { shell' with stdout := own } := by
  obtain ⟨store, stdout, stderr, warnings⟩ := shell
  obtain ⟨store', stdout', stderr', warnings'⟩ := shell'
  obtain ⟨rfl, rfl, rfl, -, -⟩ := apart
  rfl

/-- A captured action runs in the same shell on both sides, and each side gets its own standard
output back. -/
theorem captured (action : Action ε Unit) :
    Action.Simulates (Apart sink sink') (Action.captured action) (Action.captured action) := by
  intro shell shell' apart
  simp only [Action.captured, ← apart.captured_eq {}]
  cases action { shell with stdout := {} } with
  | ok value after => exact .ok _ ⟨rfl, rfl, rfl, apart.stdout, apart.stdout'⟩
  | error failure after => exact .error failure ⟨rfl, rfl, rfl, apart.stdout, apart.stdout'⟩

theorem set [Store ε] (name value : String) :
    Action.Simulates (Apart (ε := ε) sink sink') (Action.set name value)
      (Action.set name value) := by
  intro shell shell' apart
  refine .ok () ⟨?_, apart.stderr, apart.warnings, apart.stdout, apart.stdout'⟩
  exact congrArg (Store.set · name value) apart.store

end Shell.Apart

namespace Engine

/-- Engines with the same programs and the same way to read slices run the same statements, and
their expansions do the same whatever the standard output is on each side. -/
theorem secluded {ε : Type} [Store ε] {engine engine' : Engine ε}
    (registry : engine.registry = engine'.registry)
    (sliceMode : engine.options.sliceMode = engine'.options.sliceMode) :
    Agreement engine engine'
      (fun action action' => action = action' ∧
        ∀ sink sink', Action.Simulates (Shell.Apart sink sink') action action')
      (fun action action' => action = action') (fun action action' => action = action') where
  sliceMode := sliceMode
  wordClosed := ActionRelation.closed_eq.and <|
    .forall fun sink => .forall fun sink' =>
      ActionRelation.closed_simulates (Shell.Apart sink sink')
  callClosed := ActionRelation.closed_eq
  statementClosed := ActionRelation.closed_eq
  read {α next next'} agree := by
    have same : next = next' := funext fun store => (agree store store rfl).1
    refine ⟨congrArg (Action.store >>= ·) same, fun sink sink' => ?_⟩
    refine Action.Simulates.read fun shell shell' apart => ?_
    rw [apart.store]
    exact (agree shell'.store shell'.store rfl).2 sink sink'
  count name number _ := ⟨rfl, fun _ _ => Shell.Apart.set name _⟩
  capture {body body'} agree := by
    rw [agree]
    exact ⟨rfl, fun _ _ => Shell.Apart.captured _⟩
  ofWord agree := agree.1
  set _ _ := rfl
  invoke := (sameEvaluation registry sliceMode).invoke
  warn _ := rfl
  scope agree := congrArg Action.inScope agree

/-- Expansion neither sees nor touches the standard output around it, nor does it depend on
options other than the way slices are read: shells that differ in their standard output
give the same text or the same failure and end in shells that differ in it as before. -/
theorem expansion_apart {ε : Type} [Store ε] (engine engine' : Engine ε)
    (registry : engine.registry = engine'.registry)
    (sliceMode : engine.options.sliceMode = engine'.options.sliceMode) (shell : Shell ε)
    (sink sink' : Sink) :
    (∀ word, Action.Alike (Shell.Apart sink sink')
        (engine.expandWord word { shell with stdout := sink })
        (engine'.expandWord word { shell with stdout := sink' })) ∧
      (∀ part, Action.Alike (Shell.Apart sink sink')
        (engine.expandPart part { shell with stdout := sink })
        (engine'.expandPart part { shell with stdout := sink' })) ∧
      ∀ expression, Action.Alike (Shell.Apart sink sink')
        (engine.evaluate expression { shell with stdout := sink })
        (engine'.evaluate expression { shell with stdout := sink' }) := by
  have agreement := secluded registry sliceMode
  have start : Shell.Apart sink sink' { shell with stdout := sink }
      { shell with stdout := sink' } := ⟨rfl, rfl, rfl, rfl, rfl⟩
  refine ⟨fun word => ?_, fun part => ?_, fun expression => ?_⟩
  · exact (agreement.expandWord word).2 sink sink' start
  · exact (agreement.expandPart part).2 sink sink' start
  · exact (agreement.evaluate expression).2 sink sink' start

def nestedCapture : Word :=
  [.literal "<", .substitution
    [.ofCommand (Command.ofTexts ["echo", "a"]),
      .ofCommand (.call [] [Word.ofText "echo",
        [.substitution [.ofCommand (Command.ofTexts ["printenv", "x"])]]]),
      .ofCommand (Command.ofTexts ["false"])],
    .literal ">"]

def tracing : Engine Environment where
  options := { printExecuted := true }
  registry := ⟨Program.builtins ++ Program.probes⟩

theorem nestedCapture_apart :
    strict.registry = tracing.registry ∧
      strict.options.sliceMode = tracing.options.sliceMode ∧
      (strict.expandWord nestedCapture).run'
        { layered with stdout := { limit := some 0 } } = some "<a\n1>" ∧
      Action.Alike (Shell.Apart { limit := some 0 } { contents := "b".toUTF8 })
        (strict.expandWord nestedCapture { layered with stdout := { limit := some 0 } })
        (tracing.expandWord nestedCapture
          { layered with stdout := { contents := "b".toUTF8 } }) :=
  ⟨rfl, rfl, by decide +kernel,
    (expansion_apart strict tracing rfl rfl layered { limit := some 0 }
      { contents := "b".toUTF8 }).1 nestedCapture⟩

end Engine

end ShellTree
