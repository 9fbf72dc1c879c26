import ShellTree.Environment.Basic

/-!
# Scopes of layered environments

A scope that has been pushed lies above all layers that were there before.  As long
as no guard from outside is popped, whatever is done inside the scope leaves these
layers below the top, and popping the scope brings back exactly them.

A session carries out changes in a row and keeps the guards that it takes, so that each
of them can be popped at any later time and any number of times.
-/

namespace ShellTree.Environment

/-- What binding, pushing and popping can make of an environment, with the guards taken on
the way, when only these guards are popped. -/
inductive Ran (start : Environment) : List Guard → Environment → Prop where
  | refl : Ran start [] start
  | set {guards : List Guard} {environment : Environment} (ran : Ran start guards environment)
      (name value : String) : Ran start guards (environment.set name value)
  | push {guards : List Guard} {environment : Environment} (ran : Ran start guards environment) :
      Ran start (environment.push.1 :: guards) environment.push.2
  | pop {guards : List Guard} {environment : Environment} (ran : Ran start guards environment)
      {guard : Guard} (own : guard ∈ guards) : Ran start guards (environment.pop guard)

theorem Ran.trans {start middle after : Environment} {guards more : List Guard}
    (earlier : Ran start guards middle) (later : Ran middle more after) :
    Ran start (more ++ guards) after := by
  induction later with
  | refl => exact earlier
  | set _ name value ih => exact ih.set name value
  | push _ ih => exact ih.push
  | pop _ own ih => exact ih.pop (List.mem_append_left guards own)

/-- Dropping layers stops above a list of layers that is no longer than the count asks for. -/
theorem suffix_below_keep {base : List Bindings} {count : Nat} (enough : base.length < count)
    (top : Bindings) {below : List Bindings} (suffix : base <:+ below) :
    base <:+ (keep count top below).below := by
  induction below generalizing top with
  | nil => exact suffix
  | cons next rest ih =>
      unfold keep
      split
      · exact suffix
      · next more =>
          rcases List.suffix_cons_iff.mp suffix with whole | inner
          · have length := congrArg List.length whole
            simp only [List.length_cons] at length
            omega
          · exact ih next inner

theorem suffix_below_pop {base : List Bindings} {environment : Environment} {guard : Guard}
    (enough : base.length < guard.layers) (suffix : base <:+ environment.below) :
    base <:+ (environment.pop guard).below :=
  suffix_below_keep enough environment.top suffix

/-- What runs inside of the top layer keeps the layers below it, and the guards that it takes
do not reach below it. -/
theorem Ran.frame {start environment : Environment} {guards : List Guard}
    (ran : Ran start guards environment) :
    start.below <:+ environment.below ∧ ∀ guard ∈ guards, start.below.length < guard.layers := by
  induction ran with
  | refl => exact ⟨List.suffix_rfl, by simp⟩
  | set ran name value ih => exact ih
  | @push guards environment ran ih =>
      obtain ⟨suffix, high⟩ := ih
      refine ⟨suffix.trans (List.suffix_cons environment.top environment.below), ?_⟩
      intro guard taken
      rcases List.mem_cons.mp taken with newest | older
      · have shorter := suffix.length_le
        rw [newest]
        simp only [Environment.push, layers, List.length_cons]
        omega
      · exact high guard older
  | pop ran own ih =>
      obtain ⟨suffix, high⟩ := ih
      exact ⟨suffix_below_pop (high _ own) suffix, high⟩

/-- Dropping layers down to a number of layers that are all there leaves exactly these. -/
theorem keep_length_of_suffix {base : Environment} (top : Bindings) {below : List Bindings}
    (suffix : base.layers <:+ below) : keep base.layers.length top below = base := by
  induction below generalizing top with
  | nil => simp [layers] at suffix
  | cons next rest ih =>
      have shorter := suffix.length_le
      simp only [List.length_cons] at shorter
      unfold keep
      rw [if_neg (by omega)]
      rcases List.suffix_cons_iff.mp suffix with whole | inner
      · obtain ⟨baseTop, baseBelow⟩ := base
        simp only [layers, List.cons.injEq] at whole
        obtain ⟨rfl, rfl⟩ := whole
        cases baseBelow with
        | nil => rfl
        | cons second others => simp [keep, layers]
      · exact ih next inner

/-- Popping a scope brings back the environment that it was pushed on. -/
theorem pop_push_of_suffix {start after : Environment} (suffix : start.layers <:+ after.below) :
    after.pop start.push.1 = start :=
  keep_length_of_suffix after.top suffix

/-- Dropping layers above a number of them leaves this many, if there are more. -/
theorem layers_keep {count : Nat} (positive : 0 < count) (top : Bindings)
    (below : List Bindings) :
    (keep count top below).layers = (top :: below).drop (below.length + 1 - count) := by
  induction below generalizing top with
  | nil =>
      have all : 0 + 1 - count = 0 := by omega
      rw [List.length_nil, all]
      rfl
  | cons next rest ih =>
      unfold keep
      rw [List.length_cons]
      split
      · next few =>
          have all : rest.length + 1 + 1 - count = 0 := by omega
          rw [all]
          rfl
      · next many =>
          have more : rest.length + 1 + 1 - count = rest.length + 1 - count + 1 := by omega
          rw [ih, more, List.drop_succ_cons]

theorem layers_pop {guard : Guard} (positive : 0 < guard.layers) (environment : Environment) :
    (environment.pop guard).layers =
      environment.layers.drop (environment.layers.length - guard.layers) :=
  layers_keep positive environment.top environment.below

/-! ## Sessions -/

/-- What can be done to an environment.  A pop names its guard by the place among the guards
that were taken before. -/
inductive Change where
  | set (name value : String)
  | push
  | pop (place : Nat)

structure Session where
  environment : Environment
  taken : List Guard := []

namespace Session

/-- Carry out one change; where no guard has been taken, none can be popped. -/
def step (session : Session) : Change → Session
  | .set name value => { session with environment := session.environment.set name value }
  | .push => ⟨session.environment.push.2, session.taken ++ [session.environment.push.1]⟩
  | .pop place =>
      match session.taken[place]? with
      | some guard => { session with environment := session.environment.pop guard }
      | none => session

def run (session : Session) (changes : List Change) : Session :=
  changes.foldl step session

variable {start : Environment} {session : Session}

theorem step_ran (ran : Ran start session.taken.reverse session.environment) (change : Change) :
    Ran start (session.step change).taken.reverse (session.step change).environment := by
  cases change with
  | set name value => exact ran.set name value
  | push =>
      simp only [step, List.reverse_append, List.reverse_singleton, List.singleton_append]
      exact ran.push
  | pop place =>
      cases found : session.taken[place]? with
      | none =>
          simp only [step, found]
          exact ran
      | some guard =>
          simp only [step, found]
          exact ran.pop (List.mem_reverse.mpr (List.mem_of_getElem? found))

theorem run_ran (ran : Ran start session.taken.reverse session.environment)
    (changes : List Change) :
    Ran start (session.run changes).taken.reverse (session.run changes).environment := by
  induction changes generalizing session with
  | nil => exact ran
  | cons change rest ih => exact ih (step_ran ran change)

end Session

/-- Whatever is done inside of a scope with the guards taken there, popping the scope brings
back the environment that it was pushed on. -/
theorem pop_push_after_changes (start : Environment) (changes : List Change) :
    (Session.run ⟨start.push.2, []⟩ changes).environment.pop start.push.1 = start := by
  have ran : Ran start.push.2 (Session.run ⟨start.push.2, []⟩ changes).taken.reverse
      (Session.run ⟨start.push.2, []⟩ changes).environment := Session.run_ran .refl changes
  have framed : start.layers <:+ (Session.run ⟨start.push.2, []⟩ changes).environment.below :=
    ran.frame.1
  exact pop_push_of_suffix framed

end ShellTree.Environment
