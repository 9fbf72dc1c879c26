import Mathlib.Data.List.Basic
import Mathlib.Data.List.Induction
import ShellTree.Program.Builtin
import ShellTree.Proofs.Environment.Flattening
import ShellTree.Proofs.Environment.Scope
import ShellTree.Proofs.Lists

/-!
# Environments as logs of writes

A log keeps every write in the order of time.  Pushing a scope marks the end of the
log, and popping a guard cuts the log back to the mark of its scope, if that is still
there.  All that an environment shows can be read off the writes that survive: the
value of a name is that of the last write to it, and the names stand in the order of
the first write to each.

The invariant is that each layer holds the writes between its mark and the next one.
-/

namespace ShellTree

/-! ## Bindings of a list of writes -/

namespace Bindings

theorem ofPairs_snoc (writes : List (String × String)) (name value : String) :
    ofPairs (writes ++ [(name, value)]) = (ofPairs writes).put name value := by
  simp only [ofPairs, putAll, List.foldl_append, List.foldl_cons, List.foldl_nil]

theorem putAll_append (bindings : Bindings) (first second : List (String × String)) :
    bindings.putAll (first ++ second) = (bindings.putAll first).putAll second :=
  List.foldl_append

/-- Putting bindings is putting the writes that made them. -/
theorem putAll_ofPairs (bindings : Bindings) (writes : List (String × String)) :
    bindings.putAll (ofPairs writes).pairs = bindings.putAll writes := by
  induction writes using List.reverseRecOn with
  | nil => rfl
  | append_singleton writes write ih =>
      obtain ⟨name, value⟩ := write
      rw [ofPairs_snoc, putAll_append, ← ih]
      exact putAll_putPair bindings name value (ofPairs writes).distinct

/-- A name has the value of the last write to it. -/
theorem get?_ofPairs (writes : List (String × String)) (name : String) :
    (ofPairs writes).get? name = writes.reverse.lookup name := by
  induction writes using List.reverseRecOn with
  | nil => rfl
  | append_singleton writes write ih =>
      obtain ⟨written, value⟩ := write
      rw [ofPairs_snoc, get?_put, ih, List.reverse_append, List.reverse_singleton,
        List.singleton_append, lookup_pair]

/-- Names stand in the order of the first write to each. -/
theorem names_ofPairs (writes : List (String × String)) :
    (ofPairs writes).names = (writes.map Prod.fst).eraseDups := by
  induction writes using List.reverseRecOn with
  | nil => rfl
  | append_singleton writes write ih =>
      obtain ⟨name, value⟩ := write
      have added : (ofPairs (writes ++ [(name, value)])).names =
          if name ∈ (ofPairs writes).names then (ofPairs writes).names
          else (ofPairs writes).names ++ [name] := by
        rw [ofPairs_snoc]
        exact names_putPair name value (ofPairs writes).pairs
      have same : name ∈ (ofPairs writes).names ↔ name ∈ writes.map Prod.fst := by
        rw [ih, List.mem_eraseDups]
      rw [List.map_append, List.eraseDups_append, ← ih, added]
      by_cases known : name ∈ writes.map Prod.fst
      · rw [if_pos (same.mpr known)]
        simp [List.removeAll, known]
      · rw [if_neg (mt same.mp known)]
        simp [List.removeAll, known, List.eraseDups_cons]

theorem get?_of_mem {bindings : Bindings} {pair : String × String}
    (member : pair ∈ bindings.pairs) : bindings.get? pair.1 = some pair.2 :=
  lookup_of_mem bindings.distinct member

theorem pairs_eq_filterMap (bindings : Bindings) :
    bindings.pairs =
      bindings.names.filterMap fun name =>
        (bindings.get? name).map fun value => (name, value) := by
  have each : ∀ pair ∈ bindings.pairs,
      ((bindings.get? pair.1).map fun value => (pair.1, value)) = some pair := by
    intro pair member
    rw [get?_of_mem member]
    rfl
  rw [names, List.filterMap_map]
  exact ((List.filterMap_congr each).trans List.filterMap_some).symm

theorem isEmpty_ofPairs_iff (writes : List (String × String)) :
    (ofPairs writes).pairs.isEmpty = true ↔ writes = [] := by
  constructor
  · intro empty
    rcases List.eq_nil_or_concat' writes with none | ⟨earlier, ⟨name, value⟩, rfl⟩
    · exact none
    · have member := mem_names_put (ofPairs earlier) name value
      rw [← ofPairs_snoc, names, List.isEmpty_iff.mp empty] at member
      cases member
  · rintro rfl
    rfl

end Bindings

namespace Environment

/-! ## The log -/

/-- The writes that survive, in the order of time.  Each live layer has a mark, the number of
writes before it was pushed, and the base comes first.  The guards taken so far are kept as
the index of the layer that each was taken for. -/
structure Log where
  writes : List (String × String)
  marks : List Nat := [0]
  taken : List Nat := []

namespace Log

/-- Go back to the mark of the layer with the given index, if there is one. -/
def cut (log : Log) (index : Nat) : Log :=
  match log.marks[index]? with
  | some mark => { log with writes := log.writes.take mark, marks := log.marks.take index }
  | none => log

def step (log : Log) : Change → Log
  | .set name value => { log with writes := log.writes ++ [(name, value)] }
  | .push =>
      { log with
        marks := log.marks ++ [log.writes.length]
        taken := log.taken ++ [log.marks.length] }
  | .pop place =>
      match log.taken[place]? with
      | some index => log.cut index
      | none => log

def run (log : Log) (changes : List Change) : Log :=
  changes.foldl step log

def value? (log : Log) (name : String) : Option String :=
  log.writes.reverse.lookup name

def names (log : Log) : List String :=
  (log.writes.map Prod.fst).eraseDups

def pairs (log : Log) : List (String × String) :=
  log.names.filterMap fun name => (log.value? name).map fun value => (name, value)

end Log

/-! ## Layers as parts of the log -/

/-- Each layer, from the top down, holds the writes from its mark on. -/
inductive Tracks : List (String × String) → List Nat → List Bindings → Prop where
  | base (writes : List (String × String)) : Tracks writes [0] [.ofPairs writes]
  | layer {writes : List (String × String)} {marks : List Nat} {layers : List Bindings}
      (below : Tracks writes marks layers) (own : List (String × String)) :
      Tracks (writes ++ own) (marks ++ [writes.length]) (.ofPairs own :: layers)

namespace Tracks

variable {writes : List (String × String)} {marks : List Nat} {layers : List Bindings}

theorem length_eq (tracks : Tracks writes marks layers) : layers.length = marks.length := by
  induction tracks with
  | base writes => rfl
  | layer below own ih => rw [List.length_cons, List.length_append, ih, List.length_singleton]

theorem mark_le (tracks : Tracks writes marks layers) : ∀ mark ∈ marks, mark ≤ writes.length := by
  induction tracks with
  | base writes =>
      intro mark member
      rw [List.mem_singleton.mp member]
      exact Nat.zero_le _
  | @layer writes marks layers below own ih =>
      intro mark member
      rw [List.length_append]
      rcases List.mem_append.mp member with older | newest
      · exact Nat.le_trans (ih mark older) (Nat.le_add_right _ _)
      · rw [List.mem_singleton.mp newest]
        exact Nat.le_add_right _ _

theorem set {environment : Environment} (tracks : Tracks writes marks environment.layers)
    (name value : String) :
    Tracks (writes ++ [(name, value)]) marks (environment.set name value).layers := by
  obtain ⟨top, below⟩ := environment
  change Tracks writes marks (top :: below) at tracks
  change Tracks (writes ++ [(name, value)]) marks (top.put name value :: below)
  cases tracks with
  | base =>
      rw [← Bindings.ofPairs_snoc]
      exact .base _
  | layer inner own =>
      rw [← Bindings.ofPairs_snoc, List.append_assoc]
      exact .layer inner _

theorem push (tracks : Tracks writes marks layers) :
    Tracks writes (marks ++ [writes.length]) ({} :: layers) := by
  have pushed := tracks.layer []
  rwa [List.append_nil] at pushed

/-- Dropping all layers from one of them on cuts the log back to its mark.  A layer further down
has its mark before the writes of the top layer, so that the cut does not see them; the top layer
is cut off with its own writes alone. -/
theorem cut (tracks : Tracks writes marks layers) {index : Nat} (positive : 0 < index)
    (live : index < layers.length) :
    ∃ mark, marks[index]? = some mark ∧
      Tracks (writes.take mark) (marks.take index) (layers.drop (layers.length - index)) := by
  induction tracks with
  | base writes =>
      rw [List.length_singleton] at live
      omega
  | @layer writes marks layers below own ih =>
      have length := below.length_eq
      rw [List.length_cons] at live ⊢
      rcases Nat.lt_or_eq_of_le (Nat.le_of_lt_succ live) with deeper | top
      · obtain ⟨mark, marked, tracks⟩ := ih deeper
        have inside := below.mark_le mark (List.mem_of_getElem? marked)
        refine ⟨mark, ?_, ?_⟩
        · rw [List.getElem?_append_left (by omega), marked]
        · rwa [List.take_append_of_le_length inside, List.take_append_of_le_length (by omega),
            Nat.succ_sub (Nat.le_of_lt deeper), List.drop_succ_cons]
      · have end_eq : index = marks.length := by omega
        subst end_eq
        refine ⟨writes.length, List.getElem?_concat_length, ?_⟩
        rwa [List.take_left, List.take_left, length, Nat.add_sub_cancel_left, List.drop_succ_cons,
          List.drop_zero]

/-- The visible bindings are those of all writes. -/
theorem bindings_eq (tracks : Tracks writes marks layers) :
    layers.foldr (fun layer known => known.putAll layer.pairs) {} = Bindings.ofPairs writes := by
  induction tracks with
  | base writes => exact Bindings.putAll_ofPairs {} writes
  | layer below own ih =>
      rw [List.foldr_cons, ih, Bindings.putAll_ofPairs]
      exact (Bindings.putAll_append {} _ own).symm

theorem isEmpty_iff (tracks : Tracks writes marks layers) :
    (layers.all fun layer => layer.pairs.isEmpty) = true ↔ writes = [] := by
  induction tracks with
  | base writes => rw [List.all_cons, List.all_nil, Bool.and_true, Bindings.isEmpty_ofPairs_iff]
  | layer below own ih =>
      rw [List.all_cons, Bool.and_eq_true, Bindings.isEmpty_ofPairs_iff, ih,
        List.append_eq_nil_iff, and_comm]

end Tracks

/-! ## Sessions and their logs -/

structure Log.Follows (log : Log) (session : Session) : Prop where
  tracks : Tracks log.writes log.marks session.environment.layers
  taken : session.taken.map Guard.layers = log.taken
  positive : ∀ index ∈ log.taken, 0 < index

namespace Log.Follows

variable {log : Log} {session : Session}

theorem tracks_pop (follows : log.Follows session) {guard : Guard} (positive : 0 < guard.layers) :
    Tracks (log.cut guard.layers).writes (log.cut guard.layers).marks
      (session.environment.pop guard).layers := by
  have length := follows.tracks.length_eq
  rw [layers_pop positive]
  by_cases live : guard.layers < session.environment.layers.length
  · obtain ⟨mark, marked, tracks⟩ := follows.tracks.cut positive live
    simp only [cut, marked]
    exact tracks
  · have dead : log.marks[guard.layers]? = none := List.getElem?_eq_none (by omega)
    have all : session.environment.layers.length - guard.layers = 0 := by omega
    simp only [cut, dead, all, List.drop_zero]
    exact follows.tracks

theorem step (follows : log.Follows session) (change : Change) :
    (log.step change).Follows (session.step change) := by
  have length := follows.tracks.length_eq
  cases change with
  | set name value => exact ⟨follows.tracks.set name value, follows.taken, follows.positive⟩
  | push =>
      refine ⟨follows.tracks.push, ?_, ?_⟩
      · simp only [Session.step, Log.step, List.map_append, follows.taken, List.map_singleton]
        rw [← length]
        rfl
      · intro index member
        rcases List.mem_append.mp member with earlier | newest
        · exact follows.positive index earlier
        · rw [List.mem_singleton.mp newest, ← length]
          exact Nat.succ_pos _
  | pop place =>
      have same : (session.taken[place]?).map Guard.layers = log.taken[place]? := by
        rw [← List.getElem?_map, follows.taken]
      cases found : session.taken[place]? with
      | none =>
          rw [found, Option.map_none] at same
          simp only [Session.step, Log.step, found, ← same]
          exact follows
      | some guard =>
          rw [found, Option.map_some] at same
          have positive := follows.positive guard.layers (List.mem_of_getElem? same.symm)
          have unchanged : (log.cut guard.layers).taken = log.taken := by
            unfold cut
            split <;> rfl
          simp only [Session.step, Log.step, found, ← same]
          refine ⟨follows.tracks_pop positive, ?_, ?_⟩
          · rw [unchanged]
            exact follows.taken
          · rw [unchanged]
            exact follows.positive

theorem run (follows : log.Follows session) (changes : List Change) :
    (log.run changes).Follows (session.run changes) := by
  induction changes generalizing log session with
  | nil => exact follows
  | cons change rest ih => exact ih (follows.step change)

end Log.Follows

theorem follows_ofPairs (pairs : List (String × String)) :
    Log.Follows ⟨pairs, [0], []⟩ ⟨.ofPairs pairs, []⟩ where
  tracks := .base pairs
  taken := rfl
  positive := by simp

/-! ## What an environment shows -/

/-- All that can be seen of the environment is what the surviving writes of the log say. -/
structure Log.Describes (log : Log) (environment : Environment) : Prop where
  base : 0 < environment.layers.length
  layers : environment.layers.length = log.marks.length
  get? : ∀ name, environment.get? name = log.value? name
  /-- Each name is listed once, where it was written to first. -/
  names : environment.bindings.names = log.names
  pairs : environment.bindings.pairs = log.pairs
  size : environment.size = log.names.length
  isEmpty : environment.isEmpty = true ↔ log.writes = []
  printed : ∀ shell : Shell Environment,
    Program.printenv.run [] { shell with store := environment } =
      (do
        Action.write (String.join (log.pairs.map fun pair => pair.1 ++ "=" ++ pair.2 ++ "\n"))
        return 0 : Action Environment Status) { shell with store := environment }

theorem Log.describes_of_tracks {log : Log} {environment : Environment}
    (tracks : Tracks log.writes log.marks environment.layers) : log.Describes environment := by
  have bindings : environment.bindings = .ofPairs log.writes := tracks.bindings_eq
  have get? (name : String) : environment.get? name = log.value? name := by
    rw [← get?_bindings, bindings]
    exact Bindings.get?_ofPairs log.writes name
  have names : environment.bindings.names = log.names := by
    rw [bindings]
    exact Bindings.names_ofPairs log.writes
  have pairs : environment.bindings.pairs = log.pairs := by
    rw [Bindings.pairs_eq_filterMap, names, Log.pairs]
    simp only [get?_bindings, get?]
  have size : environment.size = log.names.length := by
    rw [← names, Bindings.names, List.length_map]
    rfl
  have printed (shell : Shell Environment) :
      Program.printenv.run [] { shell with store := environment } =
        (do
          Action.write (Printenv.listing environment.bindings)
          return 0 : Action Environment Status) { shell with store := environment } := rfl
  simp only [Printenv.listing, pairs] at printed
  exact ⟨Nat.succ_pos _, tracks.length_eq, get?, names, pairs, size, tracks.isEmpty_iff, printed⟩

/-- Whatever is done to an environment with guards taken earlier, it shows the surviving writes
of the log in which the same is done. -/
theorem session_shows_log (pairs : List (String × String)) (changes : List Change) :
    (Log.run ⟨pairs, [0], []⟩ changes).Describes
      (Session.run ⟨.ofPairs pairs, []⟩ changes).environment :=
  Log.describes_of_tracks ((follows_ofPairs pairs).run changes).tracks

/-- The second guard outlives its scope; popped late, it cuts back the scope that took its
place. -/
example : (Log.run ⟨[("a", "1")], [0], []⟩
    [.push, .set "b" "2", .push, .pop 0, .push, .set "a" "3", .push, .set "b" "4", .pop 1]).pairs =
      [("a", "3")] := by decide

end Environment

end ShellTree
