import Mathlib.Data.List.Basic
import Mathlib.Data.List.Induction
import ShellTree.Program.Builtin
import ShellTree.Proofs.Engine.Simulation

/-!
# What `echo` prints

The flags of `echo` are the longest beginning of its arguments that consists of flags.  They
are taken one by one, but what they mean can be read off from all of them: one flag
suffices to leave the newline off, and of the flags about escapes the last one counts.
The other arguments are one text, and the whole output is one write.
-/

namespace ShellTree

namespace Echo

def flagTexts : List String :=
  ["-n", "-e", "-E", "-ne", "-en"]

def escapeTexts : List String :=
  ["-e", "-E", "-ne", "-en"]

/-- The longest beginning of the arguments that consists of flags. -/
structure Leading (flags arguments : List String) : Prop where
  beginning : flags <+: arguments
  known : ∀ flag ∈ flags, flag ∈ flagTexts
  longest : ∀ others, others <+: arguments → (∀ flag ∈ others, flag ∈ flagTexts) →
    others.length ≤ flags.length

/-- No flag is about escapes, or the last one that is turns their resolution off. -/
def Verbatim (flags : List String) : Prop :=
  (∀ flag ∈ flags, flag ∉ escapeTexts) ∨
    ∃ before after, flags = before ++ "-E" :: after ∧ ∀ flag ∈ after, flag ∉ escapeTexts

def ending (flags : List String) : String :=
  if "-n" ∈ flags ∨ "-ne" ∈ flags ∨ "-en" ∈ flags then "" else "\n"

inductive Prints (flags : List String) (text : String) : String → Prop where
  | verbatim (kept : Verbatim flags) : Prints flags text (text ++ ending flags)
  | unescaped (resolved : ¬ Verbatim flags) (whole : (Text.unescape text.toList).stopped = false) :
      Prints flags text (String.ofList (Text.unescape text.toList).output ++ ending flags)
  | stopped (resolved : ¬ Verbatim flags) (early : (Text.unescape text.toList).stopped = true) :
      Prints flags text (String.ofList (Text.unescape text.toList).output)

/-! ## The flags of a list of arguments -/

namespace Leading

variable {flag : String} {flags flags' arguments : List String}

theorem nil : Leading [] [] :=
  ⟨List.prefix_rfl, List.forall_mem_nil _, fun _ beginning _ => beginning.length_le⟩

theorem stop (other : flag ∉ flagTexts) : Leading [] (flag :: arguments) := by
  refine ⟨List.nil_prefix, List.forall_mem_nil _, fun others beginning known => ?_⟩
  cases others with
  | nil => exact Nat.le_refl 0
  | cons first others =>
      obtain ⟨rfl, -⟩ := List.cons_prefix_cons.mp beginning
      exact absurd (known first List.mem_cons_self) other

theorem cons (known : flag ∈ flagTexts) (leading : Leading flags arguments) :
    Leading (flag :: flags) (flag :: arguments) := by
  refine ⟨List.cons_prefix_cons.mpr ⟨rfl, leading.beginning⟩,
    List.forall_mem_cons.mpr ⟨known, leading.known⟩, fun others beginning among => ?_⟩
  cases others with
  | nil => exact Nat.zero_le _
  | cons first others =>
      obtain ⟨-, within⟩ := List.cons_prefix_cons.mp beginning
      exact Nat.succ_le_succ (leading.longest others within (List.forall_mem_cons.mp among).2)

theorem unique (leading : Leading flags arguments) (leading' : Leading flags' arguments) :
    flags = flags' := by
  have length := Nat.le_antisymm (leading'.longest flags leading.beginning leading.known)
    (leading.longest flags' leading'.beginning leading'.known)
  exact (List.prefix_of_prefix_length_le leading.beginning leading'.beginning
    (Nat.le_of_eq length)).eq_of_length length

end Leading

/-! ## Flags taken one by one -/

def Flags.turn (flags : Flags) (flag : String) : Flags where
  newline := flags.newline && flag ∉ ["-n", "-ne", "-en"]
  escapes := if flag ∈ escapeTexts then flag ≠ "-E" else flags.escapes

theorem Flags.take?_of_mem {flag : String} (known : flag ∈ flagTexts) (flags : Flags) :
    flags.take? flag = some (flags.turn flag) := by
  obtain ⟨newline, escapes⟩ := flags
  simp only [flagTexts, List.mem_cons, List.not_mem_nil, or_false] at known
  rcases known with rfl | rfl | rfl | rfl | rfl <;> cases newline <;> rfl

theorem Flags.take?_of_not_mem {flag : String} (other : flag ∉ flagTexts) (flags : Flags) :
    flags.take? flag = none := by
  simp only [flagTexts, List.mem_cons, List.not_mem_nil, or_false, not_or] at other
  obtain ⟨n, e, E, ne, en⟩ := other
  simp only [take?, n, e, E, ne, en, if_false, or_self]

/-- The loop takes the leading flags, turns what each of them says, and leaves the rest. -/
theorem Flags.split_eq (flags : Flags) (arguments : List String) :
    ∃ taken, Leading taken arguments ∧
      flags.split arguments = (taken.foldl turn flags, arguments.drop taken.length) := by
  induction arguments generalizing flags with
  | nil => exact ⟨[], .nil, rfl⟩
  | cons argument rest ih =>
      by_cases known : argument ∈ flagTexts
      · obtain ⟨taken, leading, split⟩ := ih (flags.turn argument)
        refine ⟨argument :: taken, leading.cons known, ?_⟩
        simp only [Flags.split, take?_of_mem known, split]
        rfl
      · refine ⟨[], .stop known, ?_⟩
        simp only [Flags.split, take?_of_not_mem known]
        rfl

theorem newline_turned (flags : List String) :
    (flags.foldl Flags.turn {}).newline = true ↔
      ¬ ("-n" ∈ flags ∨ "-ne" ∈ flags ∨ "-en" ∈ flags) := by
  induction flags using List.reverseRecOn with
  | nil => simp
  | append_singleton flags flag ih =>
      simp only [List.foldl_append, List.foldl_cons, List.foldl_nil, Flags.turn,
        Bool.and_eq_true, ih, decide_eq_true_iff, List.mem_append, List.mem_cons,
        List.not_mem_nil, or_false]
      grind

/-- A further flag decides alone if it is about escapes, and changes nothing if not. -/
theorem verbatim_snoc {flags : List String} {flag : String} :
    Verbatim (flags ++ [flag]) ↔ flag = "-E" ∨ flag ∉ escapeTexts ∧ Verbatim flags := by
  constructor
  · rintro (none | ⟨before, after, split, later⟩)
    · obtain ⟨none, apart⟩ := List.forall_mem_append.mp none
      exact .inr ⟨apart flag List.mem_cons_self, .inl none⟩
    · rcases List.eq_nil_or_concat' after with rfl | ⟨after, last, rfl⟩
      · exact .inl (List.append_singleton_inj.mp split).2
      · rw [← List.cons_append, ← List.append_assoc] at split
        obtain ⟨rfl, rfl⟩ := List.append_singleton_inj.mp split
        obtain ⟨later, apart⟩ := List.forall_mem_append.mp later
        exact .inr ⟨apart flag List.mem_cons_self, .inr ⟨before, after, rfl, later⟩⟩
  · rintro (rfl | ⟨apart, none | ⟨before, after, rfl, later⟩⟩)
    · exact .inr ⟨flags, [], rfl, List.forall_mem_nil _⟩
    · exact .inl (List.forall_mem_append.mpr ⟨none, List.forall_mem_singleton.mpr apart⟩)
    · refine .inr ⟨before, after ++ [flag], by simp only [List.append_assoc, List.cons_append], ?_⟩
      exact List.forall_mem_append.mpr ⟨later, List.forall_mem_singleton.mpr apart⟩

theorem escapes_turned (flags : List String) :
    (flags.foldl Flags.turn {}).escapes = false ↔ Verbatim flags := by
  induction flags using List.reverseRecOn with
  | nil => exact ⟨fun _ => .inl (List.forall_mem_nil _), fun _ => rfl⟩
  | append_singleton flags flag ih =>
      rw [verbatim_snoc, ← ih, List.foldl_append, List.foldl_cons, List.foldl_nil, Flags.turn]
      by_cases about : flag ∈ escapeTexts
      · simp only [about, if_true, decide_eq_false_iff_not, not_not, not_true_eq_false, false_and,
          or_false]
      · have other : flag ≠ "-E" := fun same => about (same ▸ by decide)
        simp only [about, if_false, other, not_false_eq_true, true_and, false_or]

theorem ending_eq (flags : List String) :
    ending flags = if (flags.foldl Flags.turn {}).newline then "\n" else "" := by
  unfold ending
  by_cases silent : "-n" ∈ flags ∨ "-ne" ∈ flags ∨ "-en" ∈ flags
  · rw [if_pos silent, if_neg fun newline => (newline_turned flags).mp newline silent]
  · rw [if_neg silent, if_pos ((newline_turned flags).mpr silent)]

/-- The output is what the leading flags say of the text behind them. -/
theorem output_prints (arguments : List String) :
    ∃ flags, Leading flags arguments ∧
      Prints flags (" ".intercalate (arguments.drop flags.length)) (output arguments) := by
  obtain ⟨flags, leading, split⟩ := Flags.split_eq {} arguments
  refine ⟨flags, leading, ?_⟩
  simp only [output, split, ← ending_eq]
  generalize " ".intercalate (arguments.drop flags.length) = text
  by_cases verbatim : Verbatim flags
  · rw [(escapes_turned flags).mpr verbatim, if_neg Bool.false_ne_true]
    exact .verbatim verbatim
  · rw [if_pos (Bool.of_not_eq_false (mt (escapes_turned flags).mp verbatim))]
    by_cases early : (Text.unescape text.toList).stopped = true
    · rw [if_pos early, String.append_empty]
      exact .stopped verbatim early
    · rw [if_neg early]
      exact .unescaped verbatim (Bool.eq_false_iff.mpr early)

end Echo

/-! ## The program -/

/-- For every list of arguments, the leading flags and the text behind them determine what is
printed: the text as it is, or without its escapes, and a newline unless a flag or an escape
suppresses it.  The status is zero and nothing changes but the standard output, to which the whole
output is added at once.  If it cannot be added, the program fails with that fault and
nothing changes. -/
theorem echo_exact {ε : Type} (arguments : List String) (shell : Shell ε) :
    ∃ flags output, Echo.Leading flags arguments ∧
      Echo.Prints flags (" ".intercalate (arguments.drop flags.length)) output ∧
      (shell.stdout.limit = none →
        Program.echo.run arguments shell = .ok 0 (shell.wrote output)) ∧
      ∀ fault, shell.stdout.write output = .error fault →
        Program.echo.run arguments shell = .error (.stream fault) shell := by
  obtain ⟨flags, leading, prints⟩ := Echo.output_prints arguments
  refine ⟨flags, Echo.output arguments, leading, prints, fun unlimited => ?_, fun fault full => ?_⟩
  · have written : Action.write (Echo.output arguments) shell =
        .ok () (shell.wrote (Echo.output arguments)) :=
      Action.write_of_accepts (Sink.accepts_of_unlimited unlimited _)
    simp only [Program.echo, bind, EStateM.bind, written]
    rfl
  · simp only [Program.echo, bind, EStateM.bind, Action.write, full]

def contradictory : List String :=
  ["-e", "-n", "-E", "-ne", "-n", "a\\tb", "-e", "c\\cd"]

def narrow : Shell Environment where
  store := .ofPairs [("x", "1")]
  stdout := { limit := some 5 }

theorem contradictory_exact :
    Program.echo.run contradictory narrow = .error (.stream .closed) narrow ∧
      Program.echo.run contradictory { narrow with stdout := {} } =
        .ok 0 (Shell.wrote { narrow with stdout := {} } "a\tb -e c") := by
  have leads : Echo.Leading ["-e", "-n", "-E", "-ne", "-n"] contradictory :=
    .cons (by decide) (.cons (by decide) (.cons (by decide) (.cons (by decide)
      (.cons (by decide) (.stop (by decide))))))
  have resolved : ¬ Echo.Verbatim ["-e", "-n", "-E", "-ne", "-n"] :=
    mt (Echo.escapes_turned _).mpr (by decide)
  have text : Text.unescape
      (" ".intercalate (contradictory.drop ["-e", "-n", "-E", "-ne", "-n"].length)).toList =
        ⟨"a\tb -e c".toList, true⟩ := by
    decide +kernel
  have printed {flags : List String} {output : String} (leading : Echo.Leading flags contradictory)
      (prints : Echo.Prints flags (" ".intercalate (contradictory.drop flags.length)) output) :
      output = "a\tb -e c" := by
    obtain rfl := leading.unique leads
    cases prints with
    | verbatim kept => exact absurd kept resolved
    | unescaped _ whole =>
        rw [text] at whole
        cases whole
    | stopped _ _ => rw [text, String.ofList_toList]
  obtain ⟨_, _, leading, prints, -, fails⟩ := echo_exact contradictory narrow
  obtain rfl := printed leading prints
  obtain ⟨_, _, leading, prints, writes, -⟩ :=
    echo_exact contradictory { narrow with stdout := {} }
  obtain rfl := printed leading prints
  exact ⟨fails .closed rfl, writes rfl⟩

end ShellTree
