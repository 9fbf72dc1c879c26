import ShellTree.Proofs.Json.Fields

/-!
# How fields are given

A record gives its fields by their names or by their order, and a node with variants gives
a tag besides.  These relations say what a value gives without saying how it is searched.
They hold exactly of what the search finds.
-/

namespace ShellTree.Json

section Lists

variable {α β : Type} {read : α → Option β} {inputs : List α}

theorem mapM_eq_some_iff {outputs : List β} :
    inputs.mapM read = some outputs ↔
      List.Forall₂ (fun input output => read input = some output) inputs outputs := by
  constructor
  · intro mapped
    induction inputs generalizing outputs with
    | nil =>
        cases mapped
        exact .nil
    | cons input rest ih =>
        simp only [List.mapM_cons, Option.bind_eq_bind, Option.bind_eq_some_iff] at mapped
        obtain ⟨output, first, others, mapped, done⟩ := mapped
        cases done
        exact .cons first (ih mapped)
  · exact mapM_of_forall₂

theorem mapM_eq_none_iff : inputs.mapM read = none ↔ ∃ input ∈ inputs, read input = none := by
  induction inputs with
  | nil => simp
  | cons input rest ih =>
      simp only [List.mapM_cons, List.mem_cons, exists_eq_or_imp, ← ih]
      cases read input with
      | none => simp
      | some output => cases rest.mapM read <;> simp

end Lists

/-! ## Scalars and elements -/

theorem string?_eq_some_iff {value : Json} {text : String} :
    string? value = some text ↔ value = .string text := by
  cases value <;> simp [string?]

theorem bool?_eq_some_iff {value : Json} {flag : Bool} :
    bool? value = some flag ↔ value = .bool flag := by
  cases value <;> simp [bool?]

theorem items?_eq_some_iff {value : Json} {items : List Json} :
    items? value = some items ↔ value = .array items := by
  cases value <;> simp [items?]

theorem char?_eq_some_iff {value : Json} {char : Char} :
    char? value = some char ↔ value = .string char.toString := by
  constructor
  · intro found
    unfold char? at found
    split at found
    · next text =>
        split at found
        · next single =>
            cases found
            rw [← text.ofList_toList, single]
            rfl
        · cases found
    · cases found
  · rintro rfl
    simp [char?]

theorem toInt?_eq_some_iff {numeral : Numeral} {number : Int} :
    numeral.toInt? = some number ↔ numeral = .integer (number < 0) number.natAbs := by
  constructor
  · intro found
    unfold Numeral.toInt? at found
    split at found
    · cases found
      simp
    · cases found
    · next magnitude positive =>
        cases found
        have positive : 0 < magnitude := Nat.pos_of_ne_zero positive
        simp [positive]
    · cases found
  · rintro rfl
    exact toInt?_ofInt number

theorem int32?_eq_some_iff {value : Json} {number : Int32} :
    int32? value = some number ↔ value = .ofInt number.toInt := by
  constructor
  · intro found
    unfold int32? at found
    split at found
    · simp only [Option.bind_eq_bind, Option.bind_eq_some_iff] at found
      obtain ⟨integer, spelled, found⟩ := found
      split at found
      · next bounds =>
          cases found
          have upper : integer < 2 ^ 31 := Int.lt_of_le_of_lt bounds.2 (by decide)
          rw [Int32.toInt_ofInt_of_le bounds.1 upper, toInt?_eq_some_iff.mp spelled]
          rfl
      · cases found
    · cases found
  · rintro rfl
    exact int32?_ofInt number

/-- A value is refused when it has none of the forms that are read. -/
theorem map_eq_none_iff_forall_ne {α β : Type} {read : Json → Option α} {form : α → Json}
    (reads : ∀ {value given}, read value = some given ↔ value = form given) (json : α → β)
    {value : Json} : (read value).map json = none ↔ ∀ given, value ≠ form given := by
  rw [Option.map_eq_none_iff, Option.eq_none_iff_forall_ne_some]
  exact forall_congr' fun given => not_congr reads

theorem map_eq_some_iff_exists_eq {α β : Type} {read : Json → Option α} {form : α → Json}
    (reads : ∀ {value given}, read value = some given ↔ value = form given) {json : α → β}
    {value : Json} {written : β} :
    (read value).map json = some written ↔ ∃ given, value = form given ∧ json given = written := by
  rw [Option.map_eq_some_iff]
  exact exists_congr fun given => and_congr_left' reads

/-! ## Members, fields and tags -/

/-- What the members of an object give for a name that is not repeated. -/
inductive Finds (members : List (String × Json)) (name : String) : Option Json → Prop where
  | absent (missing : name ∉ members.map Prod.fst) : Finds members name none
  | member {value : Json} (found : (name, value) ∈ members)
      (once : (members.map Prod.fst).count name = 1) : Finds members name (some value)

/-- What a value gives for the named fields of a record: by their names, whatever else is
there, or by their order, with none left over. -/
inductive Gives (names : List String) : Json → List (Option Json) → Prop where
  | object {members : List (String × Json)} {givens : List (Option Json)}
      (each : List.Forall₂ (Finds members) names givens) : Gives names (.object members) givens
  | array {items : List Json} {left : Nat} (length : items.length + left = names.length) :
      Gives names (.array items) (items.map some ++ List.replicate left none)

inductive Tagged (tag : String) : Json → Json → Json → Prop where
  | object {members : List (String × Json)} {given : Json}
      (found : Finds members tag (some given)) :
      Tagged tag (.object members) given (.object (members.filter (·.1 != tag)))
  | array (given : Json) (items : List Json) :
      Tagged tag (.array (given :: items)) given (.array items)

theorem count_names (members : List (String × Json)) (name : String) :
    (members.map Prod.fst).count name = (members.filter (·.1 == name)).length := by
  rw [List.count, List.countP_map, List.countP_eq_length_filter]
  rfl

theorem member?_eq_some_iff {members : List (String × Json)} {name : String}
    {given : Option Json} : member? name members = some given ↔ Finds members name given := by
  constructor
  · intro found
    unfold member? at found
    split at found
    · next none =>
        cases found
        refine .absent fun present => ?_
        rw [← List.count_pos_iff, count_names, none] at present
        cases present
    · next label value single =>
        cases found
        have inside : (label, value) ∈ members.filter (·.1 == name) :=
          single ▸ List.mem_singleton_self _
        obtain ⟨inside, same⟩ := List.mem_filter.mp inside
        have label : label = name := eq_of_beq same
        refine .member (label ▸ inside) ?_
        rw [count_names, single, List.length_singleton]
    · cases found
  · intro found
    unfold member?
    cases found with
    | absent missing => rw [filter_eq_nil_of_notMem missing]
    | @member value found once =>
        rw [count_names] at once
        obtain ⟨single, only⟩ := List.length_eq_one_iff.mp once
        have inside : (name, value) ∈ members.filter (·.1 == name) :=
          List.mem_filter.mpr ⟨found, beq_self_eq_true name⟩
        rw [only, List.mem_singleton] at inside
        rw [only, ← inside]

/-- Only a repeated name cannot be looked up. -/
theorem member?_eq_none_iff {members : List (String × Json)} {name : String} :
    member? name members = none ↔ 1 < (members.map Prod.fst).count name := by
  rw [count_names, member?]
  generalize members.filter (·.1 == name) = found
  rcases found with _ | ⟨first, _ | ⟨second, rest⟩⟩
  · simp
  · simp
  · simp

theorem fields?_eq_some_iff {names : List String} {value : Json}
    {givens : List (Option Json)} :
    fields? names value = some givens ↔ Gives names value givens := by
  constructor
  · intro found
    unfold fields? at found
    split at found
    · exact .object ((mapM_eq_some_iff.mp found).imp fun _ _ => member?_eq_some_iff.mp)
    · split at found
      · next fits =>
          cases found
          exact .array (Nat.add_sub_of_le fits)
      · cases found
    · cases found
  · intro gives
    cases gives with
    | object each => exact mapM_eq_some_iff.mpr (each.imp fun _ _ => member?_eq_some_iff.mpr)
    | @array items left length =>
        have fits : items.length ≤ names.length := by omega
        have rest : names.length - items.length = left := by omega
        rw [fields?, if_pos fits, rest]

theorem tagged?_eq_some_iff {tag : String} {value given rest : Json} :
    tagged? tag value = some (given, rest) ↔ Tagged tag value given rest := by
  constructor
  · intro found
    unfold tagged? at found
    split at found
    · next members =>
        simp only [Option.bind_eq_some_iff, Option.map_eq_some_iff] at found
        obtain ⟨_, looked, value, rfl, same⟩ := found
        cases same
        exact .object (member?_eq_some_iff.mp looked)
    · cases found
      exact .array _ _
    · cases found
  · intro tagged
    cases tagged with
    | object found => simp [tagged?, member?_eq_some_iff.mpr found]
    | array given items => rfl

theorem Gives.unique {names : List String} {value : Json} {first second : List (Option Json)}
    (gives : Gives names value first) (gives' : Gives names value second) : first = second := by
  have found := fields?_eq_some_iff.mpr gives
  rw [fields?_eq_some_iff.mpr gives'] at found
  exact (Option.some.inj found).symm

theorem Tagged.unique {tag : String} {value first second rest rest' : Json}
    (tagged : Tagged tag value first rest) (tagged' : Tagged tag value second rest') :
    first = second ∧ rest = rest' := by
  have found := tagged?_eq_some_iff.mpr tagged
  rw [tagged?_eq_some_iff.mpr tagged'] at found
  exact Prod.mk.inj (Option.some.inj found).symm

theorem Gives.length_eq {names : List String} {value : Json} {givens : List (Option Json)}
    (gives : Gives names value givens) : givens.length = names.length := by
  cases gives with
  | object each => exact each.length_eq.symm
  | array length => simpa using length

/-! ## Levels -/

structure Fits (levels : Nat) (value : Json) : Prop where
  readable : value.readable = true
  depth : value.depth ≤ levels

theorem fits_array {levels : Nat} {items : List Json} :
    Fits (levels + 1) (.array items) ↔ ∀ item ∈ items, Fits levels item := by
  constructor
  · rintro ⟨readable, depth⟩ item inside
    rw [Json.readable] at readable
    rw [Json.depth] at depth
    exact ⟨readableItems_iff.mp readable item inside,
      depthItems_le.mp (Nat.le_of_succ_le_succ depth) item inside⟩
  · intro each
    constructor
    · rw [Json.readable]
      exact readableItems_iff.mpr fun item inside => (each item inside).readable
    · rw [Json.depth]
      exact Nat.succ_le_succ (depthItems_le.mpr fun item inside => (each item inside).depth)

theorem fits_object {levels : Nat} {members : List (String × Json)} :
    Fits (levels + 1) (.object members) ↔ ∀ member ∈ members, Fits levels member.2 := by
  constructor
  · rintro ⟨readable, depth⟩ member inside
    rw [Json.readable] at readable
    rw [Json.depth] at depth
    exact ⟨readableMembers_iff.mp readable member inside,
      depthMembers_le.mp (Nat.le_of_succ_le_succ depth) member inside⟩
  · intro each
    constructor
    · rw [Json.readable]
      exact readableMembers_iff.mpr fun member inside => (each member inside).readable
    · rw [Json.depth]
      exact Nat.succ_le_succ
        (depthMembers_le.mpr fun member inside => (each member inside).depth)

theorem Fits.ne_array {value : Json} (fits : Fits 0 value) (items : List Json) :
    value ≠ .array items := by
  rintro rfl
  exact Nat.not_succ_le_zero _ fits.depth

theorem Fits.ne_object {value : Json} (fits : Fits 0 value) (members : List (String × Json)) :
    value ≠ .object members := by
  rintro rfl
  exact Nat.not_succ_le_zero _ fits.depth

theorem Gives.not_fits_zero {names : List String} {value : Json} {givens : List (Option Json)}
    (gives : Gives names value givens) : ¬ Fits 0 value := by
  intro fits
  cases gives with
  | object => exact fits.ne_object _ rfl
  | array => exact fits.ne_array _ rfl

theorem Tagged.not_fits_zero {tag : String} {value given rest : Json}
    (tagged : Tagged tag value given rest) : ¬ Fits 0 value := by
  intro fits
  cases tagged with
  | object => exact fits.ne_object _ rfl
  | array => exact fits.ne_array _ rfl

/-- What is given for a field is a level below the record. -/
theorem Gives.fits {levels : Nat} {names : List String} {value given : Json}
    {givens : List (Option Json)} (gives : Gives names value givens)
    (fits : Fits (levels + 1) value) (inside : some given ∈ givens) : Fits levels given := by
  cases gives with
  | @object members _ each =>
      have found : ∃ name, Finds members name (some given) := by
        induction each with
        | nil => cases inside
        | cons first _ ih =>
            rcases List.mem_cons.mp inside with rfl | later
            · exact ⟨_, first⟩
            · exact ih later
      obtain ⟨name, found⟩ := found
      cases found with
      | member found _ => exact fits_object.mp fits _ found
  | array _ =>
      rcases List.mem_append.mp inside with inside | inside
      · obtain ⟨item, inside, same⟩ := List.mem_map.mp inside
        cases same
        exact fits_array.mp fits _ inside
      · cases List.eq_of_mem_replicate inside

/-- What is left of a node without its tag needs no more levels. -/
theorem Tagged.fits {levels : Nat} {tag : String} {value given rest : Json}
    (tagged : Tagged tag value given rest) (fits : Fits (levels + 1) value) :
    Fits (levels + 1) rest := by
  cases tagged with
  | object _ =>
      exact fits_object.mpr fun member inside =>
        fits_object.mp fits member (List.mem_of_mem_filter inside)
  | array given items =>
      exact fits_array.mpr fun item inside =>
        fits_array.mp fits item (List.mem_cons_of_mem given inside)

end ShellTree.Json
