import Mathlib.Data.List.Forall2
import ShellTree.Proofs.Json.Text
import ShellTree.Proofs.Vocabulary
import ShellTree.Tree.Reader

/-!
# Reading what was written

A value is the written form of a tree for a reader when it can be written without
loss and the reader takes it for that tree as soon as there are enough levels.  Records,
nodes with variants, lists and optional values are written forms when what they
consist of is; the laws ask of a reader only what it makes of its fields.
-/

namespace ShellTree.Json

/-! ## Fields -/

theorem filter_eq_nil_of_notMem {members : List (String × Json)} {name : String}
    (missing : name ∉ members.map Prod.fst) : members.filter (·.1 == name) = [] := by
  rw [List.filter_eq_nil_iff]
  intro member found equal
  have same : member.1 = name := eq_of_beq equal
  exact missing (same ▸ List.mem_map_of_mem found)

theorem filter_cons_of_notMem {rest : List (String × Json)} {name : String}
    (missing : name ∉ rest.map Prod.fst) (value : Json) :
    ((name, value) :: rest).filter (·.1 == name) = [(name, value)] := by
  have taken : ((name, value).1 == name) = true := beq_self_eq_true name
  rw [List.filter_cons, if_pos taken, filter_eq_nil_of_notMem missing]

/-- Among distinct names a member is found with its value. -/
theorem member?_of_mem {members : List (String × Json)}
    (distinct : (members.map Prod.fst).Nodup) {name : String} {value : Json}
    (found : (name, value) ∈ members) : member? name members = some (some value) := by
  have single : members.filter (·.1 == name) = [(name, value)] := by
    induction members with
    | nil => cases found
    | cons head rest ih =>
        obtain ⟨fresh, distinct⟩ := List.nodup_cons.mp distinct
        rcases List.mem_cons.mp found with rfl | found
        · exact filter_cons_of_notMem fresh value
        · have other : head.1 ≠ name := fun same => fresh (same ▸ List.mem_map_of_mem found)
          rw [List.filter_cons_of_neg (by simpa using other), ih distinct found]
  simp only [member?, single]

theorem mapM_of_forall₂ {α β : Type} {read : α → Option β} {inputs : List α} {outputs : List β}
    (each : List.Forall₂ (fun input output => read input = some output) inputs outputs) :
    inputs.mapM read = some outputs := by
  induction each with
  | nil => rfl
  | cons first _ ih => simp [first, ih]

/-- An object with the given names in order, each with its value, gives these values. -/
theorem fields?_zip {names : List String} {values : List Json} (distinct : names.Nodup)
    (length : names.length = values.length) :
    fields? names (.object (names.zip values)) = some (values.map some) := by
  have named : (names.zip values).map Prod.fst = names := List.map_fst_zip length.le
  have valued : (names.zip values).map Prod.snd = values := List.map_snd_zip length.ge
  refine mapM_of_forall₂ ?_
  generalize members : names.zip values = given at named valued
  subst named valued
  simp only [List.map_map, List.forall₂_map_left_iff, List.forall₂_map_right_iff,
    List.forall₂_same]
  exact fun member found => member?_of_mem distinct found

/-- A node is taken apart into its kind and its fields. -/
theorem tagged?_node {κ : Type} [Vocabulary κ] {tag : String} {fields : List (String × Json)}
    (fresh : tag ∉ fields.map Prod.fst) (kind : κ) :
    tagged? tag (.node tag kind fields) = some (.ofName kind, .object fields) := by
  have kept : fields.filter (·.1 != tag) = fields := by
    rw [List.filter_eq_self]
    intro member found
    exact bne_iff_ne.mpr fun same => fresh (same ▸ List.mem_map_of_mem found)
  have found := filter_cons_of_notMem fresh (Json.ofName kind)
  simp [tagged?, node, member?, found, kept]

theorem natAbs_lt_of_int32 (number : Int32) : number.toInt.natAbs < UInt64.size := by
  have lower := number.le_toInt
  have upper := number.toInt_lt
  unfold UInt64.size
  omega

theorem toInt?_ofInt (number : Int) :
    (Numeral.integer (number < 0) number.natAbs).toInt? = some number := by
  cases number with
  | ofNat size => rfl
  | negSucc size =>
      rw [decide_eq_true (Int.negSucc_lt_zero size)]
      rfl

theorem int32?_ofInt (number : Int32) : int32? (.ofInt number.toInt) = some number := by
  have bounds : Int32.minValue.toInt ≤ number.toInt ∧ number.toInt ≤ Int32.maxValue.toInt :=
    ⟨number.minValue_le_toInt, number.toInt_le⟩
  simp only [int32?, ofInt, toInt?_ofInt, Option.bind_eq_bind, Option.bind_some, if_pos bounds,
    Int32.ofInt_toInt]

section Leaves

variable {α : Type}

@[simp]
theorem required_some (read : Json → Option α) (value : Json) :
    required read (some value) = read value :=
  rfl

@[simp]
theorem defaulted_some (default : α) (read : Json → Option α) (value : Json) :
    defaulted default read (some value) = read value :=
  rfl

@[simp]
theorem string?_string (value : String) : string? (.string value) = some value :=
  rfl

@[simp]
theorem bool?_bool (value : Bool) : bool? (.bool value) = some value :=
  rfl

@[simp]
theorem char?_singleton (char : Char) : char? (.string (.singleton char)) = some char := by
  simp [char?]

variable [Vocabulary α] [LawfulVocabulary α]

@[simp]
theorem tag?_ofName (held : Bool) (member : α) : tag? held (.ofName member) = some member :=
  Vocabulary.ofName?_name member

@[simp]
theorem name?_ofName (held : Bool) (levels : Nat) (member : α) :
    name? held levels (.ofName member) = some member :=
  Vocabulary.ofName?_name member

end Leaves

/-! ## Written forms -/

/-- The value is written without loss and read as the tree, given enough levels. -/
structure Writes {α : Type} (read : Bool → Nat → Json → Option α) (value : Json) (tree : α) :
    Prop where
  plain : value.Plain
  back : ∀ held levels, value.depth ≤ levels → read held levels value = some tree

namespace Writes

variable {α : Type} {read : Bool → Nat → Json → Option α} {tree : α}

/-- The text of a written form is read as the tree. -/
theorem ofText? {value : Json} (writes : Writes read value tree)
    (fits : value.depth ≤ Reader.textLevels) : Reader.ofText? read value.text = some tree := by
  rw [Reader.ofText?, writes.plain.ofText?_text, Option.bind_some, writes.back false _ fits]

theorem plain_zip (names : List String) {values : List Json} (plain : values.Forall Plain) :
    ∀ member ∈ names.zip values, member.2.Plain :=
  fun member found => List.forall_iff_forall_mem.mp plain member.2 (List.of_mem_zip found).2

theorem depth_of_zip {names : List String} {values : List Json} {levels : Nat}
    (length : names.length = values.length) (fits : depthMembers (names.zip values) ≤ levels) :
    values.Forall (·.depth ≤ levels) := by
  rw [List.forall_iff_forall_mem, ← List.map_snd_zip length.ge, List.forall_mem_map]
  exact depthMembers_le.mp fits

/-- A record is written as an object. -/
theorem record (names : List String) (values : List Json) (plain : values.Forall Plain)
    (reads : ∀ held levels value, fields? names value = some (values.map some) →
      values.Forall (·.depth ≤ levels) → read held (levels + 1) value = some tree)
    (distinct : names.Nodup := by decide)
    (length : names.length = values.length := by rfl) :
    Writes read (.object (names.zip values)) tree where
  plain := .object (plain_zip names plain)
  back held levels fits := by
    cases levels with
    | zero => cases fits
    | succ levels =>
        exact reads held levels _ (fields?_zip distinct length)
          (depth_of_zip length (Nat.le_of_succ_le_succ fits))

/-- A node is written as an object with its tag in front. -/
theorem node {κ : Type} [Vocabulary κ] [LawfulVocabulary κ] {tag : String} {kind : κ}
    (names : List String) (values : List Json) (plain : values.Forall Plain)
    (reads : ∀ held levels value rest,
      (∀ fields : κ → Json → Option α,
        node? tag held (levels + 1) value fields = fields kind rest) →
      fields? names rest = some (values.map some) →
      values.Forall (·.depth ≤ levels) → read held (levels + 1) value = some tree)
    (distinct : (tag :: names).Nodup := by decide)
    (length : names.length = values.length := by rfl) :
    Writes read (.node tag kind (names.zip values)) tree := by
  obtain ⟨fresh, distinct⟩ := List.nodup_cons.mp distinct
  have whole : (Json.node tag kind (names.zip values)).Plain :=
    .object (List.forall_mem_cons.mpr ⟨.string _, plain_zip names plain⟩)
  refine ⟨whole, fun held levels fits => ?_⟩
  cases levels with
  | zero => cases fits
  | succ levels =>
      have taken : holds held (levels + 1) (.node tag kind (names.zip values)) = true := by
        rw [holds, whole.readable, decide_eq_true fits]
        exact Bool.or_true held
      have tagged := tagged?_node (by rwa [List.map_fst_zip length.le]) kind
      have below := Nat.le_of_succ_le_succ fits
      refine reads held levels _ (.object (names.zip values)) (fun fields => ?_)
        (fields?_zip distinct length)
        (depth_of_zip length (Nat.le_trans (Nat.le_max_right _ _) below))
      simp [node?, taken, tagged]

theorem plain_items {item? : Bool → Nat → Json → Option α} {items : List Json} {trees : List α}
    (each : List.Forall₂ (Writes item?) items trees) : ∀ item ∈ items, item.Plain := by
  induction each with
  | nil => exact List.forall_mem_nil _
  | cons first _ ih => exact List.forall_mem_cons.mpr ⟨first.plain, ih⟩

theorem back_items {item? : Bool → Nat → Json → Option α} {items : List Json} {trees : List α}
    (each : List.Forall₂ (Writes item?) items trees) (held : Bool) {levels : Nat}
    (fits : ∀ item ∈ items, item.depth ≤ levels) :
    items.mapM (item? held levels) = some trees := by
  refine mapM_of_forall₂ ?_
  induction each with
  | nil => exact .nil
  | cons first _ ih =>
      obtain ⟨fits, later⟩ := List.forall_mem_cons.mp fits
      exact .cons (first.back held levels fits) (ih later)

/-- A list is written as an array. -/
theorem list {item? : Bool → Nat → Json → Option α}
    {list? : Bool → Nat → Json → Option (List α)}
    (reads : ∀ held levels value,
      list? held (levels + 1) value = (items? value).bind (·.mapM (item? held levels)))
    {items : List Json} {trees : List α} (each : List.Forall₂ (Writes item?) items trees) :
    Writes list? (.array items) trees := by
  refine ⟨.array (plain_items each), fun held levels fits => ?_⟩
  cases levels with
  | zero => cases fits
  | succ levels =>
      rw [reads]
      exact back_items each held (depthItems_le.mp (Nat.le_of_succ_le_succ fits))

end Writes

abbrev WritesOption {α : Type} (read : Bool → Nat → Json → Option α) (value : Json)
    (tree : Option α) : Prop :=
  Writes (fun held levels value => optional (read held levels) (some value)) value tree

namespace WritesOption

variable {α : Type} {read : Bool → Nat → Json → Option α} {tree : α}

theorem absent : WritesOption read .null none :=
  ⟨.null, fun _ _ _ => rfl⟩

/-- What a reader of arrays or objects reads is never `null`. -/
theorem present (start : ∀ value, read true 0 value = none) {value : Json}
    (writes : Writes read value tree) : WritesOption read value (some tree) := by
  refine ⟨writes.plain, fun held levels fits => ?_⟩
  have back := writes.back held levels fits
  cases value with
  | null =>
      have none := writes.back true 0 (Nat.le_refl 0)
      rw [start] at none
      cases none
  | _ => simp only [optional, back, Option.map_some]

theorem text (text : Option String) : WritesOption (fun _ _ => string?) (.ofText text) text := by
  cases text with
  | none => exact absent
  | some text => exact ⟨.string text, fun _ _ _ => rfl⟩

theorem descriptor (descriptor : Option Int32) :
    WritesOption (fun _ _ => int32?) (.ofDescriptor descriptor) descriptor := by
  cases descriptor with
  | none => exact absent
  | some number =>
      refine ⟨.integer _ (natAbs_lt_of_int32 number), fun _ _ _ => ?_⟩
      exact congrArg (Option.map some) (int32?_ofInt number)

end WritesOption

end ShellTree.Json
