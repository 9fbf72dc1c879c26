import ShellTree.Proofs.Lists
import ShellTree.Proofs.Tree.Schema

/-!
# Presentations of trees

The same tree can be presented in many ways.  A record may be an object with its members in
any order and with further members among them, or an array of its fields; fields that have
their default may be left out; a tag may stand anywhere; a name may be the key of an object.
Every presentation of a tree is read as that tree.

The converse fails in two ways.  Below a tagged node a tag may be the position of its variant,
and a name may be the key of an empty object.  Such values present nothing and are read all the
same.  In the wide sense they are presentations, too, and then a value is read as a tree exactly
if it presents that tree.  The values that are refused are exactly those in which something is
wrong at a place that is reached through known fields.
-/

namespace ShellTree

open Json

/-! ## Presentations -/

/-- A value that names a member of a vocabulary.  Below a tagged node, which is held, an empty
object may stand where there is `null` elsewhere. -/
inductive Names (held : Bool) (names : List String) : Json → String → Prop where
  | name {name : String} (known : name ∈ names) : Names held names (.string name) name
  | key {name : String} (known : name ∈ names) : Names held names (.object [(name, .null)]) name
  | emptyKey {name : String} (below : held = true) (known : name ∈ names) :
      Names held names (.object [(name, .object [])]) name

/-- A tag that selects a variant: its name, or its position below a tagged node. -/
inductive Selects (held : Bool) (variants : List (String × List Field)) :
    Json → String × List Field → Prop where
  | name {variant : String × List Field} (known : variant ∈ variants) :
      Selects held variants (.string variant.1) variant
  | position {position : Nat} {variant : String × List Field} (below : held = true)
      (known : variants[position]? = some variant) :
      Selects held variants (.number (.integer false position)) variant

mutual

/-- The first value presents what is written in full as the second.  Presentations in the wide
sense also count the names and tags that are taken below a tagged node only. -/
inductive Presents (wide : Bool) : Bool → Shape → Json → Json → Prop where
  | text {held : Bool} (value : String) : Presents wide held .text (.string value) (.string value)
  | truth {held : Bool} (value : Bool) : Presents wide held .truth (.bool value) (.bool value)
  | character {held : Bool} (char : Char) :
      Presents wide held .character (.string char.toString) (.string char.toString)
  | descriptor {held : Bool} (number : Int32) :
      Presents wide held .descriptor (.ofInt number.toInt) (.ofInt number.toInt)
  | name {held : Bool} {names : List String} {value : Json} {name : String}
      (named : Names held names value name) :
      Presents wide held (.name names) value (.string name)
  | list {held : Bool} {item : Shape} {values written : List Json}
      (each : PresentsItems wide held item values written) :
      Presents wide held (.list item) (.array values) (.array written)
  | record {held : Bool} {kind : TreeKind} {fields : List Field} {value : Json}
      {givens : List (Option Json)} {members : List (String × Json)}
      (layout : kind.layout = .record fields) (gives : Gives (fields.map (·.name)) value givens)
      (each : PresentsFields wide held fields givens members) :
      Presents wide held (.tree kind) value (.object members)
  | variant {held : Bool} {kind : TreeKind} {tag : String}
      {variants : List (String × List Field)} {variant : String × List Field}
      {value given rest : Json} {givens : List (Option Json)} {members : List (String × Json)}
      (layout : kind.layout = .variants tag variants) (tagged : Tagged tag value given rest)
      (selects : Selects held variants given variant)
      (gives : Gives (variant.2.map (·.name)) rest givens)
      (each : PresentsFields wide wide variant.2 givens members) :
      Presents wide held (.tree kind) value (.object ((tag, .string variant.1) :: members))

inductive PresentsItems (wide : Bool) : Bool → Shape → List Json → List Json → Prop where
  | nil {held : Bool} (item : Shape) : PresentsItems wide held item [] []
  | cons {held : Bool} {item : Shape} {value written : Json} {values others : List Json}
      (first : Presents wide held item value written)
      (rest : PresentsItems wide held item values others) :
      PresentsItems wide held item (value :: values) (written :: others)

/-- What is given for each field presents what is written for it; a field that has its default
need not be given, and an optional field that is absent may be `null`. -/
inductive PresentsFields (wide : Bool) :
    Bool → List Field → List (Option Json) → List (String × Json) → Prop where
  | nil {held : Bool} : PresentsFields wide held [] [] []
  | given {held : Bool} {field : Field} {value written : Json} {fields : List Field}
      {givens : List (Option Json)} {members : List (String × Json)}
      (first : Presents wide held field.shape value written)
      (rest : PresentsFields wide held fields givens members) :
      PresentsFields wide held (field :: fields) (some value :: givens)
        ((field.name, written) :: members)
  | default {held : Bool} {field : Field} {written : Json} {fields : List Field}
      {givens : List (Option Json)} {members : List (String × Json)}
      (presence : field.presence = .defaulted written)
      (rest : PresentsFields wide held fields givens members) :
      PresentsFields wide held (field :: fields) (none :: givens)
        ((field.name, written) :: members)
  | absent {held : Bool} {field : Field} {given : Option Json} {fields : List Field}
      {givens : List (Option Json)} {members : List (String × Json)}
      (presence : field.presence = .optional) (none : given = none ∨ given = some .null)
      (rest : PresentsFields wide held fields givens members) :
      PresentsFields wide held (field :: fields) (given :: givens)
        ((field.name, .null) :: members)

end

/-! ## Flaws -/

mutual

/-- Something is wrong with a value of the given shape, or at a place in it that is reached
through known fields. -/
inductive Flawed : Bool → Shape → Json → Prop where
  | text {held : Bool} {value : Json} (other : ∀ text, value ≠ .string text) :
      Flawed held .text value
  | truth {held : Bool} {value : Json} (other : ∀ flag, value ≠ .bool flag) :
      Flawed held .truth value
  | character {held : Bool} {value : Json} (other : ∀ char : Char, value ≠ .string char.toString) :
      Flawed held .character value
  | descriptor {held : Bool} {value : Json}
      (other : ∀ number : Int32, value ≠ .ofInt number.toInt) : Flawed held .descriptor value
  | name {held : Bool} {names : List String} {value : Json}
      (unknown : ∀ name, ¬ Names held names value name) : Flawed held (.name names) value
  | list {held : Bool} {item : Shape} {value : Json} (other : ∀ items, value ≠ .array items) :
      Flawed held (.list item) value
  | item {held : Bool} {item : Shape} {values : List Json} {value : Json}
      (inside : value ∈ values) (flaw : Flawed held item value) :
      Flawed held (.list item) (.array values)
  | record {held : Bool} {kind : TreeKind} {fields : List Field} {value : Json}
      (layout : kind.layout = .record fields) (flaw : FlawedRecord held fields value) :
      Flawed held (.tree kind) value
  | untagged {held : Bool} {kind : TreeKind} {tag : String}
      {variants : List (String × List Field)} {value : Json}
      (layout : kind.layout = .variants tag variants)
      (none : ∀ given rest, ¬ Tagged tag value given rest) : Flawed held (.tree kind) value
  | unknown {held : Bool} {kind : TreeKind} {tag : String}
      {variants : List (String × List Field)} {value given rest : Json}
      (layout : kind.layout = .variants tag variants) (tagged : Tagged tag value given rest)
      (none : ∀ variant, ¬ Selects held variants given variant) : Flawed held (.tree kind) value
  | variant {held : Bool} {kind : TreeKind} {tag : String}
      {variants : List (String × List Field)} {value given rest : Json}
      {variant : String × List Field} (layout : kind.layout = .variants tag variants)
      (tagged : Tagged tag value given rest) (selects : Selects held variants given variant)
      (flaw : FlawedRecord true variant.2 rest) : Flawed held (.tree kind) value

/-- Something is wrong with a record: it is neither an object nor an array, an array is too
long, a known name is repeated, or what is given for a field is flawed. -/
inductive FlawedRecord : Bool → List Field → Json → Prop where
  | scalar {held : Bool} {fields : List Field} {value : Json}
      (object : ∀ members, value ≠ .object members) (array : ∀ items, value ≠ .array items) :
      FlawedRecord held fields value
  | long {held : Bool} {fields : List Field} {items : List Json}
      (longer : fields.length < items.length) : FlawedRecord held fields (.array items)
  | repeated {held : Bool} {fields : List Field} {members : List (String × Json)} {field : Field}
      (known : field ∈ fields) (twice : 1 < (members.map Prod.fst).count field.name) :
      FlawedRecord held fields (.object members)
  | field {held : Bool} {fields : List Field} {value : Json} {givens : List (Option Json)}
      {field : Field} {given : Option Json} (gives : Gives (fields.map (·.name)) value givens)
      (inside : (field, given) ∈ fields.zip givens) (flaw : FlawedField held field given) :
      FlawedRecord held fields value

/-- Something is wrong with what is given for a field: it is required and missing, it is not
optional and `null`, or there is a flaw in its value. -/
inductive FlawedField : Bool → Field → Option Json → Prop where
  | missing {held : Bool} {field : Field} (presence : field.presence = .required) :
      FlawedField held field none
  | null {held : Bool} {field : Field} (presence : field.presence ≠ .optional) :
      FlawedField held field (some .null)
  | value {held : Bool} {field : Field} {value : Json} (present : value ≠ .null)
      (flaw : Flawed held field.shape value) : FlawedField held field (some value)

end

/-! ## Names and tags -/

theorem find?_name {names : List String} {text name : String} :
    names.find? (· == text) = some name ↔ name ∈ names ∧ name = text :=
  find?_eq_some_iff_of_key id fun _ _ _ _ same => same

theorem Names.mono {held held' : Bool} (below : held = true → held' = true)
    {names : List String} {value : Json} {name : String} (named : Names held names value name) :
    Names held' names value name := by
  cases named with
  | name known => exact .name known
  | key known => exact .key known
  | emptyKey allowed known => exact .emptyKey (below allowed) known

theorem Selects.mono {held held' : Bool} (below : held = true → held' = true)
    {variants : List (String × List Field)} {given : Json} {variant : String × List Field}
    (selects : Selects held variants given variant) : Selects held' variants given variant := by
  cases selects with
  | name known => exact .name known
  | position allowed known => exact .position (below allowed) known

theorem names_of_nameAmong? {held : Bool} {levels : Nat} {names : List String} {value : Json}
    {name : String} (given : nameAmong? held levels names value = some name) :
    Names held names value name := by
  unfold nameAmong? at given
  split at given
  · obtain ⟨known, rfl⟩ := find?_name.mp given
    exact .name known
  · split at given
    · cases given
    · obtain ⟨known, rfl⟩ := find?_name.mp given
      exact .key known
  · split at given
    · next below =>
        obtain ⟨known, rfl⟩ := find?_name.mp given
        exact .emptyKey below.1 known
    · cases given
  · cases given

theorem Names.nameAmong? {held : Bool} {levels : Nat} {names : List String} {value : Json}
    {name : String} (given : Names held names value name) (fits : Fits levels value) :
    nameAmong? held levels names value = some name := by
  have level {members : List (String × Json)} (fits : Fits levels (.object members)) :
      0 < levels := Nat.lt_of_lt_of_le (Nat.succ_pos _) fits.depth
  cases given with
  | name known => exact find?_name.mpr ⟨known, rfl⟩
  | key known =>
      rw [Json.nameAmong?, if_neg (level fits).ne']
      exact find?_name.mpr ⟨known, rfl⟩
  | emptyKey below known =>
      rw [Json.nameAmong?, if_pos ⟨below, level fits⟩]
      exact find?_name.mpr ⟨known, rfl⟩

/-- No two variants of a kind of tree have the same name. -/
theorem TreeKind.distinct_variants {kind : TreeKind} {tag : String}
    {variants : List (String × List Field)} (layout : kind.layout = .variants tag variants) :
    (variants.map Prod.fst).Nodup := by
  have distinct {κ : Type} [Vocabulary κ] [LawfulVocabulary κ] {own : String}
      {schema : κ → List Field} (layout : Layout.ofKinds own schema = .variants tag variants) :
      (variants.map Prod.fst).Nodup := by
    cases layout
    rw [List.map_map]
    exact LawfulVocabulary.distinct
  cases kind with
  | command | part | operation | arith => exact distinct layout
  | _ => cases layout

theorem variant?_eq_some_iff {held : Bool} {variants : List (String × List Field)} {given : Json}
    {variant : String × List Field} (distinct : (variants.map Prod.fst).Nodup) :
    variant? held variants given = some variant ↔ Selects held variants given variant := by
  have named {text : String} : variants.find? (·.1 == text) = some variant ↔
      variant ∈ variants ∧ variant.1 = text :=
    find?_eq_some_iff_of_key Prod.fst fun _ first _ second =>
      List.inj_on_of_nodup_map distinct first second
  constructor
  · intro found
    unfold variant? at found
    split at found
    · obtain ⟨known, rfl⟩ := named.mp found
      exact .name known
    · split at found
      · next below => exact .position below found
      · cases found
    · cases found
  · intro selects
    cases selects with
    | name known => exact named.mpr ⟨known, rfl⟩
    | position below known => rw [variant?, if_pos below, known]

theorem Selects.unique {held : Bool} {variants : List (String × List Field)} {given : Json}
    {variant other : String × List Field} (distinct : (variants.map Prod.fst).Nodup)
    (first : Selects held variants given variant) (second : Selects held variants given other) :
    variant = other := by
  have found := (variant?_eq_some_iff distinct).mpr first
  rw [(variant?_eq_some_iff distinct).mpr second] at found
  exact (Option.some.inj found).symm

/-- The name of a kind selects the fields of that kind. -/
theorem selects_name {κ : Type} [Vocabulary κ] [LawfulVocabulary κ] (schema : κ → List Field)
    (kind : κ) (held : Bool) :
    Selects held (Vocabulary.members.map fun kind => (Vocabulary.name kind, schema kind))
      (.string (Vocabulary.name kind)) (Vocabulary.name kind, schema kind) :=
  .name (List.mem_map_of_mem (LawfulVocabulary.complete kind))

/-! ## Presentations are completed -/

/-- No shape has `null` for a form of its own. -/
theorem complete?_null (levels : Nat) (held : Bool) (shape : Shape) :
    complete? levels held shape .null = none := by
  cases shape with
  | list => cases levels <;> rfl
  | tree kind =>
      cases levels with
      | zero => rfl
      | succ levels =>
          rw [complete?]
          split
          · rfl
          · cases held <;> rfl
  | _ =>
      rw [complete?]
      rfl

theorem completeField?_some {complete : Shape → Json → Option Json} {field : Field}
    {value : Json} (present : field.presence = .optional → value ≠ .null) :
    completeField? complete field (some value) =
      (complete field.shape value).map fun written => (field.name, written) := by
  cases presence : field.presence with
  | required | defaulted => simp [completeField?, presence]
  | optional =>
      cases value with
      | null => exact absurd rfl (present presence)
      | _ => simp [completeField?, presence]

theorem complete?_record {levels : Nat} {held : Bool} {kind : TreeKind} {fields : List Field}
    (layout : kind.layout = .record fields) (value : Json) :
    complete? (levels + 1) held (.tree kind) value =
      (completeFields? (complete? levels held) fields value).map .object := by
  rw [complete?, layout]

theorem complete?_variant {levels : Nat} {held : Bool} {kind : TreeKind} {tag : String}
    {variants : List (String × List Field)} {value given rest : Json}
    {variant : String × List Field} (layout : kind.layout = .variants tag variants)
    (whole : holds held (levels + 1) value = true) (tagged : Tagged tag value given rest)
    (selects : Selects held variants given variant) :
    complete? (levels + 1) held (.tree kind) value =
      (completeFields? (complete? levels true) variant.2 rest).map
        fun members => .object ((tag, .string variant.1) :: members) := by
  have selected := (variant?_eq_some_iff (TreeKind.distinct_variants layout)).mpr selects
  rw [complete?, layout]
  simp [whole, tagged?_eq_some_iff.mpr tagged, selected, Option.map_eq_bind]

theorem holds_of_fits {levels : Nat} {value : Json} (fits : Fits levels value) (held : Bool) :
    holds held levels value = true := by
  simp [holds, fits.readable, fits.depth]

section Fields

variable {levels : Nat} {wide held : Bool} {complete : Shape → Json → Option Json}

theorem PresentsItems.mapM_eq {item : Shape} {values written : List Json}
    (each : ∀ {value written}, Presents wide held item value written → Fits levels value →
      complete item value = some written)
    (presents : PresentsItems wide held item values written)
    (fits : ∀ value ∈ values, Fits levels value) :
    values.mapM (complete item) = some written := by
  induction values generalizing written with
  | nil =>
      cases presents
      rfl
  | cons value values ih =>
      rw [List.forall_mem_cons] at fits
      cases presents with
      | cons first rest =>
          rw [List.mapM_cons, each first fits.1, ih rest fits.2]
          rfl

/-- What is written for the first field stands before what is written for the others. -/
theorem completeGivens?_cons {field : Field} {fields : List Field} {given : Option Json}
    {givens : List (Option Json)} {written : Json} {members : List (String × Json)}
    (first : completeField? complete field given = some (field.name, written))
    (others : completeGivens? complete fields givens = some members) :
    completeGivens? complete (field :: fields) (given :: givens) =
      some ((field.name, written) :: members) := by
  unfold completeGivens? at others ⊢
  rw [List.zip_cons_cons, List.mapM_cons, first, others]
  rfl

theorem PresentsFields.completeGivens?_eq {fields : List Field} {givens : List (Option Json)}
    {members : List (String × Json)}
    (each : ∀ {shape value written}, Presents wide held shape value written →
      Fits levels value → complete shape value = some written)
    (null : ∀ shape, complete shape .null = none)
    (presents : PresentsFields wide held fields givens members)
    (fits : ∀ value, some value ∈ givens → Fits levels value) :
    completeGivens? complete fields givens = some members := by
  induction fields generalizing givens members with
  | nil =>
      cases presents
      rfl
  | cons field fields ih =>
      have later {given : Option Json} {givens : List (Option Json)}
          (fits : ∀ value, some value ∈ given :: givens → Fits levels value) (value : Json)
          (inside : some value ∈ givens) : Fits levels value :=
        fits value (List.mem_cons_of_mem given inside)
      cases presents with
      | @given _ _ value written _ givens members first rest =>
          have completed := each first (fits value List.mem_cons_self)
          have present : value ≠ .null := by
            rintro rfl
            rw [null] at completed
            cases completed
          refine completeGivens?_cons ?_ (ih rest (later fits))
          rw [completeField?_some fun _ => present, completed]
          rfl
      | default presence rest =>
          refine completeGivens?_cons ?_ (ih rest (later fits))
          rw [completeField?, presence]
      | absent presence none rest =>
          refine completeGivens?_cons ?_ (ih rest (later fits))
          rcases none with rfl | rfl <;> simp only [completeField?, presence]

theorem completeFields?_of_presents {fields : List Field} {value : Json}
    {givens : List (Option Json)} {members : List (String × Json)}
    (each : ∀ {shape value written}, Presents wide held shape value written →
      Fits levels value → complete shape value = some written)
    (null : ∀ shape, complete shape .null = none)
    (gives : Gives (fields.map (·.name)) value givens)
    (presents : PresentsFields wide held fields givens members) (fits : Fits (levels + 1) value) :
    completeFields? complete fields value = some members := by
  rw [completeFields?, fields?_eq_some_iff.mpr gives, Option.bind_some]
  exact presents.completeGivens?_eq each null fun _ => gives.fits fits

end Fields

/-- What a value presents is what it is completed to, if there are levels enough.  The reader may
take more names and tags than the presentation counts. -/
theorem Presents.complete?_eq (levels : Nat) {wide allowed held : Bool}
    (below : allowed = true → held = true) {shape : Shape} {value written : Json}
    (presents : Presents wide allowed shape value written) (fits : Fits levels value) :
    complete? levels held shape value = some written := by
  cases presents with
  | text | truth =>
      rw [complete?]
      rfl
  | character char =>
      rw [complete?]
      simp [char?]
  | descriptor number =>
      rw [complete?, int32?_ofInt]
      rfl
  | name named =>
      rw [complete?, (named.mono below).nameAmong? fits]
      rfl
  | list each =>
      cases levels with
      | zero => exact absurd rfl (fits.ne_array _)
      | succ levels =>
          have items := each.mapM_eq (Presents.complete?_eq levels below) (fits_array.mp fits)
          rw [complete?, items?, Option.bind_some, items]
          rfl
  | record layout gives each =>
      cases levels with
      | zero => exact absurd fits gives.not_fits_zero
      | succ levels =>
          have members := completeFields?_of_presents (Presents.complete?_eq levels below)
            (complete?_null levels held) gives each fits
          rw [complete?_record layout, members]
          rfl
  | variant layout tagged selects gives each =>
      cases levels with
      | zero => exact absurd fits tagged.not_fits_zero
      | succ levels =>
          have members := completeFields?_of_presents
            (Presents.complete?_eq levels fun _ => rfl) (complete?_null levels true) gives each
            (tagged.fits fits)
          rw [complete?_variant layout (holds_of_fits fits held) tagged (selects.mono below),
            members]
          rfl

/-! ## What is flawed is what cannot be completed -/

section Forms

variable {levels : Nat} {held : Bool} {value : Json}

theorem complete?_text_eq_none :
    complete? levels held .text value = none ↔ ∀ text, value ≠ .string text := by
  rw [complete?]
  exact map_eq_none_iff_forall_ne string?_eq_some_iff _

theorem complete?_truth_eq_none :
    complete? levels held .truth value = none ↔ ∀ flag, value ≠ .bool flag := by
  rw [complete?]
  exact map_eq_none_iff_forall_ne bool?_eq_some_iff _

theorem complete?_character_eq_none :
    complete? levels held .character value = none ↔
      ∀ char : Char, value ≠ .string char.toString := by
  rw [complete?]
  exact map_eq_none_iff_forall_ne char?_eq_some_iff _

theorem complete?_descriptor_eq_none :
    complete? levels held .descriptor value = none ↔
      ∀ number : Int32, value ≠ .ofInt number.toInt := by
  rw [complete?]
  exact map_eq_none_iff_forall_ne int32?_eq_some_iff _

theorem complete?_list_eq_none {item : Shape} (other : ∀ items, value ≠ .array items) :
    complete? (levels + 1) held (.list item) value = none := by
  have none : items? value = Option.none := Option.eq_none_iff_forall_ne_some.mpr
    fun items found => other items (items?_eq_some_iff.mp found)
  rw [complete?, none, Option.bind_none]

end Forms

section Refused

variable {held : Bool} {complete : Shape → Json → Option Json} {fields : List Field}
  {value : Json}

theorem FlawedField.completeField?_eq {field : Field} {given : Option Json}
    (flaw : FlawedField held field given)
    (each : ∀ {shape value}, Flawed held shape value → complete shape value = none)
    (null : ∀ shape, complete shape .null = none) :
    completeField? complete field given = none := by
  cases flaw with
  | missing presence => simp only [completeField?, presence]
  | null presence =>
      rw [completeField?_some fun optional => absurd optional presence, null]
      rfl
  | value present flaw =>
      rw [completeField?_some fun _ => present, each flaw]
      rfl

theorem FlawedRecord.completeFields?_eq (flaw : FlawedRecord held fields value)
    (each : ∀ {shape value}, Flawed held shape value → complete shape value = none)
    (null : ∀ shape, complete shape .null = none) :
    completeFields? complete fields value = none := by
  unfold completeFields?
  cases flaw with
  | scalar object array =>
      cases value with
      | object members => exact absurd rfl (object members)
      | array items => exact absurd rfl (array items)
      | _ => rfl
  | long longer =>
      rw [← List.length_map (·.name)] at longer
      rw [fields?, if_neg (Nat.not_le_of_gt longer), Option.bind_none]
  | @repeated _ _ members _ known twice =>
      have failed : (fields.map (·.name)).mapM (member? · members) = none :=
        mapM_eq_none_iff.mpr ⟨_, List.mem_map_of_mem known, member?_eq_none_iff.mpr twice⟩
      rw [fields?, failed, Option.bind_none]
  | field gives inside flaw =>
      rw [fields?_eq_some_iff.mpr gives, Option.bind_some]
      exact mapM_eq_none_iff.mpr ⟨_, inside, flaw.completeField?_eq each null⟩

theorem flawedField_of_incomplete {field : Field} {given : Option Json}
    (each : ∀ value, given = some value → complete field.shape value = none →
      Flawed held field.shape value)
    (none : completeField? complete field given = none) : FlawedField held field given := by
  cases given with
  | none =>
      cases presence : field.presence with
      | required => exact .missing presence
      | defaulted => simp [completeField?, presence] at none
      | optional => simp [completeField?, presence] at none
  | some value =>
      by_cases present : value = .null
      · subst present
        refine .null fun presence => ?_
        simp [completeField?, presence] at none
      · rw [completeField?_some fun _ => present, Option.map_eq_none_iff] at none
        exact .value present (each value rfl none)

theorem flawedRecord_of_incomplete {levels : Nat} (fits : Fits (levels + 1) value)
    (each : ∀ shape given, Fits levels given → complete shape given = none →
      Flawed held shape given)
    (none : completeFields? complete fields value = none) : FlawedRecord held fields value := by
  rw [completeFields?, Option.bind_eq_none_iff] at none
  cases given : fields? (fields.map (·.name)) value with
  | none =>
      cases value with
      | object members =>
          obtain ⟨name, inside, repeated⟩ := mapM_eq_none_iff.mp given
          obtain ⟨field, known, rfl⟩ := List.mem_map.mp inside
          exact .repeated known (member?_eq_none_iff.mp repeated)
      | array items =>
          refine .long ?_
          rw [fields?, List.length_map] at given
          split at given
          · cases given
          · next longer => exact Nat.lt_of_not_le longer
      | _ => exact .scalar (by simp) (by simp)
  | some givens =>
      have gives := fields?_eq_some_iff.mp given
      obtain ⟨⟨field, given⟩, inside, none⟩ := mapM_eq_none_iff.mp (none givens given)
      refine .field gives inside (flawedField_of_incomplete (fun value same none => ?_) none)
      have present : some value ∈ givens := same ▸ (List.of_mem_zip inside).2
      exact each _ _ (gives.fits fits present) none

end Refused

/-- A flawed value is not completed, whatever the levels. -/
theorem Flawed.complete?_eq (levels : Nat) {held : Bool} {shape : Shape} {value : Json}
    (flaw : Flawed held shape value) : complete? levels held shape value = none := by
  cases flaw with
  | text other => exact complete?_text_eq_none.mpr other
  | truth other => exact complete?_truth_eq_none.mpr other
  | character other => exact complete?_character_eq_none.mpr other
  | descriptor other => exact complete?_descriptor_eq_none.mpr other
  | name unknown =>
      rw [complete?, Option.map_eq_none_iff, Option.eq_none_iff_forall_ne_some]
      exact fun name given => unknown name (names_of_nameAmong? given)
  | list other =>
      cases levels with
      | zero => rfl
      | succ levels => exact complete?_list_eq_none other
  | item inside flaw =>
      cases levels with
      | zero => rfl
      | succ levels =>
          have none := mapM_eq_none_iff.mpr ⟨_, inside, flaw.complete?_eq levels⟩
          rw [complete?, items?, Option.bind_some, none]
          rfl
  | record layout flaw =>
      cases levels with
      | zero => rfl
      | succ levels =>
          have none := flaw.completeFields?_eq (Flawed.complete?_eq levels)
            (complete?_null levels held)
          rw [complete?_record layout, none]
          rfl
  | @untagged _ _ tag _ _ layout none =>
      cases levels with
      | zero => rfl
      | succ levels =>
          have missing : tagged? tag value = Option.none :=
            Option.eq_none_iff_forall_ne_some.mpr fun pair found =>
              none pair.1 pair.2 (tagged?_eq_some_iff.mp found)
          rw [complete?, layout]
          simp [missing]
  | @unknown _ _ _ variants _ given _ layout tagged none =>
      cases levels with
      | zero => rfl
      | succ levels =>
          have missing : variant? held variants given = Option.none :=
            Option.eq_none_iff_forall_ne_some.mpr fun variant found =>
              none variant ((variant?_eq_some_iff (TreeKind.distinct_variants layout)).mp found)
          rw [complete?, layout]
          simp [tagged?_eq_some_iff.mpr tagged, missing]
  | variant layout tagged selects flaw =>
      cases levels with
      | zero => rfl
      | succ levels =>
          have none := flaw.completeFields?_eq (Flawed.complete?_eq levels)
            (complete?_null levels true)
          by_cases whole : holds held (levels + 1) value = true
          · rw [complete?_variant layout whole tagged selects, none]
            rfl
          · rw [complete?, layout]
            simp [whole]
termination_by levels

/-- A value that is not completed has a flaw, unless there are too few levels for it. -/
theorem flawed_of_incomplete (levels : Nat) {held : Bool} {shape : Shape} {value : Json}
    (fits : Fits levels value) (none : complete? levels held shape value = none) :
    Flawed held shape value := by
  cases shape with
  | text => exact .text (complete?_text_eq_none.mp none)
  | truth => exact .truth (complete?_truth_eq_none.mp none)
  | character => exact .character (complete?_character_eq_none.mp none)
  | descriptor => exact .descriptor (complete?_descriptor_eq_none.mp none)
  | name names =>
      refine .name fun name given => ?_
      rw [complete?, given.nameAmong? fits] at none
      cases none
  | list item =>
      cases levels with
      | zero => exact .list fits.ne_array
      | succ levels =>
          cases value with
          | array items =>
              rw [complete?, items?, Option.bind_some, Option.map_eq_none_iff] at none
              obtain ⟨value, inside, none⟩ := mapM_eq_none_iff.mp none
              exact .item inside
                (flawed_of_incomplete levels (fits_array.mp fits value inside) none)
          | _ => exact .list (by simp)
  | tree kind =>
      cases layout : kind.layout with
      | record fields =>
          cases levels with
          | zero => exact .record layout (.scalar fits.ne_object fits.ne_array)
          | succ levels =>
              rw [complete?_record layout, Option.map_eq_none_iff] at none
              exact .record layout
                (flawedRecord_of_incomplete fits (fun _ _ => flawed_of_incomplete levels) none)
      | variants tag variants =>
          cases levels with
          | zero => exact .untagged layout fun _ _ tagged => tagged.not_fits_zero fits
          | succ levels =>
              by_cases tagged : ∃ given rest, Tagged tag value given rest
              · obtain ⟨given, rest, tagged⟩ := tagged
                by_cases known : ∃ variant, Selects held variants given variant
                · obtain ⟨variant, selects⟩ := known
                  rw [complete?_variant layout (holds_of_fits fits held) tagged selects,
                    Option.map_eq_none_iff] at none
                  exact .variant layout tagged selects (flawedRecord_of_incomplete
                    (tagged.fits fits) (fun _ _ => flawed_of_incomplete levels) none)
                · exact .unknown layout tagged fun variant selects => known ⟨variant, selects⟩
              · exact .untagged layout fun given rest found => tagged ⟨given, rest, found⟩
termination_by levels

/-! ## What is completed is presented in the wide sense -/

theorem presentsItems_of_forall₂ {wide held : Bool} {item : Shape} {values written : List Json}
    (each : List.Forall₂ (Presents wide held item) values written) :
    PresentsItems wide held item values written := by
  induction each with
  | nil => exact .nil item
  | cons first _ ih => exact .cons first ih

section Completed

variable {held : Bool} {complete : Shape → Json → Option Json}

theorem presentsFields_cons {field : Field} {fields : List Field} {given : Option Json}
    {givens : List (Option Json)} {member : String × Json} {members : List (String × Json)}
    (each : ∀ {shape value written}, complete shape value = some written →
      Presents true held shape value written)
    (completed : completeField? complete field given = some member)
    (rest : PresentsFields true held fields givens members) :
    PresentsFields true held (field :: fields) (given :: givens) (member :: members) := by
  cases given with
  | none =>
      cases presence : field.presence with
      | required => simp [completeField?, presence] at completed
      | defaulted written =>
          simp only [completeField?, presence, Option.some.injEq] at completed
          subst completed
          exact .default presence rest
      | optional =>
          simp only [completeField?, presence, Option.some.injEq] at completed
          subst completed
          exact .absent presence (.inl rfl) rest
  | some value =>
      by_cases absent : field.presence = .optional ∧ value = .null
      · obtain ⟨presence, rfl⟩ := absent
        simp only [completeField?, presence, Option.some.injEq] at completed
        subst completed
        exact .absent presence (.inr rfl) rest
      · have present : field.presence = .optional → value ≠ .null := not_and.mp absent
        rw [completeField?_some present] at completed
        obtain ⟨written, found, rfl⟩ := Option.map_eq_some_iff.mp completed
        exact .given (each found) rest

theorem presentsFields_of_completed {fields : List Field} {givens : List (Option Json)}
    {members : List (String × Json)}
    (each : ∀ {shape value written}, complete shape value = some written →
      Presents true held shape value written)
    (length : givens.length = fields.length)
    (completed : completeGivens? complete fields givens = some members) :
    PresentsFields true held fields givens members := by
  induction fields generalizing givens members with
  | nil =>
      rw [List.length_eq_zero_iff.mp length] at completed ⊢
      cases completed
      exact .nil
  | cons field fields ih =>
      cases givens with
      | nil => cases length
      | cons given givens =>
          rw [completeGivens?, List.zip_cons_cons, mapM_eq_some_iff] at completed
          cases completed with
          | cons first others =>
              exact presentsFields_cons each first
                (ih (Nat.succ.inj length) (mapM_eq_some_iff.mpr others))

/-- A completed record gives its fields, and these present what is written for them. -/
theorem exists_presentsFields {fields : List Field} {value : Json}
    {members : List (String × Json)}
    (each : ∀ {shape value written}, complete shape value = some written →
      Presents true held shape value written)
    (completed : completeFields? complete fields value = some members) :
    ∃ givens, Gives (fields.map (·.name)) value givens ∧
      PresentsFields true held fields givens members := by
  obtain ⟨givens, found, completed⟩ := Option.bind_eq_some_iff.mp completed
  have gives := fields?_eq_some_iff.mp found
  have length : givens.length = fields.length := by
    rw [gives.length_eq, List.length_map]
  exact ⟨givens, gives, presentsFields_of_completed each length completed⟩

end Completed

/-- A completed node has a tag that selects a variant, and the fields of that variant. -/
theorem exists_variant_of_complete? {levels : Nat} {held : Bool} {kind : TreeKind} {tag : String}
    {variants : List (String × List Field)} {value written : Json}
    (layout : kind.layout = .variants tag variants)
    (completed : complete? (levels + 1) held (.tree kind) value = some written) :
    ∃ given rest variant members, Tagged tag value given rest ∧
      Selects held variants given variant ∧
      completeFields? (complete? levels true) variant.2 rest = some members ∧
      written = .object ((tag, .string variant.1) :: members) := by
  have sound : ¬ Flawed held (.tree kind) value := by
    intro flaw
    rw [flaw.complete?_eq] at completed
    cases completed
  have whole : holds held (levels + 1) value = true := by
    by_contra broken
    rw [complete?, layout] at completed
    simp [broken] at completed
  have tagged : ∃ given rest, Tagged tag value given rest := by
    by_contra untagged
    exact sound (.untagged layout fun given rest tagged => untagged ⟨given, rest, tagged⟩)
  obtain ⟨given, rest, tagged⟩ := tagged
  have selected : ∃ variant, Selects held variants given variant := by
    by_contra unknown
    exact sound (.unknown layout tagged fun variant selects => unknown ⟨variant, selects⟩)
  obtain ⟨variant, selects⟩ := selected
  rw [complete?_variant layout whole tagged selects] at completed
  obtain ⟨members, found, rfl⟩ := Option.map_eq_some_iff.mp completed
  exact ⟨given, rest, variant, members, tagged, selects, found, rfl⟩

theorem presents_of_complete? (levels : Nat) {held : Bool} {shape : Shape} {value written : Json}
    (completed : complete? levels held shape value = some written) :
    Presents true held shape value written := by
  cases shape with
  | text =>
      rw [complete?] at completed
      obtain ⟨text, rfl, rfl⟩ := (map_eq_some_iff_exists_eq string?_eq_some_iff).mp completed
      exact .text text
  | truth =>
      rw [complete?] at completed
      obtain ⟨flag, rfl, rfl⟩ := (map_eq_some_iff_exists_eq bool?_eq_some_iff).mp completed
      exact .truth flag
  | character =>
      rw [complete?] at completed
      obtain ⟨char, rfl, rfl⟩ := (map_eq_some_iff_exists_eq char?_eq_some_iff).mp completed
      exact .character char
  | descriptor =>
      rw [complete?] at completed
      obtain ⟨number, rfl, rfl⟩ := (map_eq_some_iff_exists_eq int32?_eq_some_iff).mp completed
      exact .descriptor number
  | name names =>
      rw [complete?] at completed
      obtain ⟨name, found, rfl⟩ := Option.map_eq_some_iff.mp completed
      exact .name (names_of_nameAmong? found)
  | list item =>
      cases levels with
      | zero => cases completed
      | succ levels =>
          rw [complete?] at completed
          obtain ⟨items, found, completed⟩ := Option.bind_eq_some_iff.mp completed
          obtain ⟨written, mapped, rfl⟩ := Option.map_eq_some_iff.mp completed
          rw [items?_eq_some_iff.mp found]
          have each := (mapM_eq_some_iff.mp mapped).imp fun _ _ => presents_of_complete? levels
          exact .list (presentsItems_of_forall₂ each)
  | tree kind =>
      cases levels with
      | zero => cases completed
      | succ levels =>
          cases layout : kind.layout with
          | record fields =>
              rw [complete?_record layout] at completed
              obtain ⟨members, found, rfl⟩ := Option.map_eq_some_iff.mp completed
              obtain ⟨givens, gives, each⟩ :=
                exists_presentsFields (presents_of_complete? levels) found
              exact .record layout gives each
          | variants tag variants =>
              obtain ⟨given, rest, variant, members, tagged, selects, found, rfl⟩ :=
                exists_variant_of_complete? layout completed
              obtain ⟨givens, gives, each⟩ :=
                exists_presentsFields (presents_of_complete? levels) found
              exact .variant layout tagged selects gives each
termination_by levels

/-! ## What presents nothing -/

theorem PresentsFields.exists_written {wide held : Bool} {fields : List Field}
    {givens : List (Option Json)} {members : List (String × Json)} {field : Field} {value : Json}
    (presents : PresentsFields wide held fields givens members)
    (inside : (field, some value) ∈ fields.zip givens) (presence : field.presence ≠ .optional) :
    ∃ written, Presents wide held field.shape value written := by
  induction fields generalizing givens members with
  | nil => cases inside
  | cons first fields ih =>
      cases presents with
      | given presents rest =>
          rcases List.mem_cons.mp inside with same | later
          · cases same
            exact ⟨_, presents⟩
          · exact ih rest later
      | default _ rest =>
          rcases List.mem_cons.mp inside with same | later
          · cases same
          · exact ih rest later
      | absent optional _ rest =>
          rcases List.mem_cons.mp inside with same | later
          · cases same
            exact absurd optional presence
          · exact ih rest later

/-- What a node with variants presents, by its tag and by what is left without the tag. -/
theorem Presents.exists_variant {wide held : Bool} {kind : TreeKind} {tag : String}
    {variants : List (String × List Field)} {node written given rest : Json}
    (presents : Presents wide held (.tree kind) node written)
    (layout : kind.layout = .variants tag variants) (tagged : Tagged tag node given rest) :
    ∃ variant givens members, Selects held variants given variant ∧
      Gives (variant.2.map (·.name)) rest givens ∧
      PresentsFields wide wide variant.2 givens members := by
  cases presents with
  | record layout' => cases layout.symm.trans layout'
  | variant layout' tagged' selects gives each =>
      cases layout.symm.trans layout'
      obtain ⟨rfl, rfl⟩ := tagged.unique tagged'
      exact ⟨_, _, _, selects, gives, each⟩

/-- What is given for a field of a node that presents something presents something, too, unless
the field is optional. -/
theorem Presents.exists_field {wide held : Bool} {kind : TreeKind} {tag : String}
    {variants : List (String × List Field)} {variant : String × List Field}
    {node written given rest : Json} {givens : List (Option Json)} {field : Field} {value : Json}
    (presents : Presents wide held (.tree kind) node written)
    (layout : kind.layout = .variants tag variants) (tagged : Tagged tag node given rest)
    (selects : Selects held variants given variant)
    (gives : Gives (variant.2.map (·.name)) rest givens)
    (inside : (field, some value) ∈ variant.2.zip givens) (presence : field.presence ≠ .optional) :
    ∃ written, Presents wide wide field.shape value written := by
  obtain ⟨other, others, members, selects', gives', each⟩ :=
    presents.exists_variant layout tagged
  obtain rfl := selects.unique (TreeKind.distinct_variants layout) selects'
  obtain rfl := gives.unique gives'
  exact each.exists_written inside presence

/-- Where only names are taken for tags, a node with a number for its tag presents nothing. -/
theorem not_presents_number {wide : Bool} {kind : TreeKind} {tag : String}
    {variants : List (String × List Field)} {value written rest : Json} {number : Numeral}
    (layout : kind.layout = .variants tag variants)
    (tagged : Tagged tag value (.number number) rest) :
    ¬ Presents wide false (.tree kind) value written := by
  intro presents
  obtain ⟨variant, givens, members, selects, -, -⟩ := presents.exists_variant layout tagged
  cases selects with
  | position below => cases below

/-! ## Reading -/

namespace Reader

/-- Every presentation of a tree is read as that tree.  What is read as a tree is what presents
it in the wide sense, and what is refused is what has a flaw. -/
structure Decodes {α : Type} (read : Bool → Nat → Json → Option α) (json : α → Json)
    (kind : TreeKind) : Prop where
  presented : ∀ value tree, value.readable = true →
    Presents false false (.tree kind) value (json tree) → ofJson? read value = some tree
  exact : ∀ value tree, value.readable = true →
    (ofJson? read value = some tree ↔ Presents true false (.tree kind) value (json tree))
  refused : ∀ value, Flawed false (.tree kind) value → ofJson? read value = none
  flawed : ∀ value, value.readable = true → ofJson? read value = none →
    Flawed false (.tree kind) value

section

variable {α : Type} {read : Bool → Nat → Json → Option α} {json : α → Json} {kind : TreeKind}

/-- What presents a tree is read as that tree, since no other tree is written alike. -/
theorem ofJson?_of_presents (completes : ∀ levels, Completes levels read json (.tree kind))
    (writes : ∀ tree, Writes read (json tree) tree) {wide : Bool} {value : Json} {tree : α}
    (readable : value.readable = true)
    (presents : Presents wide false (.tree kind) value (json tree)) :
    ofJson? read value = some tree := by
  have whole := completes value.depth false value
  rw [presents.complete?_eq value.depth id ⟨readable, le_rfl⟩] at whole
  obtain ⟨other, found, same⟩ := Option.map_eq_some_iff.mp whole
  have back := (writes other).back false _ le_rfl
  rw [same, (writes tree).back false _ le_rfl] at back
  rw [ofJson?, found, back]

theorem decodes (completes : ∀ levels, Completes levels read json (.tree kind))
    (writes : ∀ tree, Writes read (json tree) tree) : Decodes read json kind where
  presented value tree readable := ofJson?_of_presents completes writes readable
  exact value tree readable := by
    constructor
    · intro found
      have whole := completes value.depth false value
      rw [ofJson?] at found
      rw [found, Option.map_some] at whole
      exact presents_of_complete? value.depth whole.symm
    · exact ofJson?_of_presents completes writes readable
  refused value flaw := by
    have whole := completes value.depth false value
    rw [flaw.complete?_eq value.depth] at whole
    exact Option.map_eq_none_iff.mp whole
  flawed value readable none := by
    refine flawed_of_incomplete value.depth ⟨readable, le_rfl⟩ ?_
    rw [← completes value.depth false value]
    exact Option.map_eq_none_iff.mpr none

end

theorem writes_caseItem (item : CaseItem) : Writes caseItem? (caseItemJson item) item := by
  have single := writes_caseItemsJson [item]
  rw [caseItemsJson_eq_map] at single
  cases single with
  | cons first _ => exact first

/-- Trees of every kind are read from all their presentations, and apart from tags by position
and names over an empty object, both below a tagged node, from nothing else. -/
theorem presentations_read :
    Decodes script? scriptJson .script ∧
    Decodes statement? Statement.toJson .statement ∧
    Decodes command? Command.toJson .command ∧
    Decodes assignment? Assignment.toJson .assignment ∧
    Decodes redirection? Redirection.toJson .redirection ∧
    Decodes caseItem? caseItemJson .caseItem ∧
    Decodes word? wordJson .word ∧
    Decodes part? Part.toJson .part ∧
    Decodes operation? Operation.toJson .operation ∧
    Decodes arith? Arith.toJson .arith ∧
    Decodes Options.read? Options.toJson .options :=
  ⟨decodes script_completes fun script => writes_script (writes_statementsJson script),
    decodes statement_completes writes_statement,
    decodes command_completes writes_command,
    decodes assignment_completes writes_assignment,
    decodes redirection_completes writes_redirection,
    decodes caseItem_completes writes_caseItem,
    decodes word_completes fun word => writes_word (writes_partsJson word),
    decodes part_completes writes_part,
    decodes operation_completes writes_operation,
    decodes arith_completes writes_arith,
    decodes options_completes writes_options⟩

/-- A negated call that redirects its errors.  Its fields are in no order, with a note among
them, and most of what is below is given as arrays. -/
def assorted : Json :=
  .object
    [("note", .bool true),
      ("redirections", .array
        [.array [.ofInt 2, .object [("d_great", .null)], .array [.array []]]]),
      ("command", .object
        [("args", .array [.array [.array [.array [.string "literal", .string "x"]]]]),
          ("type", .string "call")]),
      ("negated", .bool true)]

theorem assorted_read :
    ofJson? statement? assorted = some
        { command := some (.call [] [[.literal "x"]])
          negated := true
          redirections := [⟨some 2, .dGreat, []⟩] } ∧
      ofJson? statement? (.object [("negated", .null)]) = none := by
  have decodes := presentations_read.2.1
  have call := selects_name CommandKind.schema .call
  have literal := selects_name PartKind.schema .literal
  refine ⟨decodes.presented _ _ rfl ?_, decodes.refused _ ?_⟩
  · refine .record rfl (fields?_eq_some_iff.mp rfl) (.given ?command (.given (.truth true)
      (.default rfl (.default rfl (.given (.list (.cons ?redirection (.nil _))) .nil)))))
    case command =>
      refine .variant rfl (tagged?_eq_some_iff.mp rfl) (call _) (fields?_eq_some_iff.mp rfl)
        (.default rfl (.given (.list (.cons ?word (.nil _))) .nil))
      refine .record rfl (fields?_eq_some_iff.mp rfl) (.given (.list (.cons ?part (.nil _))) .nil)
      exact .variant rfl (.array _ _) (literal _) (fields?_eq_some_iff.mp rfl)
        (.given (.text "x") .nil)
    case redirection =>
      refine .record rfl (fields?_eq_some_iff.mp rfl)
        (.given (.descriptor 2) (.given (.name (.key (by decide))) (.given ?target .nil)))
      exact .record rfl (fields?_eq_some_iff.mp rfl) (.given (.list (.nil _)) .nil)
  · exact .record rfl (.field (fields?_eq_some_iff.mp rfl) (.tail _ (.head _))
      (.null (by simp [Field.flag])))

/-- A literal in quotation marks, of which the tag is a position. -/
def numbered : Json :=
  .object
    [("type", .string "double_quoted"),
      ("parts", .array
        [.object [("type", .number (.integer false 0)), ("value", .string "x")]])]

/-- A process substitution, of which the direction is the key of an empty object. -/
def hollow : Json :=
  .object
    [("type", .string "process_substitution"),
      ("body", .object [("statements", .array [])]),
      ("direction", .object [("input", .object [])])]

/-- Not all that is read presents a tree in the narrow sense. -/
theorem numbered_and_hollow_read :
    (ofJson? part? numbered = some (.doubleQuoted [.literal "x"]) ∧
      ∀ written, ¬ Presents false false (.tree .part) numbered written) ∧
    (ofJson? part? hollow = some (.process [] .input) ∧
      ∀ written, ¬ Presents false false (.tree .part) hollow written) := by
  refine ⟨⟨rfl, ?_⟩, ⟨rfl, ?_⟩⟩
  · intro written presents
    obtain ⟨written, parts⟩ := presents.exists_field rfl (tagged?_eq_some_iff.mp rfl)
      (selects_name PartKind.schema .doubleQuoted false) (fields?_eq_some_iff.mp rfl) (.head _)
      nofun
    cases parts with
    | list parts =>
        cases parts with
        | cons first => exact not_presents_number rfl (tagged?_eq_some_iff.mp rfl) first
  · intro written presents
    obtain ⟨written, direction⟩ := presents.exists_field rfl (tagged?_eq_some_iff.mp rfl)
      (selects_name PartKind.schema .process false) (fields?_eq_some_iff.mp rfl)
      (.tail _ (.head _)) nofun
    cases direction with
    | name named =>
        cases named with
        | emptyKey below => cases below

end Reader

end ShellTree
