import ShellTree.Proofs.Toml.Text

/-!
# Tables of a document

A document that starts one table after the other, each with its own name, and sets each
key of a table once has these tables with these keys, all in the order of the text.
-/

namespace ShellTree.Toml

theorem add?_fresh {entries : Entries} {key : String} (fresh : key ∉ entries.map Prod.fst)
    (value : Toml) : Entries.add? key value entries = some (entries ++ [(key, value)]) := by
  rw [Entries.add?, lookup_eq_none fresh]

def tableLines (table : String × Entries) : List Line :=
  .header table.1 :: table.2.map fun entry => .entry entry.1 entry.2

def tableEntry (table : String × Entries) : String × Toml :=
  (table.1, .table .header table.2)

namespace Document

theorem set?_fresh {root : Table} {path : List String} {known : Entries} {key : String}
    (fresh : key ∉ known.map Prod.fst) (value : Toml) :
    set? ⟨root, ⟨.header, known⟩, path, false⟩ [key] value =
      some ⟨root, ⟨.header, known ++ [(key, value)]⟩, path, false⟩ := by
  simp [set?, Table.set?, Table.change, add?_fresh fresh]

theorem foldlM_entries {root : Table} {path : List String} {known entries : Entries}
    (distinct : ((known ++ entries).map Prod.fst).Nodup) :
    (entries.map fun entry => Line.entry entry.1 entry.2).foldlM Line.change?
      ⟨root, ⟨.header, known⟩, path, false⟩ =
        some ⟨root, ⟨.header, known ++ entries⟩, path, false⟩ := by
  induction entries generalizing known with
  | nil => rw [List.append_nil]; rfl
  | cons entry rest ih =>
      have fresh : entry.1 ∉ known.map Prod.fst := by
        rw [List.map_append, List.map_cons] at distinct
        exact fun old => (List.nodup_append.mp distinct).2.2 _ old _ List.mem_cons_self rfl
      rw [← List.singleton_append, ← List.append_assoc] at distinct ⊢
      rw [List.singleton_append, List.map_cons, List.foldlM_cons, Line.change?,
        set?_fresh fresh entry.2]
      exact ih distinct

theorem openTable?_fresh {document : Document} {done : Entries} {name : String}
    (closed : document.close? = some ⟨.header, done⟩) (fresh : name ∉ done.map Prod.fst) :
    document.openTable? [name] = some ⟨⟨.header, done⟩, ⟨.header, []⟩, [name], false⟩ := by
  simp [openTable?, closed, Table.change, lookup_eq_none fresh]

theorem close?_table {done : Entries} {name : String} (fresh : name ∉ done.map Prod.fst)
    (entries : Entries) :
    close? ⟨⟨.header, done⟩, ⟨.header, entries⟩, [name], false⟩ =
      some ⟨.header, done ++ [tableEntry (name, entries)]⟩ := by
  simp [close?, Table.change, add?_fresh fresh, tableEntry]

/-- A document that would end with some tables ends with one more after the lines of a table. -/
theorem foldlM_table {document : Document} {done : Entries} {table : String × Entries}
    (closed : document.close? = some ⟨.header, done⟩) (fresh : table.1 ∉ done.map Prod.fst)
    (distinct : (table.2.map Prod.fst).Nodup) :
    ∃ after, (tableLines table).foldlM Line.change? document = some after ∧
      after.close? = some ⟨.header, done ++ [tableEntry table]⟩ := by
  refine ⟨_, ?_, close?_table fresh table.2⟩
  rw [tableLines, List.foldlM_cons, Line.change?, openTable?_fresh closed fresh]
  have own : (([] ++ table.2 : Entries).map Prod.fst).Nodup := distinct
  exact foldlM_entries own

theorem foldlM_tables {tables : List (String × Entries)} {document : Document} {done : Entries}
    (closed : document.close? = some ⟨.header, done⟩)
    (names : (done.map Prod.fst ++ tables.map Prod.fst).Nodup)
    (keys : ∀ table ∈ tables, (table.2.map Prod.fst).Nodup) :
    ∃ after, (tables.flatMap tableLines).foldlM Line.change? document = some after ∧
      after.close? = some ⟨.header, done ++ tables.map tableEntry⟩ := by
  induction tables generalizing document done with
  | nil => exact ⟨document, rfl, by rwa [List.map_nil, List.append_nil]⟩
  | cons table rest ih =>
      obtain ⟨here, later⟩ := List.forall_mem_cons.mp keys
      have fresh : table.1 ∉ done.map Prod.fst := fun old =>
        (List.nodup_append.mp names).2.2 _ old _ List.mem_cons_self rfl
      obtain ⟨middle, first, closed'⟩ := foldlM_table closed fresh here
      have names' : ((done ++ [tableEntry table]).map Prod.fst ++ rest.map Prod.fst).Nodup := by
        rwa [List.map_append, List.append_assoc]
      obtain ⟨after, others, closed''⟩ := ih closed' names' later
      refine ⟨after, ?_, ?_⟩
      · rw [List.flatMap_cons, List.foldlM_append, first]
        exact others
      · rwa [List.append_assoc] at closed''

end Document

/-- Written tables are read as they are. -/
theorem ofText?_written {tables : List (String × Entries)} {text : String}
    (names : (tables.map Prod.fst).Nodup) (keys : ∀ table ∈ tables, (table.2.map Prod.fst).Nodup)
    (written : Written (tables.flatMap tableLines) text.toList) :
    ofText? text = some (tables.map tableEntry) := by
  have start : Document.close? {} = some ⟨.header, []⟩ := rfl
  obtain ⟨after, read, closed⟩ := Document.foldlM_tables start names keys
  rw [ofText?, written.dropMark, lines?_written written (Nat.le_refl _), read]
  simp [closed]

end ShellTree.Toml
