import SchemaMigrate.Catalog.Introspect
import SchemaMigrate.Proofs.NameMap
import SchemaMigrate.Proofs.Text.Folding

/-!
What introspection reads: every live table has the columns that the catalog answered for it, and a type
that is not known stays so when it is written in lowercase.
-/

namespace SchemaMigrate

section Spelling

/-- Names of known types are written in ASCII and have no blanks around them. -/
theorem spelling_plain {type : StorageType} (htype : type ∈ storageTypes) {spelling : String}
    (hspelling : spelling ∈ type.spellings) :
    Text.isAscii spelling.toList = true ∧ (spelling.toList.head?.any Text.isBlank) = false
      ∧ (spelling.toList.getLast?.any Text.isBlank) = false := by
  have hplain : ∀ type ∈ storageTypes, ∀ spelling ∈ type.spellings,
      Text.isAscii spelling.toList = true ∧ (spelling.toList.head?.any Text.isBlank) = false
        ∧ (spelling.toList.getLast?.any Text.isBlank) = false := by decide +kernel
  exact hplain type htype spelling hspelling

theorem storageType?_eq_some {name : String} {type : StorageType} (h : storageType? name = some type) :
    type ∈ storageTypes ∧ nameKey (Text.trimmed name) ∈ type.spellings :=
  ⟨List.mem_of_find?_eq_some h, by simpa using List.find?_some h⟩

/-- A type is found by the key of its name alone. -/
theorem storageType?_congr {left right : String} (h : sameName left right = true) :
    storageType? left = storageType? right := by
  simp only [storageType?, nameKey_trimmed, sameName_iff.1 h]

/-- Types of one name are of one family. -/
theorem typeFamily?_congr {left right : String} (h : sameName left right = true) :
    typeFamily? left = typeFamily? right := by
  rw [typeFamily?, typeFamily?, storageType?_congr h]

/-- A name that has the key of a known spelling has no blanks around it. -/
theorem trimmed_of_spelling {name : String} {type : StorageType} (htype : type ∈ storageTypes)
    (hspelling : nameKey name ∈ type.spellings) : Text.trimmed name = name := by
  obtain ⟨-, hfirst, hlast⟩ := spelling_plain htype hspelling
  rw [nameKey, Text.foldCase, String.toList_ofList] at hfirst hlast
  rw [Text.trimmed, Text.trim_of_foldChar, String.ofList_toList]
  · intro c hc
    simpa [hc] using hfirst
  · intro c hc
    simpa [hc] using hlast

/-- A type that is not known is not known in lowercase either. -/
theorem storageType?_lowercase {name other : String} (hunknown : storageType? name = none)
    (htrimmed : Text.trimmed other = other) (hsame : sameName other (Text.lowercase name) = true) :
    storageType? other = none := by
  cases hknown : storageType? other with
  | none => rfl
  | some type =>
      obtain ⟨htype, hspelling⟩ := storageType?_eq_some hknown
      rw [htrimmed, sameName_iff.1 hsame] at hspelling
      have hascii := (spelling_plain htype hspelling).1
      have hkey : nameKey (Text.lowercase name) = nameKey name := by
        simp only [nameKey, Text.foldCase, Text.lowercase, String.toList_ofList] at hascii ⊢
        rw [Text.flatMap_foldChar_lowerFrom hascii]
      rw [hkey] at hspelling
      have hfound := List.find?_eq_none.1 hunknown type htype
      rw [trimmed_of_spelling htype hspelling] at hfound
      exact absurd (by simpa using hspelling) hfound

end Spelling

namespace Catalog

section Inquiries

variable {α β : Type}

/-- An inquiry in two parts answers if the first does, and the second from where that ends. -/
theorem bind_answer {first : Inquiry α} {rest : α → Inquiry β} {log : List Query} {result : β}
    (h : ((first >>= rest).run.run log).1 = .ok result) :
    ∃ value, (first.run.run log).1 = .ok value
      ∧ ((rest value).run.run (first.run.run log).2).1 = .ok result := by
  rw [ExceptT.run_bind, StateT.run_bind] at h
  simp only [bind] at h
  cases hanswer : (first.run.run log).1 with
  | error error =>
      rw [hanswer] at h
      cases h
  | ok value =>
      rw [hanswer] at h
      exact ⟨value, rfl, h⟩

theorem ask_answer {query : Query} {answer : Except String α} {log : List Query} {result : α}
    (h : ((ask query answer).run.run log).1 = .ok result) : answer = .ok result := by
  cases answer with
  | error message => cases h
  | ok rows =>
      cases h
      rfl

/-- A table that is read has the columns that the catalog answered. -/
theorem readTable_answer {source : Source} {schema name : String} {log : List Query} {table : Table}
    (h : ((readTable source schema name).run.run log).1 = .ok table) :
    table.name = name ∧ ∃ columns primaryKey, source.columns schema name = .ok columns
      ∧ table.fields = columns.map (·.field primaryKey) := by
  obtain ⟨columns, hcolumns, h⟩ := bind_answer h
  obtain ⟨primaryKey, -, h⟩ := bind_answer h
  obtain ⟨foreignKeys, -, h⟩ := bind_answer h
  obtain ⟨indexes, -, h⟩ := bind_answer h
  cases h
  exact ⟨rfl, columns, primaryKey, ask_answer hcolumns, rfl⟩

/-- A table is added at the end. -/
theorem items_addTable {db next : Database} {table : Table} (h : db.addTable table = .ok next) :
    next.tables.items = db.tables.items ++ [table] := by
  unfold Database.addTable at h
  split at h
  · cases h
  · rename_i tables hadd
    cases h
    unfold NameMap.add? at hadd
    split at hadd
    · cases hadd
      rfl
    · cases hadd

theorem mem_addTable {db next : Database} {table other : Table} (h : db.addTable table = .ok next)
    (hmem : other ∈ next.tables.items) : other ∈ db.tables.items ∨ other = table := by
  rw [items_addTable h] at hmem
  simpa using hmem

/-- Every table of a database that is read table by table was there before or has the columns that the
catalog answered. -/
theorem readTables_answer {source : Source} {schema : String} {names : List String} {db result : Database}
    {log : List Query} (h : ((readTables source schema db names).run.run log).1 = .ok result) :
    ∀ table ∈ result.tables.items, table ∈ db.tables.items
      ∨ ∃ columns primaryKey, source.columns schema table.name = .ok columns
          ∧ table.fields = columns.map (·.field primaryKey) := by
  induction names generalizing db log with
  | nil =>
      cases h
      exact fun table hmem => .inl hmem
  | cons name names ih =>
      rw [readTables] at h
      obtain ⟨table, htable, h⟩ := bind_answer h
      cases hadd : db.addTable table with
      | error error =>
          rw [hadd] at h
          cases h
      | ok next =>
          rw [hadd] at h
          intro other hmem
          rcases ih h other hmem with hmem | hcolumns
          · rcases mem_addTable hadd hmem with hold | rfl
            · exact .inl hold
            · obtain ⟨hname, hcolumns⟩ := readTable_answer htable
              exact .inr (hname ▸ hcolumns)
          · exact .inr hcolumns

/-- The live tables have the columns that the catalog answered for them. -/
theorem introspect_answer {source : Source} {schema : String} {log : List Query} {db : Database}
    (h : ((introspect source schema).run.run log).1 = .ok db) {table : Table}
    (hmem : table ∈ db.tables.items) :
    ∃ columns primaryKey, source.columns schema table.name = .ok columns
      ∧ table.fields = columns.map (·.field primaryKey) := by
  obtain ⟨names, -, h⟩ := bind_answer h
  rcases readTables_answer h table hmem with hnone | hcolumns
  · cases hnone
  · exact hcolumns

end Inquiries

end Catalog

end SchemaMigrate
