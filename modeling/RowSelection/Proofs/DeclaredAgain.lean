import Mathlib.Data.List.Induction
import Mathlib.Data.List.Nodup
import RowSelection.Key.Row
import RowSelection.Proofs.DeclaredKey
import RowSelection.Proofs.FirstFault

set_option autoImplicit false

namespace RowSelection

namespace KeySchema

theorem field?_table_schema {schema : KeySchema} (apart : schema.names.Nodup) {column : Column}
    (member : column ∈ schema.columns) : schema.tableSchema.field? column.name = some column.field := by
  obtain ⟨columns⟩ := schema
  induction columns with
  | nil => exact absurd member List.not_mem_nil
  | cons first rest ih =>
      obtain ⟨alone, restApart⟩ := List.nodup_cons.mp apart
      rcases List.mem_cons.mp member with rfl | later
      · exact List.find?_cons_of_pos (beq_self_eq_true _)
      · have different : ¬ (first.field.name == column.name) = true := by
          intro same
          have sameName : first.name = column.name := eq_of_beq same
          exact alone (sameName ▸ List.mem_map_of_mem later)
        calc
          (tableSchema ⟨first :: rest⟩).field? column.name
            = (first.field :: rest.map Column.field).find? (fun field => field.name == column.name) := rfl
          _ = (rest.map Column.field).find? (fun field => field.name == column.name) := List.find?_cons_of_neg different
          _ = some column.field := ih restApart later

theorem field?_of_mem_names {schema : KeySchema} {name : String} (member : name ∈ schema.names) :
    schema.tableSchema.field? name ≠ none := by
  obtain ⟨column, held, rfl⟩ := List.mem_map.mp member
  intro none
  have passed := List.find?_eq_none.mp none column.field (List.mem_map_of_mem held)
  exact passed (beq_self_eq_true _)

theorem of_columns_zip (schema : KeySchema) : ofColumns (schema.names.zip schema.keyTypes) = schema := by
  obtain ⟨columns⟩ := schema
  rw [ofColumns, names, keyTypes, List.zip_map', List.map_map]
  exact congrArg KeySchema.mk (List.map_id columns)

theorem resolve_table_schema_iff (schema : KeySchema) :
    resolve (schema.tableSchema.declareParts schema.names) = .ok schema ↔ schema.names.Nodup := by
  rw [resolve_declared_ok_iff]
  constructor
  · exact And.left
  · intro apart
    refine ⟨apart, schema.keyTypes, ?_, schema.of_columns_zip.symm⟩
    rw [names, keyTypes, List.forall₂_map_left_iff, List.forall₂_map_right_iff, List.forall₂_same]
    intro column member
    exact ⟨column.field, field?_table_schema apart member, KeyType.of_data_type?_data_type column.type⟩

theorem first_repeated {names : List String} (repeated : ¬ names.Nodup) :
    ∃ place name, names[place]? = some name ∧ name ∈ names.take place ∧ (names.take place).Nodup := by
  induction names using List.reverseRecOn with
  | nil => exact absurd List.nodup_nil repeated
  | append_singleton earlier last ih =>
      by_cases apart : earlier.Nodup
      · have again : last ∈ earlier := by
          by_contra fresh
          apply repeated
          rw [← List.concat_eq_append, List.nodup_concat]
          exact ⟨fresh, apart⟩
        refine ⟨earlier.length, last, List.getElem?_concat_length, ?_⟩
        rw [List.take_left]
        exact ⟨again, apart⟩
      · obtain ⟨place, name, found, member, before⟩ := ih apart
        have inside := (List.getElem?_eq_some_iff.mp found).1
        refine ⟨place, name, ?_, ?_⟩
        · rw [List.getElem?_append_left inside, found]
        · rw [List.take_append_of_le_length (Nat.le_of_lt inside)]
          exact ⟨member, before⟩

theorem resolve_table_schema_repeated {schema : KeySchema} {place : Nat} {name : String}
    (found : schema.names[place]? = some name) (repeated : name ∈ schema.names.take place)
    (apart : (schema.names.take place).Nodup) :
    resolve (schema.tableSchema.declareParts schema.names) = .error (.duplicateColumn name) := by
  have passed : ∀ earlier < place, (schema.tableSchema.declareParts schema.names).SelectsAt schema.names earlier := by
    intro earlier before other held
    have upTo : (schema.names.take (earlier + 1)).Nodup := apart.sublist (List.take_sublist_take_left before)
    rw [List.take_add_one, held, Option.toList_some, List.nodup_append] at upTo
    have fresh : other ∉ schema.names.take earlier := fun again => upTo.2.2 other again other List.mem_cons_self rfl
    exact ⟨fresh, field?_of_mem_names (List.mem_of_getElem? held)⟩
  rw [resolve_declare_parts]
  exact of_names_of_refused (TableSchema.select_fields_repeated found passed repeated)

theorem names_of_columns (columns : List (String × KeyType)) : (ofColumns columns).names = columns.map Prod.fst := by
  rw [names, ofColumns, List.map_map]
  rfl

theorem names_of_resolve {table : TableSchema} {schema : KeySchema} (resolved : resolve table = .ok schema) :
    schema.names.Nodup := by
  rw [resolve] at resolved
  split at resolved
  · cases resolved
    exact List.nodup_nil
  · split at resolved
    · cases resolved
    · rename_i chosen _
      obtain ⟨apart, types, columns, rfl⟩ := (of_names_ok_iff table chosen schema).mp resolved
      rw [names_of_columns, List.map_fst_zip (Nat.le_of_eq columns.length_eq)]
      exact apart

end KeySchema

namespace Row

theorem names_of_key_schema {row : Row} {schema : KeySchema} (described : row.keySchema = .ok schema) :
    schema.names = row.names := by
  rw [key_schema_eq] at described
  split at described
  · cases described
  · cases described
    exact row.names_columns

theorem names_of_components (components : List Component) : (ofComponents components).names.Nodup := by
  have named : (ofComponents components).names = components.zipIdx.map fun entry => "c" ++ toString entry.2 :=
    names_of_parts (by simp)
  have places : (components.zipIdx.map fun entry => "c" ++ toString entry.2) =
      (List.range components.length).map fun place => "c" ++ toString place := by
    rw [List.range_eq_range', ← List.zipIdx_map_snd 0 components, List.map_map]
    rfl
  rw [named, places]
  refine List.Nodup.map ?_ List.nodup_range
  intro place other same
  have digits := (String.append_right_inj "c").mp same
  rw [Nat.toString_eq_ofList_toDigits, Nat.toString_eq_ofList_toDigits, String.ofList_inj] at digits
  have read := congrArg (Nat.ofDigitChars 10 · 0) digits
  simpa using read

end Row

theorem declare_key_composite (table : TableSchema) (names : List String) :
    table.declareKey [.composite names] =
      (KeySchema.resolve (table.declareParts names)).map fun _ => table.declareParts names := rfl

theorem names_nodup_iff_declared_again (schema : KeySchema) :
    schema.names.Nodup ↔
      ∃ table, schema.tableSchema.declareKey [.composite schema.names] = .ok table ∧ KeySchema.resolve table = .ok schema := by
  rw [← schema.resolve_table_schema_iff]
  constructor
  · intro resolved
    refine ⟨_, ?_, resolved⟩
    rw [declare_key_composite, resolved]
    rfl
  · rintro ⟨table, done, resolved⟩
    obtain ⟨rfl, _⟩ := (declare_key_ok_iff _ _ _).mp done
    simpa [KeyChoice.chosen, KeyChoice.lasting, KeyChoice.names] using resolved

theorem declared_again_of_repeated {schema : KeySchema} (misread : ¬ schema.names.Nodup) :
    ∃ place name, schema.names[place]? = some name ∧ name ∈ schema.names.take place ∧
      (schema.names.take place).Nodup ∧
        schema.tableSchema.declareKey [.composite schema.names] = .error (.duplicateColumn name) := by
  obtain ⟨place, name, found, repeated, apart⟩ := KeySchema.first_repeated misread
  refine ⟨place, name, found, repeated, apart, ?_⟩
  rw [declare_key_composite, KeySchema.resolve_table_schema_repeated found repeated apart]
  rfl

theorem schema_declared_again_iff_names_distinct (schema : KeySchema) :
    let declared := schema.tableSchema.declareKey [.composite schema.names]
    (schema.names.Nodup ↔ ∃ table, declared = .ok table ∧ KeySchema.resolve table = .ok schema) ∧
    (¬ schema.names.Nodup →
      ∃ place name, schema.names[place]? = some name ∧ name ∈ schema.names.take place ∧
        (schema.names.take place).Nodup ∧ declared = .error (.duplicateColumn name)) ∧
    (∀ table, KeySchema.resolve table = .ok schema → schema.names.Nodup) ∧
    (∀ name type, KeySchema.single name type = schema → schema.names.Nodup) ∧
    (∀ type, KeySchema.ofKeyType type = schema → schema.names.Nodup) ∧
    (∀ components, (Row.ofComponents components).keySchema = .ok schema → schema.names.Nodup) ∧
    (∀ row : Row, row.keySchema = .ok schema → schema.names = row.names) ∧
    ∀ columns, KeySchema.ofColumns columns = schema → schema.names = columns.map Prod.fst := by
  refine ⟨names_nodup_iff_declared_again schema, declared_again_of_repeated, ?_, ?_, ?_, ?_, ?_, ?_⟩
  · intro table resolved
    exact KeySchema.names_of_resolve resolved
  · rintro name type rfl
    exact List.nodup_singleton name
  · rintro type rfl
    exact List.nodup_singleton KeySchema.primitiveColumn
  · intro components described
    rw [Row.names_of_key_schema described]
    exact Row.names_of_components components
  · intro row described
    exact Row.names_of_key_schema described
  · rintro columns rfl
    exact KeySchema.names_of_columns columns

-- A list of columns may repeat a name. Its schema is made all the same, and is not declared again.
theorem repeated_column_not_declared_again :
    let schema := KeySchema.ofColumns [("a", .integer), ("a", .long)]
    ¬ schema.names.Nodup ∧
      schema.tableSchema.declareKey [.composite schema.names] = .error (.duplicateColumn "a") := by
  intro schema
  have resolved : KeySchema.resolve (schema.tableSchema.declareParts schema.names) = .error (.duplicateColumn "a") := by
    rw [resolve_declare_parts]
    rfl
  refine ⟨by decide, ?_⟩
  rw [declare_key_composite, resolved]
  rfl

end RowSelection
