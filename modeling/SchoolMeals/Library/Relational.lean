/-
This file is a small library of relational stores with declared constraints. A
schema lists, for every table, its columns, its primary key, the columns that
may not be null and its foreign keys. A store is a family of tables that *holds*
to its schema: the constraint proofs are a field, so a store that violates them
cannot be built. Statements are the prepared statements of SQL over equality
filters. A statement that names a column its table lacks is not prepared; one
that changes a table takes effect only when the changed tables still
hold to the schema, and otherwise fails and leaves the store as it was.

For each kind of change one lemma says exactly when it is accepted, in terms of
the row that comes or goes. Nothing here fixes the tables, the columns or the
values.
-/

import Mathlib.Data.Fintype.Defs
import Mathlib.Data.List.Nodup
import Mathlib.Logic.Function.Basic

namespace Relational

/-! ### Schemas and stores -/

/-- A column whose values must occur in a column of a referenced table. -/
structure ForeignKey (Table Column : Type) where
  column : Column
  references : Table
  target : Column

/-- What the tables declare. -/
structure Schema (Table Column : Type) where
  columns : Table → List Column
  primaryKey : Table → List Column
  notNull : Table → List Column
  foreignKeys : Table → List (ForeignKey Table Column)

/-- A row gives every column a value or null. -/
abbrev Row (Column Value : Type) := Column → Option Value

/-- The rows of every table, in the order they were inserted. -/
abbrev Tables (Table Column Value : Type) := Table → List (Row Column Value)

variable {Table Column Value : Type}

/-- The primary key of a row. -/
def Schema.keyOf (schema : Schema Table Column) (table : Table) (row : Row Column Value) :
    List (Option Value) := (schema.primaryKey table).map row

/-- The primary keys of some rows. A key with a null in it is like no other key, so it is left
out. -/
def Schema.keysOf (schema : Schema Table Column) (table : Table)
    (rows : List (Row Column Value)) : List (List (Option Value)) :=
  (rows.map (schema.keyOf table)).filter (·.all Option.isSome)

/-- The tables satisfy every constraint the schema declares. -/
structure Schema.Holds (schema : Schema Table Column) (tables : Tables Table Column Value) :
    Prop where
  unique : ∀ table, (schema.keysOf table (tables table)).Nodup
  present : ∀ table, ∀ row ∈ tables table, ∀ column ∈ schema.notNull table, row column ≠ none
  referenced : ∀ table, ∀ key ∈ schema.foreignKeys table, ∀ row ∈ tables table,
    ∀ value ∈ row key.column, ∃ target ∈ tables key.references, target key.target = some value

/-- A store is a family of tables that holds to its schema. -/
structure Store (schema : Schema Table Column) (Value : Type) where
  tables : Tables Table Column Value
  holds : schema.Holds tables

theorem Store.ext {schema : Schema Table Column} {first second : Store schema Value}
    (same : first.tables = second.tables) : first = second := by
  cases first
  cases second
  cases same
  rfl

/-- The store of a freshly created schema. -/
def Store.empty (schema : Schema Table Column) (Value : Type) : Store schema Value where
  tables := fun _ => []
  holds := {
    unique := fun _ => List.nodup_nil
    present := fun _ _ member => absurd member List.not_mem_nil
    referenced := fun _ _ _ _ member => absurd member List.not_mem_nil }

instance [Fintype Table] [DecidableEq Value] (schema : Schema Table Column)
    (tables : Tables Table Column Value) : Decidable (schema.Holds tables) :=
  decidable_of_iff
    ((∀ table, (schema.keysOf table (tables table)).Nodup) ∧
      (∀ table, ∀ row ∈ tables table, ∀ column ∈ schema.notNull table, row column ≠ none) ∧
      ∀ table, ∀ key ∈ schema.foreignKeys table, ∀ row ∈ tables table,
        ∀ value ∈ row key.column, ∃ target ∈ tables key.references, target key.target = some value)
    ⟨fun ⟨unique, present, referenced⟩ => ⟨unique, present, referenced⟩,
      fun ⟨unique, present, referenced⟩ => ⟨unique, present, referenced⟩⟩

/-! ### Statements -/

/-- The prepared statements: `SELECT`, a two-table `JOIN`, `INSERT`, `UPDATE` and `DELETE`, with
their bound parameters. A filter is a conjunction of equalities. -/
inductive Statement (Table Column Value : Type) where
  | select (columns : List Column) (table : Table) (filter : List (Column × Value))
  | join (columns : List Column) (left right : Table) (onLeft onRight : Column)
      (filter : List (Column × Value))
  | insert (table : Table) (values : List (Column × Value))
  | update (table : Table) (values filter : List (Column × Value))
  | delete (table : Table) (filter : List (Column × Value))

/-- What a run of a statement reports: that it could not be prepared, an error of its first
step, rows, or completion. -/
inductive Result (Value : Type) where
  | unprepared
  | failed
  | rows (found : List (List (Option Value)))
  | done
  deriving DecidableEq

/-- The first row a statement reports, if it reports one. -/
def Result.firstRow : Result Value → Option (List (Option Value))
  | .rows (row :: _) => some row
  | _ => none

/-- Whether a statement ran to completion without reporting a row. -/
def Result.isDone : Result Value → Bool
  | .rows [] | .done => true
  | _ => false

/-! ### Overwriting columns -/

section Assignment

variable [DecidableEq Column]

/-- A row with some columns overwritten. -/
def assign (row : Row Column Value) : List (Column × Value) → Row Column Value
  | [] => row
  | (column, value) :: rest => assign (Function.update row column (some value)) rest

theorem assign_of_notMem (values : List (Column × Value)) (row : Row Column Value)
    (column : Column) (absent : column ∉ values.map Prod.fst) :
    assign row values column = row column := by
  induction values generalizing row with
  | nil => rfl
  | cons entry rest inductionHypothesis =>
    rw [List.map_cons, List.mem_cons, not_or] at absent
    rw [assign, inductionHypothesis _ absent.2, Function.update_of_ne absent.1]

theorem assign_ne_none (values : List (Column × Value)) (row : Row Column Value)
    (column : Column) (given : row column ≠ none) : assign row values column ≠ none := by
  induction values generalizing row with
  | nil => exact given
  | cons entry rest inductionHypothesis =>
    refine inductionHypothesis _ ?_
    by_cases same : column = entry.1
    · subst same
      rw [Function.update_self]
      exact Option.some_ne_none _
    · rwa [Function.update_of_ne same]

end Assignment

/-! ### Changes and when the tables still hold afterwards -/

section Changes

variable {schema : Schema Table Column}

theorem nodup_keysOf_append (table : Table) (rows : List (Row Column Value))
    (row : Row Column Value) :
    (schema.keysOf table (rows ++ [row])).Nodup ↔
      (schema.keysOf table rows).Nodup ∧ schema.keyOf table row ∉ schema.keysOf table rows := by
  unfold Schema.keysOf
  rw [List.map_append, List.filter_append, List.map_singleton]
  cases full : (schema.keyOf table row).all Option.isSome with
  | true =>
    rw [List.filter_singleton, full, cond_true, List.nodup_append']
    simp
  | false =>
    rw [List.filter_singleton, full, cond_false, List.append_nil, List.mem_filter, full]
    exact ⟨fun unique => ⟨unique, fun member => Bool.false_ne_true member.2⟩, And.left⟩

variable [DecidableEq Table]

def insertRow (tables : Tables Table Column Value) (table : Table) (row : Row Column Value) :
    Tables Table Column Value := Function.update tables table (tables table ++ [row])

/-- An insertion is accepted when its key is new, its mandatory columns are given and the rows
it references exist. -/
theorem holds_insertRow_iff {tables : Tables Table Column Value} (holds : schema.Holds tables)
    (table : Table) (row : Row Column Value) :
    schema.Holds (insertRow tables table row) ↔
      schema.keyOf table row ∉ schema.keysOf table (tables table) ∧
        (∀ column ∈ schema.notNull table, row column ≠ none) ∧
        ∀ key ∈ schema.foreignKeys table, ∀ value ∈ row key.column,
          ∃ target ∈ insertRow tables table row key.references, target key.target = some value := by
  have grown : ∀ other, ∀ old ∈ tables other, old ∈ insertRow tables table row other := by
    intro other old member
    by_cases same : other = table
    · subst same
      simp [insertRow, member]
    · simpa [insertRow, Function.update_of_ne same] using member
  have old_or_new : ∀ other, ∀ found ∈ insertRow tables table row other,
      found ∈ tables other ∨ (other = table ∧ found = row) := by
    intro other found member
    by_cases same : other = table
    · subst same
      simpa [insertRow] using member
    · left
      simpa [insertRow, Function.update_of_ne same] using member
  constructor
  · intro accepted
    refine ⟨?_, fun column => accepted.present table row (by simp [insertRow]) column,
      fun key member => accepted.referenced table key member row (by simp [insertRow])⟩
    have unique := accepted.unique table
    rw [insertRow, Function.update_self] at unique
    exact ((nodup_keysOf_append table (tables table) row).mp unique).2
  · rintro ⟨fresh, given, exist⟩
    refine ⟨fun other => ?_, fun other found member => ?_,
      fun other key keyMember found member => ?_⟩
    · by_cases same : other = table
      · subst same
        rw [insertRow, Function.update_self]
        exact (nodup_keysOf_append other (tables other) row).mpr ⟨holds.unique other, fresh⟩
      · rw [insertRow, Function.update_of_ne same]
        exact holds.unique other
    · rcases old_or_new other found member with old | ⟨rfl, rfl⟩
      · exact holds.present other found old
      · exact given
    · rcases old_or_new other found member with old | ⟨rfl, rfl⟩
      · intro value valueMember
        obtain ⟨target, targetMember, equal⟩ := holds.referenced other key keyMember found old value
          valueMember
        exact ⟨target, grown _ target targetMember, equal⟩
      · exact exist key keyMember

variable [DecidableEq Value]

/-- A row passes a filter when every named column holds the named value. A null equals nothing. -/
def passes (filter : List (Column × Value)) (row : Row Column Value) : Bool :=
  filter.all fun condition => row condition.1 = some condition.2

def deleteRows (tables : Tables Table Column Value) (table : Table)
    (filter : List (Column × Value)) : Tables Table Column Value :=
  Function.update tables table ((tables table).filter (! passes filter ·))

/-- A deletion is accepted when every remaining reference into the table still finds a row. -/
theorem holds_deleteRows_iff {tables : Tables Table Column Value} (holds : schema.Holds tables)
    (table : Table) (filter : List (Column × Value)) :
    schema.Holds (deleteRows tables table filter) ↔
      ∀ other, ∀ key ∈ schema.foreignKeys other, key.references = table →
        ∀ row ∈ deleteRows tables table filter other, ∀ value ∈ row key.column,
          ∃ target ∈ tables table, ¬ passes filter target ∧ target key.target = some value := by
  have smaller : ∀ other, (deleteRows tables table filter other).Sublist (tables other) := by
    intro other
    by_cases same : other = table
    · subst same
      rw [deleteRows, Function.update_self]
      exact List.filter_sublist
    · rw [deleteRows, Function.update_of_ne same]
  constructor
  · rintro accepted other key keyMember rfl row member value valueMember
    obtain ⟨target, targetMember, equal⟩ :=
      accepted.referenced other key keyMember row member value valueMember
    rw [deleteRows, Function.update_self, List.mem_filter] at targetMember
    exact ⟨target, targetMember.1, by simpa using targetMember.2, equal⟩
  · intro covered
    refine ⟨fun other => (holds.unique other).sublist (((smaller other).map _).filter _),
      fun other row member => holds.present other row ((smaller other).subset member),
      fun other key keyMember row member value valueMember => ?_⟩
    by_cases same : key.references = table
    · obtain ⟨target, targetMember, stays, equal⟩ :=
        covered other key keyMember same row member value valueMember
      refine ⟨target, ?_, equal⟩
      rw [same, deleteRows, Function.update_self, List.mem_filter]
      exact ⟨targetMember, by simpa using stays⟩
    · obtain ⟨target, targetMember, equal⟩ :=
        holds.referenced other key keyMember row ((smaller other).subset member) value valueMember
      refine ⟨target, ?_, equal⟩
      rw [deleteRows, Function.update_of_ne same]
      exact targetMember

variable [DecidableEq Column]

def updateRows (tables : Tables Table Column Value) (table : Table)
    (values filter : List (Column × Value)) : Tables Table Column Value :=
  Function.update tables table
    ((tables table).map fun row => if passes filter row then assign row values else row)

/-- An update that assigns no key column, no referencing column and no referenced column is
always accepted. -/
theorem holds_updateRows {tables : Tables Table Column Value} (holds : schema.Holds tables)
    (table : Table) (values filter : List (Column × Value))
    (keepsKey : ∀ column ∈ schema.primaryKey table, column ∉ values.map Prod.fst)
    (keepsReferences : ∀ key ∈ schema.foreignKeys table, key.column ∉ values.map Prod.fst)
    (keepsTargets : ∀ other, ∀ key ∈ schema.foreignKeys other, key.references = table →
      key.target ∉ values.map Prod.fst) :
    schema.Holds (updateRows tables table values filter) := by
  have changed : ∀ other, ∀ found ∈ updateRows tables table values filter other,
      ∃ old ∈ tables other, found = old ∨ (other = table ∧ found = assign old values) := by
    intro other found member
    by_cases same : other = table
    · subst same
      rw [updateRows, Function.update_self, List.mem_map] at member
      obtain ⟨old, oldMember, rfl⟩ := member
      refine ⟨old, oldMember, ?_⟩
      split
      · exact Or.inr ⟨rfl, rfl⟩
      · exact Or.inl rfl
    · rw [updateRows, Function.update_of_ne same] at member
      exact ⟨found, member, Or.inl rfl⟩
  refine ⟨fun other => ?_, fun other found member => ?_, fun other key keyMember found member => ?_⟩
  · by_cases same : other = table
    · subst same
      have keys : schema.keysOf other (updateRows tables other values filter other) =
          schema.keysOf other (tables other) := by
        unfold Schema.keysOf
        rw [updateRows, Function.update_self, List.map_map]
        refine congrArg _ (List.map_congr_left fun row _ => ?_)
        show schema.keyOf other (if _ then _ else _) = _
        split
        · exact List.map_congr_left fun column columnMember =>
            assign_of_notMem values row column (keepsKey column columnMember)
        · rfl
      rw [keys]
      exact holds.unique other
    · rw [updateRows, Function.update_of_ne same]
      exact holds.unique other
  · obtain ⟨old, oldMember, rfl | ⟨rfl, rfl⟩⟩ := changed other found member
    · exact holds.present other found oldMember
    · exact fun column columnMember =>
        assign_ne_none values old column (holds.present other old oldMember column columnMember)
  · obtain ⟨old, oldMember, image⟩ := changed other found member
    have sameColumn : found key.column = old key.column := by
      rcases image with rfl | ⟨rfl, rfl⟩
      · rfl
      · exact assign_of_notMem values old key.column (keepsReferences key keyMember)
    intro value valueMember
    rw [sameColumn] at valueMember
    obtain ⟨target, targetMember, equal⟩ :=
      holds.referenced other key keyMember old oldMember value valueMember
    by_cases same : key.references = table
    · refine ⟨if passes filter target then assign target values else target, ?_, ?_⟩
      · rw [same, updateRows, Function.update_self]
        exact List.mem_map.mpr ⟨target, same ▸ targetMember, rfl⟩
      · split
        · rw [assign_of_notMem values target key.target (keepsTargets other key keyMember same)]
          exact equal
        · exact equal
    · refine ⟨target, ?_, equal⟩
      rw [updateRows, Function.update_of_ne same]
      exact targetMember

end Changes

/-! ### Execution -/

section Execution

variable {schema : Schema Table Column} [Fintype Table] [DecidableEq Value]

/-- A change is accepted when the changed tables hold to the schema. -/
def Store.commit (store : Store schema Value) (tables : Tables Table Column Value) :
    Result Value × Store schema Value :=
  if holds : schema.Holds tables then (.done, ⟨tables, holds⟩) else (.failed, store)

theorem Store.commit_fst (store : Store schema Value) (tables : Tables Table Column Value) :
    (store.commit tables).1 = if schema.Holds tables then .done else .failed := by
  unfold commit
  split <;> rfl

theorem Store.commit_tables (store : Store schema Value) (tables : Tables Table Column Value) :
    (store.commit tables).2.tables = if schema.Holds tables then tables else store.tables := by
  unfold commit
  split <;> rfl

variable [DecidableEq Table] [DecidableEq Column]

/-- Every column a statement names is a column of the table it is taken from. -/
def Statement.prepares (schema : Schema Table Column) : Statement Table Column Value → Bool
  | .select columns table filter =>
      columns.all (· ∈ schema.columns table) && filter.all (·.1 ∈ schema.columns table)
  | .join columns left right onLeft onRight filter =>
      columns.all (· ∈ schema.columns right) && onLeft ∈ schema.columns left &&
        onRight ∈ schema.columns right && filter.all (·.1 ∈ schema.columns left)
  | .insert table values => values.all (·.1 ∈ schema.columns table)
  | .update table values filter =>
      values.all (·.1 ∈ schema.columns table) && filter.all (·.1 ∈ schema.columns table)
  | .delete table filter => filter.all (·.1 ∈ schema.columns table)

/-- Prepare a statement, bind its parameters and run it. -/
def Store.execute (store : Store schema Value) (statement : Statement Table Column Value) :
    Result Value × Store schema Value :=
  if statement.prepares schema then
    match statement with
    | .select columns table filter =>
        (.rows (((store.tables table).filter (passes filter)).map (columns.map ·)), store)
    | .join columns left right onLeft onRight filter =>
        (.rows (((store.tables left).filter (passes filter)).flatMap fun row =>
          ((store.tables right).filter fun other =>
            (row onLeft).isSome && other onRight = row onLeft).map (columns.map ·)), store)
    | .insert table values =>
        store.commit (insertRow store.tables table (assign (fun _ => none) values))
    | .update table values filter => store.commit (updateRows store.tables table values filter)
    | .delete table filter => store.commit (deleteRows store.tables table filter)
  else (.unprepared, store)

/-- The table a statement changes. -/
def Statement.target : Statement Table Column Value → Option Table
  | .select .. | .join .. => none
  | .insert table _ | .update table _ _ | .delete table _ => some table

/-- A statement changes no table but its target. -/
theorem Store.execute_tables (store : Store schema Value) (statement : Statement Table Column Value)
    {other : Table} (untouched : statement.target ≠ some other) :
    (store.execute statement).2.tables other = store.tables other := by
  have committed : ∀ (table : Table) (rows : List (Row Column Value)), table ≠ other →
      (store.commit (Function.update store.tables table rows)).2.tables other =
        store.tables other := by
    intro table rows different
    rw [Store.commit_tables]
    split
    · exact Function.update_of_ne (Ne.symm different) _ _
    · rfl
  have different : ∀ table : Table, some table ≠ some other → table ≠ other :=
    fun table distinct same => distinct (congrArg some same)
  unfold Store.execute
  split
  · cases statement with
    | select => rfl
    | join => rfl
    | insert table values => exact committed table _ (different table untouched)
    | update table values filter => exact committed table _ (different table untouched)
    | delete table filter => exact committed table _ (different table untouched)
  · rfl

end Execution

end Relational
