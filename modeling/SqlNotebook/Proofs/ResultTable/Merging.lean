/-
SqlNotebook/Proofs/ResultTable/Merging.lean

Tables below one another.  Rows and labels are appended; columns are taken over from a lower
table only as long as there are none above it:

    columns   -     A B        A B
    rows      r     s t    =   r s t
    labels    0     0 1        0 0 1

All the same, stacking is associative, and the table with neither columns nor rows changes
nothing.  So tables can be put together part by part, in any grouping (`Merges`), also if the rows
of each part are labelled anew, as long as they are labelled anew at the end.  However a table
has been made (`Built`), it has a label for each row.  `concat_regroups` puts this together.
-/
import SqlNotebook.ResultTable.Basic

namespace SqlNotebook.ResultTable

variable {table merged : ResultTable} {tables : List ResultTable}

/-! ### Tables below one another -/

theorem concat_pair (upper lower : ResultTable) : concat [upper, lower] = stack upper lower := rfl

theorem concat_append (xs ys : List ResultTable) :
    concat (xs ++ ys) = stack (concat xs) (concat ys) := by
  induction xs with
  | nil => rw [List.nil_append, concat, empty_stack]
  | cons table xs ih => rw [List.cons_append, concat_cons, concat_cons, ih, stack_assoc]

theorem concat_flatten (groups : List (List ResultTable)) :
    concat groups.flatten = concat (groups.map concat) := by
  induction groups with
  | nil => rfl
  | cons group groups ih =>
    rw [List.flatten_cons, concat_append, ih, List.map_cons, concat_cons]

/-- The labels of tables below one another are the labels of the tables, in order. -/
theorem index_concat (tables : List ResultTable) :
    (concat tables).index = tables.flatMap (·.index) := by
  induction tables with
  | nil => rfl
  | cons table tables ih => rw [concat_cons, stack, ih, List.flatMap_cons]

/-- The columns of tables below one another are those of the first table that has any. -/
theorem columns_concat (tables : List ResultTable) :
    (concat tables).columns = ((tables.find? (!·.columns.isEmpty)).getD empty).columns := by
  induction tables with
  | nil => rfl
  | cons table tables ih =>
    rw [concat_cons, stack, ih]
    cases h : table.columns.isEmpty with
    | true => rw [if_pos rfl, List.find?_cons_of_neg (by simp [h])]
    | false => rw [if_neg Bool.false_ne_true, List.find?_cons_of_pos (by simp [h]), Option.getD_some]

/-! ### Labels -/

theorem resetIndex_resetIndex (table : ResultTable) :
    table.resetIndex.resetIndex = table.resetIndex := rfl

theorem resetIndex_stack_resetIndex (upper lower : ResultTable) :
    (stack upper.resetIndex lower.resetIndex).resetIndex = (stack upper lower).resetIndex := rfl

/-- If rows are labelled anew at the end, it does not matter how they were labelled before. -/
theorem resetIndex_concat_map_resetIndex (tables : List ResultTable) :
    (concat (tables.map resetIndex)).resetIndex = (concat tables).resetIndex := by
  induction tables with
  | nil => rfl
  | cons table tables ih =>
    rw [List.map_cons, concat_cons, concat_cons, ← resetIndex_stack_resetIndex, ih]
    rfl

/-- Whether there is a label for each row. -/
def Labelled (table : ResultTable) : Prop :=
  table.index.length = table.rows.length

theorem Labelled.push (h : Labelled table) (row : List Cell) : Labelled (table.push row) := by
  unfold Labelled at h ⊢
  rw [ResultTable.push, List.length_append, List.length_append, h, List.length_singleton,
    List.length_singleton]

theorem Labelled.pushAll (h : Labelled table) (rows : List (List Cell)) :
    Labelled (table.pushAll rows) := by
  induction rows generalizing table with
  | nil => exact h
  | cons row rows ih => exact ih (h.push row)

theorem Labelled.stack {upper lower : ResultTable} (hupper : Labelled upper)
    (hlower : Labelled lower) : Labelled (stack upper lower) := by
  unfold Labelled at hupper hlower ⊢
  rw [ResultTable.stack, List.length_append, List.length_append, hupper, hlower]

theorem Labelled.concat (h : ∀ table ∈ tables, Labelled table) : Labelled (concat tables) := by
  induction tables with
  | nil => rfl
  | cons table tables ih =>
    obtain ⟨htable, htables⟩ := List.forall_mem_cons.mp h
    rw [concat_cons]
    exact htable.stack (ih htables)

theorem labelled_resetIndex (table : ResultTable) : Labelled table.resetIndex :=
  List.length_range

/-- The tables that can be made out of new ones. -/
inductive Built : ResultTable → Prop
  | ofColumns (columns : List Column) : Built (ofColumns columns)
  | push {table : ResultTable} (row : List Cell) (h : Built table) : Built (table.push row)
  | pushAll {table : ResultTable} (rows : List (List Cell)) (h : Built table) :
      Built (table.pushAll rows)
  | concat {tables : List ResultTable} (h : ∀ table ∈ tables, Built table) : Built (concat tables)
  | resetIndex {table : ResultTable} (h : Built table) : Built table.resetIndex

theorem Built.labelled (h : Built table) : Labelled table := by
  induction h with
  | ofColumns columns => rfl
  | push row _ ih => exact ih.push row
  | pushAll rows _ ih => exact ih.pushAll rows
  | concat _ ih => exact .concat ih
  | resetIndex _ _ => exact labelled_resetIndex _

/-! ### Groups -/

/-- What comes of tables that are put together by `merge`, in groups and groups of groups.  A group
may have no tables. -/
inductive Merges (merge : List ResultTable → ResultTable) : List ResultTable → ResultTable → Prop
  | table (table : ResultTable) : Merges merge [table] table
  | group (parts : List (List ResultTable × ResultTable))
      (hparts : ∀ part ∈ parts, Merges merge part.1 part.2) :
      Merges merge (parts.flatMap (·.1)) (merge (parts.map (·.2)))

variable {merge : List ResultTable → ResultTable}

/-- What `view` shows of the outcome does not depend on the groups, if it shows the same of a group
as of the tables below one another, and of these no more than what it shows of each. -/
theorem Merges.view_eq (view : ResultTable → ResultTable)
    (hmerge : ∀ parts, view (merge parts) = view (concat parts))
    (hview : ∀ parts, view (concat (parts.map view)) = view (concat parts))
    (h : Merges merge tables merged) : view merged = view (concat tables) := by
  induction h with
  | table table => rw [concat_cons, concat, stack_empty]
  | group parts _ ih =>
    have hparts : (parts.map (·.2)).map view = (parts.map (concat ·.1)).map view := by
      rw [List.map_map, List.map_map]
      exact List.map_congr_left ih
    calc view (merge (parts.map (·.2)))
        = view (concat ((parts.map (·.2)).map view)) := by rw [hmerge, hview]
      _ = view (concat (parts.map (concat ·.1))) := by rw [hparts, hview]
      _ = view (concat ((parts.map (·.1)).map concat)) := by rw [List.map_map]; rfl
      _ = view (concat (parts.flatMap (·.1))) := by rw [← concat_flatten, List.flatMap_def]

/-- All tables can be put together at once. -/
theorem merges_all (tables : List ResultTable) : Merges merge tables (merge tables) := by
  have hall : ∀ part ∈ tables.map fun table => ([table], table), Merges merge part.1 part.2 :=
    List.forall_mem_map.mpr fun table _ => .table table
  have h := Merges.group _ hall
  rw [List.flatMap_map, List.map_map] at h
  rwa [List.flatMap_singleton', show (Prod.snd ∘ fun table => ([table], table)) = id from rfl,
    List.map_id] at h

theorem merges_concat_iff : Merges concat tables merged ↔ merged = concat tables := by
  constructor
  · intro h
    exact h.view_eq id (fun _ => rfl) fun parts => by rw [List.map_id]
  · rintro rfl
    exact merges_all tables

theorem resetIndex_of_merges (h : Merges (resetIndex ∘ concat) tables merged) :
    merged.resetIndex = (concat tables).resetIndex :=
  h.view_eq resetIndex (fun parts => resetIndex_resetIndex (concat parts))
    resetIndex_concat_map_resetIndex

/-- **Tables are put together without loss, in any grouping.**  Without tables there is the table
with neither columns nor rows.  Two lists of tables can be put together one by one, and the results
then.  The rows and the labels are those of all tables, in order, and the columns those of the first
table that has any.  A table that has been made out of new ones has a label for each row, and once
its rows are labelled anew, the labels are the positions.  Whatever the groups, and groups of
groups, the outcome is the one without groups; also if the rows of each group are labelled anew, as
long as they are labelled anew at the end. -/
theorem concat_regroups (xs ys tables : List ResultTable) :
    concat [] = empty ∧
      concat (xs ++ ys) = concat [concat xs, concat ys] ∧
      ((concat tables).rows = tables.flatMap (·.rows) ∧
        (concat tables).index = tables.flatMap (·.index) ∧
        (concat tables).columns = ((tables.find? (!·.columns.isEmpty)).getD empty).columns) ∧
      (∀ table, Built table → table.index.length = table.rows.length ∧
        table.resetIndex.index = List.range table.rows.length) ∧
      (∀ merged, Merges concat tables merged ↔ merged = concat tables) ∧
      ∀ merged, Merges (resetIndex ∘ concat) tables merged →
        merged.resetIndex = (concat tables).resetIndex := by
  have hconcat : concat (xs ++ ys) = concat [concat xs, concat ys] := by
    rw [concat_append, concat_pair]
  have hlabels (table : ResultTable) (h : Built table) : table.index.length = table.rows.length ∧
      table.resetIndex.index = List.range table.rows.length :=
    ⟨h.labelled, rfl⟩
  refine ⟨rfl, hconcat, ?_, hlabels, fun _ => merges_concat_iff,
    fun _ => resetIndex_of_merges⟩
  exact ⟨rows_concat tables, index_concat tables, columns_concat tables⟩

/-- A table with a row, but without columns. -/
def headless : ResultTable :=
  (ofColumns []).push [.integer 7]

/-- A table with two rows. -/
def numbers : ResultTable :=
  (ofColumns [⟨"N", "INTEGER"⟩]).pushAll [[.integer 1], [.null]]

/-- A table with one row. -/
def names : ResultTable :=
  (ofColumns [⟨"NAME", "VARCHAR"⟩]).push [.text "A"]

/-- The tables in groups of groups, one of them without tables. -/
def nested (merge : List ResultTable → ResultTable) : ResultTable :=
  merge [merge [headless, numbers], merge [], names]

theorem merges_nested : Merges merge [headless, numbers, names] (nested merge) := by
  have hfirst : Merges merge [headless, numbers] (merge [headless, numbers]) := merges_all _
  refine Merges.group [([headless, numbers], merge [headless, numbers]), ([], merge []),
    ([names], names)] ?_
  refine List.forall_mem_cons.mpr ⟨hfirst, List.forall_mem_cons.mpr ⟨merges_all [], ?_⟩⟩
  exact List.forall_mem_cons.mpr ⟨.table names, nofun⟩

theorem concat_regroups_nested :
    Built (concat [headless, numbers.resetIndex.push [.integer 4], names]) ∧
      (concat [headless, numbers.resetIndex.push [.integer 4], names]).index.length = 5 ∧
      Merges concat [headless, numbers, names] (nested concat) ∧
      nested concat =
        ⟨[⟨"N", "INTEGER"⟩], [[.integer 7], [.integer 1], [.null], [.text "A"]], [0, 0, 1, 0]⟩ ∧
      Merges (resetIndex ∘ concat) [headless, numbers, names] (nested (resetIndex ∘ concat)) ∧
      (nested (resetIndex ∘ concat)).resetIndex =
        ⟨[⟨"N", "INTEGER"⟩], [[.integer 7], [.integer 1], [.null], [.text "A"]], [0, 1, 2, 3]⟩ := by
  have hbuilt : Built (concat [headless, numbers.resetIndex.push [.integer 4], names]) := by
    refine .concat (List.forall_mem_cons.mpr ⟨.push _ (.ofColumns _), ?_⟩)
    refine List.forall_mem_cons.mpr ⟨.push _ (.resetIndex (.pushAll _ (.ofColumns _))), ?_⟩
    exact List.forall_mem_cons.mpr ⟨.push _ (.ofColumns _), nofun⟩
  obtain ⟨-, -, -, hlabels, hgroups, hrelabelled⟩ :=
    concat_regroups [headless] [numbers] [headless, numbers, names]
  refine ⟨hbuilt, (hlabels _ hbuilt).1.trans rfl, merges_nested, ?_, merges_nested, ?_⟩
  · exact ((hgroups _).mp merges_nested).trans (by decide)
  · exact (hrelabelled _ merges_nested).trans (by decide)

end SqlNotebook.ResultTable
