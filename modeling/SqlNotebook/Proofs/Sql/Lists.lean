/-
SqlNotebook/Proofs/Sql/Lists.lean

Lists in SQL are read back.  A list of integers and texts is written with commas between the
items, and reading it finds the items again, in order:

    1,'it''s','',-20     is     1,  it's,  (no characters),  -20

whatever quotes, commas and backslashes the texts are made of (`readList_toSql`).  So there are no
two lists of this kind that are written in the same way, apart from the empty one.
-/
import SqlNotebook.Proofs.Sql.Lexeme
import SqlNotebook.Proofs.Text.Numerals

namespace SqlNotebook

namespace Sql

/-! ### Reading -/

/-- The integer that a decimal numeral stands for; a minus sign may stand in front. -/
def integer? : List Char → Option Int
  | '-' :: digits => (Chars.natural? digits).map fun n : Nat => -(n : Int)
  | digits => (Chars.natural? digits).map Int.ofNat

/-- The values between commas; there is at least one. -/
def values? : List Lexeme → Option (List Literal)
  | [.value literal] => some [literal]
  | .value literal :: .comma :: rest => (values? rest).map (literal :: ·)
  | _ => none

/-- The integer or the text that a value is. -/
def Literal.item? : Literal → Option HostValue
  | .null => none
  | .bare word => (integer? word.toList).map .integer
  | .quoted text => some (.text text)

/-- Reads a list of integers and texts. -/
def readList (sql : String) : Option (List HostValue) := do
  let lexemes ← lex? sql
  let literals ← values? lexemes
  literals.mapM Literal.item?

/-! ### Reading what has been written -/

theorem integer?_toString (n : Int) : integer? (toString n).toList = some n := by
  rw [toList_toString]
  by_cases hneg : n < 0
  · rw [if_pos hneg, List.singleton_append, integer?, Chars.natural?_toDigits, Option.map_some]
    exact congrArg some (by omega)
  · have hsign : ∀ digits, Nat.toDigits 10 n.natAbs ≠ '-' :: digits := by
      intro digits hdigits
      exact absurd (isDigit_of_toDigits_eq_cons hdigits) (by decide)
    rw [if_neg hneg, List.nil_append, integer?, Chars.natural?_toDigits, Option.map_some]
    · exact congrArg some (Int.natAbs_of_nonneg (Int.not_lt.mp hneg))
    · exact hsign

theorem values?_commaSeparated {literals : List Literal} (h : literals ≠ []) :
    values? (commaSeparated literals) = some literals := by
  induction literals with
  | nil => exact absurd rfl h
  | cons literal rest ih =>
    cases rest with
    | nil => rfl
    | cons next rest =>
      rw [commaSeparated_cons_cons, values?, ih (List.cons_ne_nil next rest), Option.map_some]

theorem spells_integer (n : Int) :
    Spells (toString n).toList [.value (.bare (toString n))] := by
  obtain ⟨c, rest, hcons, hc, -⟩ := toList_toString_eq_cons n
  refine spells_bare (hcons ▸ List.cons_ne_nil c rest) (List.all_eq_true.mpr fun d hd => ?_) ?_
  · have hnumeral := eq_minus_or_isDigit_of_mem_toString hd
    refine isWordChar_iff.mpr fun hmark => ?_
    simp only [List.mem_cons, List.not_mem_nil, or_false] at hmark
    rcases hmark with rfl | rfl | rfl | rfl
    all_goals exact absurd hnumeral (by decide)
  · intro hnull
    rw [hnull] at hcons
    rw [← (List.cons.inj hcons).1] at hc
    exact absurd hc (by decide)

end Sql

namespace HostValue

/-- Whether a value is an integer or a text. -/
def isIntegerOrText : HostValue → Bool
  | .integer _ => true
  | .text _ => true
  | _ => false

/-- How an integer or a text stands in a list. -/
def itemLiteral : HostValue → Sql.Literal
  | .integer value => .bare (toString value)
  | .text value => .quoted value
  | _ => .null

variable {item : HostValue}

theorem spells_toSql (h : item.isIntegerOrText) :
    Sql.Spells (item.toSql true).toList [.value item.itemLiteral] := by
  cases item with
  | integer value =>
    rw [toSql]
    exact Sql.spells_integer value
  | text value => exact Sql.spells_literal value
  | float | raw | list | table | document => cases h

theorem item?_itemLiteral (h : item.isIntegerOrText) : item.itemLiteral.item? = some item := by
  cases item with
  | integer value =>
    rw [itemLiteral, Sql.Literal.item?, Sql.integer?_toString, Option.map_some]
  | text value => rfl
  | float | raw | list | table | document => cases h

end HostValue

namespace Sql

variable {items : List HostValue}

theorem spells_itemsSql (h : ∀ item ∈ items, item.isIntegerOrText) :
    List.Forall₂ (fun part literal => Spells part.toList [.value literal])
      (HostValue.itemsSql items) (items.map HostValue.itemLiteral) := by
  induction items with
  | nil => exact .nil
  | cons item rest ih =>
    rw [List.forall_mem_cons] at h
    rw [HostValue.itemsSql, List.map_cons]
    exact .cons (HostValue.spells_toSql h.1) (ih h.2)

theorem mapM_item? (h : ∀ item ∈ items, item.isIntegerOrText) :
    (items.map HostValue.itemLiteral).mapM Literal.item? = some items := by
  induction items with
  | nil => rfl
  | cons item rest ih =>
    rw [List.forall_mem_cons] at h
    rw [List.map_cons, List.mapM_cons, HostValue.item?_itemLiteral h.1, ih h.2]
    rfl

/-- Reading a list finds its items. -/
theorem readList_of_items (hne : items ≠ []) (h : ∀ item ∈ items, item.isIntegerOrText)
    (quote : Bool) : readList ((HostValue.list items).toSql quote) = some items := by
  have hliterals : items.map HostValue.itemLiteral ≠ [] := mt List.map_eq_nil_iff.mp hne
  rw [HostValue.toSql, readList, (spells_commaSeparated (spells_itemsSql h)).lex?_eq]
  simp only [Option.bind_eq_bind, Option.bind_some, values?_commaSeparated hliterals, mapM_item? h]

/-- **Lists are read back.**  A list of integers and texts, of whatever characters, is written so
that reading it finds exactly its items, in order, with nothing left over.  So two such lists that
are written in the same way are the same. -/
theorem readList_toSql :
    (∀ items : List HostValue, items ≠ [] → (∀ item ∈ items, item.isIntegerOrText) → ∀ quote,
        readList ((HostValue.list items).toSql quote) = some items) ∧
      ∀ items others : List HostValue, items ≠ [] → others ≠ [] →
        (∀ item ∈ items, item.isIntegerOrText) → (∀ item ∈ others, item.isIntegerOrText) →
        ∀ quote other,
          (HostValue.list items).toSql quote = (HostValue.list others).toSql other →
          items = others := by
  refine ⟨fun items hne h => readList_of_items hne h, ?_⟩
  intro items others hne hothersNe h hothers quote other hsql
  have hitems := readList_of_items hne h quote
  rw [hsql, readList_of_items hothersNe hothers other] at hitems
  exact (Option.some.inj hitems).symm

/-- Texts that look like other items. -/
def trickyItems : List HostValue :=
  [.text "','", .integer (-20), .text "", .text "''\\'", .text "7"]

theorem readList_toSql_trickyItems :
    trickyItems ≠ [] ∧ (∀ item ∈ trickyItems, item.isIntegerOrText) ∧
      (HostValue.list trickyItems).toSql false = "''',''',-20,'','''''\\''','7'" ∧
      readList "''',''',-20,'','''''\\''','7'" = some trickyItems ∧
      (HostValue.list trickyItems).toSql true ≠ (HostValue.list [.text "'"]).toSql false := by
  have hne : trickyItems ≠ [] := List.cons_ne_nil _ _
  have hitems : ∀ item ∈ trickyItems, item.isIntegerOrText := by decide
  have hsql : (HostValue.list trickyItems).toSql false = "''',''',-20,'','''''\\''','7'" := by
    decide
  refine ⟨hne, hitems, hsql, hsql ▸ readList_toSql.1 trickyItems hne hitems false, fun h => ?_⟩
  have hsame := readList_toSql.2 trickyItems [.text "'"] hne (List.cons_ne_nil _ _) hitems
    (by decide) true false h
  exact absurd (congrArg List.length hsame) (by decide)

end Sql

end SqlNotebook
