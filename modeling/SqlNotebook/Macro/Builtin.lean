/-
SqlNotebook/Macro/Builtin.lean

The macros that every notebook starts with.
-/
import SqlNotebook.Macro.Table

namespace SqlNotebook.Macro

/-- Lists the tables in the catalog: `LIST TABLES`, all of them with `FOR ALL`,
or those of one schema with `FOR SCHEMA name`. -/
def listBody : List String :=
  ["",
    "#",
    "# LIST TABLES lists the tables owned by the current user or a schema",
    "#",
    "var syntax Syntax: LIST TABLES [FOR ALL | FOR SCHEMA name]",
    "flags -a",
    "if \x7b^1\x7d <> 'TABLES'",
    "    exit \x7bsyntax\x7d",
    "endif",
    "",
    "WITH TYPES(TYPE,DESCRIPTION) AS (",
    "  VALUES",
    "    ('A','Alias'),",
    "    ('G','Created temporary table'),",
    "    ('H','Hierarchy table'),",
    "    ('L','Detached table'),",
    "    ('N','Nickname'),",
    "    ('S','Materialized query table'),",
    "    ('T','Table'),",
    "    ('U','Typed table'),",
    "    ('V','View'),",
    "    ('W','Typed view')",
    ")",
    "SELECT TABNAME, TABSCHEMA, T.DESCRIPTION FROM SYSCAT.TABLES S, TYPES T",
    "       WHERE T.TYPE = S.TYPE",
    "",
    "# LIST TABLES",
    "if \x7bargc\x7d == 1",
    "   AND OWNER = CURRENT USER",
    "   ORDER BY TABNAME, TABSCHEMA",
    "   return",
    "endif",
    "",
    "# LIST TABLES FOR ALL",
    "if \x7bargc\x7d == 3",
    "    if \x7b^2\x7d&\x7b^3\x7d == 'FOR&ALL'",
    "        ORDER BY TABNAME, TABSCHEMA",
    "        return",
    "    endif",
    "    exit \x7bsyntax\x7d",
    "endif",
    "",
    "# LIST TABLES FOR SCHEMA name",
    "if \x7bargc\x7d == 4",
    "    if \x7b^2\x7d&\x7b^3\x7d == 'FOR&SCHEMA'",
    "        AND TABSCHEMA = '\x7b^4\x7d'",
    "        ORDER BY TABNAME, TABSCHEMA",
    "        return",
    "    else",
    "        exit \x7bsyntax\x7d",
    "    endif",
    "endif",
    "",
    "exit \x7bsyntax\x7d"]

/-- Describes a table or a query through the administrative procedure. -/
def describeBody : List String :=
  ["",
    "var syntax Syntax: DESCRIBE [TABLE name | SELECT statement]",
    "flags -a",
    "if \x7bargc\x7d < 2",
    "   exit \x7bsyntax\x7d",
    "endif",
    "",
    "CALL ADMIN_CMD('\x7b*0\x7d');"]

/-- Turns `SET` with an option into an `OPTION` instruction and leaves every
other `SET` to the database. -/
def setBody : List String :=
  ["",
    "if \x7b^1\x7d == 'DISPLAY'",
    "    if \x7b^2\x7d == \"TABLE\"",
    "        OPTION DISPLAY TABLE",
    "        return",
    "    else",
    "        if \x7b^2\x7d == \"JSON\"",
    "            OPTION DISPLAY JSON",
    "            return",
    "        endif",
    "    endif",
    "endif",
    "",
    "if \x7b^1\x7d == 'THREADS'",
    "    OPTION THREADS \x7b2\x7d",
    "    return",
    "endif",
    "",
    "if \x7b^1\x7d == 'MAXROWS'",
    "    OPTION MAXROWS \x7b2\x7d",
    "    return",
    "endif",
    "",
    "if \x7b^1\x7d == 'MAXGRID'",
    "    OPTION MAXGRID \x7b2\x7d",
    "    return",
    "endif",
    "",
    "\x7b*0\x7d",
    "return"]

/-- The table of the built-in macros. -/
def builtins : MacroTable :=
  [⟨"LIST", listBody⟩, ⟨"DESCRIBE", describeBody⟩, ⟨"SET", setBody⟩].foldl MacroTable.add
    Dictionary.empty

end SqlNotebook.Macro
