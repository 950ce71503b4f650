/-
SqlNotebook/Proofs/Macro/ListTables.lean

The statements that the built-in `LIST` takes, and the queries that it makes of them:

    LIST TABLES
    LIST TABLES FOR ALL
    LIST TABLES FOR SCHEMA name

The body looks at the number of arguments first and then at the words `FOR` and `ALL`, or `FOR`
and `SCHEMA`, which it compares as one text with an ampersand between them.  Since there is no
ampersand in these words, no other arguments are taken for them (`append_mark_inj`).  So `LIST`
takes exactly these statements, whatever the name of the schema is, and every other one is
answered by a notice (`expand_list`).
-/
import SqlNotebook.Macro.Builtin
import SqlNotebook.Proofs.Macro.Evaluation
import SqlNotebook.Proofs.Macro.Numbered

namespace SqlNotebook

namespace Macro

open Placeholder (upperArgument)

/-! ### Listings -/

/-- What `LIST` can be asked for. -/
inductive Listing
  | own
  | all
  | ofSchema (name : String)
deriving DecidableEq, Repr

namespace Listing

/-- The arguments that ask for a listing, in upper case. -/
def arguments : Listing → List String
  | .own => ["TABLES"]
  | .all => ["TABLES", "FOR", "ALL"]
  | .ofSchema name => ["TABLES", "FOR", "SCHEMA", name]

/-- The listing that is asked for by arguments in upper case. -/
def ofArguments? : List String → Option Listing
  | [tables] => if tables = "TABLES" then some .own else none
  | [tables, first, second] =>
    if tables = "TABLES" ∧ first = "FOR" ∧ second = "ALL" then some .all else none
  | [tables, first, second, name] =>
    if tables = "TABLES" ∧ first = "FOR" ∧ second = "SCHEMA" then some (.ofSchema name) else none
  | _ => none

theorem ofArguments?_arguments (listing : Listing) :
    ofArguments? listing.arguments = some listing := by
  cases listing <;> simp [arguments, ofArguments?]

theorem eq_arguments_of_ofArguments? {words : List String} {listing : Listing}
    (h : ofArguments? words = some listing) : words = listing.arguments := by
  rcases words with - | ⟨tables, - | ⟨first, - | ⟨second, - | ⟨name, - | ⟨more, rest⟩⟩⟩⟩⟩
  · cases h
  · simp only [ofArguments?, Option.ite_none_right_eq_some] at h
    obtain ⟨rfl, heq⟩ := h
    cases heq
    rfl
  · cases h
  · simp only [ofArguments?, Option.ite_none_right_eq_some] at h
    obtain ⟨⟨rfl, rfl, rfl⟩, heq⟩ := h
    cases heq
    rfl
  · simp only [ofArguments?, Option.ite_none_right_eq_some] at h
    obtain ⟨⟨rfl, rfl, rfl⟩, heq⟩ := h
    cases heq
    rfl
  · cases h

/-- The query of the catalog, up to the condition on the tables. -/
def query : List String :=
  ["WITH TYPES(TYPE,DESCRIPTION) AS (",
    "VALUES",
    "('A','Alias'),",
    "('G','Created temporary table'),",
    "('H','Hierarchy table'),",
    "('L','Detached table'),",
    "('N','Nickname'),",
    "('S','Materialized query table'),",
    "('T','Table'),",
    "('U','Typed table'),",
    "('V','View'),",
    "('W','Typed view')",
    ")",
    "SELECT TABNAME, TABSCHEMA, T.DESCRIPTION FROM SYSCAT.TABLES S, TYPES T",
    "WHERE T.TYPE = S.TYPE"]

/-- The condition on the tables. -/
def condition : Listing → List String
  | .own => ["AND OWNER = CURRENT USER"]
  | .all => []
  | .ofSchema name => ["AND TABSCHEMA = '" ++ name ++ "'"]

def order : String :=
  "ORDER BY TABNAME, TABSCHEMA"

/-- The expansion of a statement that asks for a listing. -/
def expansion (listing : Listing) : Expansion where
  text := "-a " ++ Text.join "\n" (query ++ listing.condition ++ [order])
  flags := ["-a"]
  expanded := true

end Listing

/-- What `LIST` says about a statement that it does not take. -/
def listSyntax : String :=
  "Syntax: LIST TABLES [FOR ALL | FOR SCHEMA name]"

/-- The expansion of a statement that `LIST` does not take. -/
def listRefusal : Expansion where
  text := ""
  notices := [.error listSyntax]
  expanded := true
  exited := true

/-! ### The body of `LIST` -/

/-- The lines of the query. -/
def queryLines : List String :=
  ["",
    "WITH TYPES(TYPE,DESCRIPTION) AS (",
    "  VALUES",
    "    ('A','Alias'),",
    "    ('G','Created temporary table'),",
    "    ('H','Hierarchy table'),",
    "    ('L','Detached table'),",
    "    ('N','Nickname'),",
    "    ('S','Materialized query table'),",
    "    ('T','Table'),",
    "    ('U','Typed table'),",
    "    ('V','View'),",
    "    ('W','Typed view')",
    ")",
    "SELECT TABNAME, TABSCHEMA, T.DESCRIPTION FROM SYSCAT.TABLES S, TYPES T",
    "       WHERE T.TYPE = S.TYPE"]

theorem literal_queryLines : ∀ raw ∈ queryLines, Literal raw := by decide +kernel

theorem literalOutput_queryLines : literalOutput queryLines = Listing.query := by decide +kernel

/-- The part for `LIST TABLES`. -/
def ownForm (rest : Block) : Block :=
  .literals ["", "# LIST TABLES"] (by decide) <|
    .ifThen ⟨"if \x7bargc\x7d == 1", by decide, by decide⟩
      (.literals ["   AND OWNER = CURRENT USER", "   ORDER BY TABNAME, TABSCHEMA"] (by decide) <|
        .line (returnLine.indent 3) .done)
      endifLine rest

/-- The part for `LIST TABLES FOR ALL`. -/
def allForm (rest : Block) : Block :=
  .literals ["", "# LIST TABLES FOR ALL"] (by decide) <|
    .ifThen ⟨"if \x7bargc\x7d == 3", by decide, by decide⟩
      (.ifThen ⟨"    if \x7b^2\x7d&\x7b^3\x7d == 'FOR&ALL'", by decide, by decide⟩
        (.literals ["        ORDER BY TABNAME, TABSCHEMA"] (by decide) <|
          .line (returnLine.indent 8) .done)
        (endifLine.indent 4) <|
        .line (syntaxExitLine.indent 4) .done)
      endifLine rest

/-- The part for `LIST TABLES FOR SCHEMA`. -/
def schemaForm (rest : Block) : Block :=
  .literals ["", "# LIST TABLES FOR SCHEMA name"] (by decide) <|
    .ifThen ⟨"if \x7bargc\x7d == 4", by decide, by decide⟩
      (.ifElse ⟨"    if \x7b^2\x7d&\x7b^3\x7d == 'FOR&SCHEMA'", by decide, by decide⟩
        (.line ⟨"        AND TABSCHEMA = '\x7b^4\x7d'", by decide, by decide⟩ <|
          .literals ["        ORDER BY TABNAME, TABSCHEMA"] (by decide) <|
          .line (returnLine.indent 8) .done)
        (elseLine.indent 4) (.line (syntaxExitLine.indent 8) .done) (endifLine.indent 4) .done)
      endifLine rest

/-- The body of `LIST` as a tree. -/
def listBlock : Block :=
  .literals ["", "#", "# LIST TABLES lists the tables owned by the current user or a schema", "#"]
      (by decide) <|
    .line ⟨"var syntax Syntax: LIST TABLES [FOR ALL | FOR SCHEMA name]", by decide, by decide⟩ <|
    .line flagsLine <|
    .ifThen ⟨"if \x7b^1\x7d <> 'TABLES'", by decide, by decide⟩
      (.line (syntaxExitLine.indent 4) .done) endifLine <|
    .literals queryLines literal_queryLines <| ownForm <| allForm <| schemaForm <|
    .literals [""] literal_blank <| .line (syntaxExitLine.indent 0) .done

theorem lines_listBlock : listBlock.lines = listBody := rfl

theorem get?_builtins_list : builtins.get? "LIST" = some ⟨"LIST", listBody⟩ := by
  have hset : "LIST" ≠ "SET" := by decide
  have hdescribe : "LIST" ≠ "DESCRIBE" := by decide
  simp only [builtins, List.foldl, MacroTable.add, Dictionary.get?_set, if_neg hset,
    if_neg hdescribe, if_true]

/-! ### Conditions -/

/-- Texts with a mark between them, which is in none of the second two. -/
theorem append_mark_inj {mark : Char} {s t first second : List Char} (hfirst : mark ∉ first)
    (hsecond : mark ∉ second) :
    s ++ mark :: t = first ++ mark :: second ↔ s = first ∧ t = second := by
  constructor
  · intro h
    rcases List.append_eq_append_iff.mp h with ⟨between, rfl, hrest⟩ | ⟨between, rfl, hrest⟩
    · cases between with
      | nil => simpa using hrest
      | cons c between =>
        obtain ⟨rfl, -⟩ := List.cons.inj hrest
        exact absurd (List.mem_append_right s List.mem_cons_self) hfirst
    · cases between with
      | nil => simpa using hrest.symm
      | cons c between =>
        obtain ⟨rfl, rfl⟩ := List.cons.inj hrest
        exact absurd (List.mem_append_right between List.mem_cons_self) hsecond
  · rintro ⟨rfl, rfl⟩
    rfl

variable {g : Gathered} {arguments : List String} {raw : String} {depth : Nat}

theorem test_count (h : g.scope.OfArguments arguments) (n : Nat) (hdepth : depth < maxDepth)
    (htokens : g.tokens raw =
      ["if", "\x7bargc\x7d", "==", toString n].map (Placeholder.expand g.scope))
    (hright : '{' ∉ (toString n).toList) (hother : unquote (toString n) = toString n) :
    g.test depth raw = .ok (decide (arguments.length = n), g) := by
  have hvalue : Placeholder.expand g.scope "\x7bargc\x7d" = toString arguments.length :=
    Placeholder.expand_of_value g.scope rfl (by decide) rfl h.count
  rw [test_equal hdepth htokens hvalue hright hother]
  simp only [toString_inj]

/-- The two words behind `TABLES`, with an ampersand between them. -/
theorem expand_pair (h : g.scope.OfArguments arguments) :
    Placeholder.expand g.scope "\x7b^2\x7d&\x7b^3\x7d" =
      upperArgument arguments 1 ++ ("&" ++ upperArgument arguments 2) := by
  have hsecond : Placeholder.expandBraces g.scope ['^', '2'] = .ok (upperArgument arguments 1) :=
    Placeholder.expandBraces_upper h 1 rfl
  have hthird : Placeholder.expandBraces g.scope ['^', '3'] = .ok (upperArgument arguments 2) :=
    Placeholder.expandBraces_upper h 2 rfl
  have htext : "\x7b^2\x7d&\x7b^3\x7d".toList =
      '{' :: (['^', '2'] ++ '}' :: (['&'] ++ '{' :: (['^', '3'] ++ '}' :: []))) := rfl
  have hchars : Placeholder.expandChars g.scope none "\x7b^2\x7d&\x7b^3\x7d".toList =
      .ok ((upperArgument arguments 1).toList ++
        (['&'] ++ ((upperArgument arguments 2).toList ++ []))) := by
    rw [htext, Placeholder.expandChars_braces g.scope (by decide) hsecond,
      Placeholder.expandChars_append g.scope (by decide),
      Placeholder.expandChars_braces g.scope (by decide) hthird]
    rfl
  rw [Placeholder.expand_of_chars hchars, ← String.toList_inj]
  simp

theorem test_pair (h : g.scope.OfArguments arguments) {first second right : String}
    (hdepth : depth < maxDepth)
    (htokens : g.tokens raw =
      ["if", "\x7b^2\x7d&\x7b^3\x7d", "==", right].map (Placeholder.expand g.scope))
    (hright : '{' ∉ right.toList) (hother : unquote right = first ++ ("&" ++ second))
    (hfirst : '&' ∉ first.toList) (hsecond : '&' ∉ second.toList) :
    g.test depth raw =
      .ok (decide (upperArgument arguments 1 = first ∧ upperArgument arguments 2 = second), g) := by
  have hpair : upperArgument arguments 1 ++ ("&" ++ upperArgument arguments 2) =
        first ++ ("&" ++ second) ↔
      upperArgument arguments 1 = first ∧ upperArgument arguments 2 = second := by
    rw [← String.toList_inj, ← String.toList_inj, ← String.toList_inj]
    simp only [String.toList_append]
    exact append_mark_inj hfirst hsecond
  rw [test_equal hdepth htokens (expand_pair h) hright hother]
  simp only [hpair]

/-! ### Evaluating the body -/

theorem eval_ownForm (h : g.scope.OfArguments arguments) (rest : Block) :
    (ownForm rest).eval 0 g =
      if arguments.length = 1 then
        .ok (.returned (g.write (Listing.own.condition ++ [Listing.order])))
      else rest.eval 0 g := by
  have hskipped : literalOutput ["", "# LIST TABLES"] = [] := by decide
  have hwritten : literalOutput ["   AND OWNER = CURRENT USER", "   ORDER BY TABNAME, TABSCHEMA"] =
      Listing.own.condition ++ [Listing.order] := by decide
  have hcount : g.test 0 "if \x7bargc\x7d == 1" = .ok (decide (arguments.length = 1), g) :=
    test_count h 1 (by decide) rfl (by decide) (by decide)
  rw [ownForm, eval_literals, hskipped, write_nil, eval_ifThen hcount, eval_literals, hwritten,
    eval_return]
  rfl

theorem eval_allForm (h : g.scope.OfArguments arguments)
    (hstored : g.scope.get? "syntax" = some listSyntax) (rest : Block) :
    (allForm rest).eval 0 g =
      if arguments.length = 3 then
        .ok (if upperArgument arguments 1 = "FOR" ∧ upperArgument arguments 2 = "ALL" then
            .returned (g.write (Listing.all.condition ++ [Listing.order]))
          else .exited (g.notify (.error listSyntax)))
      else rest.eval 0 g := by
  have hskipped : literalOutput ["", "# LIST TABLES FOR ALL"] = [] := by decide
  have hwritten : literalOutput ["        ORDER BY TABNAME, TABSCHEMA"] =
      Listing.all.condition ++ [Listing.order] := by decide
  have hcount : g.test 0 "if \x7bargc\x7d == 3" = .ok (decide (arguments.length = 3), g) :=
    test_count h 3 (by decide) rfl (by decide) (by decide)
  have hpair : g.test 1 "    if \x7b^2\x7d&\x7b^3\x7d == 'FOR&ALL'" =
      .ok (decide (upperArgument arguments 1 = "FOR" ∧ upperArgument arguments 2 = "ALL"), g) :=
    test_pair h (by decide) rfl (by decide) (by decide) (by decide) (by decide)
  rw [allForm, eval_literals, hskipped, write_nil, eval_ifThen hcount, eval_ifThen hpair,
    eval_literals, hwritten, eval_return, eval_exit hstored]
  split_ifs <;> rfl

/-- The condition on the schema, with whatever name is asked for. -/
theorem runLine_schema (h : g.scope.OfArguments arguments) :
    g.runLine "        AND TABSCHEMA = '\x7b^4\x7d'" =
      .through (g.write (Listing.ofSchema (upperArgument arguments 3)).condition) := by
  have htokens : g.tokens "        AND TABSCHEMA = '\x7b^4\x7d'" =
      ["AND", "TABSCHEMA", "=", "'\x7b^4\x7d'"].map (Placeholder.expand g.scope) := rfl
  have hdirective := directive_of_word htokens (by decide) fun _ => rfl
  have hname : Placeholder.expandBraces g.scope ['^', '4'] = .ok (upperArgument arguments 3) :=
    Placeholder.expandBraces_upper h 3 rfl
  have hline : (Text.trim "        AND TABSCHEMA = '\x7b^4\x7d'").toList =
      "AND TABSCHEMA = '".toList ++ '{' :: (['^', '4'] ++ '}' :: "'".toList) := by decide
  have hrun := runLine_of_braces hdirective (by decide) hline (by decide) (by decide) (by decide)
    hname
  rwa [String.ofList_toList, String.ofList_toList] at hrun

theorem eval_schemaForm (h : g.scope.OfArguments arguments)
    (hstored : g.scope.get? "syntax" = some listSyntax) (rest : Block) :
    (schemaForm rest).eval 0 g =
      if arguments.length = 4 then
        .ok (if upperArgument arguments 1 = "FOR" ∧ upperArgument arguments 2 = "SCHEMA" then
            .returned (g.write
              ((Listing.ofSchema (upperArgument arguments 3)).condition ++ [Listing.order]))
          else .exited (g.notify (.error listSyntax)))
      else rest.eval 0 g := by
  have hskipped : literalOutput ["", "# LIST TABLES FOR SCHEMA name"] = [] := by decide
  have hwritten : literalOutput ["        ORDER BY TABNAME, TABSCHEMA"] = [Listing.order] := by
    decide
  have hcount : g.test 0 "if \x7bargc\x7d == 4" = .ok (decide (arguments.length = 4), g) :=
    test_count h 4 (by decide) rfl (by decide) (by decide)
  have hpair : g.test 1 "    if \x7b^2\x7d&\x7b^3\x7d == 'FOR&SCHEMA'" =
      .ok (decide (upperArgument arguments 1 = "FOR" ∧ upperArgument arguments 2 = "SCHEMA"), g) :=
    test_pair h (by decide) rfl (by decide) (by decide) (by decide) (by decide)
  rw [schemaForm, eval_literals, hskipped, write_nil, eval_ifThen hcount, eval_ifElse hpair,
    eval_line_of_through (runLine_schema h), eval_literals, hwritten, write_write,
    eval_return, eval_exit hstored]
  split_ifs <;> rfl

/-- How the parts for the three forms end, behind `TABLES`. -/
theorem eval_forms (h : g.scope.OfArguments arguments)
    (hstored : g.scope.get? "syntax" = some listSyntax)
    (htables : upperArgument arguments 0 = "TABLES") :
    (ownForm <| allForm <| schemaForm <| .literals [""] literal_blank <|
        .line (syntaxExitLine.indent 0) .done).eval 0 g =
      .ok ((Listing.ofArguments? (arguments.map Text.upper)).elim
        (.exited (g.notify (.error listSyntax)))
        fun listing => .returned (g.write (listing.condition ++ [Listing.order]))) := by
  rw [eval_ownForm h, eval_allForm h hstored, eval_schemaForm h hstored, eval_blank,
    eval_exit hstored]
  -- the number of arguments decides which part is run
  rcases arguments with - | ⟨tables, - | ⟨first, - | ⟨second, - | ⟨name, - | ⟨more, rest⟩⟩⟩⟩⟩
  · rfl
  · have htables : Text.upper tables = "TABLES" := htables
    simp [Listing.ofArguments?, htables]
  · rfl
  · have htables : Text.upper tables = "TABLES" := htables
    by_cases hwords : Text.upper first = "FOR" ∧ Text.upper second = "ALL"
    · simp [Listing.ofArguments?, upperArgument, htables, hwords]
    · simp [Listing.ofArguments?, upperArgument, htables, hwords]
  · have htables : Text.upper tables = "TABLES" := htables
    by_cases hwords : Text.upper first = "FOR" ∧ Text.upper second = "SCHEMA"
    · simp [Listing.ofArguments?, upperArgument, htables, hwords]
    · simp [Listing.ofArguments?, upperArgument, htables, hwords]
  · simp [Listing.ofArguments?]

theorem ofArguments?_of_ne (h : upperArgument arguments 0 ≠ "TABLES") :
    Listing.ofArguments? (arguments.map Text.upper) = none := by
  rw [Option.eq_none_iff_forall_ne_some]
  intro listing hlisting
  refine h ?_
  rw [upperArgument, Listing.eq_arguments_of_ofArguments? hlisting]
  cases listing <;> rfl

/-- What the body comes to depends on the arguments in upper case. -/
theorem expansion_listBlock {scope : Scope} (h : scope.OfArguments arguments) :
    listBlock.expansion scope =
      .ok ((Listing.ofArguments? (arguments.map Text.upper)).elim listRefusal
        Listing.expansion) := by
  let start : Gathered := { scope }
  let gate : Gathered := { scope := scope.set "syntax" listSyntax, flags := ["-a"] }
  have hgate : gate.scope.OfArguments arguments := h.set (by decide) (by decide) listSyntax
  have hstored : gate.scope.get? "syntax" = some listSyntax := by
    rw [Dictionary.get?_set, if_pos rfl]
  have hskipped : literalOutput ["", "#",
      "# LIST TABLES lists the tables owned by the current user or a schema", "#"] = [] := by
    decide
  have hsyntax : start.runLine "var syntax Syntax: LIST TABLES [FOR ALL | FOR SCHEMA name]" =
      .through { start with scope := scope.set "syntax" listSyntax } :=
    runLine_of_fixed start _ rfl (by decide)
  have hflags : Gathered.runLine { start with scope := scope.set "syntax" listSyntax }
      flagsLine.raw = .through gate := runLine_flagsLine _
  have htest : gate.test 0 "if \x7b^1\x7d <> 'TABLES'" =
      .ok (decide (upperArgument arguments 0 ≠ "TABLES"), gate) := by
    have htokens : gate.tokens "if \x7b^1\x7d <> 'TABLES'" =
        ["if", "\x7b^1\x7d", "<>", "'TABLES'"].map (Placeholder.expand gate.scope) := rfl
    have hvalue : Placeholder.expand gate.scope "\x7b^1\x7d" = upperArgument arguments 0 :=
      Placeholder.expand_upper hgate 0 ['^', '1'] rfl (by decide) rfl
    have hright : unquote "'TABLES'" = "TABLES" := by decide
    exact test_of_value (by decide) htokens hvalue (by decide) rfl (by decide) hright
  rw [Block.expansion, listBlock, eval_literals, hskipped, write_nil, eval_line_of_through hsyntax,
    eval_line_of_through hflags, eval_ifThen htest, eval_exit hstored]
  by_cases htables : upperArgument arguments 0 = "TABLES"
  · have hforms : (ownForm <| allForm <| schemaForm <| .literals [""] literal_blank <|
        .line (syntaxExitLine.indent 0) .done).eval 0 (gate.write Listing.query) = _ :=
      eval_forms hgate hstored htables
    rw [if_neg (not_not_intro htables), eval_literals, literalOutput_queryLines, hforms]
    rcases Listing.ofArguments? (arguments.map Text.upper) with - | listing
    · rfl
    · have hwritten : (gate.write Listing.query).write (listing.condition ++ [Listing.order]) =
          gate.write (Listing.query ++ listing.condition ++ [Listing.order]) := by
        rw [write_write, List.append_assoc]
      show Except.ok (Ending.returned ((gate.write Listing.query).write _)).expansion = _
      rw [hwritten]
      rfl
  · rw [if_pos htables, ofArguments?_of_ne htables]
    rfl

end Macro

namespace MacroTable

open Macro

/-- **The statements that the built-in `LIST` takes**, and what becomes of them.  The expansion
never fails; it goes on exactly for the arguments of a listing, and is the query for this
listing then; otherwise it is the one notice. -/
theorem expand_list (table : MacroTable) {instruction : String}
    (hbuiltin : table.get? "LIST" = builtins.get? "LIST")
    (hname : (Call.ofInstruction instruction).name? = some "LIST") :
    let arguments := (Call.ofInstruction instruction).tokens.tail.map Text.upper
    ∃ expansion, table.expand instruction = .ok expansion ∧
      (expansion.exited = false ↔ ∃ listing : Listing, arguments = listing.arguments) ∧
      (∀ listing : Listing, arguments = listing.arguments → expansion = listing.expansion) ∧
      (expansion.exited = true → expansion = listRefusal) := by
  intro arguments
  let call := Call.ofInstruction instruction
  have hcalled : table.called? instruction = some ⟨"LIST", listBody⟩ := by
    rw [called?_of_name? table hname, hbuiltin, get?_builtins_list]
  have hexpand : table.expand instruction =
      .ok ((Listing.ofArguments? arguments).elim listRefusal Listing.expansion) :=
    table.expand_of_lines hcalled lines_listBlock
      (expansion_listBlock (Scope.ofArguments_ofTokens call.tokens))
  refine ⟨_, hexpand, ?_, ?_, ?_⟩
  · constructor
    · intro hgoes
      rcases hlisting : Listing.ofArguments? arguments with - | listing
      · rw [hlisting] at hgoes
        cases hgoes
      · exact ⟨listing, Listing.eq_arguments_of_ofArguments? hlisting⟩
    · rintro ⟨listing, hlisting⟩
      rw [hlisting, Listing.ofArguments?_arguments]
      rfl
  · intro listing hlisting
    rw [hlisting, Listing.ofArguments?_arguments]
    rfl
  · rcases Listing.ofArguments? arguments with - | listing
    · exact fun _ => rfl
    · intro hexited
      cases hexited

/-- A name in lower case, and a schema with a blank in quotes. -/
theorem expand_list_quotedSchema :
    (Call.ofInstruction "list tables for schema 'my app'").name? = some "LIST" ∧
      builtins.expand "list tables for schema 'my app'" =
        .ok (Listing.ofSchema "'MY APP'").expansion := by
  have hname : (Call.ofInstruction "list tables for schema 'my app'").name? = some "LIST" := rfl
  have harguments : (Call.ofInstruction "list tables for schema 'my app'").tokens.tail.map Text.upper =
      (Listing.ofSchema "'MY APP'").arguments := by decide
  obtain ⟨expansion, hexpand, -, hlisting, -⟩ := expand_list builtins rfl hname
  rw [hlisting (.ofSchema "'MY APP'") harguments] at hexpand
  exact ⟨hname, hexpand⟩

end MacroTable

end SqlNotebook
