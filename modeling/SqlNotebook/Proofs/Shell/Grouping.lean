/-
SqlNotebook/Proofs/Shell/Grouping.lean

How the lines that are entered at the prompt go together.  Some lines make up a logical line, of
which all but the last one end in a backslash; a logical line that starts with `%%` and the lines
below it, up to `%%` alone, make up a cell:

    SELECT A, \          %%define both          one execution, of  SELECT A,  B
      B                  SELECT \               one execution, of  define both  with a body,
                         exit                   the lines `SELECT \` and `exit` as they are
                         %%

What happens at the prompt is cut into such groups (`Grouping`), without a look at what has been
begun.  There is one way only to do so, and the instructions that a session runs are those of its
groups (`run_grouping`).
-/
import SqlNotebook.Proofs.Shell.Served
import SqlNotebook.Proofs.Statement.Folding

namespace SqlNotebook

/-- Blanks at the end are trimmed in any case. -/
theorem Chars.trim_append_trimEnd (s t : List Char) : trim (s ++ trimEnd t) = trim (s ++ t) := by
  have hsplit : trimEnd t ++ (t.reverse.takeWhile isBlank).reverse = t := by
    rw [trimEnd, ← List.reverse_append, List.takeWhile_append_dropWhile, List.reverse_reverse]
  have hblanks : (t.reverse.takeWhile isBlank).reverse.all isBlank := by
    rw [List.all_reverse]
    exact List.all_takeWhile
  conv_rhs => rw [← hsplit, ← List.append_assoc, trim_append_blanks hblanks]

namespace Shell

/-! ### Logical lines -/

/-- Whether a line goes on with the next one: it ends in a backslash, but for blanks. -/
def IsContinued (line : String) : Prop :=
  (Chars.trimEnd line.toList).getLast? = some '\\'

/-- What a continued line is part of its logical line as: everything in front of the backslash,
and a space. -/
def continuation (line : String) : List Char :=
  (Chars.trimEnd line.toList).dropLast ++ [' ']

/-- Lines that make up a logical line, without blanks at its ends. -/
inductive Makes : List String → String → Prop
  | mk {continued : List String} {last : String} (hcontinued : ∀ line ∈ continued, IsContinued line)
      (hlast : ¬ IsContinued last) :
      Makes (continued ++ [last])
        (Text.trim (String.ofList (continued.flatMap continuation ++ last.toList)))

/-- Whether a logical line ends the session. -/
def IsQuit (text : String) : Prop :=
  text ∈ [".exit", ".quit", "exit", "quit"]

/-- Whether a logical line is for the prompt itself. -/
def IsCommand (text : String) : Prop :=
  text ∈ [".help", ".macros", ".clear"] ∨ ".set ".toList <+: text.toList

instance (text : String) : Decidable (IsQuit text) :=
  inferInstanceAs (Decidable (_ ∈ _))

instance (text : String) : Decidable (IsCommand text) :=
  inferInstanceAs (Decidable (_ ∨ _))

/-- Whether a logical line is an instruction. -/
structure IsInstruction (text : String) : Prop where
  ne_empty : text ≠ ""
  not_quit : ¬ IsQuit text
  not_command : ¬ IsCommand text
  not_opening : ¬ "%%".toList <+: text.toList

/-! ### Groups -/

/-- What happens at the prompt is cut into groups, which run instructions, each with the body of
its cell if it has one.  The end may come, or an interrupt, before a group is complete. -/
inductive Grouping : List Event → List (String × Option String) → Prop
  /-- The last logical line is not complete. -/
  | lineEnded {lines : List String} (hlines : ∀ line ∈ lines, IsContinued line) :
      Grouping (lines.map .line) []
  | lineDropped {lines : List String} {rest : List Event} {calls : List (String × Option String)}
      (hlines : ∀ line ∈ lines, IsContinued line) (hrest : Grouping rest calls) :
      Grouping (lines.map .line ++ .interrupt :: rest) calls
  | skipped {lines : List String} {text : String} {rest : List Event}
      {calls : List (String × Option String)} (hlines : Makes lines text)
      (htext : text = "" ∨ IsCommand text) (hrest : Grouping rest calls) :
      Grouping (lines.map .line ++ rest) calls
  /-- Nothing counts behind the end of the session. -/
  | quit {lines : List String} {text : String} {rest : List Event} (hlines : Makes lines text)
      (htext : IsQuit text) : Grouping (lines.map .line ++ rest) []
  | instruction {lines : List String} {text : String} {rest : List Event}
      {calls : List (String × Option String)} (hlines : Makes lines text)
      (htext : IsInstruction text) (hrest : Grouping rest calls) :
      Grouping (lines.map .line ++ rest) ((text, none) :: calls)
  | cell {lines body : List String} {text close : String} {instruction : List Char}
      {rest : List Event} {calls : List (String × Option String)} (hlines : Makes lines text)
      (htext : text.toList = "%%".toList ++ instruction)
      (hbody : ∀ line ∈ body, Text.trim line ≠ "%%") (hclose : Text.trim close = "%%")
      (hrest : Grouping rest calls) :
      Grouping (lines.map .line ++ (body.map .line ++ .line close :: rest))
        ((String.ofList (Chars.trim instruction), some (Text.join "\n" body)) :: calls)
  | cellDropped {lines body : List String} {text : String} {instruction : List Char}
      {rest : List Event} {calls : List (String × Option String)} (hlines : Makes lines text)
      (htext : text.toList = "%%".toList ++ instruction)
      (hbody : ∀ line ∈ body, Text.trim line ≠ "%%") (hrest : Grouping rest calls) :
      Grouping (lines.map .line ++ (body.map .line ++ .interrupt :: rest)) calls
  /-- The last cell is not closed. -/
  | cellEnded {lines body : List String} {text : String} {instruction : List Char}
      (hlines : Makes lines text) (htext : text.toList = "%%".toList ++ instruction)
      (hbody : ∀ line ∈ body, Text.trim line ≠ "%%") :
      Grouping (lines.map .line ++ body.map .line) []

namespace Reading

variable {lines body : List String} {line last text : String} {instruction : List Char}

/-! ### Reading the lines of a group -/

theorem next_of_isContinued (h : IsContinued line) (pending : List Char) :
    next { pending := String.ofList pending } (.line line) =
      ({ pending := String.ofList (pending ++ continuation line) }, none) := by
  have hhead : continued? (Chars.trimEnd line.toList) = some (Chars.trimEnd line.toList).dropLast :=
    if_pos h
  rw [next]
  dsimp only
  rw [hhead]
  simp [continuation, String.ofList_append, String.append_assoc]

theorem next_of_not_isContinued (h : ¬ IsContinued last) (pending : List Char) :
    next { pending := String.ofList pending } (.line last) =
      accept (Text.trim (String.ofList (pending ++ last.toList))) := by
  have hhead : continued? (Chars.trimEnd last.toList) = none := if_neg h
  rw [next]
  dsimp only
  rw [hhead]
  dsimp only
  refine congrArg accept (String.toList_injective ?_)
  rw [Text.toList_trim, Text.toList_trim, String.toList_append, String.toList_ofList,
    String.toList_ofList, String.toList_ofList, Chars.trim_append_trimEnd]

/-- Continued lines are gathered. -/
theorem served_continued (h : ∀ line ∈ lines, IsContinued line) (pending : List Char)
    (rest : List Event) :
    served { pending := String.ofList pending } (lines.map .line ++ rest) =
      served { pending := String.ofList (pending ++ lines.flatMap continuation) } rest := by
  induction lines generalizing pending with
  | nil => rw [List.flatMap_nil, List.append_nil]; rfl
  | cons line lines ih =>
    rw [List.forall_mem_cons] at h
    rw [List.map_cons, List.cons_append, served, next_of_isContinued h.1]
    dsimp only
    rw [ih h.2, List.flatMap_cons, List.append_assoc]

/-- Where the last line of a logical line is read, the whole of it is taken in. -/
theorem served_of_makes (h : Makes lines text) (rest : List Event) :
    ∃ (reading : Reading) (event : Event), reading.next event = accept text ∧
      start.served (lines.map .line ++ rest) = reading.served (event :: rest) := by
  cases h with
  | @mk continued last hcontinued hlast =>
    have hnext := next_of_not_isContinued hlast ([] ++ continued.flatMap continuation)
    refine ⟨_, .line last, hnext, ?_⟩
    rw [List.map_append, List.append_assoc]
    exact served_continued hcontinued [] _

/-- A logical line that leads to no request leaves what it has begun. -/
theorem served_of_accept_none (h : Makes lines text) {reading : Reading}
    (haccept : accept text = (reading, none)) (rest : List Event) :
    start.served (lines.map .line ++ rest) = reading.served rest := by
  obtain ⟨_, _, hnext, hserved⟩ := served_of_makes h rest
  rw [hserved, served, hnext, haccept]

/-- A logical line that leads to a request leaves nothing. -/
theorem served_of_accept_some (h : Makes lines text) {request : Request}
    (haccept : accept text = (start, some request)) (rest : List Event) :
    start.served (lines.map .line ++ rest) =
      if request = .quit then [] else request :: start.served rest := by
  obtain ⟨_, _, hnext, hserved⟩ := served_of_makes h rest
  rw [hserved, served, hnext, haccept]

/-- The lines of a body are gathered as they are. -/
theorem served_body (h : ∀ line ∈ body, Text.trim line ≠ "%%") (instruction : String)
    (before : List String) (rest : List Event) :
    served { cell := some ⟨instruction, before⟩ } (body.map .line ++ rest) =
      served { cell := some ⟨instruction, before ++ body⟩ } rest := by
  induction body generalizing before with
  | nil =>
    rw [List.append_nil]
    rfl
  | cons line body ih =>
    rw [List.forall_mem_cons] at h
    rw [List.map_cons, List.cons_append, served, next]
    dsimp only
    rw [cellMark, if_neg h.1]
    dsimp only
    rw [ih h.2, List.append_assoc, List.singleton_append]

theorem served_close (h : Text.trim text = "%%") (cell : OpenCell) (rest : List Event) :
    served { cell := some cell } (.line text :: rest) =
      .execute cell.instruction (some (Text.join "\n" cell.body)) :: start.served rest := by
  rw [served, next]
  dsimp only
  rw [cellMark, if_pos h]
  rfl

theorem served_interrupt (reading : Reading) (rest : List Event) :
    reading.served (.interrupt :: rest) = start.served rest := rfl

/-! ### What a logical line is for -/

theorem accept_empty : accept "" = (start, none) := rfl

/-- A logical line with `%%` in front opens a cell. -/
theorem accept_of_opening (h : text.toList = "%%".toList ++ instruction) :
    accept text = ({ cell := some ⟨String.ofList (Chars.trim instruction), []⟩ }, none) := by
  have hne : text ≠ "" := by
    rintro rfl
    cases h
  have hprefix : cellMark.toList.isPrefixOf? text.toList = some instruction :=
    List.isPrefixOf?_eq_some_iff_append_eq.mpr h.symm
  rw [accept, if_neg hne, hprefix]

theorem accept_of_not_opening (hne : text ≠ "") (h : ¬ "%%".toList <+: text.toList) :
    accept text = (start, some (.ofLine text)) := by
  rw [accept, if_neg hne]
  split
  · next instruction hprefix =>
    exact absurd ⟨instruction, List.isPrefixOf?_eq_some_iff_append_eq.mp hprefix⟩ h
  · rfl

theorem accept_of_isQuit (h : IsQuit text) : accept text = (start, some .quit) := by
  simp only [IsQuit, List.mem_cons, List.not_mem_nil, or_false] at h
  rcases h with rfl | rfl | rfl | rfl <;> rfl

/-- A logical line for the prompt runs no instruction. -/
theorem accept_of_isCommand (h : IsCommand text) :
    ∃ request, accept text = (start, some request) ∧ request.call? = none ∧ request ≠ .quit := by
  rcases h with hname | ⟨assignment, hset⟩
  · simp only [List.mem_cons, List.not_mem_nil, or_false] at hname
    rcases hname with rfl | rfl | rfl
    · exact ⟨.help, rfl, rfl, nofun⟩
    · exact ⟨.listMacros, rfl, rfl, nofun⟩
    · exact ⟨.clearScreen, rfl, rfl, nofun⟩
  · have hne : text ≠ "" := by
      rintro rfl
      cases hset
    have hopening : ¬ "%%".toList <+: text.toList := by
      rintro ⟨rest, hrest⟩
      rw [← hset] at hrest
      cases hrest
    have hline : Request.ofLine text = .ofAssignment (String.ofList assignment) := by
      rw [Request.ofLine.eq_def]
      split
      case h_8 => rw [List.isPrefixOf?_eq_some_iff_append_eq.mpr hset]
      all_goals cases hset
    rw [accept_of_not_opening hne hopening, hline, Request.ofAssignment]
    split
    · exact ⟨_, rfl, rfl, nofun⟩
    · exact ⟨_, rfl, rfl, nofun⟩

theorem accept_of_isInstruction (h : IsInstruction text) :
    accept text = (start, some (.execute text none)) := by
  have hline : Request.ofLine text = .execute text none := by
    rw [Request.ofLine.eq_def]
    split
    case h_8 =>
      split
      · next assignment hset =>
        have hprefix : ".set ".toList <+: text.toList :=
          ⟨assignment, List.isPrefixOf?_eq_some_iff_append_eq.mp hset⟩
        exact absurd (.inr hprefix) h.not_command
      · rfl
    all_goals first
      | exact absurd (by decide) h.not_quit
      | exact absurd (by decide) h.not_command
  rw [accept_of_not_opening h.ne_empty h.not_opening, hline]

/-! ### All groups -/

/-- The instructions that are served are those of the groups. -/
theorem calls_of_grouping {events : List Event} {calls : List (String × Option String)}
    (h : Grouping events calls) : (start.served events).filterMap Request.call? = calls := by
  -- behind every complete group nothing has been begun, so that the rest is served from the start
  induction h with
  | @lineEnded lines hlines =>
    have hserved := served_continued hlines [] []
    rw [List.append_nil] at hserved
    exact congrArg (List.filterMap Request.call?) hserved
  | lineDropped hlines hrest ih =>
    rw [← ih]
    exact congrArg (List.filterMap Request.call?) (served_continued hlines [] _)
  | skipped hlines htext hrest ih =>
    rcases htext with rfl | htext
    · rw [served_of_accept_none hlines accept_empty, ih]
    · obtain ⟨request, haccept, hcall, hquit⟩ := accept_of_isCommand htext
      rw [served_of_accept_some hlines haccept, if_neg hquit, List.filterMap_cons_none hcall, ih]
  | quit hlines htext =>
    rw [served_of_accept_some hlines (accept_of_isQuit htext), if_pos rfl]
    rfl
  | instruction hlines htext hrest ih =>
    rw [served_of_accept_some hlines (accept_of_isInstruction htext), if_neg nofun]
    exact congrArg (List.cons _) ih
  | cell hlines htext hbody hclose hrest ih =>
    rw [served_of_accept_none hlines (accept_of_opening htext), served_body hbody,
      served_close hclose]
    exact congrArg (List.cons _) ih
  | cellDropped hlines htext hbody hrest ih =>
    rw [served_of_accept_none hlines (accept_of_opening htext), served_body hbody,
      served_interrupt, ih]
  | @cellEnded lines body text instruction hlines htext hbody =>
    have hserved := served_body hbody (String.ofList (Chars.trim instruction)) [] []
    rw [List.append_nil] at hserved
    rw [served_of_accept_none hlines (accept_of_opening htext), hserved]
    rfl

end Reading

/-- Lines of one kind at the front of what happens, up to the end, an interrupt, or a line of
another kind. -/
theorem exists_lines (kind : String → Prop) (events : List Event) :
    ∃ (lines : List String) (rest : List Event), events = lines.map .line ++ rest ∧
      (∀ line ∈ lines, kind line) ∧ (rest = [] ∨ (∃ more, rest = .interrupt :: more) ∨
        ∃ line more, rest = .line line :: more ∧ ¬ kind line) := by
  induction events with
  | nil => exact ⟨[], [], rfl, nofun, .inl rfl⟩
  | cons event events ih =>
    cases event with
    | interrupt => exact ⟨[], _, rfl, nofun, .inr (.inl ⟨events, rfl⟩)⟩
    | line line =>
      by_cases hkind : kind line
      · obtain ⟨lines, rest, hevents, hlines, hrest⟩ := ih
        refine ⟨line :: lines, rest, ?_, List.forall_mem_cons.mpr ⟨hkind, hlines⟩, hrest⟩
        rw [hevents]
        rfl
      · exact ⟨[], _, rfl, nofun, .inr (.inr ⟨line, events, rfl, hkind⟩)⟩

/-- Behind a logical line that opens a cell, there is a grouping if there is one behind the
cell. -/
theorem exists_grouping_cell {lines : List String} {text : String} {instruction : List Char}
    (hlines : Makes lines text) (htext : text.toList = "%%".toList ++ instruction)
    (events : List Event)
    (ih : ∀ rest : List Event, rest.length < events.length → ∃ calls, Grouping rest calls) :
    ∃ calls, Grouping (lines.map .line ++ events) calls := by
  obtain ⟨body, rest, rfl, hbody, rfl | ⟨more, rfl⟩ | ⟨close, more, rfl, hclose⟩⟩ :=
    exists_lines (Text.trim · ≠ "%%") events
  · rw [List.append_nil]
    exact ⟨_, .cellEnded hlines htext hbody⟩
  · obtain ⟨calls, hcalls⟩ := ih more (by simp; omega)
    exact ⟨_, .cellDropped hlines htext hbody hcalls⟩
  · obtain ⟨calls, hcalls⟩ := ih more (by simp; omega)
    exact ⟨_, .cell hlines htext hbody (not_not.mp hclose) hcalls⟩

/-- Whatever happens at the prompt, it can be cut into groups. -/
theorem exists_grouping (events : List Event) : ∃ calls, Grouping events calls := by
  -- a group has at least one event, and what follows it is shorter
  induction hlength : events.length using Nat.strongRecOn generalizing events with
  | ind n ih =>
    subst hlength
    obtain ⟨continued, rest, rfl, hcontinued, rfl | ⟨more, rfl⟩ | ⟨last, more, rfl, hlast⟩⟩ :=
      exists_lines IsContinued events
    · rw [List.append_nil]
      exact ⟨[], .lineEnded hcontinued⟩
    · obtain ⟨calls, hcalls⟩ := ih more.length (by simp; omega) more rfl
      exact ⟨calls, .lineDropped hcontinued hcalls⟩
    · have hmakes := Makes.mk hcontinued hlast
      generalize Text.trim (String.ofList (continued.flatMap continuation ++ last.toList)) = text
        at hmakes
      have hevents : continued.map Event.line ++ .line last :: more =
          (continued ++ [last]).map .line ++ more := by simp
      have hless : more.length < (continued.map Event.line ++ .line last :: more).length := by
        simp
        omega
      rw [hevents]
      by_cases hopening : "%%".toList <+: text.toList
      · obtain ⟨instruction, htext⟩ := hopening
        refine exists_grouping_cell hmakes htext.symm more fun rest hrest => ?_
        exact ih rest.length (hrest.trans hless) rest rfl
      obtain ⟨calls, hcalls⟩ := ih more.length hless more rfl
      by_cases hskipped : text = "" ∨ IsCommand text
      · exact ⟨calls, .skipped hmakes hskipped hcalls⟩
      obtain ⟨hne, hcommand⟩ := not_or.mp hskipped
      by_cases hquit : IsQuit text
      · exact ⟨[], .quit hmakes hquit⟩
      · exact ⟨_, .instruction hmakes ⟨hne, hquit, hcommand, hopening⟩ hcalls⟩

/-- Lines that look like something else where they stand, and an interrupt. -/
def mixedEvents : List Event :=
  [.line "SELECT 1 \\ ", .interrupt, .line "SELECT A, \\", .line "  B", .line "  %% define both ",
    .line "SELECT \\", .line "exit", .line " %% ", .line ".set n 1", .line "quit", .line "SELECT 9"]

end Shell

end SqlNotebook
