/-
SqlNotebook/Error.lean

The errors that end an instruction.  Each part of the library has faults of its
own; here they are gathered by the kinds that a user can tell apart, each with
the text that is reported.
-/

namespace SqlNotebook

/-- An error, by its kind. -/
inductive Error
  /-- A macro whose body is broken.  The instruction is kept as it was entered. -/
  | structural (message : String) (instruction : String)
  /-- An instruction that cannot be read, from the given byte on. -/
  | parse (position : Nat) (message : String)
  /-- A statement that the database refuses, with its own code and state. -/
  | database (code : Option String) (state : Option String) (message : String)
  /-- No connection. -/
  | connection (message : String)
  /-- A query that cannot be fanned out. -/
  | parallel (message : String)
  /-- A fan-out of which one part failed. -/
  | partition (message : String)
  /-- A setting that cannot be changed as asked. -/
  | config (message : String)
  /-- A settings file that cannot be read. -/
  | settingsFile (message : String)
  /-- A file that cannot be written. -/
  | storage (message : String)
deriving DecidableEq, Repr

namespace Error

/-- The text that is reported. -/
def text : Error → String
  | structural message _ => "Macro error: " ++ message
  | parse position message =>
    "Parse error at position " ++ toString position ++ ": " ++ message
  | database (some code) (some state) message =>
    "SQLCODE=" ++ code ++ " SQLSTATE=" ++ state ++ " " ++ message
  | database (some code) none message => "SQLCODE=" ++ code ++ " " ++ message
  | database none (some state) message => "SQLSTATE=" ++ state ++ " " ++ message
  | database none none message => "Database error: " ++ message
  | connection message => "Connection error: " ++ message
  | parallel message => "Parallel query error: " ++ message
  | partition message => "Partition failed: " ++ message
  | config message => "Configuration error: " ++ message
  | settingsFile message => "Settings file error: " ++ message
  | storage message => "IO error: " ++ message

/-- The code that the database gave. -/
def code? : Error → Option String
  | database code _ _ => code
  | _ => none

/-- The state that the database gave. -/
def state? : Error → Option String
  | database _ state _ => state
  | _ => none

end Error

end SqlNotebook
