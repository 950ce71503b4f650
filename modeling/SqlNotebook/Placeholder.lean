/-
SqlNotebook/Placeholder.lean

Placeholders in texts.

    {name}     the value of `name`
    {^name}    the value of `name` in upper case
    {*n}       the values of `n`, `n + 1`, … up to the first number without one,
               joined by spaces
    {,n}       the same, joined by commas

A placeholder runs from an opening brace to the next closing one.  A name
without a value expands to `null`, except in a join, which is then empty.  What
has been inserted is not looked at again.
-/
import SqlNotebook.Scope
import SqlNotebook.Text.Blank
import SqlNotebook.Text.Numeral
import SqlNotebook.Text.Upper

namespace SqlNotebook.Placeholder

/-- Why a placeholder cannot be expanded. -/
inductive Fault
  | emptyName
  | notNumbered (name : String)
deriving DecidableEq, Repr

/-- What is reported about a fault. -/
def Fault.message : Fault → String
  | .emptyName => "No variable name supplied in the braces \x7b\x7d"
  | .notNumbered name => "Variable '" ++ name ++ "' must be numeric to join numbered variables"

/-- What stands for a name without a value. -/
def unresolved : String := "null"

/-- What a placeholder asks for. -/
inductive Request
  | value (name : String)
  | upperValue (name : String)
  | joined (separator : String) (first : String)
deriving DecidableEq, Repr

/-- Reads the text between the braces, without blanks at its ends.  A single
character is a name, even where it could be the sign of another request. -/
def Request.ofChars : List Char → Request
  | '^' :: c :: rest => .upperValue (String.ofList (c :: rest))
  | '*' :: c :: rest => .joined " " (String.ofList (c :: rest))
  | ',' :: c :: rest => .joined "," (String.ofList (c :: rest))
  | name => .value (String.ofList name)

/-- The values of at most `limit` consecutive numbers from `n` on, up to the
first number without a value. -/
def numberedRun (scope : Scope) : (limit : Nat) → (n : UInt64) → List String
  | 0, _ => []
  | limit + 1, n =>
    match scope.get? (toString n.toNat) with
    | some value => value :: numberedRun scope limit (n + 1)
    | none => []

/-- What a request expands to.  A join finds at most as many values as the scope
has, since different numbers have different names. -/
def Request.expand (scope : Scope) : Request → Except Fault String
  | .value name => .ok ((scope.get? name).getD unresolved)
  | .upperValue name => .ok (((scope.get? name).map Text.upper).getD unresolved)
  | .joined separator first =>
    if scope.contains first then
      match Numeral.word? first with
      | some n => .ok (Text.join separator (numberedRun scope scope.size n))
      | none => .error (.notNumbered first)
    else .ok ""

/-- Expands the text between a pair of braces. -/
def expandBraces (scope : Scope) (inner : List Char) : Except Fault String :=
  match Chars.trim inner with
  | [] => .error .emptyName
  | request => (Request.ofChars request).expand scope

/-- Expands the placeholders of a text, of which `pending` has been read since
an opening brace that is not yet closed.  A brace that never is closed stays. -/
def expandChars (scope : Scope) : (pending : Option (List Char)) → List Char →
    Except Fault (List Char)
  | none, [] => .ok []
  | some inner, [] => .ok ('{' :: inner)
  | none, c :: rest =>
    if c = '{' then expandChars scope (some []) rest
    else do
      let tail ← expandChars scope none rest
      return c :: tail
  | some inner, c :: rest =>
    if c = '}' then do
      let value ← expandBraces scope inner
      let tail ← expandChars scope none rest
      return value.toList ++ tail
    else expandChars scope (some (inner ++ [c])) rest

/-- Expands the placeholders of a text, or says what is wrong with the first
one that cannot be expanded. -/
def expand? (scope : Scope) (text : String) : Except Fault String :=
  (expandChars scope none text.toList).map String.ofList

/-- Expands the placeholders of a text; where one cannot be expanded the whole
text stays as it is. -/
def expand (scope : Scope) (text : String) : String :=
  match expand? scope text with
  | .ok expanded => expanded
  | .error _ => text

theorem expandChars_of_not_mem (scope : Scope) {s : List Char} (h : '{' ∉ s) :
    expandChars scope none s = .ok s := by
  induction s with
  | nil => rfl
  | cons c rest ih =>
    rw [List.mem_cons, not_or] at h
    rw [expandChars, if_neg (Ne.symm h.1), ih h.2]
    rfl

/-- A text without an opening brace stays as it is. -/
theorem expand_of_not_mem (scope : Scope) {text : String} (h : '{' ∉ text.toList) :
    expand scope text = text := by
  simp [expand, expand?, expandChars_of_not_mem scope h, Except.map]

/-- What is in front of the first opening brace is copied. -/
theorem expandChars_append (scope : Scope) {s t : List Char} (h : '{' ∉ s) :
    expandChars scope none (s ++ t) = (expandChars scope none t).map (s ++ ·) := by
  induction s with
  | nil =>
    rw [List.nil_append]
    rcases expandChars scope none t with fault | tail <;> rfl
  | cons c rest ih =>
    rw [List.mem_cons, not_or] at h
    rw [List.cons_append, expandChars, if_neg (Ne.symm h.1), ih h.2]
    rcases expandChars scope none t with fault | tail <;> rfl

/-- A placeholder ends with the next closing brace. -/
theorem expandChars_pending (scope : Scope) (pending : List Char) {s : List Char} (h : '}' ∉ s)
    (t : List Char) :
    expandChars scope (some pending) (s ++ '}' :: t) = do
      let value ← expandBraces scope (pending ++ s)
      let tail ← expandChars scope none t
      return value.toList ++ tail := by
  induction s generalizing pending with
  | nil => rw [List.nil_append, List.append_nil, expandChars, if_pos rfl]
  | cons c rest ih =>
    rw [List.mem_cons, not_or] at h
    rw [List.cons_append, expandChars, if_neg (Ne.symm h.1), ih _ h.2, List.append_assoc,
      List.singleton_append]

/-- A placeholder that can be expanded. -/
theorem expandChars_braces (scope : Scope) {inner : List Char} {value : String} (h : '}' ∉ inner)
    (hvalue : expandBraces scope inner = .ok value) (t : List Char) :
    expandChars scope none ('{' :: (inner ++ '}' :: t)) =
      (expandChars scope none t).map (value.toList ++ ·) := by
  rw [expandChars, if_pos rfl, expandChars_pending scope [] h, List.nil_append, hvalue]
  rcases expandChars scope none t with fault | tail <;> rfl

theorem expand_of_chars {scope : Scope} {text : String} {expanded : List Char}
    (h : expandChars scope none text.toList = .ok expanded) :
    expand scope text = String.ofList expanded := by
  rw [expand, expand?, h]
  rfl

/-- A text with one placeholder. -/
theorem expand_of_braces (scope : Scope) {before inner behind : List Char} {text value : String}
    (htext : text.toList = before ++ '{' :: (inner ++ '}' :: behind)) (hbefore : '{' ∉ before)
    (hinner : '}' ∉ inner) (hbehind : '{' ∉ behind) (hvalue : expandBraces scope inner = .ok value) :
    expand scope text = String.ofList before ++ value ++ String.ofList behind := by
  have hchars : expandChars scope none text.toList = .ok (before ++ (value.toList ++ behind)) := by
    rw [htext, expandChars_append scope hbefore, expandChars_braces scope hinner hvalue,
      expandChars_of_not_mem scope hbehind]
    rfl
  rw [expand_of_chars hchars, ← String.toList_inj]
  simp

/-- A text that is one placeholder. -/
theorem expand_of_request (scope : Scope) {text value : String} {inner : List Char}
    (htext : text.toList = '{' :: (inner ++ ['}'])) (hinner : '}' ∉ inner)
    (hvalue : expandBraces scope inner = .ok value) : expand scope text = value := by
  have hparts : text.toList = [] ++ '{' :: (inner ++ '}' :: []) := htext
  have hexpand := expand_of_braces scope hparts (by simp) hinner (by simp) hvalue
  simpa using hexpand

/-- A text that is the placeholder of a variable with a value. -/
theorem expand_of_value (scope : Scope) {text name value : String}
    (htext : text.toList = '{' :: (name.toList ++ ['}'])) (hname : '}' ∉ name.toList)
    (hrequest : expandBraces scope name.toList = (Request.value name).expand scope)
    (hvalue : scope.get? name = some value) : expand scope text = value := by
  have hbraces : expandBraces scope name.toList = .ok value := by
    rw [hrequest, Request.expand, hvalue]
    rfl
  exact expand_of_request scope htext hname hbraces

end SqlNotebook.Placeholder
