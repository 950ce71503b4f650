/-
SqlNotebook/Proofs/Json/Arrays.lean

Arrays are read element by element.

`ofNested? depth s` is the document that a text is, with blanks around it and with at most `depth`
brackets open at the same time.  Texts that are documents, with commas between them and brackets
around, are the array of these documents, one level deeper (`ofNested?_array`).

A `Frame` is an array with a gap in the place of one element, and plugging a text into frames
puts it into arrays within arrays.  What cannot be read in a gap makes the whole array unreadable
(`Frame.Fits.unread_plug`), and so do more arrays around each other than may be open
(`unread_of_lt_length`).
-/
import SqlNotebook.Proofs.Json.Locality
import SqlNotebook.Text.Blank
import Mathlib.Data.List.Forall2
import Mathlib.Data.List.TakeWhile

namespace SqlNotebook.Json

/-! ### Whole documents -/

/-- The document that a text is, with blanks around it and at most `depth` brackets open at the
same time. -/
def ofNested? (depth : Nat) (s : List Char) : Option Json :=
  match readDocument depth (skipSpace s) with
  | some (document, rest) => if (skipSpace rest).isEmpty then some document else none
  | none => none

theorem ofText?_eq_ofNested? (text : String) : ofText? text = ofNested? maxDepth text.toList := rfl

variable {depth : Nat} {s t : List Char} {document : Json}

theorem ofNested?_eq_some_iff :
    ofNested? depth s = some document ↔
      ∃ rest, readDocument depth (skipSpace s) = some (document, rest) ∧ skipSpace rest = [] := by
  rw [ofNested?]
  cases hread : readDocument depth (skipSpace s) with
  | none => simp
  | some found =>
    dsimp only
    constructor
    · intro h
      split at h
      · next hrest =>
        cases h
        exact ⟨found.2, rfl, List.isEmpty_iff.mp hrest⟩
      · cases h
    · rintro ⟨rest, ⟨⟩, hrest⟩
      rw [hrest]
      rfl

/-- A document is also read with more depth and where more text follows. -/
theorem readDocument_of_ofNested? (h : ofNested? depth s = some document) (ht : Stops t)
    {depth' : Nat} (hdepth : depth ≤ depth') :
    ∃ rest, readDocument depth' (skipSpace (s ++ t)) = some (document, rest) ∧
      skipSpace rest = skipSpace t := by
  obtain ⟨rest, hread, hrest⟩ := ofNested?_eq_some_iff.mp h
  refine ⟨rest ++ t, ?_, skipSpace_append_of_all (List.dropWhile_eq_nil_iff.mp hrest) t⟩
  cases hskip : skipSpace s with
  | nil =>
    rw [hskip, readDocument_nil] at hread
    cases hread
  | cons c s' =>
    rw [skipSpace_append_of_cons hskip, ← List.cons_append]
    exact readDocument_carries ht hdepth _ _ _ (hskip ▸ hread)

theorem ofNested?_mono (h : ofNested? depth s = some document) {depth' : Nat}
    (hdepth : depth ≤ depth') : ofNested? depth' s = some document := by
  obtain ⟨rest, hread, hrest⟩ := readDocument_of_ofNested? h stops_nil hdepth
  rw [List.append_nil] at hread
  exact ofNested?_eq_some_iff.mpr ⟨rest, hread, hrest⟩

theorem stops_of_isSpace (h : ∀ c ∈ s, isSpace c) (ht : Stops t) : Stops (s ++ t) := by
  cases s with
  | nil => exact ht
  | cons c s =>
    exact stops_cons (fun hc => not_isSpace_of_isNumeralChar hc (h c List.mem_cons_self)) _

/-- Blanks around a document do not change it. -/
theorem ofNested?_blanks (h : ofNested? depth s = some document) {left right : List Char}
    (hleft : ∀ c ∈ left, isSpace c) (hright : ∀ c ∈ right, isSpace c) :
    ofNested? depth (left ++ s ++ right) = some document := by
  have hstops : Stops right := List.append_nil right ▸ stops_of_isSpace hright stops_nil
  obtain ⟨rest, hread, hrest⟩ := readDocument_of_ofNested? h hstops (Nat.le_refl depth)
  rw [ofNested?_eq_some_iff, List.append_assoc, skipSpace_append_of_all hleft]
  exact ⟨rest, hread, hrest.trans (List.dropWhile_eq_nil_iff.mpr hright)⟩

/-- A text starts, behind blanks, with something other than a closing bracket. -/
def Begins (s : List Char) : Prop :=
  ∃ c rest, skipSpace s = c :: rest ∧ c ≠ ']'

theorem Begins.append (h : Begins s) (t : List Char) : Begins (s ++ t) := by
  obtain ⟨c, rest, hskip, hc⟩ := h
  exact ⟨c, rest ++ t, skipSpace_append_of_cons hskip t, hc⟩

theorem Begins.blanks (h : Begins s) {left : List Char} (hleft : ∀ c ∈ left, isSpace c)
    (right : List Char) : Begins (left ++ s ++ right) := by
  obtain ⟨c, rest, hskip, hc⟩ := h.append right
  refine ⟨c, rest, ?_, hc⟩
  rw [List.append_assoc, skipSpace_append_of_all hleft, hskip]

theorem readDocument_closing (depth : Nat) (s : List Char) :
    readDocument depth (']' :: s) = none := by
  have hstart : ∀ c ∈ (']' :: s).head?, c ≠ '[' ∧ c ≠ '\x7b' := by
    rintro _ ⟨⟩
    decide
  rw [readDocument_eq_readScalar hstart]
  exact readScalar_eq_none (by decide) (by decide) s

theorem begins_of_ofNested? (h : ofNested? depth s = some document) : Begins s := by
  obtain ⟨rest, hread, -⟩ := ofNested?_eq_some_iff.mp h
  cases hskip : skipSpace s with
  | nil =>
    rw [hskip, readDocument_nil] at hread
    cases hread
  | cons c s' =>
    refine ⟨c, s', hskip, ?_⟩
    rintro rfl
    rw [hskip, readDocument_closing] at hread
    cases hread

/-! ### Elements between commas -/

section Elements

variable {elements : List (List Char)} {documents : List Json}

theorem not_isNumeralChar_comma : ¬ isNumeralChar ',' := by decide

theorem not_isNumeralChar_bracket : ¬ isNumeralChar ']' := by decide

/-- The elements with commas between them, then a closing bracket and more text. -/
def upToBracket (elements : List (List Char)) (t : List Char) : List Char :=
  [','].intercalate elements ++ ']' :: t

theorem upToBracket_singleton (element t : List Char) :
    upToBracket [element] t = element ++ ']' :: t := by
  rw [upToBracket, List.intercalate_singleton]

theorem upToBracket_cons_cons (element next : List Char) (rest : List (List Char))
    (t : List Char) :
    upToBracket (element :: next :: rest) t = element ++ ',' :: upToBracket (next :: rest) t := by
  rw [upToBracket, List.intercalate_cons_cons, List.append_assoc, List.append_assoc]
  rfl

/-- Behind every element there is a character at which a numeral ends. -/
theorem upToBracket_cons (element : List Char) (rest : List (List Char)) (t : List Char) :
    ∃ behind, Stops behind ∧ upToBracket (element :: rest) t = element ++ behind := by
  cases rest with
  | nil => exact ⟨_, stops_cons not_isNumeralChar_bracket t, upToBracket_singleton element t⟩
  | cons next rest =>
    exact ⟨_, stops_cons not_isNumeralChar_comma _, upToBracket_cons_cons element next rest t⟩

theorem length_le_upToBracket (elements : List (List Char)) (t : List Char) :
    elements.length ≤ (upToBracket elements t).length := by
  induction elements with
  | nil => exact Nat.zero_le _
  | cons element rest ih =>
    cases rest with
    | nil =>
      rw [upToBracket_singleton, List.length_append, List.length_cons, List.length_cons]
      simp only [List.length_nil]
      omega
    | cons next rest =>
      rw [upToBracket_cons_cons]
      simp only [List.length_cons, List.length_append] at ih ⊢
      omega

theorem readParts_upToBracket
    (h : List.Forall₂ (fun element document => ofNested? depth element = some document)
      elements documents) (hne : elements ≠ []) {limit : Nat} (hlimit : elements.length ≤ limit)
    (t : List Char) :
    readParts (readDocument depth) ']' limit (upToBracket elements t) = some (documents, t) := by
  induction h generalizing limit with
  | nil => exact absurd rfl hne
  | @cons element document elements documents hfirst hrest ih =>
    obtain ⟨limit, rfl⟩ := Nat.exists_eq_add_of_le' (Nat.lt_of_lt_of_le (Nat.succ_pos _) hlimit)
    refine (readParts_eq_some_iff (by decide)).mpr ?_
    cases hrest with
    | nil =>
      obtain ⟨rest, hread, hbehind⟩ := readDocument_of_ofNested? hfirst
        (stops_cons not_isNumeralChar_bracket t) (Nat.le_refl depth)
      rw [upToBracket_singleton]
      exact ⟨document, rest, hread, .inl ⟨hbehind, rfl⟩⟩
    | @cons next nextDocument elements documents hnext hrest =>
      obtain ⟨rest, hread, hbehind⟩ := readDocument_of_ofNested? hfirst
        (stops_cons not_isNumeralChar_comma (upToBracket (next :: elements) t)) (Nat.le_refl depth)
      have hmore := ih (List.cons_ne_nil _ _) (Nat.le_of_succ_le_succ hlimit)
      rw [upToBracket_cons_cons]
      exact ⟨document, rest, hread, .inr ⟨_, _, hbehind, hmore, rfl⟩⟩

theorem readParts_skipSpace {α : Type} (part : List Char → Option (α × List Char))
    (closing : Char) (limit : Nat) (s : List Char) :
    readParts part closing limit (skipSpace s) = readParts part closing limit s := by
  cases limit with
  | zero => rfl
  | succ limit => rw [readParts, readParts, skipSpace_skipSpace]

theorem readBracketed_upToBracket {α : Type} (part : List Char → Option (α × List Char))
    {element : List Char} (h : Begins element) (rest : List (List Char)) (t : List Char) :
    readBracketed part ']' (upToBracket (element :: rest) t) =
      readParts part ']' ((upToBracket (element :: rest) t).length + 1)
        (upToBracket (element :: rest) t) := by
  obtain ⟨behind, -, htext⟩ := upToBracket_cons element rest t
  obtain ⟨c, s, hskip, hc⟩ := htext ▸ h.append behind
  rw [← readParts_skipSpace, readBracketed, hskip]
  exact if_neg hc

theorem readDocument_array
    (h : List.Forall₂ (fun element document => ofNested? depth element = some document)
      elements documents) (t : List Char) :
    readDocument (depth + 1) ('[' :: upToBracket elements t) = some (.array documents, t) := by
  rw [readDocument]
  cases h with
  | nil => rfl
  | @cons element document elements documents hfirst hrest =>
    rw [readBracketed_upToBracket _ (begins_of_ofNested? hfirst),
      readParts_upToBracket (.cons hfirst hrest) (List.cons_ne_nil _ _)
        (Nat.le_succ_of_le (length_le_upToBracket _ t)), Option.map_some]

end Elements

/-- The text of an array with the given texts of its elements. -/
def arrayText (elements : List String) : String :=
  "[" ++ Text.join "," elements ++ "]"

theorem toList_arrayText_append (elements : List String) (t : List Char) :
    (arrayText elements).toList ++ t = '[' :: upToBracket (elements.map String.toList) t := by
  rw [arrayText, String.toList_append, String.toList_append, Text.toList_join, upToBracket]
  simp

/-- Documents with commas between them and brackets around are an array. -/
theorem ofNested?_array {elements : List String} {documents : List Json}
    (h : List.Forall₂ (fun element document => ofNested? depth element.toList = some document)
      elements documents) :
    ofNested? (depth + 1) (arrayText elements).toList = some (.array documents) := by
  rw [← List.append_nil (arrayText elements).toList, toList_arrayText_append,
    ofNested?_eq_some_iff, skipSpace_cons (by decide)]
  exact ⟨[], readDocument_array (List.forall₂_map_left_iff.mpr h) [], rfl⟩

theorem exists_documents {elements : List String}
    (h : ∀ element ∈ elements, (ofNested? depth element.toList).isSome) :
    ∃ documents, List.Forall₂
      (fun element document => ofNested? depth element.toList = some document)
      elements documents := by
  induction elements with
  | nil => exact ⟨[], .nil⟩
  | cons element rest ih =>
    rw [List.forall_mem_cons] at h
    obtain ⟨document, hdocument⟩ := Option.isSome_iff_exists.mp h.1
    obtain ⟨documents, hdocuments⟩ := ih h.2
    exact ⟨document :: documents, .cons hdocument hdocuments⟩

/-! ### What cannot be read -/

/-- A text starts like an element, but no document is read at its front, whatever stands behind
it. -/
structure Unread (depth : Nat) (s : List Char) : Prop where
  begins : Begins s
  unread : ∀ t, Stops t → readDocument depth (skipSpace (s ++ t)) = none

theorem Unread.ofNested?_eq_none (h : Unread depth s) : ofNested? depth s = none := by
  rw [ofNested?, ← List.append_nil s, h.unread [] stops_nil]

theorem Unread.blanks (h : Unread depth s) {left right : List Char}
    (hleft : ∀ c ∈ left, isSpace c) (hright : ∀ c ∈ right, isSpace c) :
    Unread depth (left ++ s ++ right) := by
  refine ⟨h.begins.blanks hleft right, fun t ht => ?_⟩
  rw [List.append_assoc, List.append_assoc, skipSpace_append_of_all hleft]
  exact h.unread _ (stops_of_isSpace hright ht)

/-- Elements that can be read do not help those behind them. -/
theorem readParts_eq_none {before : List (List Char)} (after : List (List Char))
    {element : List Char} (hbefore : ∀ e ∈ before, ∃ depth, (ofNested? depth e).isSome)
    (h : Unread depth element) (t : List Char) (limit : Nat) :
    readParts (readDocument depth) ']' limit (upToBracket (before ++ element :: after) t) =
      none := by
  induction before generalizing limit with
  | nil =>
    obtain ⟨behind, hstops, htext⟩ := upToBracket_cons element after t
    cases limit with
    | zero => rfl
    | succ limit => rw [List.nil_append, htext, readParts, h.unread behind hstops]
  | cons first before ih =>
    rw [List.forall_mem_cons] at hbefore
    obtain ⟨⟨depth', hdocument⟩, hbefore⟩ := hbefore
    obtain ⟨document, hdocument⟩ := Option.isSome_iff_exists.mp hdocument
    cases limit with
    | zero => rfl
    | succ limit =>
      obtain ⟨next, rest, hnext⟩ := List.exists_cons_of_ne_nil
        (List.append_ne_nil_of_right_ne_nil before (List.cons_ne_nil element after))
      rw [Option.eq_none_iff_forall_ne_some]
      rintro ⟨values, left⟩ hread
      rw [List.cons_append, hnext, upToBracket_cons_cons, readParts_eq_some_iff (by decide)] at hread
      obtain ⟨value, behind, hfirst, hvalues⟩ := hread
      -- the first element is read at one depth and at the other, and both readers agree
      have hstops := stops_cons not_isNumeralChar_comma (upToBracket (next :: rest) t)
      obtain ⟨rest', hread', hbehind⟩ :=
        readDocument_of_ofNested? hdocument hstops (Nat.le_max_right depth depth')
      have hmax := readDocument_carries stops_nil (Nat.le_max_left depth depth') _ _ _ hfirst
      rw [List.append_nil, hread', List.append_nil] at hmax
      cases hmax
      rw [hbehind, skipSpace_cons (by decide)] at hvalues
      rcases hvalues with ⟨hclosing, -⟩ | ⟨others, more, hothers, hmore, -⟩
      · exact absurd (List.cons.inj hclosing).1 (by decide)
      · rw [← (List.cons.inj hothers).2, ← hnext, ih hbefore] at hmore
        cases hmore

theorem begins_arrayText (elements : List String) : Begins (arrayText elements).toList := by
  rw [← List.append_nil (arrayText elements).toList, toList_arrayText_append]
  exact ⟨'[', _, skipSpace_cons (by decide) _, by decide⟩

/-- An array is not read if one of its elements is not. -/
theorem unread_array {before : List String} {element : String} (after : List String)
    (hbefore : ∀ e ∈ before, ∃ depth, (ofNested? depth e.toList).isSome)
    (h : Unread depth element.toList) :
    Unread (depth + 1) (arrayText (before ++ element :: after)).toList := by
  refine ⟨begins_arrayText _, fun t _ => ?_⟩
  have hchars : ∀ e ∈ before.map String.toList, ∃ depth, (ofNested? depth e).isSome := by
    intro e he
    obtain ⟨text, htext, rfl⟩ := List.mem_map.mp he
    exact hbefore text htext
  have hnone := readParts_eq_none (after.map String.toList) hchars h t
  rw [toList_arrayText_append, skipSpace_cons (by decide), readDocument, List.map_append,
    List.map_cons]
  cases before with
  | nil =>
    rw [List.map_nil, List.nil_append] at hnone ⊢
    rw [readBracketed_upToBracket _ h.begins, hnone, Option.map_none]
  | cons first before =>
    obtain ⟨depth', hfirst⟩ := hbefore first List.mem_cons_self
    obtain ⟨document, hfirst⟩ := Option.isSome_iff_exists.mp hfirst
    rw [List.map_cons, List.cons_append] at hnone ⊢
    rw [readBracketed_upToBracket _ (begins_of_ofNested? hfirst), hnone, Option.map_none]

/-- Where no more brackets may be opened, no array is read. -/
theorem unread_array_zero (elements : List String) : Unread 0 (arrayText elements).toList := by
  refine ⟨begins_arrayText _, fun t _ => ?_⟩
  rw [toList_arrayText_append, skipSpace_cons (by decide), readDocument]
  exact readScalar_bracket (.inl rfl) _

/-! ### Numerals -/

section Numerals

variable (hne : s ≠ []) (hall : ∀ c ∈ s, isNumeralChar c)

include hne hall

theorem begins_numeral : Begins s := by
  obtain ⟨c, rest, rfl⟩ := List.exists_cons_of_ne_nil hne
  have hc : isNumeralChar c := hall c List.mem_cons_self
  refine ⟨c, rest, skipSpace_cons (not_isSpace_of_isNumeralChar hc) rest, ?_⟩
  rintro rfl
  exact not_isNumeralChar_bracket hc

theorem skipSpace_numeral (t : List Char) : skipSpace (s ++ t) = s ++ t := by
  obtain ⟨c, rest, rfl⟩ := List.exists_cons_of_ne_nil hne
  exact skipSpace_cons (not_isSpace_of_isNumeralChar (hall c List.mem_cons_self)) _

/-- A numeral is a document at every depth. -/
theorem ofNested?_numeral {value : JsonNumber} (h : JsonNumber.ofChars? s = some value)
    (depth : Nat) : ofNested? depth s = some (.number value) := by
  have hskip := skipSpace_numeral hne hall []
  have hread := readDocument_numeral hne hall stops_nil depth
  rw [List.append_nil] at hskip hread
  rw [ofNested?_eq_some_iff, hskip, hread, h]
  exact ⟨[], rfl, rfl⟩

theorem unread_numeral (h : JsonNumber.ofChars? s = none) (depth : Nat) : Unread depth s := by
  refine ⟨begins_numeral hne hall, fun t ht => ?_⟩
  rw [skipSpace_numeral hne hall, readDocument_numeral hne hall ht, h, Option.map_none]

end Numerals

/-! ### Gaps -/

/-- An array with a gap in the place of one element: the texts of the elements before and after
it, and the blanks on the two sides of the gap. -/
structure Frame where
  before : List String
  after : List String
  left : String
  right : String

namespace Frame

/-- The elements of the array with a text in its gap. -/
def elements (frame : Frame) (element : String) : List String :=
  frame.before ++ (frame.left ++ element ++ frame.right) :: frame.after

/-- The array with a text in its gap. -/
def plug (frame : Frame) (element : String) : String :=
  arrayText (frame.elements element)

/-- The gap is between blanks, and the other elements are documents with at most `depth` brackets
open at the same time. -/
structure Fits (depth : Nat) (frame : Frame) : Prop where
  left : ∀ c ∈ frame.left.toList, isSpace c
  right : ∀ c ∈ frame.right.toList, isSpace c
  before : ∀ element ∈ frame.before, (ofNested? depth element.toList).isSome
  after : ∀ element ∈ frame.after, (ofNested? depth element.toList).isSome

/-- With a document in the gap, all elements are documents. -/
theorem Fits.forall_elements {frame : Frame} (h : frame.Fits depth) {element : String}
    (helement : ofNested? depth element.toList = some document) :
    ∀ e ∈ frame.elements element, (ofNested? depth e.toList).isSome := by
  rw [elements, List.forall_mem_append, List.forall_mem_cons, String.toList_append,
    String.toList_append, ofNested?_blanks helement h.left h.right]
  exact ⟨h.before, rfl, h.after⟩

theorem Fits.unread_plug {frame : Frame} {depth' : Nat} (h : frame.Fits depth') {element : String}
    (helement : Unread depth element.toList) :
    Unread (depth + 1) (frame.plug element).toList := by
  refine unread_array _ (fun e he => ⟨depth', h.before e he⟩) ?_
  rw [String.toList_append, String.toList_append]
  exact helement.blanks h.left h.right

end Frame

/-- A text in the innermost of the given gaps, the first of which is the outermost one. -/
def plugAll (frames : List Frame) (element : String) : String :=
  frames.foldr Frame.plug element

/-- Arrays around each other fit if at most `depth` brackets are ever open at the same time. -/
def Nested : (depth : Nat) → List Frame → Prop
  | _, [] => True
  | 0, _ :: _ => False
  | depth + 1, frame :: inner => frame.Fits depth ∧ Nested depth inner

/-- **An element that is not read spoils all arrays around it.** -/
theorem unread_plugAll {frames : List Frame} (hframes : ∀ frame ∈ frames, ∃ depth, frame.Fits depth)
    {element : String} (h : ∀ depth, Unread depth element.toList) (depth : Nat) :
    Unread depth (plugAll frames element).toList := by
  induction frames generalizing depth with
  | nil => exact h depth
  | cons frame inner ih =>
    rw [List.forall_mem_cons] at hframes
    obtain ⟨⟨depth', hfits⟩, hinner⟩ := hframes
    cases depth with
    | zero => exact unread_array_zero _
    | succ depth => exact hfits.unread_plug (ih hinner depth)

/-- **Too many arrays around each other are not read.** -/
theorem unread_of_lt_length {frames : List Frame}
    (hframes : ∀ frame ∈ frames, ∃ depth, frame.Fits depth) (element : String)
    (hdeep : depth < frames.length) : Unread depth (plugAll frames element).toList := by
  induction frames generalizing depth with
  | nil => exact absurd hdeep (Nat.not_lt_zero depth)
  | cons frame inner ih =>
    rw [List.forall_mem_cons] at hframes
    obtain ⟨⟨depth', hfits⟩, hinner⟩ := hframes
    cases depth with
    | zero => exact unread_array_zero _
    | succ depth => exact hfits.unread_plug (ih hinner (Nat.lt_of_succ_lt_succ hdeep))

end SqlNotebook.Json
