/-
SqlNotebook/Proofs/Sql/Arguments.lean

How arguments that are integers, or arrays with integers in them, stand in SQL.

An array in SQL is its elements in SQL with commas between them, at every level, so that in frames
around an element the literal of this element stands in the place of its text (`sqlAll`).  An
integer of 64 bits with a sign is written as it is.  A greater one is written as the whole number
that it is rounded to, and is no number at all if it is out of range; then the whole argument is a
text (`toSql_integerArgument`).
-/
import SqlNotebook.HostValue
import SqlNotebook.Proofs.Json.Arrays
import SqlNotebook.Proofs.Json.Integers
import SqlNotebook.Text.Pieces

namespace SqlNotebook

namespace Sql

/-! ### Numerals in SQL -/

/-- The number that digits stand for, with or without a decimal point among them. -/
def unsigned? (s : List Char) : Option ℚ :=
  match Chars.cutAt? '.' s with
  | none => (Chars.natural? s).map fun n : ℕ => (n : ℚ)
  | some (whole, fraction) => do
    let n ← Chars.natural? whole
    let m ← Chars.natural? fraction
    return n + m / 10 ^ fraction.length

/-- The number that a decimal numeral stands for; a minus sign may stand in front. -/
def number? : List Char → Option ℚ
  | '-' :: rest => (unsigned? rest).map fun x => -x
  | rest => unsigned? rest

theorem number?_of_digit {c : Char} (h : c.isDigit) (s : List Char) :
    number? (c :: s) = unsigned? (c :: s) := by
  refine number?.eq_2 _ fun _ hs => ?_
  rw [(List.cons.inj hs).1] at h
  exact absurd h (by decide)

theorem point_notMem_toDigits (n : ℕ) : '.' ∉ Nat.toDigits 10 n := fun h =>
  absurd (Nat.isDigit_of_mem_toDigits (by decide) (by decide) h) (by decide)

theorem unsigned?_toDigits (n : ℕ) : unsigned? (Nat.toDigits 10 n) = some (n : ℚ) := by
  have hcut : Chars.cutAt? '.' (Nat.toDigits 10 n) = none := by
    rw [Option.eq_none_iff_forall_ne_some]
    intro cut h
    refine point_notMem_toDigits n ?_
    rw [Chars.eq_of_cutAt? h]
    simp
  rw [unsigned?, hcut]
  simp only [Chars.natural?_toDigits, Option.map_some]

theorem unsigned?_toDigits_point (n : ℕ) :
    unsigned? (Nat.toDigits 10 n ++ ['.', '0']) = some (n : ℚ) := by
  rw [unsigned?, Chars.cutAt?_of_not_mem ['0'] (point_notMem_toDigits n)]
  have hzero : Chars.natural? ['0'] = some 0 := rfl
  simp [Chars.natural?_toDigits, hzero]

/-- A sign in front of digits. -/
theorem number?_signed {digits : List Char} {x : ℚ}
    (hdigit : ∃ c rest, digits = c :: rest ∧ c.isDigit) (h : unsigned? digits = some x)
    (negative : Bool) :
    number? ((if negative then ['-'] else []) ++ digits) = some (if negative then -x else x) := by
  obtain ⟨c, rest, rfl, hc⟩ := hdigit
  cases negative with
  | true => exact congrArg (Option.map fun x => -x) h
  | false =>
    show number? (c :: rest) = some x
    rw [number?_of_digit hc, h]

/-- A string literal is no numeral. -/
theorem number?_quote (s : List Char) : number? ('\'' :: s) = none := by
  show unsigned? ('\'' :: s) = none
  rw [unsigned?, Chars.cutAt?_cons, if_neg (by decide)]
  cases Chars.cutAt? '.' s with
  | none => rfl
  | some cut => rfl

theorem exists_digit_toDigits (n : ℕ) (s : List Char) :
    ∃ c rest, Nat.toDigits 10 n ++ s = c :: rest ∧ c.isDigit := by
  obtain ⟨c, rest, hcons⟩ := List.exists_cons_of_ne_nil (Nat.toDigits_ne_nil (n := n) (b := 10))
  exact ⟨c, rest ++ s, by rw [hcons, List.cons_append], isDigit_of_toDigits_eq_cons hcons⟩

/-- The numeral of an integer denotes it. -/
theorem number?_toString (v : ℤ) : number? (toString v).toList = some (v : ℚ) := by
  have hstart := exists_digit_toDigits v.natAbs []
  have hdigits := unsigned?_toDigits v.natAbs
  rw [← List.append_nil (Nat.toDigits 10 v.natAbs)] at hdigits
  rw [toList_toString, ← List.append_nil (Nat.toDigits 10 v.natAbs)]
  by_cases hneg : v < 0
  · have hvalue : -(v.natAbs : ℤ) = v := by omega
    rw [if_pos hneg]
    refine (number?_signed hstart hdigits true).trans (congrArg some ?_)
    rw [if_pos rfl, ← Int.cast_natCast, ← Int.cast_neg, hvalue]
  · have hvalue : (v.natAbs : ℤ) = v := by omega
    rw [if_neg hneg]
    refine (number?_signed hstart hdigits false).trans (congrArg some ?_)
    rw [if_neg Bool.false_ne_true, ← Int.cast_natCast, hvalue]

/-- A whole floating-point number is written with its digits and `.0`, and denotes itself. -/
theorem number?_positional {m : ℕ} {k : ℤ} (hk : 0 ≤ k) (negative : Bool) :
    number? (Binary64.finite negative m k).positional.toList =
      some ((if negative then -(m * 2 ^ k.toNat : ℕ) else (m * 2 ^ k.toNat : ℕ) : ℤ) : ℚ) := by
  have hlist : (Binary64.finite negative m k).positional.toList =
      (if negative then ['-'] else []) ++ (Nat.toDigits 10 (m * 2 ^ k.toNat) ++ ['.', '0']) := by
    rw [Binary64.positional, Binary64.whole?_of_nonneg hk]
    cases negative <;> simp [Binary64.signed]
  rw [hlist, number?_signed (exists_digit_toDigits _ _) (unsigned?_toDigits_point _)]
  cases negative <;> simp

end Sql

namespace HostValue

open Json

variable {depth : ℕ} {document : Json} {elements : List String} {documents : List Json}

/-! ### Arrays in SQL -/

/-- The text of an element of an array, in SQL. -/
def elementSql (element : String) : String :=
  (ofArgument element).toSql true

theorem ofArgument_of_document {text : String} (h : ofNested? depth text.toList = some document)
    (hdepth : depth ≤ maxDepth) : ofArgument text = ofJson document := by
  rw [ofArgument, ofText?_eq_ofNested?, ofNested?_mono h hdepth]

theorem itemsSql_ofJsonItems
    (h : List.Forall₂ (fun element document => ofNested? depth element.toList = some document)
      elements documents) (hdepth : depth ≤ maxDepth) :
    itemsSql (ofJsonItems documents) = elements.map elementSql := by
  induction h with
  | nil => rfl
  | cons hfirst _ ih =>
    rw [ofJsonItems, itemsSql, List.map_cons, ih, elementSql, ofArgument_of_document hfirst hdepth]

/-- An array in SQL is its elements in SQL with commas between them. -/
theorem toSql_array
    (h : List.Forall₂ (fun element document => ofNested? depth element.toList = some document)
      elements documents) (hdepth : depth ≤ maxDepth) (quote : Bool) :
    (ofJson (.array documents)).toSql quote = Text.join "," (elements.map elementSql) := by
  rw [ofJson, toSql, itemsSql_ofJsonItems h hdepth]

end HostValue

namespace Json

/-- An array in SQL, with a literal in its gap. -/
def Frame.sql (frame : Frame) (literal : String) : String :=
  Text.join ","
    (frame.before.map HostValue.elementSql ++ literal :: frame.after.map HostValue.elementSql)

/-- Arrays around each other in SQL, with a literal in the innermost gap. -/
def sqlAll (frames : List Frame) (literal : String) : String :=
  frames.foldr Frame.sql literal

variable {depth : ℕ} {document : Json}

theorem Frame.Fits.map_elementSql {frame : Frame} (h : frame.Fits depth) (hdepth : depth ≤ maxDepth)
    {element : String} (helement : ofNested? depth element.toList = some document) :
    Text.join "," ((frame.elements element).map HostValue.elementSql) =
      frame.sql (HostValue.elementSql element) := by
  have hblanks := ofNested?_blanks helement h.left h.right
  rw [← String.toList_append, ← String.toList_append] at hblanks
  have hsame : HostValue.elementSql (frame.left ++ element ++ frame.right) =
      HostValue.elementSql element := by
    rw [HostValue.elementSql, HostValue.elementSql, HostValue.ofArgument_of_document hblanks hdepth,
      HostValue.ofArgument_of_document helement hdepth]
  rw [Frame.elements, List.map_append, List.map_cons, hsame, Frame.sql]

/-- **Arrays around an element.**  If a text is a document without brackets, then in arrays that
fit it is written as it is written alone, in its place among the other elements. -/
theorem toSql_plugAll {frames : List Frame} (hframes : Nested depth frames)
    (hdepth : depth ≤ maxDepth) {element : String}
    (helement : ofNested? 0 element.toList = some document) {literal : String}
    (hliteral : ∀ quote, (HostValue.ofJson document).toSql quote = literal) :
    ∃ whole, ofNested? depth (plugAll frames element).toList = some whole ∧
      ∀ quote, (HostValue.ofJson whole).toSql quote = sqlAll frames literal := by
  induction frames generalizing depth with
  | nil => exact ⟨document, ofNested?_mono helement (Nat.zero_le depth), hliteral⟩
  | cons frame inner ih =>
    cases depth with
    | zero => exact hframes.elim
    | succ depth =>
      obtain ⟨hfits, hinner⟩ := hframes
      have hless : depth ≤ maxDepth := Nat.le_of_succ_le hdepth
      obtain ⟨whole, hwhole, hsql⟩ := ih hinner hless
      obtain ⟨documents, hdocuments⟩ := exists_documents (hfits.forall_elements hwhole)
      refine ⟨.array documents, ofNested?_array hdocuments, fun quote => ?_⟩
      rw [HostValue.toSql_array hdocuments hless, hfits.map_elementSql hless hwhole,
        HostValue.elementSql, HostValue.ofArgument_of_document hwhole hless, hsql]
      rfl

end Json

namespace HostValue

open Json

/-! ### Integers -/

theorem toString_ne_nil (v : ℤ) : (toString v).toList ≠ [] := by
  obtain ⟨c, rest, hcons, -⟩ := toList_toString_eq_cons v
  exact hcons ▸ List.cons_ne_nil c rest

theorem isNumeralChar_of_mem_toString {v : ℤ} : ∀ c ∈ (toString v).toList, isNumeralChar c := by
  intro c hc
  rcases eq_minus_or_isDigit_of_mem_toString hc with rfl | hdigit
  · rfl
  · simp [isNumeralChar, hdigit]

/-- What an integer becomes that is read as a floating-point number: its error is at most one
part in `2 ^ 51`.  If its size fits into 64 bits, it goes to a multiple of `2048` that is at most
half a step away, so that it keeps its value exactly if it is such a multiple itself. -/
structure Rounded (v w : ℤ) : Prop where
  lt : v.natAbs < 2 ^ 1025
  error : 2 ^ 51 * |w - v| ≤ |v|
  word : v.natAbs < 2 ^ 64 → 2048 ∣ w ∧ |w - v| ≤ 1024 ∧ (w = v ↔ 2048 ∣ v)

theorem eq_iff_dvd {v w : ℤ} (hw : 2048 ∣ w) (hhalf : |w - v| ≤ 1024) : w = v ↔ 2048 ∣ v := by
  constructor
  · rintro rfl
    exact hw
  · rintro ⟨b, rfl⟩
    obtain ⟨a, rfl⟩ := hw
    rw [abs_le] at hhalf
    omega

theorem Rounded.of_approximates {v : ℤ} {n : ℕ} (h : JsonNumber.Approximates v.natAbs n) :
    Rounded v (if v < 0 then -(n : ℤ) else n) := by
  have hdistance : |(if v < 0 then -(n : ℤ) else n) - v| = |(n : ℤ) - v.natAbs| := by
    split
    · rw [← abs_neg]
      congr 1
      omega
    · congr 1
      omega
  refine ⟨h.lt, ?_, fun hword => ?_⟩
  · rw [hdistance, Int.abs_eq_natAbs v]
    exact h.error
  · obtain ⟨hdvd, hhalf⟩ := h.word hword
    rw [← hdistance] at hhalf
    have hdvd' : (2048 : ℤ) ∣ if v < 0 then -(n : ℤ) else n := by
      split <;> omega
    exact ⟨hdvd', hhalf, eq_iff_dvd hdvd' hhalf⟩

/-- A floating-point number that is near an integer, with its sign. -/
theorem toSql_near {v : ℤ} {x : Binary64} (hnear : JsonNumber.IsNear v.natAbs x) :
    ∃ (literal : String) (w : ℤ), Sql.number? literal.toList = some (w : ℚ) ∧ Rounded v w ∧
      (if v < 0 then x.neg else x).positional = literal := by
  obtain ⟨m, k, rfl, hk, happroximates⟩ := hnear
  have hvalue := Sql.number?_positional (m := m) hk (decide (v < 0))
  refine ⟨_, _, hvalue, ?_, ?_⟩
  · simp only [decide_eq_true_eq]
    exact .of_approximates happroximates
  · by_cases hneg : v < 0
    · rw [if_pos hneg, decide_eq_true hneg]
      rfl
    · rw [if_neg hneg, decide_eq_false hneg]

/-- An integer of 64 bits with a sign is written as it is. -/
theorem document_of_fits {v : ℤ} (hfits : Numeral.fitsInt64 v) :
    JsonNumber.ofChars? (toString v).toList = some (.integer v) ∧
      ∀ quote, (ofJson (.number (.integer v))).toSql quote = toString v := by
  have hbound : Numeral.int64Bound = 2 ^ 63 := rfl
  rw [Numeral.fitsInt64_iff] at hfits
  refine ⟨(JsonNumber.ofChars?_toString v).1 (by omega), fun quote => ?_⟩
  rw [ofJson, if_pos hfits.2, toSql]

/-- Any other integer is written as the whole number that it is rounded to, or it is out of
range. -/
theorem document_of_not_fits {v : ℤ} (hfits : ¬ Numeral.fitsInt64 v) :
    (∃ value literal, JsonNumber.ofChars? (toString v).toList = some value ∧
        (∀ quote, (ofJson (.number value)).toSql quote = literal) ∧
        ∃ w : ℤ, Sql.number? literal.toList = some (w : ℚ) ∧ Rounded v w) ∨
      JsonNumber.ofChars? (toString v).toList = none ∧ 2 ^ 1023 ≤ v.natAbs := by
  have hsize : UInt64.size = 2 ^ 64 := rfl
  have hbound : Numeral.int64Bound = 2 ^ 63 := rfl
  rw [Numeral.fitsInt64_iff] at hfits
  obtain ⟨hword, hgreat⟩ := JsonNumber.ofChars?_toString v
  by_cases hunsigned : -(2 ^ 63 : ℤ) ≤ v ∧ v < 2 ^ 64
  · have hneg : ¬ v < 0 := by omega
    have hnear := JsonNumber.ofNat_isNear (n := v.natAbs) (by omega) (by omega)
    obtain ⟨literal, w, hw, hrounded, hliteral⟩ := toSql_near hnear
    refine .inl ⟨_, literal, hword hunsigned, fun quote => ?_, w, hw, hrounded⟩
    have hsame : v.toNat = v.natAbs := by omega
    rw [if_neg hneg] at hliteral
    rw [ofJson, if_neg (by omega), toSql, hsame, hliteral]
  · rcases hgreat hunsigned with ⟨x, hx, hnear⟩ | hout
    · obtain ⟨literal, w, hw, hrounded, hliteral⟩ := toSql_near hnear
      refine .inl ⟨_, literal, hx, fun quote => ?_, w, hw, hrounded⟩
      rw [ofJson, toSql, hliteral]
    · exact .inr hout

/-- A numeral that is read as a number, in arrays. -/
theorem toSql_plugged {v : ℤ} {value : JsonNumber} {literal : String}
    (hvalue : JsonNumber.ofChars? (toString v).toList = some value)
    (hsql : ∀ quote, (ofJson (.number value)).toSql quote = literal) {frames : List Frame}
    (hframes : Nested maxDepth frames) (quote : Bool) :
    (ofArgument (plugAll frames (toString v))).toSql quote = sqlAll frames literal := by
  have hdocument := ofNested?_numeral (toString_ne_nil v) isNumeralChar_of_mem_toString hvalue 0
  obtain ⟨whole, hwhole, hwholeSql⟩ := toSql_plugAll hframes (Nat.le_refl _) hdocument hsql
  rw [ofArgument_of_document hwhole (Nat.le_refl _), hwholeSql]

/-- Neither a numeral nor an array looks like a hexadecimal literal. -/
theorem not_isPrefixOf_plugAll (frames : List Frame) (v : ℤ) :
    "0x".toList.isPrefixOf (plugAll frames (toString v)).toList = false := by
  cases frames with
  | nil =>
    rw [Bool.eq_false_iff]
    intro hprefix
    have hmem : 'x' ∈ (toString v).toList :=
      (List.isPrefixOf_iff_prefix.mp hprefix).subset (by decide)
    exact absurd (isNumeralChar_of_mem_toString _ hmem) (by decide)
  | cons frame inner =>
    show "0x".toList.isPrefixOf (arrayText _).toList = false
    rw [← List.append_nil (arrayText _).toList, toList_arrayText_append]
    rfl

/-- What is not read as a document is a text. -/
theorem ofArgument_of_unread {frames : List Frame} {v : ℤ}
    (h : Unread maxDepth (plugAll frames (toString v)).toList) :
    ofArgument (plugAll frames (toString v)) = .text (plugAll frames (toString v)) := by
  have hplain : "0x".toList.isPrefixOf (plugAll frames (toString v)).toList = false :=
    not_isPrefixOf_plugAll frames v
  rw [ofArgument, ofText?_eq_ofNested?, h.ofNested?_eq_none]
  show ofText _ = _
  rw [ofText, hplain]
  rfl

/-- **Integers keep their value.**  An integer of 64 bits with a sign is written in SQL as it is,
alone and in arrays that are nested as deep as documents may be.  Any other integer is written as
one numeral for the number that it is rounded to, in all of these places, or it is out of range
and the whole argument is a text.  So is an argument with more arrays around each other than may
be open at the same time. -/
theorem toSql_integerArgument :
    (∀ v : ℤ, Numeral.fitsInt64 v →
        Sql.number? (toString v).toList = some (v : ℚ) ∧
          ∀ frames, Nested maxDepth frames → ∀ quote,
            (ofArgument (plugAll frames (toString v))).toSql quote =
              sqlAll frames (toString v)) ∧
      (∀ v : ℤ, ¬ Numeral.fitsInt64 v →
        (∃ (literal : String) (w : ℤ),
            Sql.number? literal.toList = some (w : ℚ) ∧ Rounded v w ∧
              ∀ frames, Nested maxDepth frames → ∀ quote,
                (ofArgument (plugAll frames (toString v))).toSql quote = sqlAll frames literal) ∨
          2 ^ 1023 ≤ v.natAbs ∧
            ∀ frames : List Frame, (∀ frame ∈ frames, ∃ depth, frame.Fits depth) →
              ofArgument (plugAll frames (toString v)) = .text (plugAll frames (toString v))) ∧
      ∀ (v : ℤ) (frames : List Frame), (∀ frame ∈ frames, ∃ depth, frame.Fits depth) →
        maxDepth < frames.length →
        ofArgument (plugAll frames (toString v)) = .text (plugAll frames (toString v)) := by
  refine ⟨fun v hfits => ?_, fun v hfits => ?_, fun v frames hframes hdeep => ?_⟩
  · obtain ⟨hvalue, hsql⟩ := document_of_fits hfits
    exact ⟨Sql.number?_toString v, fun frames hframes quote =>
      toSql_plugged hvalue hsql hframes quote⟩
  · rcases document_of_not_fits hfits with
      ⟨value, literal, hvalue, hsql, w, hw, hrounded⟩ | ⟨hnone, hout⟩
    · exact .inl ⟨literal, w, hw, hrounded, fun frames hframes quote =>
        toSql_plugged hvalue hsql hframes quote⟩
    · refine .inr ⟨hout, fun frames hframes => ofArgument_of_unread ?_⟩
      exact unread_plugAll hframes
        (unread_numeral (toString_ne_nil v) isNumeralChar_of_mem_toString hnone) maxDepth
  · exact ofArgument_of_unread (unread_of_lt_length hframes (toString v) hdeep)

/-- Two arrays around a gap, with blanks at the gaps and elements of every kind. -/
def mixedFrames : List Frame :=
  [⟨["\"],[\"", " 0.5e1 ", "[[],\x7b\"a\": [1]\x7d]"], ["null"], "\n", " "⟩, ⟨[], ["\"'\""], "", "\t"⟩]

theorem mixedFrames_nested : Nested maxDepth mixedFrames :=
  ⟨⟨List.all_eq_true.mp (by decide), List.all_eq_true.mp (by decide), by decide, by decide⟩,
    ⟨List.all_eq_true.mp (by decide), List.all_eq_true.mp (by decide), by decide, by decide⟩,
    trivial⟩

/-- An array with one element. -/
def bareFrame : Frame := ⟨[], [], "", ""⟩

theorem bareFrame_of_mem {frame : Frame} {n : ℕ} (h : frame ∈ List.replicate n bareFrame) :
    frame.Fits 0 := by
  rw [List.eq_of_mem_replicate h]
  exact ⟨nofun, nofun, nofun, nofun⟩

theorem deep_bareFrame : maxDepth < (List.replicate 128 bareFrame).length := by
  rw [List.length_replicate]
  decide

theorem toSql_integerArgument_mixedFrames :
    Nested maxDepth mixedFrames ∧
      (Numeral.fitsInt64 (-9223372036854775808) ∧
        (ofArgument (plugAll mixedFrames "-9223372036854775808")).toSql true =
          "'],[',5.0,,'\x7b\"a\":[1]\x7d',-9223372036854775808,'''',NULL") ∧
      (¬ Numeral.fitsInt64 9223372036854775809 ∧
        ∃ (literal : String) (w : ℤ), Sql.number? literal.toList = some (w : ℚ) ∧
          2048 ∣ w ∧ |w - 9223372036854775809| ≤ 1024 ∧
            (ofArgument (plugAll mixedFrames "9223372036854775809")).toSql true =
              sqlAll mixedFrames literal) ∧
      maxDepth < (List.replicate 128 bareFrame).length ∧
        ofArgument (plugAll (List.replicate 128 bareFrame) "1") =
          .text (plugAll (List.replicate 128 bareFrame) "1") := by
  obtain ⟨hkept, hrounded, hdeep⟩ := toSql_integerArgument
  have hfits : Numeral.fitsInt64 (-9223372036854775808) := by decide
  have hnot : ¬ Numeral.fitsInt64 9223372036854775809 := by decide
  refine ⟨mixedFrames_nested, ⟨hfits, ?_⟩, ⟨hnot, ?_⟩, deep_bareFrame, ?_⟩
  · have hsql := (hkept _ hfits).2 mixedFrames mixedFrames_nested true
    have htext : toString (-9223372036854775808 : ℤ) = "-9223372036854775808" := by decide +kernel
    rw [htext] at hsql
    rw [hsql]
    decide +kernel
  · rcases hrounded _ hnot with ⟨literal, w, hw, hnear, hsql⟩ | ⟨hout, -⟩
    · obtain ⟨hdvd, hhalf, -⟩ := hnear.word (by norm_num)
      exact ⟨literal, w, hw, hdvd, hhalf, hsql mixedFrames mixedFrames_nested true⟩
    · have hpow : 2 ^ 64 ≤ 2 ^ 1023 := pow_le_pow_right₀ one_le_two (by norm_num)
      exact absurd (hpow.trans hout) (by norm_num)
  · exact hdeep 1 _ (fun frame hframe => ⟨0, bareFrame_of_mem hframe⟩) deep_bareFrame

theorem sqlAll_replicate_bareFrame (n : ℕ) (literal : String) :
    sqlAll (List.replicate n bareFrame) literal = literal := by
  induction n with
  | zero => rfl
  | succ n ih =>
    show bareFrame.sql (sqlAll (List.replicate n bareFrame) literal) = literal
    rw [ih, ← String.toList_inj, Frame.sql, Text.toList_join]
    simp [bareFrame]

/-- In the given arrays an integer is written as a numeral that denotes it. -/
def KeepsValue (v : ℤ) (frames : List Frame) : Prop :=
  ∃ literal : String, Sql.number? literal.toList = some (v : ℚ) ∧
    (ofArgument (plugAll frames (toString v))).toSql true = sqlAll frames literal

/-- Not every integer keeps its value, and not in arrays that are nested too deep. -/
theorem not_keepsValue :
    ¬ KeepsValue 9223372036854775809 [] ∧ ¬ KeepsValue 1 (List.replicate 128 bareFrame) := by
  constructor
  · rintro ⟨literal, hvalue, hsql⟩
    have hwritten : (ofArgument (plugAll [] (toString (9223372036854775809 : ℤ)))).toSql true =
        "9223372036854775808.0" := by decide +kernel
    have hless : Sql.number? "9223372036854775808.0".toList = some 9223372036854775808 :=
      (Sql.number?_of_digit (by decide) _).trans (Sql.unsigned?_toDigits_point 9223372036854775808)
    rw [hwritten] at hsql
    obtain rfl : "9223372036854775808.0" = literal := hsql
    rw [hless] at hvalue
    exact absurd (Option.some.inj hvalue) (by norm_num)
  · rintro ⟨literal, hvalue, hsql⟩
    have htext := ofArgument_of_unread (v := 1)
      (unread_of_lt_length (fun frame hframe => ⟨0, bareFrame_of_mem hframe⟩) _ deep_bareFrame)
    rw [htext, sqlAll_replicate_bareFrame] at hsql
    rw [← hsql, toSql, quoted, if_pos rfl, HostValue.literal, String.toList_ofList,
      Sql.number?_quote] at hvalue
    cases hvalue

end HostValue

end SqlNotebook
