/-
SqlNotebook/Proofs/Toml/Integers.lean

The integers of a document fit into 64 bits with a sign.  Only those that are entries of
the document itself are needed, and for them it is enough to follow where entries come
from: a line `name = value` brings a value that has been read, and what headers and dotted
keys bring into the document are tables, whatever is inside of them.
-/
import SqlNotebook.Proofs.Text.Numerals
import SqlNotebook.Toml.Reader

namespace SqlNotebook

/-- Whether a value, if it is an integer, fits into 64 bits with a sign. -/
def Toml.Fits : Toml → Prop
  | integer n => Numeral.fitsInt64 n
  | _ => True

namespace Toml

/-! ### Values that are read -/

theorem fitsInt64_of_integer? {s : List Char} {n : Int} (h : integer? s = some n) :
    Numeral.fitsInt64 n := by
  have hbased {base : Nat} {digits : List Char} (h : prefixedInteger? base digits = some n) :
      Numeral.fitsInt64 n := by
    simp only [prefixedInteger?, Option.bind_eq_bind, Option.bind_eq_some_iff,
      Option.ite_none_right_eq_some, Option.some.injEq] at h
    obtain ⟨_, -, m, -, hm, rfl⟩ := h
    rw [Numeral.fitsInt64_iff]
    omega
  rw [integer?.eq_def] at h
  split at h
  · exact hbased h
  · exact hbased h
  · exact hbased h
  · simp only [decimalInteger?, Option.bind_eq_bind, Option.bind_eq_some_iff,
      Option.ite_none_right_eq_some, Option.some.injEq] at h
    obtain ⟨_, -, m, -, hfits, rfl⟩ := h
    exact hfits

theorem fits_of_word? {s : List Char} {value : Toml} (h : word? s = some value) : value.Fits := by
  rw [word?] at h
  split at h
  · cases h
    trivial
  split at h
  · cases h
    trivial
  split at h
  · next n hn =>
    cases h
    exact fitsInt64_of_integer? hn
  split at h
  · cases h
    trivial
  split at h
  · cases h
    trivial
  · cases h

theorem fits_of_readWord {s rest : List Char} {value : Toml} (h : readWord s = some (value, rest)) :
    value.Fits := by
  rw [readWord] at h
  split at h
  · split at h
    · cases h
      trivial
    · cases h
  · obtain ⟨word, hword, heq⟩ := Option.map_eq_some_iff.mp h
    cases heq
    exact fits_of_word? hword

theorem fits_of_readValue {depth : Nat} {s rest : List Char} {value : Toml}
    (h : readValue depth s = some (value, rest)) : value.Fits := by
  rw [readValue.eq_def] at h
  split at h
  · obtain ⟨_, -, heq⟩ := Option.map_eq_some_iff.mp h
    cases heq
    trivial
  · obtain ⟨_, -, heq⟩ := Option.map_eq_some_iff.mp h
    cases heq
    trivial
  · cases h
  · obtain ⟨_, -, heq⟩ := Option.bind_eq_some_iff.mp h
    cases heq
    trivial
  · cases h
  · split at h
    · cases h
      trivial
    · obtain ⟨_, -, heq⟩ := Option.bind_eq_some_iff.mp h
      obtain ⟨_, htable, heq⟩ := Option.bind_eq_some_iff.mp heq
      obtain ⟨_, -, hentries⟩ := Option.bind_eq_some_iff.mp htable
      cases hentries
      cases heq
      trivial
  · exact fits_of_readWord h

theorem fits_of_readPair {depth : Nat} {s rest : List Char} {key : List String} {value : Toml}
    (h : readPair (readValue depth) s = some ((key, value), rest)) : value.Fits := by
  rw [readPair] at h
  obtain ⟨⟨_, behind⟩, -, heq⟩ := Option.bind_eq_some_iff.mp h
  dsimp only at heq
  split at heq
  · obtain ⟨⟨item, _⟩, hitem, heq⟩ := Option.bind_eq_some_iff.mp heq
    cases heq
    exact fits_of_readValue hitem
  · cases heq

/-! ### Entries -/

namespace Entries

/-- Whether the integers among the entries of a table fit into 64 bits with a sign. -/
def Fit (entries : Entries) : Prop :=
  ∀ entry ∈ entries, entry.2.Fits

variable {entries changed : Entries} {name : String} {value : Toml}

theorem fit_nil : Fit [] :=
  nofun

theorem Fit.append (h : entries.Fit) (hvalue : value.Fits) : Fit (entries ++ [(name, value)]) := by
  intro entry hentry
  rw [List.mem_append, List.mem_singleton] at hentry
  rcases hentry with hentry | rfl
  · exact h entry hentry
  · exact hvalue

theorem Fit.replace (h : entries.Fit) (hvalue : value.Fits) : (entries.replace name value).Fit := by
  intro entry hentry
  obtain ⟨old, hold, rfl⟩ := List.mem_map.mp hentry
  split
  · exact hvalue
  · exact h old hold

theorem Fit.add? (h : entries.Fit) (hvalue : value.Fits)
    (hadd : entries.add? name value = some changed) : changed.Fit := by
  rw [Entries.add?] at hadd
  split at hadd
  · cases hadd
  · cases hadd
    exact h.append hvalue

theorem Fit.filter (h : entries.Fit) (keep : String × Toml → Bool) : Fit (entries.filter keep) :=
  fun entry hentry => h entry (List.mem_filter.mp hentry).1

/-- What is changed further inside is a table again. -/
theorem Fit.change? {α : Type} {byKey : Bool}
    {f : TableOrigin → Entries → Option (α × Entries)} {path : List String} {origin : TableOrigin}
    {result : α} (h : entries.Fit)
    (hf : ∀ {origin result changed}, f origin entries = some (result, changed) → changed.Fit)
    (hchange : entries.change? byKey f path origin = some (result, changed)) : changed.Fit := by
  rcases path with - | ⟨name, path⟩
  · exact hf hchange
  · rw [Entries.change?] at hchange
    split at hchange
    · obtain ⟨_, -, heq⟩ := Option.bind_eq_some_iff.mp hchange
      cases heq
      exact h.append trivial
    · split at hchange
      · cases hchange
      · obtain ⟨_, -, heq⟩ := Option.bind_eq_some_iff.mp hchange
        cases heq
        exact h.replace trivial
    · obtain ⟨_, -, heq⟩ := Option.bind_eq_some_iff.mp hchange
      cases heq
      exact h.replace trivial
    · cases hchange

theorem Fit.set? {origin : TableOrigin} {path : List String} (h : entries.Fit)
    (hvalue : value.Fits) (hset : entries.set? origin path name value = some changed) :
    changed.Fit := by
  rw [Entries.set?] at hset
  obtain ⟨⟨_, later⟩, hchange, heq⟩ := Option.bind_eq_some_iff.mp hset
  cases heq
  refine h.change? (fun hinsert => ?_) hchange
  split at hinsert
  · cases hinsert
  · obtain ⟨_, hadd, heq⟩ := Option.map_eq_some_iff.mp hinsert
    cases heq
    exact h.add? hvalue hadd

end Entries

/-! ### Documents -/

namespace Draft

/-- Whether the integers fit that are entries of the document itself.  What is being
written belongs to it as long as there has been no header. -/
structure Fit (draft : Draft) : Prop where
  root : draft.root.Fit
  current : draft.path = [] → draft.current.Fit

variable {draft later : Draft}

theorem Fit.finish? {entries : Entries} (h : draft.Fit) (hfinish : draft.finish? = some entries) :
    entries.Fit := by
  rw [Draft.finish?] at hfinish
  split at hfinish
  · next hpath =>
    cases hfinish
    exact h.current (List.getLast?_eq_none_iff.mp hpath)
  -- under a header, what has been written goes into a table, or into the last of its elements
  · obtain ⟨⟨_, root⟩, hchange, heq⟩ := Option.bind_eq_some_iff.mp hfinish
    cases heq
    refine h.root.change? (fun hinsert => ?_) hchange
    split at hinsert
    · split at hinsert
      · cases hinsert
        exact h.root.replace trivial
      · cases hinsert
    · obtain ⟨_, hadd, heq⟩ := Option.map_eq_some_iff.mp hinsert
      cases heq
      have htable : (table .header draft.current).Fits := trivial
      exact h.root.add? htable hadd

/-- Behind a header, what is written belongs to a table. -/
theorem Fit.of_header {path : List String} {name : String} {root current : Entries}
    {isElement : Bool} (hname : path.getLast? = some name) (hroot : root.Fit) :
    Fit { root, path, isElement, current } where
  root := hroot
  current hpath := by
    obtain rfl : path = [] := hpath
    cases hname

theorem Fit.startTable? {path : List String} (h : draft.Fit)
    (hstart : draft.startTable? path = some later) : later.Fit := by
  obtain ⟨name, hname, hstart⟩ := Option.bind_eq_some_iff.mp hstart
  obtain ⟨finished, hfinish, hstart⟩ := Option.bind_eq_some_iff.mp hstart
  obtain ⟨⟨_, root⟩, hchange, heq⟩ := Option.bind_eq_some_iff.mp hstart
  cases heq
  have hfinished := h.finish? hfinish
  refine .of_header hname (hfinished.change? (fun htake => ?_) hchange)
  split at htake
  · cases htake
    exact hfinished
  · cases htake
    exact hfinished.filter _
  · cases htake

theorem Fit.startElement? {path : List String} (h : draft.Fit)
    (hstart : draft.startElement? path = some later) : later.Fit := by
  obtain ⟨name, hname, hstart⟩ := Option.bind_eq_some_iff.mp hstart
  obtain ⟨finished, hfinish, hstart⟩ := Option.bind_eq_some_iff.mp hstart
  obtain ⟨⟨_, root⟩, hchange, heq⟩ := Option.bind_eq_some_iff.mp hstart
  cases heq
  have hfinished := h.finish? hfinish
  refine .of_header hname (hfinished.change? (fun hready => ?_) hchange)
  split at hready
  · cases hready
    exact hfinished.append trivial
  · cases hready
    exact hfinished
  · cases hready

theorem Fit.setKey? {key : List String} {value : Toml} (h : draft.Fit) (hvalue : value.Fits)
    (hset : draft.setKey? key value = some later) : later.Fit := by
  obtain ⟨name, -, hset⟩ := Option.bind_eq_some_iff.mp hset
  obtain ⟨current, hcurrent, heq⟩ := Option.bind_eq_some_iff.mp hset
  cases heq
  exact ⟨h.root, fun hpath => (h.current hpath).set? hvalue hcurrent⟩

theorem Fit.readLine {s rest : List Char} (h : draft.Fit)
    (hread : readLine draft s = some (later, rest)) : later.Fit := by
  rw [readLine.eq_def] at hread
  split at hread
  · obtain ⟨_, -, heq⟩ := Option.map_eq_some_iff.mp hread
    cases heq
    exact h
  · obtain ⟨⟨path, behind⟩, -, hread⟩ := Option.bind_eq_some_iff.mp hread
    dsimp only at hread
    split at hread
    · obtain ⟨started, hstart, hread⟩ := Option.bind_eq_some_iff.mp hread
      obtain ⟨_, -, heq⟩ := Option.bind_eq_some_iff.mp hread
      cases heq
      exact h.startElement? hstart
    · cases hread
  · obtain ⟨⟨path, behind⟩, -, hread⟩ := Option.bind_eq_some_iff.mp hread
    dsimp only at hread
    split at hread
    · obtain ⟨started, hstart, hread⟩ := Option.bind_eq_some_iff.mp hread
      obtain ⟨_, -, heq⟩ := Option.bind_eq_some_iff.mp hread
      cases heq
      exact h.startTable? hstart
    · cases hread
  · split at hread
    · cases hread
      exact h
    · obtain ⟨⟨⟨key, value⟩, behind⟩, hpair, hread⟩ := Option.bind_eq_some_iff.mp hread
      obtain ⟨set, hset, hread⟩ := Option.bind_eq_some_iff.mp hread
      obtain ⟨_, -, heq⟩ := Option.bind_eq_some_iff.mp hread
      cases heq
      exact h.setKey? (fits_of_readPair hpair) hset

theorem Fit.readLines {limit : Nat} {s : List Char} (h : draft.Fit)
    (hread : readLines limit draft s = some later) : later.Fit := by
  -- each line leaves a draft that fits, whatever kind of line it is
  induction limit generalizing draft s with
  | zero => cases hread
  | succ limit ih =>
    rw [Toml.readLines] at hread
    split at hread
    · cases hread
      exact h
    · obtain ⟨⟨next, rest⟩, hline, hread⟩ := Option.bind_eq_some_iff.mp hread
      exact ih (h.readLine hline) hread

end Draft

/-- **The integers of a document fit into 64 bits with a sign.** -/
theorem fit_of_ofText? {text : String} {entries : Entries} (h : ofText? text = some entries) :
    entries.Fit := by
  obtain ⟨draft, hread, hfinish⟩ := Option.bind_eq_some_iff.mp h
  have hempty : Draft.Fit {} := ⟨Entries.fit_nil, fun _ => Entries.fit_nil⟩
  exact (hempty.readLines hread).finish? hfinish

/-- An entry that is found is one of the entries. -/
theorem Entries.Fit.lookup {entries : Entries} (h : entries.Fit) {name : String} {n : Int}
    (hlookup : entries.lookup name = some (.integer n)) : Numeral.fitsInt64 n := by
  obtain ⟨before, after, rfl, -⟩ := List.lookup_eq_some_iff.mp hlookup
  exact h (name, .integer n) (List.mem_append_right _ List.mem_cons_self)

end Toml

end SqlNotebook
