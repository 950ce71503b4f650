/-
SqlNotebook/Proofs/FanOut/Placeholder.lean

What the check for the placeholder of a fan-out finds out.  A query depends on the items
exactly if it refers to the list variable:

    a reference `:name`  ↔  two items give different queries

The check asks for less, namely for the text `:name`, wherever it stands and however it
goes on.  A query that refers to the variable is never turned away, but one that only has
the text somewhere is run as it is, once for every item.
-/
import SqlNotebook.FanOut.Request
import SqlNotebook.Proofs.Binding.Reference

namespace SqlNotebook.FanOut

open Binding

/-- Whether a query refers to the list variable: one of its references resolves to the item
where nothing else has a value. -/
def Refers (template name : String) : Prop :=
  ∃ other, .reference other ∈ segments template ∧
    ∀ item, Segment.value? (.single name item) other = some item

variable {template name : String}

/-! ### What the items do -/

/-- The reference has the name of the variable, and this is a name that can have a value. -/
theorem refers_iff :
    Refers template name ↔
      .reference name.toList ∈ segments template ∧ isResolvable name.toList := by
  constructor
  · rintro ⟨other, hmem, hvalue⟩
    have hsome := hvalue (.integer 0)
    rw [value?_single] at hsome
    split at hsome
    · next hother => exact ⟨hother.1 ▸ hmem, hother.2⟩
    · cases hsome
  · rintro ⟨hmem, hresolvable⟩
    exact ⟨name.toList, hmem, fun item => by rw [value?_single, if_pos ⟨rfl, hresolvable⟩]⟩

/-- Without a reference, every item gives the template. -/
theorem itemSql_of_not_refers (h : ¬ Refers template name) (item : HostValue) :
    itemSql template name item = template := by
  refine HostEnv.bind_of_unresolved fun other hother => ?_
  rw [value?_single, if_neg]
  rintro ⟨rfl, hresolvable⟩
  exact h (refers_iff.mpr ⟨hother, hresolvable⟩)

/-- A segment is bound to the item if it is a reference to it, and otherwise copied. -/
theorem bound_single (item : HostValue) (next : Option Char) (segment : Segment) :
    segment.bound (.single name item) next =
      if segment = .reference name.toList ∧ isResolvable name.toList then
        (item.toSql (next ≠ some '.')).toList
      else segment.source := by
  cases segment with
  | reference other =>
    by_cases hname : other = name.toList ∧ isResolvable name.toList
    · rw [if_pos ⟨congrArg Segment.reference hname.1, hname.2⟩, bound_of_value?]
      rw [value?_single, if_pos hname]
    · rw [if_neg fun h => hname ⟨Segment.reference.inj h.1, h.2⟩, bound_of_value?_eq_none]
      · rfl
      · rw [value?_single, if_neg hname]
  | quoted | plain => rfl

/-- With a reference, the numbers one and two give different texts. -/
theorem render_one_ne_render_two {cuts : List Segment} (hmem : .reference name.toList ∈ cuts)
    (hresolvable : isResolvable name.toList) :
    Segment.render (.single name (.integer 1)) cuts ≠
      Segment.render (.single name (.integer 2)) cuts := by
  induction cuts with
  | nil => cases hmem
  | cons segment rest ih =>
    rw [Segment.render, Segment.render, bound_single, bound_single]
    by_cases hsegment : segment = .reference name.toList
    · rw [if_pos ⟨hsegment, hresolvable⟩, if_pos ⟨hsegment, hresolvable⟩]
      have hone (quote : Bool) : ((HostValue.integer 1).toSql quote).toList = ['1'] := by
        rw [HostValue.toSql]
        rfl
      have htwo (quote : Bool) : ((HostValue.integer 2).toSql quote).toList = ['2'] := by
        rw [HostValue.toSql]
        rfl
      -- the texts part at the first digit, whatever stands behind it
      rw [hone, htwo]
      simp
    · rw [if_neg fun h => hsegment h.1, if_neg fun h => hsegment h.1]
      have hrest := ih ((List.mem_cons.mp hmem).resolve_left fun h => hsegment h.symm)
      exact fun heq => hrest (List.append_cancel_left heq)

/-- **The items make a difference exactly if the query refers to the variable.** -/
theorem refers_iff_itemSql_ne :
    Refers template name ↔
      ∃ item other, itemSql template name item ≠ itemSql template name other := by
  constructor
  · intro h
    obtain ⟨hmem, hresolvable⟩ := refers_iff.mp h
    refine ⟨.integer 1, .integer 2, fun heq => render_one_ne_render_two hmem hresolvable ?_⟩
    rw [← HostEnv.toList_bind, ← HostEnv.toList_bind]
    exact congrArg String.toList heq
  · rintro ⟨item, other, hne⟩
    by_contra h
    exact hne ((itemSql_of_not_refers h item).trans (itemSql_of_not_refers h other).symm)

/-! ### What the check asks for -/

theorem contains_placeholder_iff :
    Text.contains template (":" ++ name) ↔
      ∃ before after, template.toList = before ++ ':' :: (name.toList ++ after) := by
  have hcolon : (":" ++ name).toList = ':' :: name.toList := by
    rw [String.toList_append]
    rfl
  rw [Text.contains, Chars.occurs_iff_isInfix, hcolon]
  constructor
  · rintro ⟨before, after, h⟩
    exact ⟨before, after, by rw [← h, List.append_assoc, List.cons_append]⟩
  · rintro ⟨before, after, h⟩
    exact ⟨before, after, by rw [h, List.append_assoc, List.cons_append]⟩

theorem sample_ne_unused (items : List HostValue) : sample name items ≠ .error (.unused name) := by
  intro h
  rcases items with - | ⟨item, items⟩
  · cases h
  · rcases item with _ | _ | _ | _ | ⟨- | ⟨first, rest⟩⟩ | _ | _ <;> cases h

namespace Request

variable {request : Request}

/-- What is checked behind the text of the query. -/
theorem plan_of_body (hbody : body request.sql request.name = .ok template) :
    request.plan =
      if Text.contains template (":" ++ request.name) then
        match request.value with
        | .list items =>
          (sample request.name items).map fun item =>
            ⟨template, items, itemSql template request.name item⟩
        | _ => .error (.notList request.name)
      else .error (.unused request.name) := by
  rw [plan, hbody]
  by_cases hcontains : Text.contains template (":" ++ request.name)
  · rw [if_pos hcontains]
    simp only [bind, Except.bind, hcontains, Bool.not_true, Bool.false_eq_true, if_false]
    rcases request.value with _ | _ | _ | _ | items | _ | _
    all_goals rfl
  · rw [if_neg hcontains]
    simp only [bind, Except.bind, hcontains, Bool.not_false, if_true]
    rfl

/-- The check fails exactly if the text is not there. -/
theorem plan_eq_unused_iff (hbody : body request.sql request.name = .ok template) :
    request.plan = .error (.unused request.name) ↔
      ¬ Text.contains template (":" ++ request.name) := by
  rw [plan_of_body hbody]
  by_cases hcontains : Text.contains template (":" ++ request.name)
  · rw [if_pos hcontains]
    refine iff_of_false (fun h => ?_) (not_not_intro hcontains)
    split at h
    · next items hitems =>
      rcases hsample : sample request.name items with rejection | item
      · rw [hsample] at h
        cases h
        exact sample_ne_unused items hsample
      · rw [hsample] at h
        cases h
    · cases h
  · rw [if_neg hcontains]
    exact iff_of_true rfl hcontains

/-- **The check passes every query with the text `:name` in it.**  A query refers to the
variable, and so depends on the items, exactly if this text is somewhere a reference with
the whole name; otherwise it is planned as it is, once for every item. -/
theorem plan_placeholder (request : Request) (template : String)
    (hbody : body request.sql request.name = .ok template) :
    (request.plan ≠ .error (.unused request.name) ↔
        ∃ before after, template.toList = before ++ ':' :: (request.name.toList ++ after)) ∧
      (Refers template request.name ↔
        isResolvable request.name.toList ∧
          ∃ before after, template.toList = before ++ ':' :: (request.name.toList ++ after) ∧
            Starts (.copying none) before request.name.toList after) ∧
      (Refers template request.name ↔
        ∃ item other, itemSql template request.name item ≠ itemSql template request.name other) ∧
      (¬ Refers template request.name → ∀ plan, request.plan = .ok plan →
        plan.queries request.name = List.replicate plan.items.length template) := by
  refine ⟨?_, ?_, refers_iff_itemSql_ne, fun hrefers plan hplan => ?_⟩
  · rw [ne_eq, plan_eq_unused_iff hbody, not_not, contains_placeholder_iff]
  · rw [refers_iff, mem_segments_iff, and_comm]
  · obtain rfl : plan.template = template :=
      Except.ok.inj ((plan_eq_ok hplan).1.symm.trans hbody)
    rw [Plan.queries, List.eq_replicate_iff, List.length_map]
    refine ⟨rfl, fun query hquery => ?_⟩
    obtain ⟨item, -, rfl⟩ := List.mem_map.mp hquery
    exact itemSql_of_not_refers hrefers item

/-- A request whose query has the text of the placeholder in quotes, in a longer name and as
a reference. -/
def thrice : Request where
  sql := "USING id SELECT ':id', :ids FROM T WHERE ID = :id"
  name := "id"
  value := .list [.integer 1, .integer 2]
  workers := 2

theorem plan_placeholder_thrice :
    body thrice.sql thrice.name = .ok "SELECT ':id', :ids FROM T WHERE ID = :id" ∧
      thrice.plan ≠ .error (.unused "id") ∧
      Refers "SELECT ':id', :ids FROM T WHERE ID = :id" "id" := by
  have hbody : body thrice.sql thrice.name = .ok "SELECT ':id', :ids FROM T WHERE ID = :id" := by
    decide +kernel
  obtain ⟨hpasses, hrefers, -⟩ := plan_placeholder thrice _ hbody
  have htext : "SELECT ':id', :ids FROM T WHERE ID = :id".toList =
      "SELECT ':id', :ids FROM T WHERE ID = ".toList ++ ':' :: ("id".toList ++ []) := by
    decide +kernel
  have hnamed : ∀ c ∈ "id".toList, isNameChar c := List.all_eq_true.mp (by decide)
  exact ⟨hbody, hpasses.mpr ⟨_, _, htext⟩,
    hrefers.mpr ⟨by decide, _, _, htext, by decide +kernel, hnamed, nofun⟩⟩

/-- A request whose query has the placeholder in a longer name alone. -/
def prefixed : Request where
  sql := "SELECT * FROM T WHERE A = :ids"
  name := "id"
  value := .list [.integer 1, .integer 2]
  workers := 1

/-- A query that passes the check need not depend on the items. -/
theorem plan_passes_prefixed :
    ¬ ∀ (request : Request) (template : String) (items : List HostValue),
      body request.sql request.name = .ok template → request.value = .list items →
      (request.plan ≠ .error (.unused request.name) ↔ Refers template request.name) := by
  intro h
  have hbody : body prefixed.sql prefixed.name = .ok prefixed.sql := by decide +kernel
  have hpasses : prefixed.plan ≠ .error (.unused prefixed.name) := by
    rw [ne_eq, plan_eq_unused_iff hbody, not_not]
    decide +kernel
  have hcuts : .reference "id".toList ∉ segments prefixed.sql := by decide +kernel
  exact hcuts (refers_iff.mp ((h prefixed prefixed.sql _ hbody rfl).mp hpasses)).1

end Request

end SqlNotebook.FanOut
