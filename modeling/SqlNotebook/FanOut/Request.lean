/-
SqlNotebook/FanOut/Request.lean

What has to hold before a query is fanned out.
-/
import SqlNotebook.FanOut.Query

namespace SqlNotebook.FanOut

/-- A query to be run once for every item of a list. -/
structure Request where
  /-- The query, with or without `USING` in front. -/
  sql : String
  /-- The name of the list variable. -/
  name : String
  value : HostValue
  /-- How many connections may be used at the same time. -/
  workers : Nat

/-- A query that can be fanned out. -/
structure Plan where
  /-- The query with the reference to the list variable. -/
  template : String
  items : List HostValue
  /-- The query with which the database is asked for the columns. -/
  sampleSql : String

/-- Checks a request, as far as that is possible without the database. -/
def Request.plan (request : Request) : Except Rejection Plan := do
  let template ← body request.sql request.name
  if !Text.contains template (":" ++ request.name) then throw (.unused request.name)
  match request.value with
  | .list items =>
    let item ← sample request.name items
    return ⟨template, items, itemSql template request.name item⟩
  | _ => throw (.notList request.name)

/-- A plan has the query behind `USING`, and the items of the list. -/
theorem Request.plan_eq_ok {request : Request} {plan : Plan} (h : request.plan = .ok plan) :
    body request.sql request.name = .ok plan.template ∧ request.value = .list plan.items := by
  rw [Request.plan] at h
  rcases hbody : body request.sql request.name with rejection | template
  all_goals rw [hbody] at h
  · cases h
  simp only [bind, Except.bind] at h
  split at h
  · cases h
  split at h
  · next items hvalue =>
    rcases hsample : sample request.name items with rejection | item
    all_goals rw [hsample] at h
    · cases h
    · obtain rfl := Except.ok.inj h
      exact ⟨rfl, hvalue⟩
  · cases h

/-- The query for each item. -/
def Plan.queries (plan : Plan) (name : String) : List String :=
  plan.items.map (itemSql plan.template name)

/-- What a fan-out has brought together. -/
structure Report where
  /-- The rows for all items, labelled from zero. -/
  table : ResultTable
  /-- The number of items. -/
  partitions : Nat
  /-- The queries, in the order in which they have been sent. -/
  issued : List String
deriving DecidableEq, Repr

end SqlNotebook.FanOut
