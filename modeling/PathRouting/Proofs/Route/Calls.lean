/-
  The functions of a tree that a resolution calls.

  The steps of a search hold the places of their nodes, which change with the shape of a tree.
  What is left without them are calls: the conditions and the answers of the tree itself, in
  order, each with what it is called with.

  * `RouteTree.calls`: the calls of a resolution, read off the steps of its search.
  * `report_eq`: what a tree answers and calls, by what its children answer and call.
  * `exists_call`: no decision and no answer of a search is left out.
-/
import PathRouting.Proofs.Route.Log

namespace PathRouting

open Pattern

variable {R C : Type}

/-! ## Calls -/

/-- A function of a tree with what it is called with. -/
inductive Call (R C : Type) where
  | condition (holds : Bindings → C → Bool) (bindings : Bindings) (context : C)
  | answer (answer : Bindings → C → R) (bindings : Bindings) (context : C)

namespace RouteTree

/-- The child with a number. -/
def child? : RouteTree R C → ℕ → Option (RouteTree R C)
  | .container _ children, n => children[n]?
  | .choice _ yes _, 0 => yes
  | .choice _ _ no, 1 => no
  | .annotated _ child, 0 => some child
  | _, _ => none

/-- The node at a place. -/
def node? (t : RouteTree R C) (place : Place) : Option (RouteTree R C) :=
  place.foldlM child? t

theorem node?_below (t : RouteTree R C) (place : Place) (n : ℕ) :
    t.node? (place ++ [n]) = (t.node? place).bind (·.child? n) := by
  rw [node?, List.foldlM_append]
  exact Option.bind_congr fun u _ => by simp [List.foldlM]

/-- The call that a step of a search in the tree makes, if it makes one. -/
def call? (t : RouteTree R C) : SearchEvent R C → Option (Call R C)
  | .tried .. => none
  | .decided place b context _ =>
    match t.node? place with
    | some (.choice condition _ _) => some (.condition condition b context)
    | _ => none
  | .answered place b context _ =>
    match t.node? place with
    | some (.route _ answer) => some (.answer answer b context)
    | _ => none

/-- The calls of a resolution. -/
def calls (t : RouteTree R C) (path : Text) (context : C) (b : Bindings) : List (Call R C) :=
  (t.search context [] path b).events.filterMap t.call?

theorem Reaches.node?_eq {t node : RouteTree R C} {path rest : Text} {place : Place}
    {parts : List Part} (h : t.Reaches path place parts node rest) : t.node? place = some node := by
  induction h with
  | here => rfl
  | index hc _ ih | container hc _ _ _ ih =>
    rw [node?, List.foldlM_cons, child?, hc]
    exact ih
  | whenTrue _ ih | whenFalse _ ih | annotated _ ih => exact ih

/-- Each decision and each answer of a search is a call of a function of the tree. -/
theorem exists_call {t : RouteTree R C} {context : C} {path : Text} {b : Bindings}
    {e : SearchEvent R C} (he : e ∈ (t.search context [] path b).events) (htrial : ¬e.IsTrial) :
    ∃ call, t.call? e = some call := by
  obtain ⟨below, parts, node, rest, hplace, hreaches, htaken⟩ :=
    search_explains context [] t path b e he
  have hnode : t.node? e.place = some node := by
    rw [hplace]
    exact hreaches.node?_eq
  cases e with
  | tried => exact absurd trivial htrial
  | decided place bindings given outcome =>
    obtain ⟨condition, yes, no, rfl, -⟩ := htaken
    exact ⟨.condition condition bindings given, by rw [call?, show t.node? place = _ from hnode]⟩
  | answered place bindings given result =>
    obtain ⟨p, answer, m, rfl, -⟩ := htaken
    exact ⟨.answer answer bindings given, by rw [call?, show t.node? place = _ from hnode]⟩

end RouteTree

/-! ## Reports -/

/-- What a tree answers, and the calls that it makes. -/
structure Report (R C : Type) where
  found : Option (Resolution R)
  calls : List (Call R C)

namespace Report

/-- Nothing answered, nothing called. -/
def nothing : Report R C := ⟨none, []⟩

/-- One more call in front. -/
def after (call : Call R C) (r : Report R C) : Report R C := ⟨r.found, call :: r.calls⟩

/-- A report, and another one if it has no answer. -/
def orElse (r next : Report R C) : Report R C :=
  match r.found with
  | some found => ⟨some found, r.calls⟩
  | none => ⟨next.found, r.calls ++ next.calls⟩

/-- Reports up to the first one with an answer. -/
def first (rs : List (Report R C)) : Report R C := rs.foldr orElse nothing

theorem orElse_assoc (a b c : Report R C) : (a.orElse b).orElse c = a.orElse (b.orElse c) := by
  obtain ⟨found, calls⟩ := a
  cases found with
  | some found => rfl
  | none =>
    obtain ⟨found, calls⟩ := b
    cases found <;> simp [orElse]

theorem first_cons (r : Report R C) (rs : List (Report R C)) :
    first (r :: rs) = r.orElse (first rs) := rfl

theorem first_append (rs qs : List (Report R C)) :
    first (rs ++ qs) = (first rs).orElse (first qs) := by
  induction rs with
  | nil => rfl
  | cons r rs ih => rw [List.cons_append, first_cons, first_cons, ih, orElse_assoc]

end Report

/-- The report of a search, by the tree that its places are of. -/
def Search.report (t : RouteTree R C) (s : Search R C) : Report R C :=
  ⟨s.found, s.events.filterMap t.call?⟩

theorem Search.report_after {t : RouteTree R C} {e : SearchEvent R C} {call : Call R C}
    (h : t.call? e = some call) (s : Search R C) :
    (s.after e).report t = (s.report t).after call := by
  rw [report, Search.after, List.filterMap_cons_some h]
  rfl

theorem Search.report_orElse (t : RouteTree R C) (s next : Search R C) :
    (s.orElse next).report t = (s.report t).orElse (next.report t) := by
  obtain ⟨found, events⟩ := s
  cases found <;> simp [report, orElse, Report.orElse]

namespace RouteTree

/-- What a tree answers and calls. -/
def report (t : RouteTree R C) (path : Text) (context : C) (b : Bindings) : Report R C :=
  ⟨t.resolve path context b, t.calls path context b⟩

/-- The report of a tree by those of its children. -/
def reported (path : Text) (context : C) (b : Bindings) : RouteTree R C → Report R C
  | .route p answer =>
    match p.match? path with
    | none => .nothing
    | some m =>
      if m.consumed = Text.utf8Length path then
        ⟨some ⟨answer (b.extended m.bindings) context, b.extended m.bindings⟩,
          [.answer answer (b.extended m.bindings) context]⟩
      else .nothing
  | .container none children => .first (children.map (·.report path context b))
  | .container (some p) children =>
    match p.match? path with
    | none => .nothing
    | some m => .first (children.map
        (·.report (Text.dropUtf8 m.consumed path) context (b.extended m.bindings)))
  | .choice condition yes no =>
    ((if condition b context then yes else no).elim .nothing fun t =>
      t.report path context b).after (.condition condition b context)
  | .annotated _ child => child.report path context b

section
variable {t : RouteTree R C} {context : C} {place : Place} {path : Text} {b : Bindings}

theorem report_searchRoute {p : RoutePattern} {answer : Bindings → C → R}
    (h : t.node? place = some (.route p answer)) :
    (searchRoute context place p answer path b).report t =
      (route p answer).reported path context b := by
  have hcall : ∀ b result, t.call? (.answered place b context result) =
      some (.answer answer b context) := by
    intro b result
    rw [call?, h]
  rw [searchRoute, reported]
  cases p.match? path with
  | none => rfl
  | some m =>
    simp only
    split
    · rw [Search.report, List.filterMap_cons_none rfl, List.filterMap_cons_some (hcall _ _)]
      rfl
    · rfl

end

mutual

/-- A search at a place of a tree calls the functions of the node there. -/
theorem report_search {context : C} : ∀ (s : RouteTree R C) {t : RouteTree R C} {place : Place},
    t.node? place = some s → ∀ (path : Text) (b : Bindings),
      (s.search context place path b).report t = s.reported path context b
  | .route p answer, t, place, h, path, b => report_searchRoute h
  | .container none children, t, place, h, path, b => by
    rw [search, reported]
    refine report_searchFirst children (fun i => ?_) path b
    rw [node?_below, h, Nat.zero_add]
    rfl
  | .container (some p) children, t, place, h, path, b => by
    rw [search, reported]
    cases p.match? path with
    | none => rfl
    | some m =>
      refine report_searchFirst children (fun i => ?_) _ _
      rw [node?_below, h, Nat.zero_add]
      rfl
  | .choice condition yes no, t, place, h, path, b => by
    have hbelow : ∀ n, t.node? (place ++ [n]) = (choice condition yes no).child? n := by
      intro n
      rw [node?_below, h]
      rfl
    have hcall : ∀ outcome, t.call? (.decided place b context outcome) =
        some (.condition condition b context) := by
      intro outcome
      rw [call?, h]
    rw [search, reported, Search.report_after (hcall _)]
    split
    · rw [report_searchBranch yes (hbelow 0)]
    · rw [report_searchBranch no (hbelow 1)]
  | .annotated payload child, t, place, h, path, b => by
    have hchild : t.node? (place ++ [0]) = some child := by
      rw [node?_below, h]
      rfl
    rw [search, reported, report_search child hchild]
    exact (report_search child rfl path b).symm

theorem report_searchFirst {context : C} : ∀ (ts : List (RouteTree R C)) {t : RouteTree R C}
    {place : Place} {n : ℕ}, (∀ i, t.node? (place ++ [n + i]) = ts[i]?) →
      ∀ (path : Text) (b : Bindings), (searchFirst context place n ts path b).report t =
        .first (ts.map (·.report path context b))
  | [], t, place, n, h, path, b => rfl
  | s :: ts, t, place, n, h, path, b => by
    have hfirst : t.node? (place ++ [n]) = some s := h 0
    have hself : s.report path context b = s.reported path context b :=
      report_search s rfl path b
    have hrest : ∀ i, t.node? (place ++ [n + 1 + i]) = ts[i]? := by
      intro i
      rw [Nat.add_right_comm, Nat.add_assoc]
      exact h (i + 1)
    rw [searchFirst, Search.report_orElse, report_search s hfirst, report_searchFirst ts hrest,
      List.map_cons, Report.first_cons, hself]

theorem report_searchBranch {context : C} : ∀ (o : Option (RouteTree R C)) {t : RouteTree R C}
    {place : Place}, t.node? place = o → ∀ (path : Text) (b : Bindings),
      (searchBranch context place o path b).report t =
        o.elim .nothing fun s => s.report path context b
  | none, t, place, h, path, b => rfl
  | some s, t, place, h, path, b => by
    rw [searchBranch, report_search s h]
    exact (report_search s rfl path b).symm

end

/-- **Reports.** What a tree answers and calls is put together from what its children do. -/
theorem report_eq (t : RouteTree R C) (path : Text) (context : C) (b : Bindings) :
    t.report path context b = t.reported path context b :=
  report_search t rfl path b

end RouteTree

end PathRouting
