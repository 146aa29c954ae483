/-
  What a route tree resolves, said by chains.

  A chain leads from the root of a tree down to a route. It is given by its
  links: the patterns on it, the siblings that stand in front of its nodes, and
  the conditions on one of whose sides it goes on. A path follows a chain if it
  is made of parts such that each pattern takes its part off what is left, the
  siblings resolve nothing, and the conditions come out as they should.

  * `resolve_eq_some_iff`: resolution finds the answer of a chain that the path
    follows, under the bindings of all its patterns, and nothing if there is
    none.
-/
import PathRouting.Route.Resolution
import Mathlib.Data.List.Basic

namespace PathRouting

open Pattern

variable {R C : Type}

/-! ## Chains -/

/-- What a chain passes on its way down. -/
inductive Link (R C : Type) where
  /-- the pattern of a container or of the route -/
  | pattern (p : RoutePattern)
  /-- the siblings in front of the next node -/
  | siblings (earlier : List (RouteTree R C))
  /-- a condition, on the side of one of its outcomes -/
  | condition (holds : Bindings → C → Bool) (outcome : Bool)

/-- The chains from the root of a tree to a route with a given answer. -/
inductive RouteTree.Chain : RouteTree R C → List (Link R C) → (Bindings → C → R) → Prop
  | route {p answer} : Chain (.route p answer) [.pattern p] answer
  | index {before child after links answer} : Chain child links answer →
      Chain (.container none (before ++ child :: after)) (.siblings before :: links) answer
  | container {p before child after links answer} : Chain child links answer →
      Chain (.container (some p) (before ++ child :: after))
        (.pattern p :: .siblings before :: links) answer
  | whenTrue {condition yes no links answer} : Chain yes links answer →
      Chain (.choice condition (some yes) no) (.condition condition true :: links) answer
  | whenFalse {condition yes no links answer} : Chain no links answer →
      Chain (.choice condition yes (some no)) (.condition condition false :: links) answer
  | annotated {payload child links answer} : Chain child links answer →
      Chain (.annotated payload child) links answer

/-- The part of a path that a pattern takes off, and the match. -/
structure Part where
  text : Text
  found : PatternMatch

namespace Part

/-- The parts of a path one behind the other. -/
def join (parts : List Part) : Text := parts.flatMap (·.text)

/-- Bindings with those of the matches on top, the later ones over the earlier. -/
def extend (b : Bindings) (parts : List Part) : Bindings :=
  parts.foldl (fun b p => b.extended p.found.bindings) b

end Part

/-- A path that is made of the parts follows a chain with the given links, on top
    of the given bindings. -/
inductive Follows (context : C) : List (Link R C) → List Part → Bindings → Prop
  | done {b} : Follows context [] [] b
  | pattern {p links s m parts b} : p.match? (s ++ Part.join parts) = some m →
      m.consumed = Text.utf8Length s → Follows context links parts (b.extended m.bindings) →
      Follows context (.pattern p :: links) (⟨s, m⟩ :: parts) b
  | siblings {earlier links parts b} :
      (∀ t ∈ earlier, t.resolve (Part.join parts) context b = none) →
      Follows context links parts b → Follows context (.siblings earlier :: links) parts b
  | condition {holds outcome links parts b} : holds b context = outcome →
      Follows context links parts b → Follows context (.condition holds outcome :: links) parts b

/-! ## Resolution, node by node -/

/-- A match takes off a first part of the text. -/
theorem RoutePattern.match?_split {p : RoutePattern} {path : Text} {m : PatternMatch}
    (h : p.match? path = some m) : ∃ s rest, path = s ++ rest ∧ m.consumed = Text.utf8Length s := by
  simp only [match?, Matcher.match?, Regex.captures, Option.map_map, Option.map_eq_some_iff] at h
  obtain ⟨found, -, rfl⟩ := h
  exact ⟨path.take found.found.stop, path.drop found.found.stop, (List.take_append_drop _ _).symm, rfl⟩

namespace RouteTree

variable (context : C)

mutual

/-- What a search finds does not depend on the place that it notes. -/
theorem search_found (place : Place) : ∀ (t : RouteTree R C) (path : Text) (b : Bindings),
    (t.search context place path b).found = t.resolve path context b
  | .route p answer, path, b => by
    simp only [resolve, search, searchRoute]
    split
    · rfl
    · split <;> rfl
  | .container none children, path, b => by
    simp only [resolve, search, searchFirst_found]
  | .container (some p) children, path, b => by
    simp only [resolve, search]
    split
    · rfl
    · simp only [Search.after, searchFirst_found]
  | .choice condition yes no, path, b => by
    simp only [resolve, search, Search.after]
    split <;> simp only [searchBranch_found]
  | .annotated payload child, path, b => by
    simp only [resolve, search]
    rw [search_found _ child, search_found _ child]

theorem searchFirst_found (place : Place) (n : ℕ) : ∀ (ts : List (RouteTree R C)) (path : Text)
    (b : Bindings), (searchFirst context place n ts path b).found =
      ts.findSome? (·.resolve path context b)
  | [], path, b => rfl
  | t :: ts, path, b => by
    simp only [searchFirst, Search.orElse, search_found _ t, List.findSome?_cons]
    split <;> simp_all [searchFirst_found _ _ ts]

theorem searchBranch_found (place : Place) : ∀ (o : Option (RouteTree R C)) (path : Text)
    (b : Bindings), (searchBranch context place o path b).found =
      o.bind (·.resolve path context b)
  | none, path, b => rfl
  | some t, path, b => by simp only [searchBranch, search_found _ t, Option.bind_some]

end

@[simp] theorem resolve_route (p : RoutePattern) (answer : Bindings → C → R) (path : Text)
    (b : Bindings) : (route p answer).resolve path context b = (p.match? path).bind fun m =>
      if m.consumed = Text.utf8Length path then
        some ⟨answer (b.extended m.bindings) context, b.extended m.bindings⟩
      else none := by
  simp only [resolve, search, searchRoute]
  cases p.match? path with
  | none => rfl
  | some m => simp only [Option.bind_some]; split <;> rfl

@[simp] theorem resolve_index (children : List (RouteTree R C)) (path : Text) (b : Bindings) :
    (container none children).resolve path context b =
      children.findSome? (·.resolve path context b) := by
  rw [resolve, search, searchFirst_found]

@[simp] theorem resolve_container (p : RoutePattern) (children : List (RouteTree R C)) (path : Text)
    (b : Bindings) : (container (some p) children).resolve path context b =
      (p.match? path).bind fun m => children.findSome?
        (·.resolve (Text.dropUtf8 m.consumed path) context (b.extended m.bindings)) := by
  rw [resolve, search]
  cases p.match? path with
  | none => rfl
  | some m => simp only [Search.after, searchFirst_found, Option.bind_some]

@[simp] theorem resolve_choice (condition : Bindings → C → Bool) (yes no : Option (RouteTree R C))
    (path : Text) (b : Bindings) : (choice condition yes no).resolve path context b =
      (if condition b context then yes else no).bind (·.resolve path context b) := by
  rw [resolve, search]
  simp only [Search.after]
  split <;> rw [searchBranch_found]

@[simp] theorem resolve_annotated (payload : Json) (child : RouteTree R C) (path : Text)
    (b : Bindings) : (annotated payload child).resolve path context b =
      child.resolve path context b := by
  rw [resolve, search, search_found]

/-! ## Chains and resolution -/

/-- A tree answers a path that follows one of its chains. -/
theorem resolve_of_follows {t : RouteTree R C} {links : List (Link R C)} {answer : Bindings → C → R}
    (h : t.Chain links answer) : ∀ {parts : List Part} {b : Bindings},
    Follows context links parts b → t.resolve (Part.join parts) context b =
      some ⟨answer (Part.extend b parts) context, Part.extend b parts⟩ := by
  induction h with
  | route =>
    intro parts b hf
    cases hf with
    | pattern hm hc hf =>
      cases hf
      simp only [Part.join, List.flatMap_nil, List.append_nil] at hm
      simp [Part.join, Part.extend, hm, hc]
  | index _ ih =>
    intro parts b hf
    cases hf with
    | siblings hs hf =>
      rw [resolve_index, List.findSome?_append, List.findSome?_eq_none_iff.2 hs, Option.none_or,
        List.findSome?_cons, ih hf]
  | container _ ih =>
    intro parts b hf
    cases hf with
    | @pattern _ _ s m parts _ hm hc hf =>
      cases hf with
      | siblings hs hf =>
        have hj : Part.join (⟨s, m⟩ :: parts) = s ++ Part.join parts := rfl
        rw [resolve_container, hj, hm, Option.bind_some, hc, Text.dropUtf8_append,
          List.findSome?_append, List.findSome?_eq_none_iff.2 hs, Option.none_or,
          List.findSome?_cons, ih hf]
        rfl
  | whenTrue _ ih =>
    intro parts b hf
    cases hf with
    | condition hc hf => rw [resolve_choice, hc, if_pos rfl, Option.bind_some, ih hf]
  | whenFalse _ ih =>
    intro parts b hf
    cases hf with
    | condition hc hf =>
      rw [resolve_choice, hc, if_neg Bool.false_ne_true, Option.bind_some, ih hf]
  | annotated _ ih => intro parts b hf; rw [resolve_annotated, ih hf]

/-- An answer comes from a chain that the path follows. -/
def Explained (t : RouteTree R C) (path : Text) (b : Bindings) (r : Resolution R) : Prop :=
  ∃ links answer parts, t.Chain links answer ∧ path = Part.join parts ∧
    Follows context links parts b ∧ r = ⟨answer (Part.extend b parts) context, Part.extend b parts⟩

section
variable {context} {path : Text} {b : Bindings} {r : Resolution R}

theorem Explained.route {p : RoutePattern} {answer : Bindings → C → R}
    (h : (RouteTree.route p answer).resolve path context b = some r) :
    (RouteTree.route p answer).Explained context path b r := by
  rw [resolve_route, Option.bind_eq_some_iff] at h
  obtain ⟨m, hm, h⟩ := h
  split at h
  case isFalse => cases h
  case isTrue hc =>
    refine ⟨_, answer, [⟨path, m⟩], .route, by simp [Part.join], .pattern ?_ hc .done, ?_⟩
    · simpa [Part.join] using hm
    · exact (Option.some.inj h).symm

/-- The first child that answers, behind those that do not. -/
theorem Explained.split {children : List (RouteTree R C)}
    (h : children.findSome? (·.resolve path context b) = some r)
    (ih : ∀ t ∈ children, t.resolve path context b = some r → t.Explained context path b r) :
    ∃ before child after, children = before ++ child :: after ∧
      (∀ t ∈ before, t.resolve path context b = none) ∧ child.Explained context path b r := by
  obtain ⟨before, child, after, rfl, hr, hn⟩ := List.findSome?_eq_some_iff.1 h
  exact ⟨before, child, after, rfl, hn, ih child (by simp) hr⟩

theorem Explained.index {children : List (RouteTree R C)}
    (h : (RouteTree.index children).resolve path context b = some r)
    (ih : ∀ t ∈ children, t.resolve path context b = some r → t.Explained context path b r) :
    (RouteTree.index children).Explained context path b r := by
  rw [RouteTree.index, resolve_index] at h
  obtain ⟨before, child, after, rfl, hn, links, answer, parts, hch, rfl, hf, rfl⟩ :=
    Explained.split h ih
  exact ⟨_, answer, parts, .index hch, rfl, .siblings hn hf, rfl⟩

theorem Explained.container {p : RoutePattern} {children : List (RouteTree R C)}
    (h : (RouteTree.container (some p) children).resolve path context b = some r)
    (ih : ∀ t ∈ children, ∀ {path b}, t.resolve path context b = some r →
      t.Explained context path b r) :
    (RouteTree.container (some p) children).Explained context path b r := by
  rw [resolve_container, Option.bind_eq_some_iff] at h
  obtain ⟨m, hm, h⟩ := h
  obtain ⟨s, rest, rfl, hc⟩ := RoutePattern.match?_split hm
  rw [hc, Text.dropUtf8_append] at h
  obtain ⟨before, child, after, rfl, hn, links, answer, parts, hch, rfl, hf, rfl⟩ :=
    Explained.split h fun t ht hr => ih t ht hr
  exact ⟨_, answer, ⟨s, m⟩ :: parts, .container hch, rfl, .pattern hm hc (.siblings hn hf), rfl⟩

theorem Explained.choice {condition : Bindings → C → Bool} {yes no : Option (RouteTree R C)}
    (h : (RouteTree.choice condition yes no).resolve path context b = some r)
    (ihy : ∀ t ∈ yes, t.resolve path context b = some r → t.Explained context path b r)
    (ihn : ∀ t ∈ no, t.resolve path context b = some r → t.Explained context path b r) :
    (RouteTree.choice condition yes no).Explained context path b r := by
  rw [resolve_choice, Option.bind_eq_some_iff] at h
  obtain ⟨t, ht, h⟩ := h
  split at ht
  case isTrue hc =>
    obtain ⟨links, answer, parts, hch, rfl, hf, rfl⟩ := ihy t ht h
    subst ht
    exact ⟨_, answer, parts, .whenTrue hch, rfl, .condition hc hf, rfl⟩
  case isFalse hc =>
    obtain ⟨links, answer, parts, hch, rfl, hf, rfl⟩ := ihn t ht h
    subst ht
    exact ⟨_, answer, parts, .whenFalse hch, rfl, .condition (by simpa using hc) hf, rfl⟩

theorem Explained.annotated {payload : Json} {child : RouteTree R C}
    (h : child.Explained context path b r) :
    (RouteTree.annotated payload child).Explained context path b r := by
  obtain ⟨links, answer, parts, hch, hp, hf, hr⟩ := h
  exact ⟨links, answer, parts, .annotated hch, hp, hf, hr⟩

end

mutual

/-- An answer of a tree comes from one of its chains. -/
theorem explained_of_resolve : ∀ (t : RouteTree R C) {path : Text} {b : Bindings} {r : Resolution R},
    t.resolve path context b = some r → t.Explained context path b r
  | .route .., _, _, _, h => .route h
  | .container none children, _, _, _, h =>
    .index h fun t ht h => explained_of_mem children t ht h
  | .container (some _) children, _, _, _, h =>
    .container h fun t ht _ _ h => explained_of_mem children t ht h
  | .choice _ yes no, _, _, _, h =>
    .choice h (fun t ht h => explained_of_branch yes t ht h)
      fun t ht h => explained_of_branch no t ht h
  | .annotated _ child, _, _, _, h =>
    .annotated (explained_of_resolve child (by rwa [resolve_annotated] at h))

theorem explained_of_mem : ∀ (ts : List (RouteTree R C)), ∀ t ∈ ts, ∀ {path : Text} {b : Bindings}
    {r : Resolution R}, t.resolve path context b = some r → t.Explained context path b r
  | t :: ts, t', ht, _, _, _, h => by
    rcases List.mem_cons.1 ht with ht | ht
    · rw [ht] at h ⊢
      exact explained_of_resolve t h
    · exact explained_of_mem ts t' ht h

theorem explained_of_branch : ∀ (o : Option (RouteTree R C)), ∀ t ∈ o, ∀ {path : Text}
    {b : Bindings} {r : Resolution R}, t.resolve path context b = some r →
      t.Explained context path b r
  | some t, t', ht, _, _, _, h => by
    rw [← Option.some.inj ht] at h ⊢
    exact explained_of_resolve t h

end

/-- **Resolution is the first chain that the path follows**: a tree answers with
    `r` if and only if the path follows a chain of the tree, `r` binds what the
    patterns on the chain have matched, and its result is that of the route. -/
theorem resolve_eq_some_iff (t : RouteTree R C) (path : Text) (b : Bindings) (r : Resolution R) :
    t.resolve path context b = some r ↔ ∃ links answer parts, t.Chain links answer ∧
      path = Part.join parts ∧ Follows context links parts b ∧
        r.bindings = Part.extend b parts ∧ r.result = answer r.bindings context := by
  constructor
  · intro h
    obtain ⟨links, answer, parts, hch, hp, hf, rfl⟩ := explained_of_resolve context t h
    exact ⟨links, answer, parts, hch, hp, hf, rfl, rfl⟩
  · rintro ⟨links, answer, parts, hch, rfl, hf, hb, hr⟩
    rw [resolve_of_follows context hch hf, ← hb, ← hr]

end RouteTree

end PathRouting
