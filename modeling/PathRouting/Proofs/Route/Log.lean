/-
  What a search does, step by step.

  * A search goes through a tree depth-first: the places of its steps ascend in
    the lexicographic order, in which a node stands before the nodes below it
    and behind those of its earlier siblings. Only a route takes two steps; it
    tries its pattern and answers.
  * A step of a node is taken on what the patterns around the node leave of the
    path, and under their bindings (`Reaches`, `TakenBy`).
  * The only answer is the last step, and the search finds it (`Ends`).
-/
import PathRouting.Proofs.Route.Chain

namespace PathRouting

open Pattern

variable {R C : Type}

/-! ## Steps -/

namespace SearchEvent

/-- The place of the node that takes a step. -/
def place : SearchEvent R C → Place
  | .tried place .. | .decided place .. | .answered place .. => place

/-- The step is a pattern that was tried. -/
def IsTrial : SearchEvent R C → Prop
  | .tried .. => True
  | .decided .. | .answered .. => False

/-- The step is the answer of a route. -/
def IsAnswer : SearchEvent R C → Prop
  | .answered .. => True
  | .tried .. | .decided .. => False

/-- The order of the steps: by their places, and a route tries its pattern
    before it answers. -/
def Precedes (e e' : SearchEvent R C) : Prop :=
  e.place < e'.place ∨ e.place = e'.place ∧ e.IsTrial ∧ e'.IsAnswer

/-- A step that a node takes on a path, under given bindings. -/
def TakenBy (node : RouteTree R C) (path : Text) (context : C) (b : Bindings) :
    SearchEvent R C → Prop
  | .tried _ given => ∃ p, node.pattern? = some p ∧ given = path
  | .decided _ bindings given outcome => ∃ condition yes no, node = .choice condition yes no ∧
      bindings = b ∧ given = context ∧ outcome = condition b context
  | .answered _ bindings given result => ∃ p answer m, node = .route p answer ∧
      p.match? path = some m ∧ m.consumed = Text.utf8Length path ∧
        bindings = b.extended m.bindings ∧ given = context ∧ result = answer bindings context

end SearchEvent

/-- The node at a place of a tree, the parts of a path that the patterns around
    the node take off, and what they leave. -/
inductive RouteTree.Reaches : RouteTree R C → Text → Place → List Part → RouteTree R C → Text → Prop
  | here {t path} : Reaches t path [] [] t path
  | index {children n child path place parts node rest} : children[n]? = some child →
      Reaches child path place parts node rest →
      Reaches (.container none children) path (n :: place) parts node rest
  | container {p children n child s m path place parts node rest} : children[n]? = some child →
      p.match? (s ++ path) = some m → m.consumed = Text.utf8Length s →
      Reaches child path place parts node rest →
      Reaches (.container (some p) children) (s ++ path) (n :: place) (⟨s, m⟩ :: parts) node rest
  | whenTrue {condition yes no path place parts node rest} :
      Reaches yes path place parts node rest →
      Reaches (.choice condition (some yes) no) path (0 :: place) parts node rest
  | whenFalse {condition yes no path place parts node rest} :
      Reaches no path place parts node rest →
      Reaches (.choice condition yes (some no)) path (1 :: place) parts node rest
  | annotated {payload child path place parts node rest} :
      Reaches child path place parts node rest →
      Reaches (.annotated payload child) path (0 :: place) parts node rest

/-- A place is reached in one way. -/
theorem RouteTree.Reaches.unique {t node node' : RouteTree R C} {path rest rest' : Text}
    {place : Place} {parts parts' : List Part} (h : t.Reaches path place parts node rest)
    (h' : t.Reaches path place parts' node' rest') :
    parts = parts' ∧ node = node' ∧ rest = rest' := by
  induction h generalizing parts' with
  | here => cases h'; simp
  | index hc _ ih =>
    cases h' with
    | index hc' h' =>
      rw [hc, Option.some.injEq] at hc'
      subst hc'
      exact ih h'
  | @container p children n child s m path _ _ _ _ hc hm hs _ ih =>
    generalize hpath : s ++ path = whole at h'
    cases h' with
    | @container _ _ _ _ s' m' path' _ _ _ _ hc' hm' hs' h' =>
      rw [hc, Option.some.injEq] at hc'
      rw [hpath, hm', Option.some.injEq] at hm
      subst hc' hm
      have hrest : path = path' := by
        rw [← Text.dropUtf8_append s path, hpath, ← hs, hs', Text.dropUtf8_append]
      subst hrest
      rw [List.append_cancel_right hpath]
      simpa using ih h'
  | whenTrue _ ih => cases h' with | whenTrue h' => exact ih h'
  | whenFalse _ ih => cases h' with | whenFalse h' => exact ih h'
  | annotated _ ih => cases h' with | annotated h' => exact ih h'

/-! ## Each step is explained by its place -/

namespace RouteTree

/-- A step below a place is taken by a node of the tree that stands there. -/
def Explains (t : RouteTree R C) (context : C) (place : Place) (path : Text) (b : Bindings)
    (e : SearchEvent R C) : Prop :=
  ∃ below parts node rest, e.place = place ++ below ∧ t.Reaches path below parts node rest ∧
    e.TakenBy node rest context (Part.extend b parts)

section
variable {context : C} {place : Place} {path : Text} {b : Bindings} {e : SearchEvent R C}

/-- A step of the root. -/
theorem Explains.here {t : RouteTree R C} (hp : e.place = place)
    (he : e.TakenBy t path context b) : t.Explains context place path b e :=
  ⟨[], [], t, path, by rw [hp, List.append_nil], .here, he⟩

theorem Explains.index {children : List (RouteTree R C)} {n : ℕ} {child : RouteTree R C}
    (hc : children[n]? = some child) (h : child.Explains context (place ++ [n]) path b e) :
    (RouteTree.container none children).Explains context place path b e := by
  obtain ⟨below, parts, node, rest, hp, hr, he⟩ := h
  exact ⟨n :: below, parts, node, rest, by simp [hp], .index hc hr, he⟩

theorem Explains.container {p : RoutePattern} {m : PatternMatch} {children : List (RouteTree R C)}
    {n : ℕ} {child : RouteTree R C} (hm : p.match? path = some m) (hc : children[n]? = some child)
    (h : child.Explains context (place ++ [n]) (Text.dropUtf8 m.consumed path)
      (b.extended m.bindings) e) :
    (RouteTree.container (some p) children).Explains context place path b e := by
  obtain ⟨s, left, rfl, hs⟩ := RoutePattern.match?_split hm
  rw [hs, Text.dropUtf8_append] at h
  obtain ⟨below, parts, node, rest, hp, hr, he⟩ := h
  exact ⟨n :: below, ⟨s, m⟩ :: parts, node, rest, by simp [hp], .container hc hm hs hr, he⟩

theorem Explains.annotated {payload : Json} {child : RouteTree R C}
    (h : child.Explains context (place ++ [0]) path b e) :
    (RouteTree.annotated payload child).Explains context place path b e := by
  obtain ⟨below, parts, node, rest, hp, hr, he⟩ := h
  exact ⟨0 :: below, parts, node, rest, by simp [hp], .annotated hr, he⟩

theorem Explains.whenTrue {condition : Bindings → C → Bool} {yes : RouteTree R C}
    {no : Option (RouteTree R C)} (h : yes.Explains context (place ++ [0]) path b e) :
    (RouteTree.choice condition (some yes) no).Explains context place path b e := by
  obtain ⟨below, parts, node, rest, hp, hr, he⟩ := h
  exact ⟨0 :: below, parts, node, rest, by simp [hp], .whenTrue hr, he⟩

theorem Explains.whenFalse {condition : Bindings → C → Bool} {yes : Option (RouteTree R C)}
    {no : RouteTree R C} (h : no.Explains context (place ++ [1]) path b e) :
    (RouteTree.choice condition yes (some no)).Explains context place path b e := by
  obtain ⟨below, parts, node, rest, hp, hr, he⟩ := h
  exact ⟨1 :: below, parts, node, rest, by simp [hp], .whenFalse hr, he⟩

end

end RouteTree

/-- The steps of two searches, the second one made if the first one fails. -/
theorem Search.mem_orElse {s next : Search R C} {e : SearchEvent R C}
    (h : e ∈ (s.orElse next).events) : e ∈ s.events ∨ e ∈ next.events := by
  unfold Search.orElse at h
  split at h
  · exact .inl h
  · exact List.mem_append.1 h

namespace RouteTree

/-- The steps of a route. -/
theorem searchRoute_explains (context : C) (place : Place) (p : RoutePattern)
    (answer : Bindings → C → R) (path : Text) (b : Bindings) :
    ∀ e ∈ (searchRoute context place p answer path b).events,
      (RouteTree.route p answer).Explains context place path b e := by
  have trial : (RouteTree.route p answer).Explains context place path b (.tried place path) :=
    .here rfl ⟨p, rfl, rfl⟩
  intro e he
  unfold searchRoute at he
  split at he
  case h_1 => simp only [List.mem_singleton] at he; exact he ▸ trial
  case h_2 m hm =>
    split at he
    case isTrue hc =>
      simp only [List.mem_cons, List.not_mem_nil, or_false] at he
      rcases he with rfl | rfl
      · exact trial
      · exact .here rfl ⟨p, answer, m, rfl, hm, hc, rfl, rfl, rfl⟩
    case isFalse => simp only [List.mem_singleton] at he; exact he ▸ trial

variable (context : C)

mutual

/-- Every step of a search is taken by a node of the tree. -/
theorem search_explains (place : Place) : ∀ (t : RouteTree R C) (path : Text) (b : Bindings),
    ∀ e ∈ (t.search context place path b).events, t.Explains context place path b e
  | .route p answer, path, b => searchRoute_explains context place p answer path b
  | .container none children, path, b => by
    intro e he
    rw [search] at he
    obtain ⟨i, child, hc, h⟩ := searchFirst_explains place 0 children path b e he
    rw [Nat.zero_add] at h
    exact .index hc h
  | .container (some p) children, path, b => by
    intro e he
    have trial : (RouteTree.container (some p) children).Explains context place path b
      (.tried place path) := .here rfl ⟨p, rfl, rfl⟩
    rw [search] at he
    split at he
    case h_1 => simp only [List.mem_singleton] at he; exact he ▸ trial
    case h_2 m hm =>
      simp only [Search.after, List.mem_cons] at he
      rcases he with rfl | he
      · exact trial
      · obtain ⟨i, child, hc, h⟩ := searchFirst_explains place 0 children _ _ e he
        rw [Nat.zero_add] at h
        exact .container hm hc h
  | .choice condition yes no, path, b => by
    intro e he
    simp only [search, Search.after, List.mem_cons] at he
    rcases he with rfl | he
    · exact .here rfl ⟨condition, yes, no, rfl, rfl, rfl, rfl⟩
    · split at he
      · obtain ⟨child, rfl, h⟩ := searchBranch_explains _ yes path b e he
        exact .whenTrue h
      · obtain ⟨child, rfl, h⟩ := searchBranch_explains _ no path b e he
        exact .whenFalse h
  | .annotated payload child, path, b => by
    intro e he
    rw [search] at he
    exact .annotated (search_explains _ child path b e he)

theorem searchFirst_explains (place : Place) (n : ℕ) : ∀ (ts : List (RouteTree R C)) (path : Text)
    (b : Bindings), ∀ e ∈ (searchFirst context place n ts path b).events,
      ∃ (i : ℕ) (child : RouteTree R C), ts[i]? = some child ∧
        child.Explains context (place ++ [n + i]) path b e
  | [], _, _ => by intro e he; cases he
  | t :: ts, path, b => by
    intro e he
    rw [searchFirst] at he
    rcases Search.mem_orElse he with he | he
    · exact ⟨0, t, rfl, search_explains _ t path b e he⟩
    · obtain ⟨i, child, hc, h⟩ := searchFirst_explains place (n + 1) ts path b e he
      rw [Nat.add_right_comm, Nat.add_assoc] at h
      exact ⟨i + 1, child, hc, h⟩

theorem searchBranch_explains (place : Place) : ∀ (o : Option (RouteTree R C)) (path : Text)
    (b : Bindings), ∀ e ∈ (searchBranch context place o path b).events,
      ∃ child : RouteTree R C, o = some child ∧ child.Explains context place path b e
  | none, _, _ => by intro e he; cases he
  | some t, path, b => fun e he => ⟨t, rfl, search_explains place t path b e he⟩

end

/-! ## The steps come depth-first -/

/-- The steps that are explained by a tree stand below its place. -/
theorem Explains.below {t : RouteTree R C} {context : C} {place : Place} {path : Text}
    {b : Bindings} {e : SearchEvent R C} (h : t.Explains context place path b e) :
    place <+: e.place := by
  obtain ⟨below, -, -, -, hp, -⟩ := h
  exact ⟨below, hp.symm⟩

/-- A place stands before the places below its children. -/
theorem place_lt_below {place below : Place} {n : ℕ} (h : place ++ [n] <+: below) :
    place < below := by
  obtain ⟨rest, rfl⟩ := h
  calc
    place = place ++ [] := (List.append_nil place).symm
    _ < place ++ n :: rest := List.append_left_lt (List.nil_lt_cons n rest)
    _ = place ++ [n] ++ rest := by rw [List.append_assoc, List.singleton_append]

/-- The places below a child stand before those below a later one. -/
theorem below_lt_below {place below below' : Place} {n m : ℕ} (hlt : n < m)
    (h : place ++ [n] <+: below) (h' : place ++ [m] <+: below') : below < below' := by
  obtain ⟨rest, rfl⟩ := h
  obtain ⟨rest', rfl⟩ := h'
  rw [List.append_assoc, List.append_assoc]
  exact List.append_left_lt (List.Lex.rel hlt)

/-- A step of a node in front of the steps of its children. -/
theorem ordered_after {place : Place} {e : SearchEvent R C} {s : Search R C} (hp : e.place = place)
    (hs : s.events.Pairwise SearchEvent.Precedes)
    (hb : ∀ e' ∈ s.events, ∃ n, place ++ [n] <+: e'.place) :
    (s.after e).events.Pairwise SearchEvent.Precedes := by
  refine List.pairwise_cons.2 ⟨fun e' he' => .inl ?_, hs⟩
  obtain ⟨n, hn⟩ := hb e' he'
  exact hp ▸ place_lt_below hn

mutual

/-- The steps of a search come depth-first. -/
theorem search_ordered (place : Place) : ∀ (t : RouteTree R C) (path : Text) (b : Bindings),
    (t.search context place path b).events.Pairwise SearchEvent.Precedes
  | .route p answer, path, b => by
    rw [search, searchRoute]
    split
    · exact List.pairwise_singleton _ _
    · split
      · exact List.pairwise_pair.2 (.inr ⟨rfl, trivial, trivial⟩)
      · exact List.pairwise_singleton _ _
  | .container none children, path, b => by
    rw [search]
    exact searchFirst_ordered place 0 children path b
  | .container (some p) children, path, b => by
    rw [search]
    split
    · exact List.pairwise_singleton _ _
    · refine ordered_after rfl (searchFirst_ordered place 0 children _ _) fun e he => ?_
      obtain ⟨i, child, -, h⟩ := searchFirst_explains context place 0 children _ _ e he
      exact ⟨_, h.below⟩
  | .choice condition yes no, path, b => by
    rw [search]
    split
    · refine ordered_after rfl (searchBranch_ordered _ yes path b) fun e he => ?_
      obtain ⟨child, -, h⟩ := searchBranch_explains context _ yes path b e he
      exact ⟨_, h.below⟩
    · refine ordered_after rfl (searchBranch_ordered _ no path b) fun e he => ?_
      obtain ⟨child, -, h⟩ := searchBranch_explains context _ no path b e he
      exact ⟨_, h.below⟩
  | .annotated payload child, path, b => by
    rw [search]
    exact search_ordered _ child path b

theorem searchFirst_ordered (place : Place) (n : ℕ) : ∀ (ts : List (RouteTree R C)) (path : Text)
    (b : Bindings), (searchFirst context place n ts path b).events.Pairwise SearchEvent.Precedes
  | [], _, _ => List.Pairwise.nil
  | t :: ts, path, b => by
    rw [searchFirst, Search.orElse]
    split
    · exact search_ordered _ t path b
    · refine List.pairwise_append.2 ⟨search_ordered _ t path b,
        searchFirst_ordered place (n + 1) ts path b, fun e he e' he' => .inl ?_⟩
      obtain ⟨i, child, -, h'⟩ := searchFirst_explains context place (n + 1) ts path b e' he'
      have h := search_explains context (place ++ [n]) t path b e he
      exact below_lt_below (by omega) h.below h'.below

theorem searchBranch_ordered (place : Place) : ∀ (o : Option (RouteTree R C)) (path : Text)
    (b : Bindings), (searchBranch context place o path b).events.Pairwise SearchEvent.Precedes
  | none, _, _ => List.Pairwise.nil
  | some t, path, b => search_ordered place t path b

end

end RouteTree

/-! ## The answer is the last step -/

namespace Search

/-- The search ends with the answer that it finds, or it has no answer. -/
def Ends (context : C) (s : Search R C) : Prop :=
  match s.found with
  | none => ∀ e ∈ s.events, ¬ e.IsAnswer
  | some r => ∃ earlier place, s.events = earlier ++ [.answered place r.bindings context r.result] ∧
      ∀ e ∈ earlier, ¬ e.IsAnswer

variable {context : C} {s next : Search R C} {e : SearchEvent R C}

theorem Ends.after (hs : s.Ends context) (he : ¬ e.IsAnswer) : (s.after e).Ends context := by
  unfold Ends Search.after at *
  cases hf : s.found with
  | none =>
    simp only [hf] at hs ⊢
    simpa [he] using hs
  | some r =>
    simp only [hf] at hs ⊢
    obtain ⟨earlier, place, heq, hn⟩ := hs
    exact ⟨e :: earlier, place, by rw [heq, List.cons_append], by simpa [he] using hn⟩

theorem Ends.orElse (hs : s.Ends context) (hnext : next.Ends context) :
    (s.orElse next).Ends context := by
  unfold Ends Search.orElse at *
  cases hf : s.found with
  | some r => simpa only [hf] using hs
  | none =>
    simp only [hf] at hs ⊢
    cases hf' : next.found with
    | none =>
      simp only [hf'] at hnext ⊢
      intro e he
      rcases List.mem_append.1 he with he | he
      · exact hs e he
      · exact hnext e he
    | some r =>
      simp only [hf'] at hnext ⊢
      obtain ⟨earlier, place, heq, hn⟩ := hnext
      refine ⟨s.events ++ earlier, place, by rw [heq, List.append_assoc], fun e he => ?_⟩
      rcases List.mem_append.1 he with he | he
      · exact hs e he
      · exact hn e he

end Search

namespace RouteTree

variable (context : C)

theorem searchRoute_ends (place : Place) (p : RoutePattern) (answer : Bindings → C → R)
    (path : Text) (b : Bindings) :
    (searchRoute context place p answer path b).Ends context := by
  unfold searchRoute
  split
  · simp [Search.Ends, SearchEvent.IsAnswer]
  · split
    · exact ⟨[.tried place path], place, rfl, by simp [SearchEvent.IsAnswer]⟩
    · simp [Search.Ends, SearchEvent.IsAnswer]

mutual

/-- A search ends with the answer that it finds. -/
theorem search_ends (place : Place) : ∀ (t : RouteTree R C) (path : Text) (b : Bindings),
    (t.search context place path b).Ends context
  | .route p answer, path, b => searchRoute_ends context place p answer path b
  | .container none children, path, b => by
    rw [search]
    exact searchFirst_ends place 0 children path b
  | .container (some p) children, path, b => by
    rw [search]
    split
    · simp [Search.Ends, SearchEvent.IsAnswer]
    · exact (searchFirst_ends place 0 children _ _).after id
  | .choice condition yes no, path, b => by
    rw [search]
    split
    · exact (searchBranch_ends _ yes path b).after id
    · exact (searchBranch_ends _ no path b).after id
  | .annotated _ child, path, b => by
    rw [search]
    exact search_ends _ child path b

theorem searchFirst_ends (place : Place) (n : ℕ) : ∀ (ts : List (RouteTree R C)) (path : Text)
    (b : Bindings), (searchFirst context place n ts path b).Ends context
  | [], _, _ => by simp [searchFirst, Search.nothing, Search.Ends]
  | t :: ts, path, b => by
    rw [searchFirst]
    exact (search_ends _ t path b).orElse (searchFirst_ends place (n + 1) ts path b)

theorem searchBranch_ends (place : Place) : ∀ (o : Option (RouteTree R C)) (path : Text)
    (b : Bindings), (searchBranch context place o path b).Ends context
  | none, _, _ => by simp [searchBranch, Search.nothing, Search.Ends]
  | some t, path, b => search_ends place t path b

end

/-- **What a resolution does**: its steps come depth-first, each node takes one
    of them (a route tries its pattern, and then may answer); each step is taken
    on what the patterns around its node leave of the path, under the bindings of
    their matches; and a route answers if and only if something is resolved,
    namely in the last step, with the bindings and the result of the
    resolution. -/
theorem search_events (t : RouteTree R C) (path : Text) (b : Bindings) :
    (t.search context [] path b).events.Pairwise SearchEvent.Precedes ∧
    (∀ e ∈ (t.search context [] path b).events, ∃ parts node rest,
      t.Reaches path e.place parts node rest ∧
        e.TakenBy node rest context (Part.extend b parts)) ∧
    (∀ r, t.resolve path context b = some r → ∃ earlier place,
      (t.search context [] path b).events =
        earlier ++ [.answered place r.bindings context r.result] ∧
      ∀ e ∈ earlier, ¬ e.IsAnswer) ∧
    (t.resolve path context b = none →
      ∀ e ∈ (t.search context [] path b).events, ¬ e.IsAnswer) := by
  have hends := search_ends context [] t path b
  refine ⟨search_ordered context [] t path b, fun e he => ?_, fun r hr => ?_, fun hr => ?_⟩
  · obtain ⟨below, parts, node, rest, hp, hreach, htaken⟩ :=
      search_explains context [] t path b e he
    rw [List.nil_append] at hp
    exact ⟨parts, node, rest, hp ▸ hreach, htaken⟩
  · rw [resolve] at hr
    rwa [Search.Ends, hr] at hends
  · rw [resolve] at hr
    rwa [Search.Ends, hr] at hends

end RouteTree

end PathRouting
