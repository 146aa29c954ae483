/-
  Nested and flat routes.

  A route below a container is answered behind what the pattern of the container takes
  off a path. A flat route has both patterns in one.

  * `Bindings.extended_append`: bindings of two matches under different names are added
    one after the other as they are together.
  * `flat_of_nested`: what the nested route answers the flat one answers, too, and under
    the same bindings if the patterns have no variable in common.
-/
import PathRouting.Proofs.Pattern.Joining
import PathRouting.Proofs.Route.Chain

namespace PathRouting

open Pattern Regex

/-! ## Bindings of two matches -/

namespace Bindings

/-- Bindings with pairs added, of the values of one name the first. -/
def addNew (b : Bindings) (pairs : List (Text × Text)) : Bindings :=
  pairs.foldl (fun b p => b.insertNew p.1 p.2) b

theorem addNew_cons (b : Bindings) (p : Text × Text) (pairs : List (Text × Text)) :
    b.addNew (p :: pairs) = (b.insertNew p.1 p.2).addNew pairs :=
  rfl

theorem addNew_behind (front b pairs : List (Text × Text))
    (h : ∀ p ∈ pairs, p.1 ∉ front.map (·.1)) :
    (addNew ⟨front ++ b⟩ pairs).entries = front ++ (addNew ⟨b⟩ pairs).entries := by
  induction pairs generalizing b with
  | nil => rfl
  | cons p pairs ih =>
    have hlookup : front.lookup p.1 = none := by
      rw [List.lookup_eq_none_iff]
      intro x hx
      rw [bne_iff_ne]
      intro heq
      exact h p (by simp) (heq ▸ List.mem_map_of_mem hx)
    have hcontains : contains ⟨front ++ b⟩ p.1 = contains ⟨b⟩ p.1 := by
      rw [contains, contains, get?, get?, List.lookup_append, hlookup, Option.none_or]
    have hrest : ∀ q ∈ pairs, q.1 ∉ front.map (·.1) := fun q hq => h q (by simp [hq])
    rw [addNew_cons, addNew_cons, insertNew, insertNew, hcontains]
    split_ifs
    · exact ih b hrest
    · rw [List.append_assoc]
      exact ih (b ++ [(p.1, p.2)]) hrest

theorem mem_names_addNew {b : Bindings} {pairs : List (Text × Text)} {n : Text}
    (h : n ∈ (b.addNew pairs).names) : n ∈ b.names ∨ n ∈ pairs.map (·.1) := by
  induction pairs generalizing b with
  | nil => exact .inl h
  | cons p pairs ih =>
    rw [addNew_cons] at h
    rcases ih h with h | h
    · unfold insertNew at h
      split_ifs at h
      · exact .inl h
      · simp only [names, List.map_append, List.mem_append, List.map_singleton,
          List.mem_singleton] at h
        rcases h with h | rfl
        · exact .inl h
        · exact .inr (by simp)
    · exact .inr (by simp [h])

/-- Bindings under different names are added one after the other as they are together. -/
theorem extended_append (b : Bindings) {vs ws : List (Text × Text)}
    (h : ∀ w ∈ ws, w.1 ∉ vs.map (·.1)) : b.extended (addNew .empty (vs ++ ws)) =
      (b.extended (addNew .empty vs)).extended (addNew .empty ws) := by
  have hnames : ∀ w ∈ ws, w.1 ∉ (addNew .empty vs).entries.map (·.1) := by
    intro w hw hmem
    rcases mem_names_addNew hmem with hn | hn
    · cases hn
    · exact h w hw hn
  have happend : (addNew .empty (vs ++ ws)).entries =
      (addNew .empty vs).entries ++ (addNew .empty ws).entries := by
    have hbehind := addNew_behind (addNew .empty vs).entries [] ws hnames
    rw [List.append_nil] at hbehind
    rw [← show (addNew .empty ws).entries = (addNew ⟨[]⟩ ws).entries from rfl] at hbehind
    rw [← hbehind, addNew, List.foldl_append]
    rfl
  rw [extended, extended, extended, happend, List.foldl_append]

end Bindings

namespace Pattern

/-- A way binds variables only. -/
theorem Arrives.name_mem {t : Text} {g : ℕ} {xs : List Text} {x y : Point} {w : Way}
    (h : Arrives t g xs x y w) : ∀ p ∈ w.bound, p.1 ∈ xs := by
  obtain ⟨saves, -, -, hbound⟩ := h.notes
  rw [← hbound]
  intro p hp
  obtain ⟨x, hx, h⟩ := List.mem_filterMap.1 hp
  obtain ⟨value, -, rfl⟩ := Option.map_eq_some_iff.1 h
  exact List.fst_mem_of_mem_zipIdx hx

end Pattern

/-! ## Routes -/

namespace RoutePattern

/-- The match of a pattern without raw regular expressions is the first one of what it is
    compiled to. -/
theorem match?_ofText {raw : Text} {root : Node} {cs : Bool} {p : RoutePattern}
    (h : ofText raw { caseSensitive := cs } = .ok p) (hroot : parse raw = .ok root)
    (hr : root.rawFree) (t : Text) : p.match? t =
      ((root.compiled (!cs)).ends (startOf t)).head?.map (resultAt t root.variableNames) := by
  have hw := parse_wellFormed hroot
  obtain ⟨root', hroot', h⟩ := bind_eq_ok.1 h
  obtain rfl : root = root' := Except.ok.inj (hroot.symm.trans hroot')
  obtain ⟨m, hm, h⟩ := bind_eq_ok.1 h
  cases h
  rcases compile_cases hw hr with ⟨_, -, -, he⟩ | he
  · rw [hm] at he
    cases he
  · rw [hm] at he
    cases he
    exact Node.match?_compiled hw hr _ t

end RoutePattern

namespace RouteTree

variable {R C : Type}

theorem ofPattern_eq_ok {raw : Text} {o : Options} {f : Bindings → C → R} {t : RouteTree R C} :
    ofPattern raw o f = .ok t ↔ ∃ p, RoutePattern.ofText raw o = .ok p ∧ t = .route p f := by
  rw [ofPattern, map_eq_ok]
  exact exists_congr fun p => and_congr_right fun _ => eq_comm

theorem partialRoute_eq_ok {raw : Text} {o : Options} {children : List (RouteTree R C)}
    {t : RouteTree R C} : partialRoute raw o children = .ok t ↔
      ∃ p, RoutePattern.ofText raw o = .ok p ∧ t = .container (some p) children := by
  rw [partialRoute, map_eq_ok]
  exact exists_congr fun p => and_congr_right fun _ => eq_comm

/-- **Nested and flat routes.** If a route whose pattern begins with a separator answers
    below a container, then the route of both patterns in one answers, too. If the
    patterns have no variable in common, it answers the same, under the same bindings in
    the same order. -/
theorem flat_of_nested {p q : Text} {a b : Node} {cs : Bool} {f : Bindings → C → R}
    {child nested flat : RouteTree R C} (hp : parse p = .ok a) (hq : parse q = .ok b)
    (hra : a.rawFree) (hrb : b.rawFree) (hs : q.head? = some '/')
    (hchild : ofPattern q { caseSensitive := cs } f = .ok child)
    (hnested : partialRoute p { caseSensitive := cs } [child] = .ok nested)
    (hflat : ofPattern (p ++ q) { caseSensitive := cs } f = .ok flat)
    (path : Text) (context : C) (vars : Bindings) {r : Resolution R}
    (hr : nested.resolve path context vars = some r) :
    ∃ r', flat.resolve path context vars = some r' ∧
      ((∀ x ∈ b.variableNames, x ∉ a.variableNames) → r' = r) := by
  obtain ⟨c, hpq, hjoined⟩ := parse_append hp hq hs
  obtain ⟨rq, hrq, rfl⟩ := ofPattern_eq_ok.1 hchild
  obtain ⟨rp, hrp, rfl⟩ := partialRoute_eq_ok.1 hnested
  obtain ⟨rpq, hrpq, rfl⟩ := ofPattern_eq_ok.1 hflat
  have hrc : c.rawFree := by rw [hjoined.rawFree, hra, hrb]; rfl
  -- the matches of the container and of the route below it
  rw [resolve_container, Option.bind_eq_some_iff] at hr
  obtain ⟨m, hm, hr⟩ := hr
  rw [RoutePattern.match?_ofText hrp hp hra, Option.map_eq_some_iff] at hm
  obtain ⟨y, hy, rfl⟩ := hm
  obtain ⟨_, hy'⟩ := Node.exists_arrives (parse_wellFormed hp) hra hy
  have hrest : Text.dropUtf8 (resultAt path a.variableNames y).consumed path = y.1.rest := by
    have hdrop := Text.dropUtf8_append (path.take y.1.pos) (path.drop y.1.pos)
    rw [List.take_append_drop] at hdrop
    exact hdrop.trans (hy'.drop rfl).symm
  rw [hrest, List.findSome?_singleton, resolve_route, Option.bind_eq_some_iff] at hr
  obtain ⟨m, hm, hr⟩ := hr
  rw [RoutePattern.match?_ofText hrq hq hrb, Option.map_eq_some_iff] at hm
  obtain ⟨z, hz, rfl⟩ := hm
  -- the match of both
  obtain ⟨v, w, z', hv, hw, hz', hvw⟩ := hjoined.head?_ends (parse_wellFormed hp)
    (parse_wellFormed hq) (parse_wellFormed hpq) hra hrb hy hz
  rw [hv.result_eq, hw.result_eq] at hr
  split_ifs at hr with hlength
  cases hr
  have hwhole : Text.utf8Length (v.taken ++ w.taken) = Text.utf8Length path := by
    have hpath : path = v.taken ++ y.1.rest := by rw [hv.rest]; exact hv.front
    rw [hpath, Text.utf8Length_append, Text.utf8Length_append, ← hlength]
    rfl
  rw [resolve_route, RoutePattern.match?_ofText hrpq hpq hrc, hz', Option.map_some,
    Option.bind_some, hvw.result_eq]
  refine ⟨_, if_pos hwhole, fun hnames => ?_⟩
  have hdisjoint : ∀ x ∈ w.bound, x.1 ∉ v.bound.map (·.1) := by
    intro x hx hmem
    obtain ⟨x', hx', heq⟩ := List.mem_map.1 hmem
    exact hnames x.1 (hw.name_mem x hx) (heq ▸ hv.name_mem x' hx')
  have hbindings := vars.extended_append hdisjoint
  exact congrArg (fun b => Resolution.mk (f b context) b) hbindings

/-- A route for the posts of a user. -/
theorem flat_of_nested_posts :
    ∃ (flat : RouteTree Bindings Unit) (r : Resolution Bindings),
      ofPattern "/users/:id/posts/:post".toList { caseSensitive := true } (fun b _ => b) = .ok flat ∧
      flat.resolve "/users/7/posts/x".toList () .empty = some r ∧
      r.bindings.entries =
        [("id".toList, "7".toList), ("post".toList, "x".toList)] := by
  have hp : ((parse "/users/:id".toList).toOption.map fun a => (a.rawFree, a.variableNames)) =
      some (true, ["id".toList]) := by decide
  have hq : ((parse "/posts/:post".toList).toOption.map fun b => (b.rawFree, b.variableNames)) =
      some (true, ["post".toList]) := by decide
  obtain ⟨a, ha, hra⟩ := Option.map_eq_some_iff.1 hp
  obtain ⟨b, hb, hrb⟩ := Option.map_eq_some_iff.1 hq
  obtain ⟨hra, hna⟩ := Prod.mk.inj hra
  obtain ⟨hrb, hnb⟩ := Prod.mk.inj hrb
  let f : Bindings → Unit → Bindings := fun b _ => b
  have hnested : ((ofPattern "/posts/:post".toList { caseSensitive := true } f).toOption.bind
      fun child => (partialRoute "/users/:id".toList { caseSensitive := true }
        [child]).toOption.bind fun nested =>
          (nested.resolve "/users/7/posts/x".toList () .empty).map (·.bindings.entries)) =
      some [("id".toList, "7".toList), ("post".toList, "x".toList)] := by
    decide +kernel
  have hflat : (ofPattern "/users/:id/posts/:post".toList { caseSensitive := true } f).isOk := by
    decide +kernel
  obtain ⟨child, hchild, hnested⟩ := Option.bind_eq_some_iff.1 hnested
  obtain ⟨nested, hnested, hresolve⟩ := Option.bind_eq_some_iff.1 hnested
  obtain ⟨r, hr, hentries⟩ := Option.map_eq_some_iff.1 hresolve
  obtain ⟨flat, hflat⟩ := exists_of_isOk hflat
  obtain ⟨r', hr', hsame⟩ := flat_of_nested (eq_ok_of_toOption ha) (eq_ok_of_toOption hb) hra hrb
    rfl (eq_ok_of_toOption hchild) (eq_ok_of_toOption hnested) hflat "/users/7/posts/x".toList ()
    .empty hr
  have hdisjoint : ∀ x ∈ b.variableNames, x ∉ a.variableNames := by
    rw [hna, hnb]
    decide
  exact ⟨flat, r', hflat, hr', by rw [hsame hdisjoint, hentries]⟩

end RouteTree

end PathRouting
