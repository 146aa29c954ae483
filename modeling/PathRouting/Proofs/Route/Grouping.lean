/-
  Bindings in layers.

  Bindings put on top of others replace their values in place, and bring their new names
  last. The order of the entries shows, so the laws here are equations of entries.

  * `Bindings.ext_get?`: bindings are determined by the order of their names and by the
    value of each.
  * `Bindings.extended_assoc`, `Bindings.empty_extended`, `Bindings.extended_self`: layers
    may be put together before they are put on top, no layer is changed by an empty one, and
    none is changed by itself.
  * `Part.extend_flatten`: so matches may be put on top of bindings group by group.
  * `extended_layers`: the bindings of a resolution come from the matches on the way to
    its route in their order, however these are grouped.
-/
import PathRouting.Proofs.Pattern.Agreement
import PathRouting.Proofs.Pattern.Merging

namespace PathRouting

open Pattern

/-! ## Names one behind the other -/

/-- What is new in a list is new in any order of adding. -/
theorem Pattern.addNew_addNew (values more rest : List Text) :
    addNew values (addNew more rest) = addNew (addNew values more) rest := by
  induction rest generalizing more with
  | nil => rfl
  | cons v rest ih =>
    rw [addNew, addNew, ih]
    by_cases hv : v ∈ more
    · have hadded : v ∈ addNew values more := mem_addNew.2 (.inr hv)
      rw [if_pos (List.contains_iff_mem.2 hv), if_pos (List.contains_iff_mem.2 hadded)]
    · rw [if_neg fun h => hv (List.contains_iff_mem.1 h), addNew_append]
      rfl

theorem Pattern.addNew_self (values : List Text) : addNew values values = values := by
  have hnone : (values.filter fun v => !values.contains v) = [] := by simp
  rw [addNew_eq, hnone, List.eraseDups_nil, List.append_nil]

namespace Bindings

variable {a b c : Bindings} {ms : List Bindings}

/-! ## Layers -/

/-- Where no name is bound twice, the entries are the names with their values. -/
theorem entries_eq_map (hb : b.names.Nodup) :
    b.entries = b.names.map fun n => (n, (b.get? n).getD []) := by
  rw [names, List.map_map]
  refine (List.map_id _).symm.trans (List.map_congr_left fun p hp => ?_)
  rw [Function.comp_apply, (get?_eq_some_iff hb).2 hp]
  rfl

/-- Bindings with the same names in the same order and with the same values are the same. -/
theorem ext_get? (ha : a.names.Nodup) (hnames : a.names = b.names)
    (hvalues : ∀ n, a.get? n = b.get? n) : a = b := by
  have hentries : a.entries = b.entries := by
    rw [entries_eq_map ha, entries_eq_map (hnames ▸ ha), hnames]
    exact List.map_congr_left fun n _ => by rw [hvalues n]
  cases a
  cases b
  exact congrArg Bindings.mk hentries

/-- The names of the lower layer come first, then the new ones of the upper layer. -/
theorem names_extended_eq (hb : b.names.Nodup) :
    (a.extended b).names = a.names ++ b.names.filter fun n => !a.names.contains n := by
  rw [names_extended, addNew_eq, eraseDups_of_nodup (hb.filter _)]

theorem nodup_extended (ha : a.names.Nodup) (b : Bindings) : (a.extended b).names.Nodup := by
  rw [names_extended]
  exact nodup_addNew ha

theorem extended_assoc (ha : a.names.Nodup) (hb : b.names.Nodup) (hc : c.names.Nodup) :
    (a.extended b).extended c = a.extended (b.extended c) := by
  refine ext_get? (nodup_extended (nodup_extended ha b) c) ?_ fun n => ?_
  · rw [names_extended, names_extended, names_extended, names_extended, addNew_addNew]
  · rw [get?_extended hc, get?_extended hb, get?_extended (nodup_extended hb c),
      get?_extended hc, Option.or_assoc]

theorem empty_extended (hb : b.names.Nodup) : empty.extended b = b := by
  refine ext_get? (nodup_extended (a := empty) List.nodup_nil b) ?_ fun n => ?_
  · rw [names_extended]
    exact (addNew_nil b.names).trans (eraseDups_of_nodup hb)
  · rw [get?_extended hb]
    exact Option.or_none

theorem extended_self (hb : b.names.Nodup) : b.extended b = b := by
  refine ext_get? (nodup_extended hb b) ?_ fun n => ?_
  · rw [names_extended, addNew_self]
  · rw [get?_extended hb, Option.or_self]

end Bindings

/-! ## Groups of matches -/

theorem Bindings.Made.addNew {b : Bindings} (hb : b.Made) (pairs : List (Text × Text)) :
    (b.addNew pairs).Made := by
  induction pairs generalizing b with
  | nil => exact hb
  | cons p pairs ih => exact ih (hb.insertNew p.1 p.2)

theorem Pattern.Matcher.match?_made {m : Matcher} {t : Text} {r : PatternMatch}
    (h : m.match? t = some r) : r.bindings.Made := by
  obtain ⟨c, -, rfl⟩ := Option.map_eq_some_iff.1 h
  show (bindGroups c .empty m.binders).Made
  rw [bindGroups_eq]
  exact Bindings.Made.empty.addNew _

namespace Part

variable {b : Bindings} {parts : List Part} {groups : List (List Part)}

/-- What the matches of parts bind is made by the operations on bindings. -/
def AllMade (parts : List Part) : Prop :=
  ∀ p ∈ parts, p.found.bindings.Made

theorem extend_made (hb : b.Made) (hparts : AllMade parts) : (extend b parts).Made := by
  induction parts generalizing b with
  | nil => exact hb
  | cons p parts ih =>
    obtain ⟨hp, hparts⟩ := List.forall_mem_cons.1 hparts
    exact ih (hb.extended hp) hparts

/-- Matches may be put together before they are put on top of bindings. -/
theorem extend_eq (hb : b.Made) (hparts : AllMade parts) :
    extend b parts = b.extended (extend .empty parts) := by
  induction parts generalizing b with
  | nil => rfl
  | cons p parts ih =>
    obtain ⟨hp, hparts⟩ := List.forall_mem_cons.1 hparts
    have hrest : (extend .empty parts).Made := extend_made .empty hparts
    calc extend b (p :: parts)
      _ = extend (b.extended p.found.bindings) parts := rfl
      _ = (b.extended p.found.bindings).extended (extend .empty parts) :=
        ih (hb.extended hp) hparts
      _ = b.extended (p.found.bindings.extended (extend .empty parts)) :=
        Bindings.extended_assoc hb.nodup hp.nodup hrest.nodup
      _ = b.extended (extend p.found.bindings parts) := by rw [ih hp hparts]
      _ = b.extended (extend .empty (p :: parts)) := by
        rw [extend, extend, List.foldl_cons, Bindings.empty_extended hp.nodup]

/-- Matches put on top of bindings group by group. -/
theorem extend_flatten (hb : b.Made) (hparts : AllMade groups.flatten) :
    extend b groups.flatten = groups.foldl (fun b g => b.extended (extend .empty g)) b := by
  induction groups generalizing b with
  | nil => rfl
  | cons g groups ih =>
    rw [List.flatten_cons] at hparts ⊢
    have hg : AllMade g := fun p hp => hparts p (List.mem_append_left _ hp)
    have hgroups : AllMade groups.flatten := fun p hp => hparts p (List.mem_append_right _ hp)
    calc extend b (g ++ groups.flatten)
      _ = extend (extend b g) groups.flatten := List.foldl_append
      _ = groups.foldl (fun b g => b.extended (extend .empty g)) (extend b g) :=
        ih (extend_made hb hg) hgroups
      _ = (g :: groups).foldl (fun b g => b.extended (extend .empty g)) b := by
        rw [List.foldl_cons, ← extend_eq hb hg]

end Part

/-! ## Resolutions -/

variable {R C : Type}

theorem Follows.made {context : C} {links : List (Link R C)} {parts : List Part} {b : Bindings}
    (h : Follows context links parts b) : Part.AllMade parts := by
  induction h with
  | done => exact List.forall_mem_nil _
  | pattern hm _ _ ih => exact List.forall_mem_cons.2 ⟨Matcher.match?_made hm, ih⟩
  | siblings _ _ ih => exact ih
  | condition _ _ ih => exact ih

namespace Bindings

/-- **Layers of bindings.** Three layers may be put together from either side, with the same
    entries in the same order. An empty layer changes nothing, below or on top, nor does a
    layer that is put on itself. The names of the lower layer come first, then those that
    the upper one brings, and the upper one has the say on values.

    So the bindings of a resolution are those that the matches on the way to its route make
    in turn, and the same come out of any groups of these matches that are put together
    first. -/
theorem extended_layers {a b c : Bindings} (ha : a.Made) (hb : b.Made) (hc : c.Made) :
    (a.extended b).extended c = a.extended (b.extended c) ∧
      empty.extended a = a ∧ a.extended empty = a ∧ a.extended a = a ∧
      (a.extended b).names = (a.names ++ b.names.filter fun n => !a.names.contains n) ∧
      (∀ n, (a.extended b).get? n = (b.get? n).or (a.get? n)) ∧
      ∀ (t : RouteTree R C) (path : Text) (context : C) (r : Resolution R),
        t.resolve path context a = some r → ∃ links answer parts, t.Chain links answer ∧
          path = Part.join parts ∧ Follows context links parts a ∧
          ∀ groups : List (List Part), groups.flatten = parts →
            r.bindings = groups.foldl (fun b g => b.extended (Part.extend .empty g)) a := by
  refine ⟨extended_assoc ha.nodup hb.nodup hc.nodup, empty_extended ha.nodup, rfl,
    extended_self ha.nodup, names_extended_eq hb.nodup, fun n => get?_extended hb.nodup, ?_⟩
  intro t path context r hr
  obtain ⟨links, answer, parts, hchain, hpath, hfollows, rfl⟩ :=
    RouteTree.explained_of_resolve context t hr
  refine ⟨links, answer, parts, hchain, hpath, hfollows, ?_⟩
  rintro groups rfl
  exact Part.extend_flatten ha hfollows.made

/-- A value replaced twice at its place, and two containers around a route, whose matches
    are put together first. -/
theorem extended_layers_nested :
    let a := Bindings.ofList [(['x'], ['9']), (['z'], ['0'])]
    let b := Bindings.ofList [(['y'], ['2']), (['x'], ['8'])]
    let c := Bindings.ofList [(['x'], ['7']), (['u'], ['1'])]
    (a.extended (b.extended c)).entries =
        [(['x'], ['7']), (['z'], ['0']), (['y'], ['2']), (['u'], ['1'])] ∧
      ((a.extended b).extended c).entries = (a.extended (b.extended c)).entries ∧
      ∃ (inner middle outer : RouteTree Unit Unit) (r : Resolution Unit) (parts : List Part),
        RouteTree.ofPattern "/:x".toList { caseSensitive := true } (fun _ _ => ()) = .ok inner ∧
        RouteTree.partialRoute "/:y".toList { caseSensitive := true } [inner] = .ok middle ∧
        RouteTree.partialRoute "/:x".toList { caseSensitive := true } [middle] = .ok outer ∧
        outer.resolve "/1/2/3".toList () a = some r ∧
        r.bindings.entries = [(['x'], ['3']), (['z'], ['0']), (['y'], ['2'])] ∧
        "/1/2/3".toList = Part.join parts ∧
        r.bindings = a.extended (Part.extend .empty parts) := by
  intro a b c
  obtain ⟨hassoc, -, -, -, -, -, hresolve⟩ := extended_layers (R := Unit) (C := Unit)
    (.ofList _ : a.Made) (.ofList _ : b.Made) (.ofList _ : c.Made)
  have h : ((RouteTree.ofPattern "/:x".toList { caseSensitive := true }
      fun _ _ => ()).toOption.bind fun inner =>
        (RouteTree.partialRoute "/:y".toList { caseSensitive := true } [inner]).toOption.bind
          fun middle => (RouteTree.partialRoute "/:x".toList { caseSensitive := true }
            [middle]).toOption.bind fun outer : RouteTree Unit Unit =>
              (outer.resolve "/1/2/3".toList () a).map (·.bindings.entries)) =
      some [(['x'], ['3']), (['z'], ['0']), (['y'], ['2'])] := by
    decide +kernel
  obtain ⟨inner, hinner, h⟩ := Option.bind_eq_some_iff.1 h
  obtain ⟨middle, hmiddle, h⟩ := Option.bind_eq_some_iff.1 h
  obtain ⟨outer, houter, h⟩ := Option.bind_eq_some_iff.1 h
  obtain ⟨r, hr, hentries⟩ := Option.map_eq_some_iff.1 h
  obtain ⟨-, -, parts, -, hpath, -, hgroups⟩ := hresolve outer "/1/2/3".toList () r hr
  exact ⟨by rfl, congrArg entries hassoc, inner, middle, outer, r, parts, eq_ok_of_toOption hinner,
    eq_ok_of_toOption hmiddle, eq_ok_of_toOption houter, hr, hentries, hpath,
    hgroups [parts] (by simp)⟩

end Bindings

end PathRouting
