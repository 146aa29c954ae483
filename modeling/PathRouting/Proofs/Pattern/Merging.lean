/-
  The value of each name.

  A name may belong to a named group of a raw regular expression and to any number of
  variables, and some of their groups may take no part in a match.

  * `Bindings.get?_addNew`, `Bindings.names_addNew`: of the values of one name the first
    one counts, and each name stands where it is first bound.
  * `Matcher.native?` and `Matcher.declared?` are the values of a name as a group and as
    a variable.
  * `match?_bindings`: a match binds a name to the first of these, if there is one, and
    else to the second; named groups come first, by number.
-/
import PathRouting.Proofs.Bindings
import PathRouting.Proofs.Pattern.Reported
import PathRouting.Proofs.Regex.Names
import PathRouting.Proofs.Route.Nested

namespace PathRouting

/-! ## Values that are added -/

namespace Bindings

/-- Of the values that are added to a name, the first one counts. -/
theorem get?_addNew (b : Bindings) (pairs : List (Text × Text)) (n : Text) :
    (b.addNew pairs).get? n = (b.get? n).or (pairs.lookup n) := by
  induction pairs generalizing b with
  | nil => exact Option.or_none.symm
  | cons p pairs ih =>
    rw [addNew_cons, ih, get?_insertNew, Option.or_assoc, ← List.lookup_append]
    rfl

/-- Each name stands where it is first bound. -/
theorem names_addNew (b : Bindings) (pairs : List (Text × Text)) :
    (b.addNew pairs).names = Pattern.addNew b.names (pairs.map (·.1)) := by
  induction pairs generalizing b with
  | nil => rfl
  | cons p pairs ih =>
    rw [addNew_cons, ih, names_insertNew]
    rfl

end Bindings

namespace Pattern

open Regex

/-! ## Groups that took part -/

section
variable {α : Type} (name : α → Text) (value? : α → Option Text) (xs : List α)

/-- The names of those that have a value, each with that value. -/
def valued : List (Text × Text) :=
  xs.filterMap fun x => (value? x).map (name x, ·)

variable {name value? xs} in
theorem valued_cons_of_none {x : α} (h : value? x = none) :
    valued name value? (x :: xs) = valued name value? xs :=
  List.filterMap_cons_none (by rw [h]; rfl)

variable {name value? xs} in
theorem valued_cons_of_some {x : α} {v : Text} (h : value? x = some v) :
    valued name value? (x :: xs) = (name x, v) :: valued name value? xs :=
  List.filterMap_cons_some (by rw [h]; rfl)

theorem map_fst_valued :
    (valued name value? xs).map (·.1) = (xs.filter fun x => (value? x).isSome).map name := by
  induction xs with
  | nil => rfl
  | cons x xs ih =>
    cases hx : value? x with
    | none => rw [valued_cons_of_none hx, List.filter_cons_of_neg (by simp [hx]), ih]
    | some v =>
      rw [valued_cons_of_some hx, List.filter_cons_of_pos (by simp [hx]), List.map_cons,
        List.map_cons, ih]

theorem lookup_valued (n : Text) :
    (valued name value? xs).lookup n = (xs.filter (name · = n)).findSome? value? := by
  induction xs with
  | nil => rfl
  | cons x xs ih =>
    by_cases hn : name x = n
    · rw [List.filter_cons_of_pos (by simpa using hn), List.findSome?_cons]
      cases hx : value? x with
      | none => rw [valued_cons_of_none hx, ih]
      | some v => rw [valued_cons_of_some hx, List.lookup_cons, hn, beq_self_eq_true]
    · rw [List.filter_cons_of_neg (by simpa using hn), ← ih]
      cases hx : value? x with
      | none => rw [valued_cons_of_none hx]
      | some v => rw [valued_cons_of_some hx, List.lookup_cons, beq_false_of_ne (Ne.symm hn)]

variable {name value? xs}

/-- Where names are different, only one can have a value. -/
theorem findSome?_of_nodup (h : (xs.map name).Nodup) (n : Text) :
    (xs.filter (name · = n)).findSome? value? = (xs.find? (name · = n)).bind value? := by
  induction xs with
  | nil => rfl
  | cons x xs ih =>
    obtain ⟨hx, hxs⟩ := List.nodup_cons.1 h
    by_cases hn : name x = n
    · have hrest : xs.filter (name · = n) = [] := by
        rw [List.filter_eq_nil_iff]
        intro y hy heq
        exact hx (List.mem_map.2 ⟨y, hy, (of_decide_eq_true heq).trans hn.symm⟩)
      rw [List.filter_cons_of_pos (by simpa using hn), hrest,
        List.find?_cons_of_pos (by simpa using hn), List.findSome?_cons, Option.bind_some]
      cases value? x <;> rfl
    · rw [List.filter_cons_of_neg (by simpa using hn), List.find?_cons_of_neg (by simpa using hn)]
      exact ih hxs

end

namespace Matcher

/-- The text of the named group with a name, if there is one and it took part in the
    match. -/
def native? (m : Matcher) (c : Captures) (n : Text) : Option Text :=
  (m.regex.groupNames.find? (·.2 = n)).bind fun g => c.group? g.1

/-- The text of the first variable with a name whose group took part in the match. -/
def declared? (m : Matcher) (c : Captures) (n : Text) : Option Text :=
  (m.slots.filter (·.name = n)).findSome? fun s => c.group? s.index

/-- The names of the named groups that took part in the match, by number. -/
def natives (m : Matcher) (c : Captures) : List Text :=
  (m.regex.groupNames.filter fun g => (c.group? g.1).isSome).map (·.2)

/-- The names of the variables whose groups took part in the match, in the order in which
    they are declared. -/
def declared (m : Matcher) (c : Captures) : List Text :=
  (m.slots.filter fun s => (c.group? s.index).isSome).map (·.name)

variable {m : Matcher} {c : Captures}

theorem bindGroups_binders (m : Matcher) (c : Captures) :
    bindGroups c .empty m.binders =
      Bindings.addNew .empty (valued (·.2) (fun g => c.group? g.1) m.regex.groupNames ++
        valued (·.name) (fun s => c.group? s.index) m.slots) := by
  rw [bindGroups_eq, binders, List.filterMap_append, List.filterMap_map, List.filterMap_map]
  rfl

theorem get?_bindGroups (hn : (m.regex.groupNames.map (·.2)).Nodup) (n : Text) :
    (bindGroups c .empty m.binders).get? n = (m.native? c n).or (m.declared? c n) := by
  rw [bindGroups_binders, Bindings.get?_addNew, List.lookup_append, lookup_valued, lookup_valued,
    findSome?_of_nodup hn]
  exact Option.none_or

theorem names_bindGroups (hn : (m.regex.groupNames.map (·.2)).Nodup) :
    (bindGroups c .empty m.binders).names =
      m.natives c ++ ((m.declared c).filter (· ∉ m.natives c)).eraseDups := by
  have hnatives : (m.natives c).Nodup := hn.sublist (List.filter_sublist.map _)
  rw [bindGroups_binders, Bindings.names_addNew, List.map_append, map_fst_valued, map_fst_valued]
  show Pattern.addNew [] (m.natives c ++ m.declared c) = _
  rw [addNew_append, addNew_nil, eraseDups_of_nodup hnatives, addNew_eq]
  simp

end Matcher

/-- **The merge rule.** A match binds a name to the text of the named group with that name,
    if it took part; else to that of the first variable with that name whose group took
    part; else not at all. It lists the named groups that took part by number, and then
    the remaining names by their first variables that did; none is listed twice. -/
theorem match?_bindings {pattern : Text} {o : Options} {m : Matcher} {t : Text} {r : PatternMatch}
    (hm : compilePattern pattern o = .ok m) (h : m.match? t = some r) :
    ∃ root c, parse pattern = .ok root ∧ m.slots.map (·.name) = root.variableNames ∧
      (m.regex.groupNames.Pairwise fun a b => a.1 < b.1) ∧
      (m.regex.groupNames.map (·.2)).Nodup ∧ m.regex.captures t = some c ∧
      (∀ n, r.bindings.get? n = (m.native? c n).or (m.declared? c n)) ∧
      r.bindings.names =
        m.natives c ++ ((m.declared c).filter (· ∉ m.natives c)).eraseDups ∧
      r.bindings.names.Nodup := by
  obtain ⟨root, hroot, hcompile⟩ := bind_eq_ok.1 hm
  obtain ⟨hregex, hslots, -⟩ := compile_eq_ok hcompile
  obtain ⟨-, hread, -⟩ := regex_compile_eq_ok hregex
  obtain ⟨hordered, hdistinct⟩ := groupNames_of_read hread
  obtain ⟨c, hc, rfl⟩ := Option.map_eq_some_iff.1 h
  have hnames := Matcher.names_bindGroups (c := c) hdistinct
  refine ⟨root, c, hroot, ?_, hordered, hdistinct, hc, Matcher.get?_bindGroups hdistinct, hnames,
    ?_⟩
  · rw [hslots]
    exact Node.source_names root
  · show (Matcher.bindGroups c .empty m.binders).names.Nodup
    rw [Matcher.bindGroups_binders, Bindings.names_addNew]
    exact nodup_addNew List.nodup_nil

/-- The group `a` is there, but it takes no part, nor does the first variable `b`. -/
theorem match?_bindings_second_branch :
    ∃ m r, compilePattern "((?:(?<a>x)|y)):a*{:b(u),:b(v)}".toList
        { caseSensitive := true } = .ok m ∧
      m.match? "yqv".toList = some r ∧ m.regex.groupNames.map (·.2) = ["a".toList] ∧
      r.bindings.get? "a".toList = some "q".toList ∧
      r.bindings.get? "b".toList = some "v".toList ∧
      r.bindings.names = ["a".toList, "b".toList] := by
  have h : ((compilePattern "((?:(?<a>x)|y)):a*{:b(u),:b(v)}".toList
      { caseSensitive := true }).toOption.bind fun m =>
      (m.regex.captures "yqv".toList).map fun c =>
        ([m.regex.groupNames.map (·.2), m.natives c, m.declared c],
          ["a".toList, "b".toList].map fun n => (m.native? c n, m.declared? c n))) =
      some ([["a".toList], [], ["a".toList, "b".toList]],
        [(none, some "q".toList), (none, some "v".toList)]) := by
    decide +kernel
  obtain ⟨m, hm, h⟩ := Option.bind_eq_some_iff.1 h
  obtain ⟨c, hc, h⟩ := Option.map_eq_some_iff.1 h
  simp only [List.map_cons, List.map_nil, Prod.mk.injEq, List.cons.injEq, and_true] at h
  obtain ⟨⟨hgroups, hnatives, hdeclared⟩, ⟨ha, ha'⟩, hb, hb'⟩ := h
  have hr : m.match? "yqv".toList = some ⟨c.consumed, Matcher.bindGroups c .empty m.binders⟩ := by
    rw [Matcher.match?, hc, Option.map_some]
  obtain ⟨-, c', -, -, -, -, hc', hget, hnames, -⟩ := match?_bindings (eq_ok_of_toOption hm) hr
  obtain rfl : c = c' := Option.some.inj (hc.symm.trans hc')
  refine ⟨m, _, eq_ok_of_toOption hm, hr, hgroups, ?_, ?_, ?_⟩
  · rw [hget, ha, ha']
    rfl
  · rw [hget, hb, hb']
    rfl
  · rw [hnames, hnatives, hdeclared]
    decide

end Pattern

end PathRouting
