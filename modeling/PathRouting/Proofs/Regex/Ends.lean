/-
  The matches of an expression in their order.

  * `Expr.ends` lists where the matches from a point lead, in the order in which they
    are tried.
  * `mem_ends`: none is missing, and nothing else is listed.
  * `search_eq_ends`: for an expression that matches at the start of a text only, a
    search finds the first of them.
-/
import PathRouting.Proofs.Regex.Ordered

namespace PathRouting.Regex

/-- Where as many steps as possible lead, and then fewer; the number bounds them. -/
def longestFirst (step : Point → List Point) : ℕ → Point → List Point
  | 0, x => [x]
  | n + 1, x => (step x).flatMap (longestFirst step n) ++ [x]

/-- Where the matches of an expression lead, in their order. Only repetitions of any
    number, as often as possible, are understood. -/
def Expr.ends : Expr → Point → List Point
  | .empty, x => [x]
  | .literal t, x => ((x.1.skip t).map fun q => (q, x.2)).toList
  | .chars s, x => ((x.1.one s).map fun q => (q, x.2)).toList
  | .look l, x => ((x.1.test l).map fun q => (q, x.2)).toList
  | .group index _ e, x => (e.ends (x.note (2 * index))).map fun y => y.note (2 * index + 1)
  | .repeated _ _ _ e, x => longestFirst e.ends x.1.rest.length x
  | .seq a b, x => (a.ends x).flatMap b.ends
  | .alt a b, x => a.ends x ++ b.ends x

variable {α : Type} {e : Expr} {x y : Point}

theorem ends_ofSet (s : CharSet) : (Expr.ofSet s).ends x = (Expr.chars s).ends x := by
  unfold Expr.ofSet
  split
  case h_1 c h =>
    have hs : x.1.skip [c] = x.1.one s := Place.skip_singleton fun d => CharSet.has_of_member h
    rw [Expr.ends, Expr.ends, hs]
  case h_2 => rfl

/-! ## The matches -/

theorem mem_toList_map {o : Option Place} :
    y ∈ (o.map fun q => (q, x.2)).toList ↔ o = some y.1 ∧ x.2 = y.2 := by
  rw [Option.mem_toList, Option.map_eq_some_iff]
  constructor
  · rintro ⟨q, hq, rfl⟩
    exact ⟨hq, rfl⟩
  · rintro ⟨hq, hs⟩
    exact ⟨y.1, hq, Prod.ext rfl hs⟩

theorem mem_longestFirst {n : ℕ} (he : ∀ x y, y ∈ e.ends x ↔ e.Matches x y) :
    y ∈ longestFirst e.ends n x ↔ ∃ m ≤ n, Copies e.Matches m x y := by
  induction n generalizing x with
  | zero =>
    rw [longestFirst, List.mem_singleton]
    constructor
    · rintro rfl
      exact ⟨0, Nat.le_refl 0, rfl⟩
    · rintro ⟨m, hm, h⟩
      rw [Nat.le_zero.1 hm] at h
      exact h.symm
  | succ n ih =>
    rw [longestFirst, List.mem_append, List.mem_flatMap, List.mem_singleton]
    constructor
    · rintro (⟨z, hz, h⟩ | rfl)
      · obtain ⟨m, hm, h⟩ := ih.1 h
        exact ⟨m + 1, Nat.succ_le_succ hm, z, (he x z).1 hz, h⟩
      · exact ⟨0, Nat.zero_le _, rfl⟩
    · rintro ⟨m, hm, h⟩
      cases m with
      | zero => exact .inr h.symm
      | succ m =>
        obtain ⟨z, hz, h⟩ := h
        exact .inl ⟨z, (he x z).2 hz, ih.2 ⟨m, Nat.le_of_succ_le_succ hm, h⟩⟩

/-- A run is no longer than what is left of the text. -/
theorem copies_le {s : CharSet} {n : ℕ} (h : Copies (Expr.chars s).Matches n x y) :
    n ≤ x.1.rest.length := by
  induction n generalizing x with
  | zero => exact Nat.zero_le _
  | succ n ih =>
    obtain ⟨z, ⟨hz, -⟩, h⟩ := h
    have := (Place.next_of_one hz).2
    have := ih h
    omega

/-- **The matches.** What is listed is what an expression matches. -/
theorem mem_ends (he : e.Plain) : y ∈ e.ends x ↔ e.Matches x y := by
  induction e generalizing x y with
  | empty => exact List.mem_singleton.trans eq_comm
  | literal | chars | look => exact mem_toList_map
  | group index name e ih =>
    rw [Expr.ends, List.mem_map]
    constructor
    · rintro ⟨z, hz, rfl⟩
      exact ⟨z, (ih he).1 hz, rfl⟩
    · rintro ⟨z, hz, rfl⟩
      exact ⟨z, (ih he).2 hz, rfl⟩
  | seq a b iha ihb =>
    rw [Expr.ends, List.mem_flatMap]
    constructor
    · rintro ⟨z, hz, h⟩
      exact ⟨z, (iha he.1).1 hz, (ihb he.2).1 h⟩
    · rintro ⟨z, hz, h⟩
      exact ⟨z, (iha he.1).2 hz, (ihb he.2).2 h⟩
  | alt a b iha ihb =>
    rw [Expr.ends, List.mem_append, iha he.1, ihb he.2]
    rfl
  | repeated min max greedy e =>
    obtain ⟨rfl, rfl, rfl, s, rfl, -⟩ := he
    rw [Expr.ends, mem_longestFirst fun _ _ => mem_toList_map]
    constructor
    · rintro ⟨n, -, h⟩
      exact ⟨n, Nat.zero_le n, fun _ h => (nomatch h), h⟩
    · rintro ⟨n, -, -, h⟩
      exact ⟨n, copies_le h, h⟩

/-! ## The first match -/

theorem first?_toList {o : Option Place} {k : Point → Option α} :
    (o.bind fun q => k (q, x.2)) = (o.map fun q => (q, x.2)).toList.findSome? k := by
  cases o with
  | none => rfl
  | some q => rw [Option.map_some, Option.toList_some, List.findSome?_singleton]; rfl

theorem findSome?_flatMap {β γ : Type} (l : List α) (f : α → List β) (k : β → Option γ) :
    (l.flatMap f).findSome? k = l.findSome? fun a => (f a).findSome? k := by
  induction l with
  | nil => rfl
  | cons a l ih =>
    rw [List.flatMap_cons, List.findSome?_append, ih, List.findSome?_cons]
    cases (f a).findSome? k <;> rfl

theorem mostFirst_eq {n : ℕ} {k : Point → Option α}
    (he : ∀ x (k : Point → Option α), e.first? x k = (e.ends x).findSome? k) :
    mostFirst e.first? n x k = (longestFirst e.ends n x).findSome? k := by
  induction n generalizing x with
  | zero => exact List.findSome?_singleton.symm
  | succ n ih =>
    rw [mostFirst, he, longestFirst, List.findSome?_append, List.findSome?_singleton,
      findSome?_flatMap]
    exact congrArg (Option.or · (k x)) (congrArg (List.findSome? · (e.ends x)) (funext fun y => ih))

/-- **Trying the matches.** What is found first is found behind the first of the
    matches, in their order, behind which anything is found. -/
theorem first?_eq (he : e.Plain) {k : Point → Option α} :
    e.first? x k = (e.ends x).findSome? k := by
  induction e generalizing x k with
  | empty => exact List.findSome?_singleton.symm
  | literal | chars | look => exact first?_toList
  | group index name e ih =>
    rw [Expr.first?, ih he, Expr.ends, List.findSome?_map]
    rfl
  | seq a b iha ihb =>
    rw [Expr.first?, iha he.1, Expr.ends, findSome?_flatMap]
    exact congrArg (List.findSome? · (a.ends x)) (funext fun y => ihb he.2)
  | alt a b iha ihb =>
    rw [Expr.first?, iha he.1, ihb he.2, Expr.ends, List.findSome?_append]
  | repeated min max greedy e =>
    obtain ⟨rfl, rfl, rfl, s, rfl, -⟩ := he
    exact mostFirst_eq fun _ _ => first?_toList

/-- **Searching.** For an expression that matches at the start of a text only, a search
    finds the first of the matches there. -/
theorem search_eq_ends (he : e.Plain) (hs : e.AtStart) (t : Text) :
    e.search t = (e.ends (⟨0, none, t⟩, [])).head?.map fun y => ⟨0, y.2, y.1.pos⟩ := by
  rw [search_eq_first he hs, first?_eq he]
  cases e.ends (⟨0, none, t⟩, []) <;> rfl

end PathRouting.Regex
