/-
  The places that a match has for groups.

  * `Expr.groupSet`: the numbers of the groups of an expression.
  * `Expr.groupCount_le_iff`, `Expr.groupCount_mem`: there are places up to the number of the last
    group.
  * `Expr.groupNames_eq`: if the groups are in order, each name has the place of its group.
-/
import PathRouting.Regex.Expr
import Mathlib.Order.Interval.Finset.Nat

namespace PathRouting.Regex.Expr

/-! ## Numbers -/

/-- The numbers of the capturing groups of an expression. -/
def groupSet : Expr → Finset ℕ
  | .empty | .literal _ | .chars _ | .look _ => ∅
  | .group index _ e => insert index e.groupSet
  | .repeated _ _ _ e => e.groupSet
  | .seq a b | .alt a b => a.groupSet ∪ b.groupSet

theorem mem_groupSet {e : Expr} {i : ℕ} : i ∈ e.groupSet ↔ ∃ g ∈ e.groups, g.1 = i := by
  induction e with
  | empty | literal | chars | look => simp [groupSet, groups]
  | group index name e ih =>
    rw [groupSet, groups, Finset.mem_insert, ih, List.exists_mem_cons_iff, eq_comm]
  | repeated min max greedy e ih => exact ih
  | seq a b iha ihb | alt a b iha ihb =>
    rw [groupSet, groups, Finset.mem_union, iha, ihb]
    simp only [List.mem_append, or_and_right, exists_or]

theorem length_enter (places : List (Option Text)) (g : ℕ × Option Text) :
    (enter places g).length = max places.length (g.1 + 1) := by
  unfold enter
  split_ifs with h
  · omega
  · simp only [List.length_append, List.length_replicate, List.length_singleton]
    omega

theorem length_enter_all_le {gs : List (ℕ × Option Text)} {places : List (Option Text)}
    {n : ℕ} : (gs.foldl enter places).length ≤ n ↔ places.length ≤ n ∧ ∀ g ∈ gs, g.1 < n := by
  induction gs generalizing places with
  | nil => exact ⟨fun h => ⟨h, nofun⟩, And.left⟩
  | cons g gs ih =>
    rw [List.foldl_cons, ih, length_enter, Nat.max_le, List.forall_mem_cons, and_assoc]
    rfl

/-- There are places up to the number of the last group. -/
theorem groupCount_le_iff {e : Expr} {n : ℕ} : e.groupCount ≤ n ↔ ∀ i ∈ e.groupSet, i ≤ n := by
  rw [groupCount, Nat.sub_le_iff_le_add, places, length_enter_all_le]
  constructor
  · rintro ⟨-, h⟩ i hi
    obtain ⟨g, hg, rfl⟩ := mem_groupSet.1 hi
    exact Nat.le_of_lt_succ (h g hg)
  · intro h
    exact ⟨Nat.succ_le_succ n.zero_le, fun g hg =>
      Nat.lt_succ_of_le (h g.1 (mem_groupSet.2 ⟨g, hg, rfl⟩))⟩

theorem le_groupCount {e : Expr} {i : ℕ} (h : i ∈ e.groupSet) : i ≤ e.groupCount :=
  groupCount_le_iff.1 le_rfl i h

theorem groupCount_mem {e : Expr} (h : 0 < e.groupCount) : e.groupCount ∈ e.groupSet := by
  by_contra hlast
  have hle : e.groupCount ≤ e.groupCount - 1 := groupCount_le_iff.2 fun i hi => by
    have hne : i ≠ e.groupCount := fun heq => hlast (heq ▸ hi)
    have := le_groupCount hi
    omega
  omega

/-- Where no group is missing, the number of the last group is that of all. -/
theorem groupCount_of_groupSet {e : Expr} {n : ℕ} (h : e.groupSet = Finset.Icc 1 n) :
    e.groupCount = n := by
  refine le_antisymm (groupCount_le_iff.2 fun i hi => ?_) ?_
  · rw [h] at hi
    exact (Finset.mem_Icc.1 hi).2
  · rcases Nat.eq_zero_or_pos n with rfl | hn
    · exact Nat.zero_le _
    · exact le_groupCount (h ▸ Finset.mem_Icc.2 ⟨hn, le_rfl⟩)

/-! ## Names -/

section
variable {e : Expr} {gs : List (ℕ × Option Text)} {places : List (Option Text)}

theorem namedPlaces_concat (places : List (Option Text)) (name : Option Text) :
    namedPlaces (places ++ [name]) = namedPlaces places ++ (name.map (places.length, ·)).toList := by
  rw [namedPlaces, List.zipIdx_append, List.filterMap_append, Nat.zero_add]
  cases name <;> rfl

theorem namedPlaces_append_none (places : List (Option Text)) (n : ℕ) :
    namedPlaces (places ++ List.replicate n none) = namedPlaces places := by
  induction n with
  | zero => rw [List.replicate_zero, List.append_nil]
  | succ n ih =>
    rw [List.replicate_succ', ← List.append_assoc, namedPlaces_concat, ih]
    exact List.append_nil _

/-- A group behind all others gets a place behind all others. -/
theorem namedPlaces_enter {g : ℕ × Option Text} (h : places.length ≤ g.1) :
    namedPlaces (enter places g) = namedPlaces places ++ (g.2.map (g.1, ·)).toList := by
  have hlen : (places ++ List.replicate (g.1 - places.length) none).length = g.1 := by
    rw [List.length_append, List.length_replicate]
    omega
  rw [enter, if_neg (Nat.not_lt.2 h), namedPlaces_concat, namedPlaces_append_none, hlen]

theorem namedPlaces_enter_all (hgs : gs.Pairwise fun a b => a.1 < b.1)
    (h : ∀ g ∈ gs, places.length ≤ g.1) :
    namedPlaces (gs.foldl enter places) =
      namedPlaces places ++ gs.filterMap fun g => g.2.map (g.1, ·) := by
  induction gs generalizing places with
  | nil => exact (List.append_nil _).symm
  | cons g gs ih =>
    obtain ⟨hg, hgs⟩ := List.pairwise_cons.1 hgs
    obtain ⟨hfirst, h⟩ := List.forall_mem_cons.1 h
    have hlen : ∀ g' ∈ gs, (enter places g).length ≤ g'.1 := fun g' hg' => by
      rw [length_enter]
      have := hg g' hg'
      omega
    rw [List.foldl_cons, ih hgs hlen, namedPlaces_enter hfirst, List.append_assoc]
    cases hname : g.2 <;> simp [hname]

/-- If the groups are in order, each name has the place of its group. -/
theorem groupNames_eq (hgs : e.groups.Pairwise fun a b => a.1 < b.1) (h : ∀ g ∈ e.groups, 0 < g.1) :
    e.groupNames = e.groups.filterMap fun g => g.2.map (g.1, ·) :=
  namedPlaces_enter_all hgs h

/-- No group has a name. -/
def Nameless (e : Expr) : Prop :=
  ∀ g ∈ e.groups, g.2 = none

theorem nameless_group (index : ℕ) : (group index none e).Nameless ↔ e.Nameless :=
  List.forall_mem_cons.trans (and_iff_right rfl)

theorem forall_mem_enter_all (h : ∀ p ∈ places, p = none) (hgs : ∀ g ∈ gs, g.2 = none) :
    ∀ p ∈ gs.foldl enter places, p = none := by
  induction gs generalizing places with
  | nil => exact h
  | cons g gs ih =>
    obtain ⟨hg, hgs⟩ := List.forall_mem_cons.1 hgs
    refine ih ?_ hgs
    unfold enter
    split_ifs
    · exact h
    · intro p hp
      rw [List.mem_append, List.mem_append, List.mem_singleton] at hp
      obtain (hp | hp) | rfl := hp
      · exact h p hp
      · exact List.eq_of_mem_replicate hp
      · exact hg

theorem Nameless.groupNames_eq_nil (h : e.Nameless) : e.groupNames = [] := by
  have hnone : ∀ p ∈ e.places, p = none :=
    forall_mem_enter_all (fun p hp => List.mem_singleton.1 hp) h
  refine List.filterMap_eq_nil_iff.2 ?_
  rintro ⟨name, index⟩ hp
  rw [hnone name (List.fst_mem_of_mem_zipIdx hp)]
  rfl

end

end PathRouting.Regex.Expr
