/-
  Matches of simplest forms.

  * `matching`: the meaning of an expression by its matches.
  * `matches_sequence_cons`, `matches_choice`: a sequence matches what its parts match
    one after the other, a choice what one of its branches matches.
-/
import PathRouting.Proofs.Regex.Interpretation
import PathRouting.Proofs.Regex.Matching

namespace PathRouting.Regex

namespace Place

theorem skip_cons {pos : ℕ} {before : Option Char} {c d : Char} {rest t : Text} :
    (Place.mk pos before (d :: rest)).skip (c :: t) =
      if c = d then (Place.mk (pos + 1) (some d) rest).skip t else none := by
  rw [skip]

theorem skip_append (p : Place) (t u : Text) :
    p.skip (t ++ u) = (p.skip t).bind (·.skip u) := by
  induction t generalizing p with
  | nil => rfl
  | cons c t ih =>
    obtain ⟨pos, before, rest⟩ := p
    match rest with
    | [] => rfl
    | d :: rest =>
      rw [List.cons_append, skip_cons, skip_cons]
      split_ifs
      · exact ih _
      · rfl

theorem one_cons {pos : ℕ} {before : Option Char} {s : CharSet} {d : Char} {rest : Text} :
    (Place.mk pos before (d :: rest)).one s =
      if s.has d then some ⟨pos + 1, some d, rest⟩ else none :=
  rfl

theorem one_empty {p : Place} : p.one .empty = none := by
  obtain ⟨pos, before, rest⟩ := p
  cases rest <;> rfl

/-- A text of one character is the same as the set of that character. -/
theorem skip_singleton {p : Place} {s : CharSet} {c : Char} (h : ∀ d, s.has d ↔ d = c) :
    p.skip [c] = p.one s := by
  obtain ⟨pos, before, rest⟩ := p
  match rest with
  | [] => rfl
  | d :: rest =>
    rw [skip_cons, one_cons]
    exact if_congr ((h d).trans eq_comm).symm rfl rfl

/-- Two sets lead to no two places. -/
theorem one_union_eq_some {p q : Place} {a b : CharSet} :
    p.one (a.union b) = some q ↔ p.one a = some q ∨ p.one b = some q := by
  obtain ⟨pos, before, rest⟩ := p
  match rest with
  | [] => exact ⟨.inl, fun h => h.elim id id⟩
  | d :: rest =>
    rw [one_cons, one_cons, one_cons, if_congr CharSet.has_union rfl rfl]
    by_cases ha : a.has d <;> simp [ha]

end Place

/-- The meaning of an expression by its matches. -/
def matching : Interpretation (Point → Point → Prop) where
  of := Expr.Matches
  unit := Eq
  comp r r' := fun x y => ∃ z, r x z ∧ r' z y
  fail := fun _ _ => False
  join r r' := fun x y => r x y ∨ r' x y
  comp_assoc a b c := by
    funext x y
    simp only [eq_iff_iff]
    constructor
    · rintro ⟨z, ⟨w, ha, hb⟩, hc⟩
      exact ⟨w, ha, z, hb, hc⟩
    · rintro ⟨w, ha, z, hb, hc⟩
      exact ⟨z, ⟨w, ha, hb⟩, hc⟩
  unit_comp a := by
    funext x y
    simp
  comp_unit a := by
    funext x y
    simp
  join_assoc a b c := by
    funext x y
    simp only [or_assoc]
  fail_join a := by
    funext x y
    simp
  join_fail a := by
    funext x y
    simp
  of_empty := rfl
  of_seq _ _ := rfl
  of_alt _ _ := rfl
  of_literal t u := by
    funext x y
    simp only [Expr.Matches, Moves, eq_iff_iff, Place.skip_append, Option.bind_eq_some_iff]
    constructor
    · rintro ⟨⟨p, ht, hu⟩, hs⟩
      exact ⟨(p, x.2), ⟨ht, rfl⟩, hu, hs⟩
    · rintro ⟨z, ⟨ht, hs⟩, hu, hs'⟩
      exact ⟨⟨z.1, ht, hu⟩, hs.trans hs'⟩
  of_none := by
    funext x y
    exact eq_false fun h => Option.some_ne_none _ (h.1.symm.trans Place.one_empty)
  of_one h := by
    funext x y
    simp only [Expr.Matches, Moves, Place.skip_singleton h]
  of_union a b := by
    funext x y
    simp only [Expr.Matches, Moves, Place.one_union_eq_some, or_and_right]

/-- Behind a match come those of either branch. -/
theorem matching_splits (m : Point → Point → Prop) : matching.Splits m := by
  intro a b
  funext x y
  simp only [matching, and_or_left, exists_or]

theorem matching_sum {es : List Expr} {x y : Point} :
    matching.sum es x y ↔ ∃ e ∈ es, e.Matches x y := by
  induction es with
  | nil => exact ⟨False.elim, fun ⟨_, he, _⟩ => nomatch he⟩
  | cons e es ih =>
    have h : matching.sum (e :: es) x y ↔ e.Matches x y ∨ matching.sum es x y := Iff.rfl
    rw [h, ih]
    simp

/-- The simplest form of a choice matches what its branches match. -/
theorem matches_choice {es : List Expr} {x y : Point} :
    (Expr.choice es).Matches x y ↔ ∃ e ∈ es, e.Matches x y := by
  have h : (Expr.choice es).Matches = matching.sum es :=
    matching.of_choiceWith (fun e _ => matching_splits e.Matches) (Expr.sharesOnly_true _ es)
  rw [h, matching_sum]

/-- The simplest form of a sequence matches what its parts match. -/
theorem matches_sequence_cons {e : Expr} {es : List Expr} {x y : Point} :
    (Expr.sequence (e :: es)).Matches x y ↔
      ∃ z, e.Matches x z ∧ (Expr.sequence es).Matches z y := by
  have h (fs : List Expr) : (Expr.sequence fs).Matches = matching.prod fs := matching.of_sequence fs
  rw [h, h]
  exact Iff.rfl

end PathRouting.Regex
