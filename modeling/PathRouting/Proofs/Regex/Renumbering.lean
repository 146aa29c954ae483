/-
  Expressions behind other groups.

  * `Expr.shifted` numbers the groups of an expression from further on. Simplest forms
    are made the same way whatever the numbers are (`sequence_shifted`,
    `ofAlternatives_shifted`).
  * `Expr.Lookless`: expressions that have no conditions on positions.
  * `ends_shifted`: further on in a text, such an expression behind other groups has the
    matches that it has at the start of what is left there, in the same order.
-/
import PathRouting.Proofs.Regex.Ends
import PathRouting.Proofs.Regex.Runs

namespace PathRouting.Regex

namespace Expr

/-- An expression with its groups numbered from further on. -/
def shifted (n : ℕ) : Expr → Expr
  | .group index name e => .group (index + n) name (e.shifted n)
  | .repeated min max greedy e => .repeated min max greedy (e.shifted n)
  | .seq a b => .seq (a.shifted n) (b.shifted n)
  | .alt a b => .alt (a.shifted n) (b.shifted n)
  | .empty => .empty
  | .literal t => .literal t
  | .chars s => .chars s
  | .look l => .look l

theorem shifted_injective (n : ℕ) : Function.Injective (shifted n) := by
  intro e e' h
  induction e generalizing e' with
  | group index name e ih =>
    cases e' <;> simp only [shifted, group.injEq, reduceCtorEq, Nat.add_right_cancel_iff] at h
    rw [h.1, h.2.1, ih h.2.2]
  | repeated min max greedy e ih =>
    cases e' <;> simp only [shifted, repeated.injEq, reduceCtorEq] at h
    rw [h.1, h.2.1, h.2.2.1, ih h.2.2.2]
  | seq a b iha ihb =>
    cases e' <;> simp only [shifted, seq.injEq, reduceCtorEq] at h
    rw [iha h.1, ihb h.2]
  | alt a b iha ihb =>
    cases e' <;> simp only [shifted, alt.injEq, reduceCtorEq] at h
    rw [iha h.1, ihb h.2]
  | empty | literal | chars | look => cases e' <;> simp_all [shifted]

/-! ## Simplest forms -/

variable (n : ℕ)

theorem parts_shifted (e : Expr) : (e.shifted n).parts = e.parts.map (shifted n) := by
  induction e with
  | seq a b _ ih => simp only [shifted, parts, ih, List.map_cons]
  | _ => rfl

theorem branches_shifted (e : Expr) : (e.shifted n).branches = e.branches.map (shifted n) := by
  induction e with
  | alt a b _ ih => simp only [shifted, branches, ih, List.map_cons]
  | _ => rfl

theorem flatMap_shifted {f : Expr → List Expr} (hf : ∀ e, f (shifted n e) = (f e).map (shifted n))
    (es : List Expr) : (es.map (shifted n)).flatMap f = (es.flatMap f).map (shifted n) := by
  simp only [List.flatMap_map, hf, List.map_flatMap]

theorem ofParts_shifted (es : List Expr) :
    ofParts (es.map (shifted n)) = (ofParts es).shifted n := by
  induction es with
  | nil => rfl
  | cons e es ih =>
    cases es with
    | nil => rfl
    | cons f es => exact congrArg (Expr.seq (shifted n e)) ih

theorem ofBranches_shifted (es : List Expr) :
    ofBranches (es.map (shifted n)) = (ofBranches es).shifted n := by
  induction es with
  | nil => rfl
  | cons e es ih =>
    cases es with
    | nil => rfl
    | cons f es => exact congrArg (Expr.alt (shifted n e)) ih

theorem joinLiterals_shifted (es : List Expr) :
    joinLiterals (es.map (shifted n)) = (joinLiterals es).map (shifted n) := by
  induction es with
  | nil => rfl
  | cons e es ih =>
    cases e with
    | literal t =>
      simp only [List.map_cons, shifted, joinLiterals, ih]
      cases joinLiterals es with
      | nil => rfl
      | cons f fs => cases f <;> rfl
    | _ => simp only [List.map_cons, shifted, joinLiterals, ih]

theorem sequence_shifted (es : List Expr) :
    sequence (es.map (shifted n)) = (sequence es).shifted n := by
  rw [sequence, sequence, flatMap_shifted n (parts_shifted n), joinLiterals_shifted,
    ofParts_shifted]

theorem set?_shifted (e : Expr) : (e.shifted n).set? = e.set? := by
  cases e <;> rfl

theorem unionSet?_shifted (es : List Expr) : unionSet? (es.map (shifted n)) = unionSet? es := by
  induction es with
  | nil => rfl
  | cons e es ih => rw [List.map_cons, unionSet?, unionSet?, set?_shifted, ih]

theorem shifted_ofSet (s : CharSet) : (ofSet s).shifted n = ofSet s := by
  unfold ofSet
  split <;> rfl

theorem commonPrefix_shifted (as bs : List Expr) :
    commonPrefix (as.map (shifted n)) (bs.map (shifted n)) =
      (commonPrefix as bs).map (shifted n) := by
  induction as generalizing bs with
  | nil => rfl
  | cons a as ih =>
    cases bs with
    | nil => rfl
    | cons b bs =>
      rw [List.map_cons, List.map_cons, commonPrefix, commonPrefix]
      by_cases hab : a = b
      · rw [if_pos hab, if_pos (congrArg _ hab), ih, List.map_cons]
      · rw [if_neg hab, if_neg fun h => hab (shifted_injective n h), List.map_nil]

theorem foldl_commonPrefix_shifted (ps : List Expr) (lists : List (List Expr)) :
    (lists.map (List.map (shifted n))).foldl commonPrefix (ps.map (shifted n)) =
      (lists.foldl commonPrefix ps).map (shifted n) := by
  induction lists generalizing ps with
  | nil => rfl
  | cons l lists ih => rw [List.map_cons, List.foldl_cons, commonPrefix_shifted, ih, List.foldl_cons]

theorem sharedParts_shifted (es : List Expr) :
    sharedParts (es.map (shifted n)) = (sharedParts es).map (shifted n) := by
  have hlists : (es.map (shifted n)).map parts = (es.map parts).map (List.map (shifted n)) := by
    simp only [List.map_map, Function.comp_def, parts_shifted]
  unfold sharedParts
  dsimp only
  rw [hlists]
  have hany : ((es.map parts).map (List.map (shifted n))).any (·.length ≤ 1) =
      (es.map parts).any (·.length ≤ 1) := by
    simp only [List.any_map, Function.comp_def, List.length_map]
  rw [hany]
  split_ifs
  · rfl
  · cases es.map parts with
    | nil => rfl
    | cons ps rest => exact foldl_commonPrefix_shifted n ps rest

theorem choiceWith_shifted (fuel : ℕ) (es : List Expr) :
    choiceWith fuel (es.map (shifted n)) = (choiceWith fuel es).shifted n := by
  induction fuel generalizing es with
  | zero => rw [choiceWith, choiceWith, flatMap_shifted n (branches_shifted n), ofBranches_shifted]
  | succ fuel ih =>
    unfold choiceWith
    rw [flatMap_shifted n (branches_shifted n)]
    generalize es.flatMap branches = bs
    rcases bs with - | ⟨e, - | ⟨f, fs⟩⟩
    · rfl
    · rfl
    · have hunion := unionSet?_shifted n (e :: f :: fs)
      have hshared := sharedParts_shifted n (e :: f :: fs)
      have hrests : ∀ k : ℕ, ((e :: f :: fs).map (shifted n)).map
          (fun e => ofParts (e.parts.drop k)) =
            ((e :: f :: fs).map fun e => ofParts (e.parts.drop k)).map (shifted n) := by
        intro k
        simp only [List.map_map]
        refine List.map_congr_left fun e _ => ?_
        simp only [Function.comp_apply, parts_shifted, ← List.map_drop, ofParts_shifted]
      simp only [List.map_cons] at hunion hshared hrests ⊢
      rw [hunion, hshared]
      cases unionSet? (e :: f :: fs) with
      | some s => exact (shifted_ofSet n s).symm
      | none =>
        cases sharedParts (e :: f :: fs) with
        | nil => exact ofBranches_shifted n (e :: f :: fs)
        | cons p ps =>
          have hrec := ih ((e :: f :: fs).map fun e => ofParts (e.parts.drop (ps.length + 1)))
          simp only [List.map_cons] at hrec
          simp only [List.map_cons, List.length_cons, List.length_map]
          rw [hrests, hrec, ← sequence_shifted]
          simp only [List.map_cons, List.map_append, List.map_nil]

theorem size_shifted (e : Expr) : (e.shifted n).size = e.size := by
  induction e with
  | group _ _ e ih | repeated _ _ _ e ih => simp only [shifted, size, ih]
  | seq a b iha ihb | alt a b iha ihb => simp only [shifted, size, iha, ihb]
  | _ => rfl

theorem ofAlternatives_shifted (es : List Expr) :
    ofAlternatives (es.map (shifted n)) = (ofAlternatives es).shifted n := by
  have hchoice : choice (es.map (shifted n)) = (choice es).shifted n := by
    have hsize : (es.map (shifted n)).map size = es.map size := by
      simp only [List.map_map, Function.comp_def, size_shifted]
    rw [choice, choice, hsize, choiceWith_shifted]
  match es with
  | [] => exact hchoice
  | [e] => rfl
  | e :: f :: fs => exact hchoice

/-! ## Expressions without conditions -/

/-- Expressions that have no conditions on positions. -/
def Lookless : Expr → Prop
  | .empty | .literal _ | .chars _ => True
  | .look _ => False
  | .group _ _ e | .repeated _ _ _ e => e.Lookless
  | .seq a b | .alt a b => a.Lookless ∧ b.Lookless

theorem structural_lookless : Structural Lookless where
  empty := trivial
  literal _ := trivial
  chars _ := trivial
  seq _ _ := Iff.rfl
  alt _ _ := Iff.rfl

end Expr

/-! ## Further on in a text -/

/-- A point that is further on in a text, behind other groups and with other positions
    noted before. -/
structure Ahead (d n : ℕ) (base : Saves) (x y : Point) : Prop where
  pos : y.1.pos = x.1.pos + d
  rest : y.1.rest = x.1.rest
  saves : y.2 = x.2.map (fun s => (s.1 + 2 * n, s.2 + d)) ++ base

section
variable {d n : ℕ} {base : Saves} {x y : Point}

theorem Ahead.note (h : Ahead d n base x y) {slot slot' : ℕ} (hslot : slot' = slot + 2 * n) :
    Ahead d n base (x.note slot) (y.note slot') := by
  refine ⟨h.pos, h.rest, ?_⟩
  simp only [Point.note, List.map_cons, List.cons_append, h.saves, h.pos, hslot]

theorem ahead_skip (h : Ahead d n base x y) (t : Text) :
    List.Forall₂ (Ahead d n base) ((x.1.skip t).map fun q => (q, x.2)).toList
      ((y.1.skip t).map fun q => (q, y.2)).toList := by
  obtain ⟨⟨pos, before, rest⟩, saves⟩ := x
  obtain ⟨⟨pos', before', rest'⟩, saves'⟩ := y
  obtain ⟨hpos, hrest, hsaves⟩ := h
  simp only at hpos hrest hsaves
  subst hpos hrest hsaves
  induction t generalizing pos before before' rest' with
  | nil => exact .cons ⟨rfl, rfl, rfl⟩ .nil
  | cons c t ih =>
    cases rest' with
    | nil => exact .nil
    | cons e rest =>
      rw [Place.skip_cons, Place.skip_cons]
      split_ifs
      · have := ih (pos + 1) (some e) (some e) rest
        rwa [Nat.add_right_comm] at this
      · exact .nil

theorem ahead_one (h : Ahead d n base x y) (s : CharSet) :
    List.Forall₂ (Ahead d n base) ((x.1.one s).map fun q => (q, x.2)).toList
      ((y.1.one s).map fun q => (q, y.2)).toList := by
  obtain ⟨⟨pos, before, rest⟩, saves⟩ := x
  obtain ⟨⟨pos', before', rest'⟩, saves'⟩ := y
  obtain ⟨hpos, hrest, hsaves⟩ := h
  simp only at hpos hrest hsaves
  subst hpos hrest hsaves
  cases rest' with
  | nil => exact .nil
  | cons e rest =>
    rw [Place.one_cons, Place.one_cons]
    split_ifs
    · exact .cons ⟨Nat.add_right_comm pos d 1, rfl, rfl⟩ .nil
    · exact .nil

theorem ahead_longestFirst {step step' : Point → List Point}
    (hstep : ∀ x y, Ahead d n base x y → List.Forall₂ (Ahead d n base) (step x) (step' y))
    (h : Ahead d n base x y) (k : ℕ) :
    List.Forall₂ (Ahead d n base) (longestFirst step k x) (longestFirst step' k y) := by
  induction k generalizing x y with
  | zero => exact .cons h .nil
  | succ k ih => exact List.rel_append (List.rel_flatMap (hstep x y h) fun _ _ h => ih h) (.cons h .nil)

/-- **Further on.** An expression without conditions has, behind other groups, the
    matches that it has at the start of what is left, in the same order. -/
theorem ends_shifted {e : Expr} (he : e.Lookless) (h : Ahead d n base x y) :
    List.Forall₂ (Ahead d n base) (e.ends x) ((e.shifted n).ends y) := by
  induction e generalizing x y with
  | empty => exact .cons h .nil
  | literal t => exact ahead_skip h t
  | chars s => exact ahead_one h s
  | look l => exact he.elim
  | group index name e ih =>
    refine List.forall₂_map_left_iff.2 (List.forall₂_map_right_iff.2 ?_)
    exact (ih he (h.note (by omega))).imp fun _ _ h => h.note (by omega)
  | repeated min max greedy e ih =>
    rw [Expr.shifted, Expr.ends, Expr.ends, h.rest]
    exact ahead_longestFirst (fun _ _ h => ih he h) h _
  | seq a b iha ihb => exact List.rel_flatMap (iha he.1 h) fun _ _ h => ihb he.2 h
  | alt a b iha ihb => exact List.rel_append (iha he.1 h) (ihb he.2 h)

end

end PathRouting.Regex
