/-
  Simplest forms mean what they are written for.

  * `Interpretation`: a meaning of expressions in which sequences are composed and
    choices joined.
  * `Interpretation.of_sequence`, `Interpretation.of_choiceWith`: under any such meaning
    the simplest form of a sequence is the composition of its parts, and that of a
    choice the union of its branches, if what comes in front of the choice because
    all branches share it may as well come in front of each (`Splits`).
  * `grouping` and `holding`: the groups that are left in simplest forms, and what holds
    of all their parts.
-/
import PathRouting.Proofs.Regex.Places
import PathRouting.Proofs.Regex.Sets

namespace PathRouting.Regex

/-- A meaning of expressions. -/
structure Interpretation (M : Type) where
  of : Expr → M
  unit : M
  comp : M → M → M
  fail : M
  join : M → M → M
  comp_assoc : ∀ a b c, comp (comp a b) c = comp a (comp b c)
  unit_comp : ∀ a, comp unit a = a
  comp_unit : ∀ a, comp a unit = a
  join_assoc : ∀ a b c, join (join a b) c = join a (join b c)
  fail_join : ∀ a, join fail a = a
  join_fail : ∀ a, join a fail = a
  of_empty : of .empty = unit
  of_seq : ∀ a b, of (.seq a b) = comp (of a) (of b)
  of_alt : ∀ a b, of (.alt a b) = join (of a) (of b)
  of_literal : ∀ t u, of (.literal (t ++ u)) = comp (of (.literal t)) (of (.literal u))
  of_none : of (.chars .empty) = fail
  of_one : ∀ {s c}, (∀ d, s.has d ↔ d = c) → of (.literal [c]) = of (.chars s)
  of_union : ∀ a b, of (.chars (.union a b)) = join (of (.chars a)) (of (.chars b))

namespace Interpretation

variable {M : Type} (I : Interpretation M)

/-- The meanings of expressions one after the other. -/
def prod (es : List Expr) : M :=
  es.foldr (fun e m => I.comp (I.of e) m) I.unit

/-- The meanings of expressions as alternatives. -/
def sum (es : List Expr) : M :=
  es.foldr (fun e m => I.join (I.of e) m) I.fail

theorem prod_cons (e : Expr) (es : List Expr) : I.prod (e :: es) = I.comp (I.of e) (I.prod es) :=
  rfl

theorem sum_cons (e : Expr) (es : List Expr) : I.sum (e :: es) = I.join (I.of e) (I.sum es) :=
  rfl

theorem prod_append (es fs : List Expr) : I.prod (es ++ fs) = I.comp (I.prod es) (I.prod fs) := by
  induction es with
  | nil => exact (I.unit_comp _).symm
  | cons e es ih => rw [List.cons_append, prod_cons, prod_cons, ih, I.comp_assoc]

theorem sum_append (es fs : List Expr) : I.sum (es ++ fs) = I.join (I.sum es) (I.sum fs) := by
  induction es with
  | nil => exact (I.fail_join _).symm
  | cons e es ih => rw [List.cons_append, sum_cons, sum_cons, ih, I.join_assoc]

theorem prod_singleton (e : Expr) : I.prod [e] = I.of e := I.comp_unit _

theorem sum_singleton (e : Expr) : I.sum [e] = I.of e := I.join_fail _

/-! ## Sequences -/

theorem of_ofSet (s : CharSet) : I.of (.ofSet s) = I.of (.chars s) := by
  unfold Expr.ofSet
  split
  case h_1 c h => exact I.of_one fun d => CharSet.has_of_member h
  case h_2 => rfl

theorem prod_parts (e : Expr) : I.prod e.parts = I.of e := by
  induction e with
  | empty => exact I.of_empty.symm
  | seq a b _ ih => rw [Expr.parts, prod_cons, ih, I.of_seq]
  | _ => exact I.prod_singleton _

theorem of_ofParts (es : List Expr) : I.of (.ofParts es) = I.prod es := by
  induction es with
  | nil => exact I.of_empty
  | cons e es ih =>
    cases es with
    | nil => exact (I.prod_singleton e).symm
    | cons f es =>
      rw [Expr.ofParts, I.of_seq, ih]
      · rfl
      · rintro ⟨⟩

theorem prod_joinLiterals (es : List Expr) : I.prod (Expr.joinLiterals es) = I.prod es := by
  induction es with
  | nil => rfl
  | cons e es ih =>
    unfold Expr.joinLiterals
    split
    case h_1 he => cases he
    case h_2 t es' he =>
      cases he
      rw [prod_cons, ← ih]
      split
      case h_1 u rest hj => rw [hj, prod_cons, prod_cons, I.of_literal, I.comp_assoc]
      case h_2 => rfl
    case h_3 he =>
      cases he
      rw [prod_cons, prod_cons, ih]

theorem prod_flatMap_parts (es : List Expr) : I.prod (es.flatMap Expr.parts) = I.prod es := by
  induction es with
  | nil => rfl
  | cons e es ih => rw [List.flatMap_cons, prod_append, prod_parts, ih, prod_cons]

/-- **Sequences.** The simplest form of a sequence is the composition of its parts. -/
theorem of_sequence (es : List Expr) : I.of (.sequence es) = I.prod es := by
  rw [Expr.sequence, of_ofParts, prod_joinLiterals, prod_flatMap_parts]

/-! ## Choices -/

theorem sum_branches (e : Expr) : I.sum e.branches = I.of e := by
  induction e with
  | alt a b _ ih => rw [Expr.branches, sum_cons, ih, I.of_alt]
  | _ => exact I.sum_singleton _

theorem of_ofBranches (es : List Expr) : I.of (.ofBranches es) = I.sum es := by
  induction es with
  | nil => exact I.of_none
  | cons e es ih =>
    cases es with
    | nil => exact (I.sum_singleton e).symm
    | cons f es =>
      rw [Expr.ofBranches, I.of_alt, ih]
      · rfl
      · rintro ⟨⟩

theorem sum_flatMap_branches (es : List Expr) : I.sum (es.flatMap Expr.branches) = I.sum es := by
  induction es with
  | nil => rfl
  | cons e es ih => rw [List.flatMap_cons, sum_append, sum_branches, ih, sum_cons]

theorem of_set {e : Expr} {s : CharSet} (h : e.set? = some s) : I.of e = I.of (.chars s) := by
  unfold Expr.set? at h
  split at h
  case h_1 c =>
    cases h
    exact I.of_one fun d => CharSet.has_single.trans Char.toNat_inj
  case h_2 => cases h; rfl
  case h_3 => cases h

theorem of_unionSet {es : List Expr} {s : CharSet} (h : Expr.unionSet? es = some s) :
    I.of (.chars s) = I.sum es := by
  induction es generalizing s with
  | nil => cases h; exact I.of_none
  | cons e es ih =>
    obtain ⟨a, ha, h⟩ := Option.bind_eq_some_iff.1 h
    obtain ⟨b, hb, rfl⟩ := Option.map_eq_some_iff.1 h
    rw [I.of_union, sum_cons, I.of_set ha, ih hb]

/-- What may come in front of a choice or of each of its branches alike. -/
def Splits (m : M) : Prop :=
  ∀ a b, I.comp m (I.join a b) = I.join (I.comp m a) (I.comp m b)

theorem splits_prod {es : List Expr} (h : ∀ e ∈ es, I.Splits (I.of e)) : I.Splits (I.prod es) := by
  induction es with
  | nil =>
    intro a b
    show I.comp I.unit _ = I.join (I.comp I.unit a) (I.comp I.unit b)
    rw [I.unit_comp, I.unit_comp, I.unit_comp]
  | cons e es ih =>
    intro a b
    rw [prod_cons, I.comp_assoc, I.comp_assoc, I.comp_assoc, ih (fun f hf => h f (by simp [hf])),
      h e (by simp)]

/-- A beginning that all branches share may come in front of them. -/
theorem sum_map_ofParts {shared es : List Expr} (hs : I.Splits (I.prod shared)) (hne : es ≠ [])
    (he : ∀ e ∈ es, shared <+: e.parts) :
    I.comp (I.prod shared)
        (I.sum (es.map fun e => Expr.ofParts (e.parts.drop shared.length))) = I.sum es := by
  have hof : ∀ e ∈ es, I.comp (I.prod shared) (I.prod (e.parts.drop shared.length)) = I.of e := by
    intro e hm
    rw [← prod_append, ← I.prod_parts e]
    exact congrArg I.prod (List.prefix_iff_eq_append.1 (he e hm))
  induction es with
  | nil => exact absurd rfl hne
  | cons e es ih =>
    cases es with
    | nil =>
      rw [List.map_singleton, sum_singleton, sum_singleton, of_ofParts, hof e (by simp)]
    | cons f es =>
      rw [List.map_cons, sum_cons, sum_cons, hs, of_ofParts, hof e (by simp),
        ih (by simp) (fun g hg => he g (List.mem_cons_of_mem e hg))
          (fun g hg => hof g (List.mem_cons_of_mem e hg))]

end Interpretation

namespace Expr

theorem commonPrefix_isPrefixOf (as bs : List Expr) : commonPrefix as bs <+: as := by
  induction as generalizing bs with
  | nil => simp [commonPrefix]
  | cons a as ih =>
    match bs with
    | [] => simp [commonPrefix]
    | b :: bs =>
      rw [commonPrefix]
      split_ifs
      · exact (List.prefix_cons_inj a).2 (ih bs)
      · exact List.nil_prefix

theorem foldl_commonPrefix_isPrefixOf (ps : List Expr) (lists : List (List Expr)) :
    lists.foldl commonPrefix ps <+: ps := by
  induction lists generalizing ps with
  | nil => exact List.prefix_refl ps
  | cons l lists ih => exact (ih _).trans (commonPrefix_isPrefixOf ps l)

theorem commonPrefix_isPrefixOf_right (as bs : List Expr) : commonPrefix as bs <+: bs := by
  induction as generalizing bs with
  | nil => exact List.nil_prefix
  | cons a as ih =>
    match bs with
    | [] => exact List.prefix_refl _
    | b :: bs =>
      rw [commonPrefix]
      split_ifs with h
      · exact h ▸ (List.prefix_cons_inj a).2 (ih bs)
      · exact List.nil_prefix

theorem foldl_commonPrefix_isPrefixOf_right (ps : List Expr) {lists : List (List Expr)} {l : List Expr}
    (h : l ∈ lists) : lists.foldl commonPrefix ps <+: l := by
  induction lists generalizing ps with
  | nil => cases h
  | cons l' lists ih =>
    rcases List.mem_cons.1 h with rfl | h
    · exact (foldl_commonPrefix_isPrefixOf (commonPrefix ps l) lists).trans
        (commonPrefix_isPrefixOf_right ps l)
    · exact ih _ h

/-- All of some expressions begin with what they share. -/
theorem sharedParts_isPrefixOf {es : List Expr} {e : Expr} (h : e ∈ es) :
    sharedParts es <+: e.parts := by
  unfold sharedParts
  dsimp only
  split_ifs
  · exact List.nil_prefix
  match es with
  | f :: es =>
    rcases List.mem_cons.1 h with rfl | h
    · exact foldl_commonPrefix_isPrefixOf _ _
    · exact foldl_commonPrefix_isPrefixOf_right _ (List.mem_map_of_mem h)

/-- What is left of branches without what all of them share. -/
def rests (bs : List Expr) : List Expr :=
  bs.map fun b => ofParts (b.parts.drop (sharedParts bs).length)

/-- The simplest forms of a choice. -/
theorem choiceWith_cases (fuel : ℕ) (es : List Expr) :
    (es.flatMap branches = [] ∧ choiceWith (fuel + 1) es = .chars .empty) ∨
      es.flatMap branches = [choiceWith (fuel + 1) es] ∨
      (∃ s, unionSet? (es.flatMap branches) = some s ∧ choiceWith (fuel + 1) es = ofSet s) ∨
      (sharedParts (es.flatMap branches) = [] ∧
        choiceWith (fuel + 1) es = ofBranches (es.flatMap branches)) ∨
      (sharedParts (es.flatMap branches) ≠ [] ∧ choiceWith (fuel + 1) es =
        sequence (sharedParts (es.flatMap branches) ++
          [choiceWith fuel (rests (es.flatMap branches))])) := by
  rw [choiceWith]
  generalize es.flatMap branches = bs
  split
  case h_1 => exact .inl ⟨rfl, rfl⟩
  case h_2 => exact .inr (.inl rfl)
  case h_3 =>
    refine .inr (.inr ?_)
    split
    case h_1 s hs => exact .inl ⟨s, hs, rfl⟩
    case h_2 =>
      refine .inr ?_
      split
      case h_1 hshared => exact .inl ⟨hshared, rfl⟩
      case h_2 hne => exact .inr ⟨hne, rfl⟩

/-- Whether all that comes in front of a choice because its branches share it
    satisfies a condition. -/
def sharesOnly (p : Expr → Bool) : ℕ → List Expr → Bool
  | 0, _ => true
  | fuel + 1, es =>
    match es.flatMap branches with
    | [] => true
    | [_] => true
    | es =>
      match unionSet? es with
      | some _ => true
      | none =>
        match sharedParts es with
        | [] => true
        | shared =>
          shared.all p &&
            sharesOnly p fuel (es.map fun e => ofParts (e.parts.drop shared.length))

theorem sharesOnly_true (fuel : ℕ) (es : List Expr) : sharesOnly (fun _ => true) fuel es := by
  induction fuel generalizing es with
  | zero => rfl
  | succ fuel ih =>
    unfold sharesOnly
    split
    · rfl
    · rfl
    split
    · rfl
    split
    · rfl
    · rw [ih, Bool.and_true, List.all_eq_true]
      exact fun _ _ => rfl

end Expr

namespace Interpretation

variable {M : Type} (I : Interpretation M) {p : Expr → Bool}

/-- **Choices.** The simplest form of a choice is the union of its branches, if all
    that comes in front of it may come in front of each branch. -/
theorem of_choiceWith (hp : ∀ e, p e → I.Splits (I.of e)) {fuel : ℕ} {es : List Expr}
    (h : Expr.sharesOnly p fuel es) : I.of (.choiceWith fuel es) = I.sum es := by
  induction fuel generalizing es with
  | zero => rw [Expr.choiceWith, of_ofBranches, sum_flatMap_branches]
  | succ fuel ih =>
    rw [← I.sum_flatMap_branches es]
    unfold Expr.sharesOnly at h
    unfold Expr.choiceWith
    generalize es.flatMap Expr.branches = bs at h
    split
    · exact I.of_none
    · exact (I.sum_singleton _).symm
    case h_3 hnil hone =>
      split
      case h_1 s hs => rw [of_ofSet, I.of_unionSet hs]
      case h_2 hs =>
        split
        case h_1 => exact I.of_ofBranches bs
        case h_2 shared hne =>
          have h : (Expr.sharedParts bs).all p ∧ Expr.sharesOnly p fuel (bs.map fun e =>
              Expr.ofParts (e.parts.drop (Expr.sharedParts bs).length)) := by
            split at h
            · exact (hnil rfl).elim
            · exact (hone _ rfl).elim
            rw [hs] at h
            dsimp only at h
            split at h
            · exact (hne ‹_›).elim
            · exact Bool.and_eq_true_iff.1 h
          rw [of_sequence, prod_append, prod_singleton, ih h.2]
          refine I.sum_map_ofParts (I.splits_prod fun e he => hp e ?_) (fun h => hnil h)
            fun e he => Expr.sharedParts_isPrefixOf he
          exact List.all_eq_true.1 h.1 e he

end Interpretation

/-! ## Groups -/

/-- The set of groups as a meaning. -/
def grouping : Interpretation (Finset ℕ) where
  of := Expr.groupSet
  unit := ∅
  comp := (· ∪ ·)
  fail := ∅
  join := (· ∪ ·)
  comp_assoc := Finset.union_assoc
  unit_comp := Finset.empty_union
  comp_unit := Finset.union_empty
  join_assoc := Finset.union_assoc
  fail_join := Finset.empty_union
  join_fail := Finset.union_empty
  of_empty := rfl
  of_seq _ _ := rfl
  of_alt _ _ := rfl
  of_literal _ _ := rfl
  of_none := rfl
  of_one _ := rfl
  of_union _ _ := rfl

theorem grouping_splits (s : Finset ℕ) : grouping.Splits s :=
  Finset.union_union_distrib_left s

theorem mem_grouping_prod {es : List Expr} {i : ℕ} :
    i ∈ grouping.prod es ↔ ∃ e ∈ es, i ∈ e.groupSet := by
  induction es with
  | nil => exact ⟨fun h => absurd h (Finset.notMem_empty i), fun ⟨_, h, _⟩ => nomatch h⟩
  | cons e es ih =>
    rw [List.exists_mem_cons_iff, ← ih]
    exact Finset.mem_union

theorem mem_groupSet_sequence {es : List Expr} {i : ℕ} :
    i ∈ (Expr.sequence es).groupSet ↔ ∃ e ∈ es, i ∈ e.groupSet := by
  rw [← mem_grouping_prod, ← grouping.of_sequence es]
  rfl

theorem mem_groupSet_choice {es : List Expr} {i : ℕ} :
    i ∈ (Expr.choice es).groupSet ↔ ∃ e ∈ es, i ∈ e.groupSet := by
  have hchoice : (Expr.choice es).groupSet = grouping.prod es :=
    grouping.of_choiceWith (fun e _ => grouping_splits e.groupSet) (Expr.sharesOnly_true _ es)
  rw [← mem_grouping_prod, hchoice]

/-! ## Properties of all parts -/

/-- A property that a sequence has if its parts have it. -/
structure Expr.Sequential (P : Expr → Prop) : Prop where
  empty : P .empty
  seq : ∀ a b, P (.seq a b) ↔ P a ∧ P b

namespace Expr.Sequential

variable {P : Expr → Prop} (h : Sequential P)
include h

theorem ofParts {ps : List Expr} (hall : ∀ p ∈ ps, P p) : P (Expr.ofParts ps) := by
  induction ps with
  | nil => exact h.empty
  | cons p ps ih =>
    obtain ⟨hp, hps⟩ := List.forall_mem_cons.1 hall
    cases ps with
    | nil => exact hp
    | cons q ps => exact (h.seq _ _).2 ⟨hp, ih hps⟩

theorem parts {e : Expr} (he : P e) : ∀ p ∈ e.parts, P p := by
  induction e with
  | empty => exact fun _ hp => nomatch hp
  | seq a b _ ih =>
    obtain ⟨ha, hb⟩ := (h.seq a b).1 he
    exact List.forall_mem_cons.2 ⟨ha, ih hb⟩
  | _ => exact List.forall_mem_singleton.2 he

theorem rests {bs : List Expr} (hb : ∀ b ∈ bs, P b) : ∀ e ∈ Expr.rests bs, P e := by
  intro e he
  obtain ⟨b, hm, rfl⟩ := List.mem_map.1 he
  exact h.ofParts fun p hp => h.parts (hb b hm) p (List.mem_of_mem_drop hp)

end Expr.Sequential

/-- A property that an expression has if all of its parts have it. -/
structure Expr.Structural (P : Expr → Prop) extends Sequential P where
  literal : ∀ t, P (.literal t)
  chars : ∀ s, P (.chars s)
  alt : ∀ a b, P (.alt a b) ↔ P a ∧ P b

namespace Expr.Structural

variable {P : Expr → Prop} (h : Structural P)
include h

/-- A property of all parts as a meaning. -/
def holding : Interpretation Prop where
  of := P
  unit := True
  comp := And
  fail := True
  join := And
  comp_assoc a b c := propext and_assoc
  unit_comp a := true_and a
  comp_unit a := and_true a
  join_assoc a b c := propext and_assoc
  fail_join a := true_and a
  join_fail a := and_true a
  of_empty := eq_true h.empty
  of_seq a b := propext (h.seq a b)
  of_alt a b := propext (h.alt a b)
  of_literal t u := by simp only [h.literal, and_self]
  of_none := eq_true (h.chars _)
  of_one _ := by simp only [h.literal, h.chars]
  of_union a b := by simp only [h.chars, and_self]

theorem holding_splits (m : Prop) : h.holding.Splits m := by
  intro a b
  exact propext ⟨fun ⟨hm, ha, hb⟩ => ⟨⟨hm, ha⟩, hm, hb⟩, fun ⟨⟨hm, ha⟩, _, hb⟩ => ⟨hm, ha, hb⟩⟩

end Expr.Structural

end PathRouting.Regex
