/-
  Simplest forms are in simplest form.

  * `Expr.SameParts`: expressions of which the same sequence is made.
  * `Expr.Tidy`: the parts of sequences are no sequences themselves. The reader makes
    tidy expressions only (`Reader.Tidy.reads`).
  * `Expr.sameParts_sequence`: tidy expressions may be put together to a sequence before
    the ones around them are.
  * `Level.Tidy.close`: what a group is closed with is the same alone in a sequence.
-/
import PathRouting.Proofs.Regex.Numbering
import PathRouting.Proofs.Regex.Renumbering

namespace PathRouting.Regex

namespace Expr

variable {es es' fs fs' ps : List Expr} {e : Expr}

/-! ## Joined texts -/

/-- Puts an expression in front of others that are joined already. -/
def joinTo : Expr → List Expr → List Expr
  | literal t, literal u :: rest => literal (t ++ u) :: rest
  | e, rest => e :: rest

theorem joinLiterals_eq_foldr (es : List Expr) : joinLiterals es = es.foldr joinTo [] := by
  induction es with
  | nil => rfl
  | cons e es ih =>
    rw [List.foldr_cons, ← ih]
    cases e with
    | literal t =>
      rw [joinLiterals]
      cases joinLiterals es with
      | nil => rfl
      | cons f fs => cases f <;> rfl
    | _ => rfl

theorem foldr_joinTo (e : Expr) (es z : List Expr) :
    (joinTo e es).foldr joinTo z = joinTo e (es.foldr joinTo z) := by
  cases e with
  | literal t =>
    cases es with
    | nil => rfl
    | cons f fs =>
      cases f with
      | literal u =>
        show joinTo (.literal (t ++ u)) (fs.foldr joinTo z) =
          joinTo (.literal t) (joinTo (.literal u) (fs.foldr joinTo z))
        cases fs.foldr joinTo z with
        | nil => rfl
        | cons g gs =>
          cases g with
          | literal v => exact congrArg (· :: gs) (congrArg Expr.literal (List.append_assoc t u v))
          | _ => rfl
      | _ => rfl
  | _ => rfl

theorem foldr_joinLiterals (es z : List Expr) :
    (joinLiterals es).foldr joinTo z = es.foldr joinTo z := by
  induction es with
  | nil => rfl
  | cons e es ih =>
    rw [joinLiterals_eq_foldr, List.foldr_cons, foldr_joinTo, ← joinLiterals_eq_foldr, ih,
      List.foldr_cons]

theorem joinLiterals_joinLiterals (es : List Expr) :
    joinLiterals (joinLiterals es) = joinLiterals es := by
  rw [joinLiterals_eq_foldr (joinLiterals es), foldr_joinLiterals, ← joinLiterals_eq_foldr]

/-! ## The same parts -/

/-- The same sequence is made of some expressions as of others, whatever is around them. -/
def SameParts (es fs : List Expr) : Prop :=
  joinLiterals (es.flatMap parts) = joinLiterals (fs.flatMap parts)

theorem SameParts.sequence (h : SameParts es fs) : Expr.sequence es = Expr.sequence fs :=
  congrArg ofParts h

theorem SameParts.append (h : SameParts es fs) (h' : SameParts es' fs') :
    SameParts (es ++ es') (fs ++ fs') := by
  unfold SameParts at *
  rw [List.flatMap_append, List.flatMap_append, joinLiterals_eq_foldr, joinLiterals_eq_foldr,
    List.foldr_append, List.foldr_append, ← joinLiterals_eq_foldr, ← joinLiterals_eq_foldr, h',
    ← foldr_joinLiterals, h, foldr_joinLiterals]

theorem SameParts.shifted (h : SameParts es fs) (n : ℕ) :
    SameParts (es.map (Expr.shifted n)) (fs.map (Expr.shifted n)) := by
  unfold SameParts at *
  rw [flatMap_shifted n (parts_shifted n), flatMap_shifted n (parts_shifted n),
    joinLiterals_shifted, joinLiterals_shifted, h]

/-! ## Tidy expressions -/

/-- The parts of the sequences in an expression are no sequences themselves, and none of
    them is empty. -/
def Tidy : Expr → Prop
  | .seq a b => a.parts = [a] ∧ a.Tidy ∧ b.Tidy
  | .alt a b => a.Tidy ∧ b.Tidy
  | .empty | .literal _ | .chars _ | .look _ | .group .. | .repeated .. => True

/-- A tidy expression that is no sequence and not empty. -/
def IsPart (e : Expr) : Prop :=
  e.parts = [e] ∧ e.Tidy

theorem Tidy.parts (h : e.Tidy) : ∀ p ∈ e.parts, p.IsPart := by
  induction e with
  | empty => exact fun _ hp => nomatch hp
  | seq a b _ ihb =>
    intro p hp
    rcases List.mem_cons.1 hp with rfl | hp
    · exact ⟨h.1, h.2.1⟩
    · exact ihb h.2.2 p hp
  | _ =>
    intro p hp
    rw [List.mem_singleton.1 hp]
    exact ⟨rfl, h⟩

theorem tidy_ofParts (h : ∀ p ∈ ps, p.IsPart) : (ofParts ps).Tidy ∧ (ofParts ps).parts = ps := by
  induction ps with
  | nil => exact ⟨trivial, rfl⟩
  | cons p ps ih =>
    have hp := h p (List.mem_cons_self ..)
    cases ps with
    | nil => exact ⟨hp.2, hp.1⟩
    | cons q ps =>
      obtain ⟨htidy, hparts⟩ := ih fun q hq => h q (List.mem_cons_of_mem _ hq)
      exact ⟨⟨hp.1, hp.2, htidy⟩, congrArg (p :: ·) hparts⟩

/-- Joined texts are new, and what else there is was there before. -/
theorem forall_joinLiterals {P : Expr → Prop} (ht : ∀ t, P (.literal t)) (h : ∀ p ∈ ps, P p) :
    ∀ p ∈ joinLiterals ps, P p := by
  rw [joinLiterals_eq_foldr]
  induction ps with
  | nil => exact h
  | cons p ps ih =>
    obtain ⟨hp, hps⟩ := List.forall_mem_cons.1 h
    have ih := ih hps
    rw [List.foldr_cons]
    generalize ps.foldr joinTo [] = qs at ih ⊢
    unfold joinTo
    split
    · exact List.forall_mem_cons.2 ⟨ht _, (List.forall_mem_cons.1 ih).2⟩
    · exact List.forall_mem_cons.2 ⟨hp, ih⟩

theorem isPart_joinLiterals (h : ∀ p ∈ ps, p.IsPart) : ∀ p ∈ joinLiterals ps, p.IsPart :=
  forall_joinLiterals (fun _ => ⟨rfl, trivial⟩) h

theorem tidy_sequence (h : ∀ e ∈ es, e.Tidy) :
    (sequence es).Tidy ∧ (sequence es).parts = joinLiterals (es.flatMap parts) := by
  refine tidy_ofParts (isPart_joinLiterals fun p hp => ?_)
  obtain ⟨e, he, hp⟩ := List.mem_flatMap.1 hp
  exact (h e he).parts p hp

theorem sameParts_sequence (h : ∀ e ∈ es, e.Tidy) : SameParts [sequence es] es := by
  unfold SameParts
  rw [List.flatMap_cons, List.flatMap_nil, List.append_nil, (tidy_sequence h).2,
    joinLiterals_joinLiterals]

/-! ## Choices -/

theorem Tidy.branches (h : e.Tidy) : ∀ b ∈ e.branches, b.Tidy := by
  induction e with
  | alt a b _ ihb =>
    intro c hc
    rcases List.mem_cons.1 hc with rfl | hc
    · exact h.1
    · exact ihb h.2 c hc
  | _ =>
    intro b hb
    rw [List.mem_singleton.1 hb]
    exact h

theorem tidy_flatMap_branches (h : ∀ e ∈ es, e.Tidy) : ∀ b ∈ es.flatMap branches, b.Tidy := by
  intro b hb
  obtain ⟨e, he, hb⟩ := List.mem_flatMap.1 hb
  exact (h e he).branches b hb

theorem tidy_ofBranches (h : ∀ e ∈ es, e.Tidy) : (ofBranches es).Tidy := by
  induction es with
  | nil => exact trivial
  | cons e es ih =>
    cases es with
    | nil => exact h e (List.mem_cons_self ..)
    | cons f es =>
      exact ⟨h e (List.mem_cons_self ..), ih fun f hf => h f (List.mem_cons_of_mem _ hf)⟩

theorem mem_sharedParts {p : Expr} (h : p ∈ sharedParts es) : ∃ e ∈ es, p ∈ e.parts := by
  cases es with
  | nil => exact absurd h List.not_mem_nil
  | cons e es =>
    have he : e ∈ e :: es := List.mem_cons_self ..
    exact ⟨e, he, (sharedParts_isPrefixOf he).subset h⟩

theorem tidy_ofSet (s : CharSet) : (ofSet s).Tidy ∧ (ofSet s).parts = [ofSet s] := by
  unfold ofSet
  split <;> exact ⟨trivial, rfl⟩

theorem length_le_branches (es : List Expr) : es.length ≤ (es.flatMap branches).length := by
  induction es with
  | nil => exact Nat.le_refl _
  | cons e es ih =>
    have he : 1 ≤ e.branches.length := by cases e <;> simp [branches]
    rw [List.flatMap_cons, List.length_append, List.length_cons]
    omega

theorem sequence_of_part (h : e.parts = [e]) : sequence [e] = e := by
  have hjoin : joinLiterals [e] = [e] := by cases e <;> rfl
  rw [sequence, List.flatMap_cons, List.flatMap_nil, List.append_nil, h, hjoin]
  rfl

theorem sequence_sequence (h : ∀ e ∈ es, e.Tidy) : sequence [sequence es] = sequence es :=
  (sameParts_sequence h).sequence

theorem sequence_ofBranches {bs : List Expr} (h : 2 ≤ bs.length) :
    sequence [ofBranches bs] = ofBranches bs := by
  match bs, h with
  | _ :: _ :: _, _ => rfl

theorem tidy_rests {bs : List Expr} (h : ∀ b ∈ bs, b.Tidy) : ∀ e ∈ rests bs, e.Tidy := by
  intro e he
  obtain ⟨b, hb, rfl⟩ := List.mem_map.1 he
  exact (tidy_ofParts fun q hq => (h b hb).parts q (List.mem_of_mem_drop hq)).1

/-- A choice between two expressions or more is tidy, and the same alone in a sequence. -/
theorem tidy_choiceWith (fuel : ℕ) (h : ∀ e ∈ es, e.Tidy) (hes : 2 ≤ es.length) :
    (choiceWith fuel es).Tidy ∧ sequence [choiceWith fuel es] = choiceWith fuel es := by
  induction fuel generalizing es with
  | zero =>
    rw [choiceWith]
    exact ⟨tidy_ofBranches (tidy_flatMap_branches h),
      sequence_ofBranches (hes.trans (length_le_branches es))⟩
  | succ fuel ih =>
    have hlen := hes.trans (length_le_branches es)
    have htidy := tidy_flatMap_branches h
    obtain ⟨hnil, -⟩ | hone | ⟨s, -, hc⟩ | ⟨-, hc⟩ | ⟨-, hc⟩ := choiceWith_cases fuel es
    · rw [hnil] at hlen
      exact absurd hlen (Nat.not_succ_le_zero 1)
    · rw [hone] at hlen
      exact absurd hlen (Nat.lt_irrefl 1)
    · rw [hc]
      exact ⟨(tidy_ofSet s).1, sequence_of_part (tidy_ofSet s).2⟩
    · rw [hc]
      exact ⟨tidy_ofBranches htidy, sequence_ofBranches hlen⟩
    · have hall : ∀ e ∈ sharedParts (es.flatMap branches) ++
          [choiceWith fuel (rests (es.flatMap branches))], e.Tidy := by
        refine List.forall_mem_append.2 ⟨fun e he => ?_, List.forall_mem_singleton.2 ?_⟩
        · obtain ⟨b, hb, he⟩ := mem_sharedParts he
          exact ((htidy b hb).parts e he).2
        · exact (ih (tidy_rests htidy) (by rwa [rests, List.length_map])).1
      rw [hc]
      exact ⟨(tidy_sequence hall).1, sequence_sequence hall⟩

theorem tidy_iterate (h : e.Tidy) (min : ℕ) (max : Option ℕ) (greedy : Bool) :
    (e.iterate min max greedy).Tidy := by
  unfold iterate
  dsimp only
  split_ifs
  · exact trivial
  · exact h
  · exact trivial
  · exact trivial
  · exact h
  · exact trivial

end Expr

/-! ## Levels and readers -/

namespace Level

/-- All expressions of a level are tidy. -/
structure Tidy (l : Level) : Prop where
  items : ∀ i ∈ l.items, i.expr.Tidy
  branches : ∀ b ∈ l.branches, b.1.Tidy

variable {l : Level}

theorem tidy_empty : Level.empty.Tidy :=
  ⟨fun _ h => (nomatch h), fun _ h => (nomatch h)⟩

theorem Tidy.cons (h : l.Tidy) {i : Item} (hi : i.expr.Tidy) :
    Level.Tidy { l with items := i :: l.items } := by
  refine ⟨fun j hj => ?_, h.branches⟩
  rcases List.mem_cons.1 hj with rfl | hj
  · exact hi
  · exact h.items j hj

theorem Tidy.exprs (h : l.Tidy) : ∀ e ∈ l.items.reverse.map (·.expr), e.Tidy := by
  intro e he
  obtain ⟨i, hi, rfl⟩ := List.mem_map.1 he
  exact h.items i (List.mem_reverse.1 hi)

theorem Tidy.split (h : l.Tidy) : l.split.Tidy := by
  refine ⟨fun _ hi => (nomatch hi), fun b hb => ?_⟩
  rcases List.mem_cons.1 hb with rfl | hb
  · exact (Expr.tidy_sequence h.exprs).1
  · exact h.branches b hb

/-- What a tidy level is closed with is tidy, and the same alone in a sequence. -/
theorem Tidy.close (h : l.Tidy) : l.close.1.Tidy ∧ Expr.sequence [l.close.1] = l.close.1 := by
  have hall : ∀ e ∈ (l.sequence :: l.branches).reverse.map (·.1), e.Tidy := by
    intro e he
    obtain ⟨b, hb, rfl⟩ := List.mem_map.1 he
    exact h.split.branches b (List.mem_reverse.1 hb)
  unfold Level.close
  match hbs : l.branches with
  | [] => exact ⟨(Expr.tidy_sequence h.exprs).1, Expr.sequence_sequence h.exprs⟩
  | b :: bs =>
    rw [hbs] at hall
    refine Expr.tidy_choiceWith _ hall ?_
    rw [List.length_map, List.length_reverse, List.length_cons, List.length_cons]
    omega

end Level

namespace Reader

/-- All expressions that a reader holds are tidy. -/
structure Tidy (r : Reader) : Prop where
  level : r.level.Tidy
  enclosing : ∀ g ∈ r.enclosing, g.outer.Tidy

section
variable {r r' s : Reader} {t u rest : Text}

theorem initial_tidy (flags : Flags) : (Reader.initial flags).Tidy :=
  ⟨Level.tidy_empty, fun _ h => nomatch h⟩

theorem Tidy.closeGroup (h : r.Tidy) (hc : r.closeGroup = .ok r') : r'.Tidy := by
  obtain ⟨g, gs, hg, rfl⟩ := closeGroup_eq_ok.1 hc
  have hgs : ∀ g' ∈ g :: gs, g'.outer.Tidy := hg ▸ h.enclosing
  refine ⟨(hgs g (List.mem_cons_self ..)).cons ?_, fun g' hm => hgs g' (List.mem_cons_of_mem _ hm)⟩
  show (g.wrap r.level.close.1).Tidy
  unfold OpenGroup.wrap
  split
  · exact trivial
  · exact h.level.close.1

theorem Tidy.iterate (h : r.Tidy) {min : ℕ} {max : Option ℕ} {greedy : Bool}
    (hi : r.iterate min max greedy = .ok r') : r'.Tidy := by
  obtain ⟨e, depth, items, he, rfl⟩ := iterate_eq_ok.1 hi
  have hitems : ∀ i ∈ ⟨e, depth, false⟩ :: items, i.expr.Tidy := he ▸ h.level.items
  have htail : Level.Tidy ⟨items, r.level.branches⟩ :=
    ⟨fun i hi => hitems i (List.mem_cons_of_mem _ hi), h.level.branches⟩
  refine ⟨htail.cons ?_, h.enclosing⟩
  exact Expr.tidy_iterate (hitems ⟨e, depth, false⟩ (List.mem_cons_self ..)) ..

theorem Tidy.step {c : Char} (h : r.Tidy) (hs : r.step c t = .ok (r', rest)) : r'.Tidy := by
  have hopen : ∀ {g : OpenGroup}, g.outer = r.level → ∀ g' ∈ g :: r.enclosing, g'.outer.Tidy := by
    intro g hg g' hm
    rcases List.mem_cons.1 hm with rfl | hm
    · exact hg ▸ h.level
    · exact h.enclosing g' hm
  obtain ⟨rfl, hs⟩ | ⟨rfl, hs, -⟩ | ⟨rfl, rfl, -⟩ | ⟨-, -, hs⟩ := step_cases hs
  · obtain ⟨name, rfl, -⟩ | ⟨flags, rfl⟩ | ⟨flags, rfl⟩ := openGroup_cases hs
    · exact ⟨Level.tidy_empty, hopen rfl⟩
    · exact ⟨Level.tidy_empty, hopen rfl⟩
    · exact ⟨h.level.cons trivial, h.enclosing⟩
  · exact h.closeGroup hs
  · exact ⟨h.level.split, h.enclosing⟩
  · obtain ⟨e, depth, he, rfl⟩ | ⟨min, max, greedy, hs⟩ := hs
    · refine ⟨h.level.cons ?_, h.enclosing⟩
      obtain ⟨s, rfl⟩ | ⟨l, rfl⟩ := he
      · exact (Expr.tidy_ofSet s).1
      · exact trivial
    · exact h.iterate hs

theorem Tidy.reads (h : r.Tidy) (hr : Reads r t s u) : s.Tidy := by
  induction hr with
  | refl => exact h
  | step _ hs _ ih => exact ih (h.step hs)

end

end Reader

end PathRouting.Regex
