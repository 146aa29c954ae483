/-
  The alternatives of an expression outside all of its groups.

  * `alternatives` reads them, and `alternatives_of_read` says that an expression
    matches what they match.
  * `Reader.Anchored`: the first of them starts with a `^` that no repetition
    can follow. Reading keeps it so, whatever else is read.
  * `alternatives_of_anchored`: in a text that starts with `^(?:`, the first
    alternative matches at the start of a text only.
-/
import PathRouting.Proofs.Regex.Numbering
import PathRouting.Proofs.Regex.Simplest

namespace PathRouting.Regex

/-- The alternatives of a text outside all groups, under the flags that hold at its
    start. -/
def alternatives (flags : Flags) (t : Text) : Except Rejection (List Expr) :=
  ((Reader.initial flags).run t.length t).map fun r =>
    ((r.level.sequence :: r.level.branches).reverse.map (·.1))

theorem Level.close_matches {l : Level} {x y : Point} :
    l.close.1.Matches x y ↔
      ∃ e ∈ (l.sequence :: l.branches).reverse.map (·.1), e.Matches x y := by
  unfold Level.close
  split
  case h_1 h => simp [h]
  case h_2 => exact matches_choice

/-- An expression matches what its alternatives match. -/
theorem alternatives_of_read {flags : Flags} {t : Text} {e : Expr} (h : read flags t = .ok e) :
    ∃ bs, alternatives flags t = .ok bs ∧ ∀ x y, e.Matches x y ↔ ∃ b ∈ bs, b.Matches x y := by
  obtain ⟨r, hr, h⟩ := bind_eq_ok.1 h
  refine ⟨_, map_eq_ok.2 ⟨r, hr, rfl⟩, fun x y => ?_⟩
  split at h
  · cases h
  dsimp only at h
  split_ifs at h
  cases h
  exact Level.close_matches

/-! ## The start of the first alternative -/

/-- An expression that matches at the start of a text only. -/
def Expr.AtStart (e : Expr) : Prop :=
  ∀ x y, e.Matches x y → x.1.before = none

theorem before_eq_none {x y : Point} (h : (Expr.look .textStart).Matches x y) :
    x.1.before = none := by
  obtain ⟨hb, -⟩ := ite_eq_iff.1 h.1 |>.resolve_right fun h => nomatch h.2
  exact Option.isNone_iff_eq_none.1 hb

theorem Expr.atStart_sequence (es : List Expr) : (sequence (.look .textStart :: es)).AtStart := by
  intro x y h
  obtain ⟨z, hz, -⟩ := matches_sequence_cons.1 h
  exact before_eq_none hz

/-- An expression has a match in a text that starts at a position. -/
def Expr.MatchesFrom (e : Expr) (t : Text) (start : ℕ) : Prop :=
  ∃ p y, p.In t ∧ p.pos = start ∧ e.Matches (p, []) y

theorem Expr.AtStart.eq_zero {e : Expr} (he : e.AtStart) {t : Text} {n : ℕ}
    (h : e.MatchesFrom t n) : n = 0 := by
  obtain ⟨p, y, hp, rfl, h⟩ := h
  have hb := hp.before.symm.trans (he _ _ h)
  rw [List.getLast?_eq_none_iff, List.take_eq_nil_iff] at hb
  rcases hb with hb | rfl
  · exact hb
  · exact Nat.le_zero.1 hp.le

/-- The first item of a level is `^`, with something behind it unless a group is
    open, or the first alternative matches at the start only. -/
def Level.Anchored (inGroup : Prop) (l : Level) : Prop :=
  (l.branches = [] ∧ ∃ above i, l.items = above ++ [i] ∧ i.expr = .look .textStart ∧
    (above = [] → inGroup)) ∨
  ∃ b ∈ l.branches.getLast?, b.1.AtStart

namespace Level.Anchored

variable {l : Level} {inGroup inGroup' : Prop}

theorem imp (h : l.Anchored inGroup) (hi : inGroup → inGroup') : l.Anchored inGroup' := by
  obtain ⟨hb, above, i, h, hi', ha⟩ | h := h
  · exact .inl ⟨hb, above, i, h, hi', fun h => hi (ha h)⟩
  · exact .inr h

theorem cons (h : l.Anchored inGroup) (i : Item) :
    Level.Anchored inGroup' { l with items := i :: l.items } := by
  obtain ⟨hb, above, j, h, hj, -⟩ | h := h
  · exact .inl ⟨hb, i :: above, j, by simp [h], hj, fun h => nomatch h⟩
  · exact .inr h

/-- A repetition changes the last item, which is not the first. -/
theorem repeated (h : l.Anchored False) {i : Item} {items : List Item} (hl : l.items = i :: items)
    (j : Item) : Level.Anchored False { l with items := j :: items } := by
  obtain ⟨hb, above, k, h, hk, ha⟩ | h := h
  · match above with
    | [] => exact (ha rfl).elim
    | i' :: above =>
      rw [hl, List.cons_append] at h
      exact .inl ⟨hb, j :: above, k, congrArg (j :: ·) (List.cons.inj h).2, hk, fun h => nomatch h⟩
  · exact .inr h

theorem first_atStart (h : l.Anchored inGroup) :
    ∃ b ∈ (l.sequence :: l.branches).getLast?, b.1.AtStart := by
  obtain ⟨hb, above, i, h, hi, -⟩ | ⟨b, hb, h⟩ := h
  · refine ⟨l.sequence, by simp [hb], ?_⟩
    rw [sequence, h, List.reverse_append, List.reverse_singleton, List.singleton_append,
      List.map_cons, hi]
    exact Expr.atStart_sequence _
  · refine ⟨b, ?_, h⟩
    rw [List.getLast?_cons, Option.mem_def.1 hb]
    rfl

theorem split (h : l.Anchored inGroup) : l.split.Anchored inGroup' :=
  .inr h.first_atStart

end Level.Anchored

namespace Reader

/-- The level outside all groups. -/
def outermost (r : Reader) : Level :=
  (r.enclosing.getLast?).elim r.level (·.outer)

/-- The first alternative outside all groups starts with `^`. -/
def Anchored (r : Reader) : Prop :=
  r.outermost.Anchored (r.enclosing ≠ [])

section
variable {r r' s : Reader} {t u v rest : Text}

theorem outermost_open (l : Level) (g : OpenGroup) (h : g.outer = r.level) :
    Reader.outermost { r with level := l, enclosing := g :: r.enclosing } = r.outermost := by
  unfold outermost
  rw [List.getLast?_cons]
  cases r.enclosing.getLast? with
  | none => exact h
  | some g => rfl

/-- What changes the level at hand only, changes the outermost one if no group is
    open. -/
theorem Anchored.level (h : r.Anchored) {l : Level}
    (hl : r.enclosing = [] → r.level.Anchored False → l.Anchored False) :
    Reader.Anchored { r with level := l } := by
  unfold Anchored outermost at *
  cases hr : r.enclosing with
  | nil =>
    rw [hr] at h
    exact (hl hr (h.imp fun h => h rfl)).imp False.elim
  | cons g gs =>
    rw [hr] at h
    exact h

theorem Anchored.openPlain (h : r.Anchored) (flags : Flags) : (r.openPlain flags).Anchored := by
  have ho : (r.openPlain flags).outermost = r.outermost := outermost_open _ _ rfl
  unfold Anchored
  rw [ho]
  exact Level.Anchored.imp h fun _ h => nomatch h

theorem Anchored.openCapture (h : r.Anchored) (name : Option Text) :
    (r.openCapture name).Anchored := by
  have ho : (r.openCapture name).outermost = r.outermost := outermost_open _ _ rfl
  unfold Anchored
  rw [ho]
  exact Level.Anchored.imp h fun _ h => nomatch h

theorem Anchored.closeGroup (h : r.Anchored) (hc : r.closeGroup = .ok r') : r'.Anchored := by
  obtain ⟨g, gs, hg, rfl⟩ := closeGroup_eq_ok.1 hc
  unfold Anchored outermost at *
  rw [hg] at h
  cases gs with
  | nil => exact Level.Anchored.cons h _
  | cons g' gs => exact h.imp fun _ h => nomatch h

theorem Anchored.iterate (h : r.Anchored) {min : ℕ} {max : Option ℕ} {greedy : Bool}
    (hi : r.iterate min max greedy = .ok r') : r'.Anchored := by
  obtain ⟨_, _, _, he, rfl⟩ := iterate_eq_ok.1 hi
  exact h.level fun _ h => h.repeated he _

theorem Anchored.step {c : Char} (hr : r.Anchored) (h : r.step c t = .ok (r', rest)) :
    r'.Anchored := by
  obtain ⟨rfl, h⟩ | ⟨rfl, hc, rfl⟩ | ⟨rfl, rfl, rfl⟩ | ⟨-, -, h⟩ := step_cases h
  · obtain ⟨name, rfl, -⟩ | ⟨flags, rfl⟩ | ⟨flags, rfl⟩ := openGroup_cases h
    · exact hr.openCapture name
    · exact hr.openPlain flags
    · exact hr.level fun _ h => h.cons _
  · exact hr.closeGroup hc
  · exact hr.level fun _ h => h.split
  · obtain ⟨e, depth, -, rfl⟩ | ⟨min, max, greedy, h⟩ := h
    · exact hr.level fun _ h => h.cons _
    · exact hr.iterate h

/-- **The anchor stays.** Nothing that is read takes the `^` away. -/
theorem Reads.anchored (h : Reads r t s u) (hr : r.Anchored) : s.Anchored :=
  h.invariant .step hr

/-- What a run reads behind its first construct. -/
theorem Reads.tail {c : Char} (h : Reads r t s u) (hs : skip r.flags t = c :: rest)
    (hr : r.step c rest = .ok (r', v)) (hu : skip s.flags u = []) : Reads r' v s u := by
  cases h with
  | refl =>
    rw [hs] at hu
    cases hu
  | step hs' hr' h =>
    rw [hs] at hs'
    cases hs'
    rw [hr] at hr'
    cases hr'
    exact h

end

end Reader

/-- **The first alternative.** Where a text starts with `^(?:`, its first
    alternative matches at the start of a text only. -/
theorem alternatives_of_anchored {flags : Flags} {t : Text} {e : Expr}
    (hm : flags.multiLine = false) (hv : flags.verbose = false)
    (h : read flags ("^(?:".toList ++ t) = .ok e) :
    ∃ first others, alternatives flags ("^(?:".toList ++ t) = .ok (first :: others) ∧
      first.AtStart := by
  obtain ⟨r, hr, h⟩ := bind_eq_ok.1 h
  obtain ⟨u, hu, hend⟩ := Reader.reads_of_run hr
  have hskip : ∀ u, skip flags u = u := fun u => if_neg (by simp [hv])
  have h1 : (Reader.initial flags).step '^' ('(' :: '?' :: ':' :: t) =
      .ok ((Reader.initial flags).push (.look .textStart) 0, '(' :: '?' :: ':' :: t) := by
    have hl : Reader.lineStart flags = .textStart := by
      rw [Reader.lineStart, hm]
      rfl
    rw [← hl]
    rfl
  have h2 : ((Reader.initial flags).push (.look .textStart) 0).step '(' ('?' :: ':' :: t) =
      .ok (((Reader.initial flags).push (.look .textStart) 0).openPlain flags, t) := by
    show Reader.openGroup _ _ = _
    unfold Reader.openGroup
    have hf : ∀ u, skip ((Reader.initial flags).push (.look .textStart) 0).flags u = u := hskip
    rw [hf]
    rfl
  have hstart : Reader.Anchored (((Reader.initial flags).push (.look .textStart) 0).openPlain flags) :=
    .inl ⟨rfl, [], _, rfl, rfl, fun _ h => nomatch h⟩
  have ha := ((hu.tail (hskip _) h1 hend).tail (hskip _) h2 hend).anchored hstart
  split at h
  · cases h
  case h_2 hn =>
    unfold Reader.Anchored Reader.outermost at ha
    rw [hn] at ha
    replace ha : r.level.Anchored _ := ha
    obtain ⟨b, hb, hs⟩ := ha.first_atStart
    obtain ⟨others, ho⟩ := List.head?_eq_some_iff.1 (List.head?_reverse.trans hb)
    refine ⟨b.1, others.map (·.1), map_eq_ok.2 ⟨r, hr, ?_⟩, hs⟩
    rw [ho]
    rfl

end PathRouting.Regex
