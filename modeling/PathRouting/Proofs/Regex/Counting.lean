/-
  The groups of a regular expression, part by part.

  * `Tally`: how many groups are opened in a text, and which of them are left. A group is taken
    away where it is repeated no times, but the groups behind keep their numbers.
  * `Adds`: the groups of a text, wherever it stands. `AddsInside`: those of what a pair of
    parentheses encloses.
  * `Adds.append`, `AddsInside.group`, `AddsInside.capture`: the groups of a text are those of
    its parts.
  * `Alone.addsInside`: of a part that is accepted alone, they are those that it has alone.
  * `Adds.read`: of a regular expression as a whole.
-/
import PathRouting.Proofs.Regex.SelfContained

namespace PathRouting.Regex

/-! ## Groups behind other groups -/

namespace Expr

theorem groupSet_shifted (n : ℕ) (e : Expr) :
    (e.shifted n).groupSet = e.groupSet.image (· + n) := by
  induction e with
  | empty | literal | chars | look => rfl
  | group index name e ih =>
    show insert (index + n) (e.shifted n).groupSet = (insert index e.groupSet).image (· + n)
    rw [ih, Finset.image_insert]
  | repeated min max greedy e ih => exact ih
  | seq a b iha ihb | alt a b iha ihb =>
    show (a.shifted n).groupSet ∪ (b.shifted n).groupSet = (a.groupSet ∪ b.groupSet).image (· + n)
    rw [iha, ihb, Finset.image_union]

end Expr

namespace Level

theorem groupSet_shifted (n : ℕ) (l : Level) :
    (l.shifted n).groupSet = l.groupSet.image (· + n) := by
  rw [groupSet, close_shifted]
  exact Expr.groupSet_shifted n l.close.1

end Level

/-- How many groups are opened in a text, and the numbers of those that are left when it has been
    read, counted from the first one. -/
structure Tally where
  opened : ℕ
  left : Finset ℕ

namespace Tally

/-- No group. -/
def empty : Tally := ⟨0, ∅⟩

/-- A group. -/
def single : Tally := ⟨1, {1}⟩

/-- Some groups behind others. -/
protected def append (a b : Tally) : Tally :=
  ⟨a.opened + b.opened, a.left ∪ b.left.image (· + a.opened)⟩

instance : Append Tally := ⟨Tally.append⟩

variable (a b : Tally) (n : ℕ)

theorem opened_append : (a ++ b).opened = a.opened + b.opened := rfl

theorem left_append : (a ++ b).left = a.left ∪ b.left.image (· + a.opened) := rfl

theorem image_left_append : (a ++ b).left.image (· + n) =
    a.left.image (· + n) ∪ b.left.image (· + (n + a.opened)) := by
  rw [left_append, Finset.image_union, Finset.image_image]
  refine congrArg _ (congrArg (Finset.image · _) (funext fun i => ?_))
  show i + a.opened + n = i + (n + a.opened)
  omega

theorem image_left_single : (single ++ a).left.image (· + n) =
    insert (n + 1) (a.left.image (· + (n + 1))) := by
  rw [image_left_append, Finset.insert_eq]
  show ({1} : Finset ℕ).image (· + n) ∪ _ = _
  rw [Finset.image_singleton, Nat.add_comm 1 n]
  rfl

end Tally

namespace Reader

/-- From `r` to `s`, a reader has opened the groups of a tally, and closed what it opened. -/
structure Grown (a : Tally) (r s : Reader) : Prop where
  flags : s.flags = r.flags
  enclosing : s.enclosing = r.enclosing
  groups : s.groups = r.groups + a.opened
  left : s.level.groupSet = r.level.groupSet ∪ a.left.image (· + r.groups)

/-- What a group encloses has been read: the groups of a tally were opened in it. No blanks are
    skipped behind. -/
structure Enclosed (a : Tally) (r s : Reader) : Prop where
  verbose : s.flags.verbose = false
  enclosing : s.enclosing = r.enclosing
  groups : s.groups = r.groups + a.opened
  left : s.level.groupSet = a.left.image (· + r.groups)

/-- A reader does not get to the end of a text, or it gets past a part of it to a reader as `Q`
    says. -/
def Passes (Q : Reader → Prop) (r : Reader) (t u : Text) : Prop :=
  r.Fails t ∨ ∃ s, r.Runs t s u ∧ Q s

section
variable {a b : Tally} {Q Q' : Reader → Prop} {r s x : Reader} {t u v : Text}

theorem Passes.of_runs (h : r.Runs t s u) (hs : Passes Q s u v) : Passes Q r t v :=
  hs.imp h.fails fun ⟨x, hx, hQ⟩ => ⟨x, h.trans hx, hQ⟩

theorem Passes.of_holds (h : Q r) : Passes Q r t t :=
  .inr ⟨r, .refl, h⟩

theorem Passes.bind (h : Passes Q r t u) (hQ : ∀ s, Q s → Passes Q' s u v) : Passes Q' r t v := by
  obtain hf | ⟨s, hs, hq⟩ := h
  · exact .inl hf
  · exact (hQ s hq).of_runs hs

theorem Passes.imp (h : Passes Q r t u) (hQ : ∀ s, Q s → Q' s) : Passes Q' r t u :=
  Or.imp_right (fun ⟨s, hs, hq⟩ => ⟨s, hs, hQ s hq⟩) h

theorem Grown.trans (h : Grown a r s) (h' : Grown b s x) : Grown (a ++ b) r x := by
  refine ⟨h'.flags.trans h.flags, h'.enclosing.trans h.enclosing, ?_, ?_⟩
  · rw [h'.groups, h.groups, Nat.add_assoc, Tally.opened_append]
  · rw [h'.left, h.left, h.groups, Tally.image_left_append, Finset.union_assoc]

theorem grown_push {e : Expr} (he : e.groupSet = ∅) (d : ℕ) : Grown .empty r (r.push e d) :=
  ⟨rfl, rfl, rfl, (Level.groupSet_push e d).trans (congrArg _ he)⟩

/-- A group without a number is closed. -/
theorem Enclosed.close (h : Enclosed a (r.openPlain r.flags) s) :
    Passes (Grown a r) s (')' :: u) u :=
  .of_runs (runs_close h.verbose h.enclosing) (.of_holds ⟨rfl, rfl, h.groups,
    (Level.groupSet_push _ _).trans (congrArg _ h.left)⟩)

/-- A group with a number is closed. -/
theorem Enclosed.close_capture {name : Option Text} (h : Enclosed a (r.openCapture name) s) :
    Passes (Grown (.single ++ a) r) s (')' :: u) u := by
  refine .of_runs (runs_close h.verbose h.enclosing) (.of_holds ⟨rfl, rfl, ?_, ?_⟩)
  · rw [Tally.opened_append, ← Nat.add_assoc]
    exact h.groups
  · refine (Level.groupSet_push _ _).trans (congrArg _ ?_)
    rw [Tally.image_left_single]
    exact congrArg (insert (r.groups + 1)) h.left

end

end Reader

open Reader

/-! ## Texts -/

/-- The groups of a text, wherever it stands under given flags. -/
structure Adds (a : Tally) (f : Flags) (t : Text) : Prop where
  loose : Loose t
  reads : ∀ {r : Reader} {u : Text}, r.flags = f → Loose u → Passes (Grown a r) r (t ++ u) u

/-- The groups of a text, wherever it stands between parentheses under given flags. -/
structure AddsInside (a : Tally) (f : Flags) (t : Text) : Prop where
  reads : ∀ {r : Reader} {u : Text}, r.flags = f → r.level = .empty →
    Passes (Enclosed a r) r (t ++ ')' :: u) (')' :: u)

section
variable {a b : Tally} {f : Flags} {t x : Text}

/-- A text that adds an item without groups. -/
theorem adds_of_push {e : Expr} {d : ℕ} (he : e.groupSet = ∅) (ht : Loose t)
    (h : ∀ (r : Reader) (u : Text), r.flags = f → r.Runs (t ++ u) (r.push e d) u) :
    Adds .empty f t :=
  ⟨ht, fun {r u} hf _ => .of_runs (h r u hf) (.of_holds (grown_push he d))⟩

theorem adds_nil : Adds .empty f [] :=
  ⟨loose_nil, fun _ _ => .of_holds ⟨rfl, rfl, rfl, (Finset.union_empty _).symm⟩⟩

/-- A text has the groups of its parts. -/
theorem Adds.append (h : Adds a f t) (h' : Adds b f x) : Adds (a ++ b) f (t ++ x) := by
  refine ⟨h.loose.append h'.loose, fun {r u} hf hu => ?_⟩
  rw [List.append_assoc]
  refine (h.reads hf (h'.loose.append hu)).bind fun s hs => ?_
  exact (h'.reads (hs.flags.trans hf) hu).imp fun _ => hs.trans

/-- A bar between alternatives. -/
theorem adds_bar (hf : f.verbose = false) : Adds .empty f "|".toList := by
  refine ⟨loose_cons (by decide), fun {r u} hr _ => ?_⟩
  have hbar : r.Runs ('|' :: u) { r with level := r.level.split } u :=
    .of_step (by rw [hr, hf]) rfl (Nat.le_refl _)
  exact .of_runs hbar (.of_holds ⟨rfl, rfl, rfl,
    Level.groupSet_split.trans (Finset.union_empty _).symm⟩)

theorem Adds.inside (h : Adds a f t) (hf : f.verbose = false) : AddsInside a f t := by
  refine ⟨fun {r u} hr hlevel => (h.reads hr (loose_cons (by decide))).imp fun s hs => ?_⟩
  refine ⟨by rw [hs.flags, hr, hf], hs.enclosing, hs.groups, ?_⟩
  rw [hs.left, hlevel, Level.groupSet_empty, Finset.empty_union]

/-- A group that does not capture. -/
theorem AddsInside.group (h : AddsInside a f t) (hf : f.verbose = false) :
    Adds a f ("(?:".toList ++ t ++ ")".toList) := by
  refine ⟨loose_cons (by decide), fun {r u} hr _ => ?_⟩
  have hv : r.flags.verbose = false := by rw [hr, hf]
  have hopen : r.Runs ('(' :: '?' :: ':' :: (t ++ ')' :: u)) (r.openPlain r.flags)
      (t ++ ')' :: u) := .of_step hv (step_openPlain hv _) (Nat.le_add_right _ 2)
  rw [List.append_assoc, List.append_assoc]
  have hinside : Passes (Enclosed a (r.openPlain r.flags)) (r.openPlain r.flags)
      (t ++ ')' :: u) (')' :: u) := h.reads hr rfl
  exact .of_runs hopen (hinside.bind fun _ hs => hs.close)

/-- A group that captures. -/
theorem AddsInside.capture (h : AddsInside a f t) (hf : f.verbose = false)
    (ht : t.head? ≠ some '?') : Adds (.single ++ a) f ('(' :: t ++ ")".toList) := by
  refine ⟨loose_cons (by decide), fun {r u} hr _ => ?_⟩
  have hv : r.flags.verbose = false := by rw [hr, hf]
  have hopen : r.Runs ('(' :: (t ++ ')' :: u)) (r.openCapture none) (t ++ ')' :: u) := by
    refine .of_step hv (openGroup_of_ne hv ?_) (Nat.le_refl _)
    cases t with
    | nil => exact fun h => absurd (Option.some.inj h) (by decide)
    | cons c t => exact ht
  rw [List.append_assoc]
  have hinside : Passes (Enclosed a (r.openCapture none)) (r.openCapture none)
      (t ++ ')' :: u) (')' :: u) := h.reads hr rfl
  exact .of_runs hopen (hinside.bind fun _ hs => hs.close_capture)

/-- A condition at the start of a line or of the text. -/
theorem adds_caret (hf : f.verbose = false) : Adds .empty f "^".toList := by
  refine adds_of_push (e := .look (lineStart f)) (d := 0) rfl (loose_cons (by decide))
    fun r u hr => .of_step (by rw [hr, hf]) ?_ (Nat.le_refl _)
  show Except.ok (r.push (.look (lineStart r.flags)) 0, u) = _
  rw [hr]

/-! ## Texts that are regular expressions -/

namespace Reader

/-- The groups that a reader has met, and those that stand in its level. -/
def tally (s : Reader) : Tally := ⟨s.groups, s.level.groupSet⟩

section
variable {r s : Reader} {u : Text}

/-- The reader gets past a part that is accepted alone, or not to the end. -/
theorem Alone.passes (h : Alone f t s) (hf : r.flags = f) (hitems : r.level.items = [] ∨ '|' ∉ t)
    (hu : Loose u) : Passes (· = r.within s) r (t ++ u) u := by
  obtain ⟨hfail, -⟩ | ⟨-, x, x', hx, hrun, -⟩ := h.together hf hf rfl
    (hitems.imp_left fun hi => ⟨hi, hi⟩) hu hu
  · exact .inl hfail
  · exact .inr ⟨x, hrun, hx.1⟩

/-- Behind a part, its groups stand behind those in front. -/
theorem Alone.groupSet_within (h : Alone f t s) : (r.within s).level.groupSet =
    r.level.groupSet ∪ s.level.groupSet.image (· + r.groups) := by
  rw [within_outermost h.outermost, ← Level.groupSet_shifted]
  exact Level.groupSet_append

/-- Between parentheses, the groups of a regular expression are those that it has alone. -/
theorem Alone.addsInside (h : Alone f t s) : AddsInside s.tally f t := by
  refine ⟨fun {r u} hf hlevel => ?_⟩
  have hitems : r.level.items = [] := by rw [hlevel]; rfl
  refine (h.passes hf (.inl hitems) (loose_cons (by decide))).imp ?_
  rintro _ rfl
  refine ⟨h.verbose, ?_, Nat.add_comm _ _, ?_⟩
  · rw [within_outermost h.outermost]
  · rw [h.groupSet_within, hlevel, Level.groupSet_empty, Finset.empty_union]
    rfl

/-- The groups of a regular expression without choices that keeps the flags. -/
theorem Alone.adds (h : Alone f t s) (hv : f.verbose = false) (hs : s.flags = f) (ht : '|' ∉ t) :
    Adds s.tally f t := by
  refine ⟨h.loose hv, fun {r u} hf hu => (h.passes hf (.inr ht) hu).imp ?_⟩
  rintro _ rfl
  refine ⟨hs.trans hf.symm, ?_, Nat.add_comm _ _, h.groupSet_within⟩
  rw [within_outermost h.outermost]

/-- No more groups are opened than are counted. -/
theorem Alone.groups_le (h : Alone f t s) : s.groups ≤ Pattern.groupCount t := by
  obtain ⟨v, hr, -⟩ := h.reads
  have hle := hr.groups_le
  have hzero : (Reader.initial f).groups = 0 := rfl
  omega

/-- The groups that are left have been opened. -/
theorem Alone.left_subset (h : Alone f t s) : s.tally.left ⊆ Finset.Icc 1 s.tally.opened := by
  obtain ⟨v, hr, -⟩ := h.reads
  exact (hr.numbered (initial_numbered f)).level

end

end Reader

/-- How a regular expression is read alone that does not end in verbose mode. -/
theorem exists_alone {e : Expr} (h : Regex.read f t = .ok e)
    (hv : (finalFlags? f t).any (!·.verbose)) : ∃ s, Alone f t s ∧ e = s.level.close.1 := by
  obtain ⟨s, hrun, hs, -⟩ := exists_run_of_finalFlags hv
  rw [read_of_run hrun, if_neg (not_not.2 hs.outermost)] at h
  split_ifs at h
  cases h
  exact ⟨s, hs, rfl⟩

/-- **Groups of a whole expression.** The groups that are left in a regular expression are those
    that are left in its text. -/
theorem Adds.read {e : Expr} (h : Adds a f t) (he : Regex.read f t = .ok e) :
    e.groupSet = a.left := by
  have hpasses := h.reads (r := .initial f) rfl loose_nil
  rw [List.append_nil] at hpasses
  obtain hf | ⟨s, hrun, hs⟩ := hpasses
  · obtain ⟨x, hx⟩ := hf.read
    cases hx.symm.trans he
  · have hread := hrun.read hs.enclosing
    rw [he] at hread
    split_ifs at hread
    obtain rfl := Except.ok.inj hread
    refine hs.left.trans ((Finset.empty_union _).trans ?_)
    exact Finset.image_id

end

end PathRouting.Regex
