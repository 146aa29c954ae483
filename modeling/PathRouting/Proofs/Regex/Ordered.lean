/-
  What a search finds first.

  * `Expr.first?` tries the matches of an expression in their order: the first
    branch of a choice before the second, a long run before a shorter one. It gives
    the first answer that is found behind one of them.
  * `Finds`: doing some tasks finds that answer, as long as no choice is in the way
    that was made before at the same position.
  * `search_eq_first`: for the expressions of patterns without raw regular
    expressions, a search finds what is found first.
-/
import PathRouting.Proofs.Regex.Outermost

namespace PathRouting.Regex

variable {α : Type}

/-- As many steps as possible first, and then fewer; the number bounds them. -/
def mostFirst (step : Point → (Point → Option α) → Option α) :
    ℕ → Point → (Point → Option α) → Option α
  | 0, x, k => k x
  | n + 1, x, k => (step x fun y => mostFirst step n y k).or (k x)

/-- The first answer behind a match of an expression. Only repetitions of any number,
    as often as possible, are understood. -/
def Expr.first? : Expr → Point → (Point → Option α) → Option α
  | .empty, x, k => k x
  | .literal t, x, k => (x.1.skip t).bind fun q => k (q, x.2)
  | .chars s, x, k => (x.1.one s).bind fun q => k (q, x.2)
  | .look l, x, k => (x.1.test l).bind fun q => k (q, x.2)
  | .group index _ e, x, k =>
    e.first? (x.note (2 * index)) fun y => k (y.note (2 * index + 1))
  | .repeated _ _ _ e, x, k => mostFirst e.first? x.1.rest.length x k
  | .seq a b, x, k => a.first? x fun y => b.first? y k
  | .alt a b, x, k => (a.first? x k).or (b.first? x k)

/-- Expressions whose only repetitions are runs, as long as possible, of characters
    from a set. -/
def Expr.Plain : Expr → Prop
  | .empty | .literal _ | .chars _ | .look _ => True
  | .group _ _ e => e.Plain
  | .seq a b | .alt a b => a.Plain ∧ b.Plain
  | .repeated min max greedy e =>
    min = 0 ∧ max = none ∧ greedy = true ∧ ∃ s, e = .chars s ∧ s.isEmpty = false

/-! ## One task after the other -/

section
variable {a : Set (ℕ × ℕ)} {task : Task} {k : List Task} {p : Place} {saves : Saves} {f : Found}

theorem Best.of_all {ts : List Task} (h : Best a (task :: k) p saves f)
    (hr : task.reduce = .all ts) : Best a (ts ++ k) p saves f := by
  cases h with
  | all hr' h => rw [hr] at hr'; cases hr'; exact h
  | note hr' | step hr' | first hr' | second hr' => rw [hr] at hr'; cases hr'

theorem Best.of_note {slot : ℕ} (h : Best a (task :: k) p saves f)
    (hr : task.reduce = .note slot) : Best a k p ((slot, p.pos) :: saves) f := by
  cases h with
  | note hr' h => rw [hr] at hr'; cases hr'; exact h
  | all hr' | step hr' | first hr' | second hr' => rw [hr] at hr'; cases hr'

theorem Best.of_step {move : Place → Option Place} (h : Best a (task :: k) p saves f)
    (hr : task.reduce = .step move) : ∃ q, move p = some q ∧ Best a k q saves f := by
  cases h with
  | step hr' hm h => rw [hr] at hr'; cases hr'; exact ⟨_, hm, h⟩
  | all hr' | note hr' | first hr' | second hr' => rw [hr] at hr'; cases hr'

theorem Best.of_choose {label : ℕ} {first second : List Task} (h : Best a (task :: k) p saves f)
    (hr : task.reduce = .choose label first second) :
    Best (insert (label, p.pos) a) (first ++ k) p saves f ∨
      ¬Accepts (insert (label, p.pos) a) (first ++ k) p ∧
        Best (insert (label, p.pos) a) (second ++ k) p saves f := by
  cases h with
  | first hr' hn h => rw [hr] at hr'; cases hr'; exact .inl h
  | second hr' hn hf h => rw [hr] at hr'; cases hr'; exact .inr ⟨hf, h⟩
  | all hr' | note hr' | step hr' => rw [hr] at hr'; cases hr'

end

/-- The choices made lie at earlier positions, or have smaller labels. -/
def Passed (a : Set (ℕ × ℕ)) (p : Place) (label : ℕ) : Prop :=
  ∀ x ∈ a, x.2 < p.pos ∨ x.2 = p.pos ∧ x.1 < label

theorem Passed.not_mem {a : Set (ℕ × ℕ)} {p : Place} {label : ℕ} (h : Passed a p label) :
    (label, p.pos) ∉ a := by
  intro hm
  have := h _ hm
  simp only [Nat.lt_irrefl, and_false, or_self] at this

theorem Passed.insert {a : Set (ℕ × ℕ)} {p : Place} {label : ℕ} (h : Passed a p label) :
    Passed (insert (label, p.pos) a) p (label + 1) := by
  intro x hx
  rcases Set.mem_insert_iff.1 hx with rfl | hx
  · exact .inr ⟨rfl, Nat.lt_succ_self _⟩
  · have := h x hx
    omega

theorem Passed.move {a : Set (ℕ × ℕ)} {p q : Place} {label label' : ℕ} (h : Passed a p label)
    (hq : p.pos < q.pos ∨ p.pos ≤ q.pos ∧ label ≤ label') : Passed a q label' := by
  intro x hx
  have := h x hx
  omega

/-- From a point on, doing some tasks finds the answer of `goal`, if no choices are in
    the way with labels from a given one on. -/
structure FindsAt (label : ℕ) (todo : List Task) (goal : Point → Option Found) (x : Point) :
    Prop where
  accepts : ∀ {a}, Passed a x.1 label → (Accepts a todo x.1 ↔ (goal x).isSome)
  best : ∀ {a f}, Passed a x.1 label → Best a todo x.1 x.2 f → goal x = some f

/-- From any point on, doing some tasks finds the answer of `goal`. -/
def Finds (label : ℕ) (todo : List Task) (goal : Point → Option Found) : Prop :=
  ∀ x, FindsAt label todo goal x

section
variable {label label' : ℕ} {todo k ts : List Task} {task : Task} {goal goal' : Point → Option Found}
  {x : Point}

theorem finds_nil : Finds label [] fun x => some ⟨x.2, x.1.pos⟩ := by
  refine fun x => ⟨fun _ => iff_of_true .nil rfl, fun _ h => ?_⟩
  cases h
  rfl

theorem FindsAt.mono (h : FindsAt label' todo goal x) (hl : label ≤ label') :
    FindsAt label todo goal x :=
  ⟨fun hp => h.accepts (hp.move (.inr ⟨Nat.le_refl _, hl⟩)), fun hp => h.best (hp.move (.inr ⟨Nat.le_refl _, hl⟩))⟩

theorem FindsAt.all (hr : task.reduce = .all ts) (h : FindsAt label (ts ++ k) goal x) :
    FindsAt label (task :: k) goal x where
  accepts hp := by
    rw [← h.accepts hp]
    exact ⟨fun h => h.of_all hr, fun h => .all hr h⟩
  best hp hb := h.best hp (hb.of_all hr)

theorem FindsAt.note {slot : ℕ} (hr : task.reduce = .note slot)
    (h : FindsAt label k goal (x.note slot)) :
    FindsAt label (task :: k) (fun x => goal (x.note slot)) x where
  accepts hp := by
    rw [← h.accepts hp]
    exact ⟨fun h => h.of_note hr, fun h => .note hr h⟩
  best hp hb := h.best hp (hb.of_note hr)

theorem FindsAt.step {move : Place → Option Place} (hr : task.reduce = .step move)
    (hpos : ∀ q, move x.1 = some q → x.1.pos < q.pos ∨ x.1.pos ≤ q.pos ∧ label ≤ label')
    (h : ∀ q, move x.1 = some q → FindsAt label' k goal (q, x.2)) :
    FindsAt label (task :: k) (fun x => (move x.1).bind fun q => goal (q, x.2)) x where
  accepts {a} hp := by
    cases hm : move x.1 with
    | none =>
      refine iff_of_false (fun h => ?_) (by simp)
      obtain ⟨q, hq, -⟩ := h.of_step hr
      rw [hm] at hq
      cases hq
    | some q =>
      have hq : Accepts a k q ↔ _ := (h q hm).accepts (hp.move (hpos q hm))
      rw [Option.bind_some, ← hq]
      constructor
      · intro h
        obtain ⟨q', hq', h⟩ := h.of_step hr
        rw [hm] at hq'
        cases hq'
        exact h
      · exact fun h => .step hr hm h
  best hp hb := by
    obtain ⟨q, hq, hb⟩ := hb.of_step hr
    rw [hq]
    exact (h q hq).best (hp.move (hpos q hq)) hb

/-- At a choice, the second alternative comes where the first has no answer. -/
theorem FindsAt.choose {first second : List Task} (hr : task.reduce = .choose label first second)
    (h1 : FindsAt (label + 1) (first ++ k) goal x)
    (h2 : FindsAt (label + 1) (second ++ k) goal' x) :
    FindsAt label (task :: k) (fun x => (goal x).or (goal' x)) x where
  accepts hp := by
    have hp' := hp.move (.inr ⟨Nat.le_refl _, Nat.le_succ label⟩)
    rw [Option.isSome_or, Bool.or_eq_true, ← h1.accepts hp', ← h2.accepts hp']
    constructor
    · exact fun h => (h.of_choose hr).2
    · rintro (h | h)
      · exact .first hr hp.not_mem h
      · exact .second hr hp.not_mem h
  best hp hb := by
    rcases hb.of_choose hr with hb | ⟨hn, hb⟩
    · rw [h1.best hp.insert hb]
      rfl
    · rw [h1.accepts hp.insert, Option.not_isSome_iff_eq_none] at hn
      rw [hn, h2.best hp.insert hb]
      rfl

end

/-! ## Expressions -/

namespace Place

variable {p q : Place}

theorem pos_of_skip {t : Text} (h : p.skip t = some q) : q.pos = p.pos + t.length := by
  induction t generalizing p with
  | nil => cases h; rfl
  | cons c t ih =>
    obtain ⟨pos, before, rest⟩ := p
    match rest with
    | [] => cases h
    | d :: rest =>
      rw [skip_cons] at h
      split_ifs at h
      rw [ih h, List.length_cons, Nat.add_assoc, Nat.add_comm 1]

theorem next_of_one {s : CharSet} (h : p.one s = some q) :
    q.pos = p.pos + 1 ∧ p.rest.length = q.rest.length + 1 := by
  obtain ⟨pos, before, rest⟩ := p
  match rest with
  | [] => cases h
  | c :: rest =>
    rw [one_cons] at h
    split_ifs at h
    cases h
    exact ⟨rfl, rfl⟩

theorem eq_of_test {l : Look} (h : p.test l = some q) : q = p := by
  unfold test at h
  split_ifs at h
  exact (Option.some.inj h).symm

end Place

section
variable {label : ℕ} {k : List Task} {goal : Point → Option Found}

/-- The longest run first, since it is found by going on before all else. -/
theorem finds_run {s : CharSet} {inner : ℕ} (h : Finds (label + 1) k goal) (x : Point) :
    FindsAt label (.loop true (.chars s) label inner :: k)
      (fun x => mostFirst (Expr.chars s).first? x.1.rest.length x goal) x := by
  generalize hn : x.1.rest.length = n
  suffices hs : FindsAt label (.loop true (.chars s) label inner :: k)
      (fun x => mostFirst (Expr.chars s).first? n x goal) x by
    refine ⟨fun hp => ?_, fun hp hb => ?_⟩
    · rw [hn]
      exact hs.accepts hp
    · rw [hn]
      exact hs.best hp hb
  have hr : (Task.loop true (.chars s) label inner).reduce =
      .choose label [.expr (.chars s) inner, .loop true (.chars s) label inner] [] := rfl
  induction n generalizing x with
  | zero =>
    -- no character is left to go on with
    have hnone : x.1.one s = none := by
      cases hq : x.1.one s with
      | none => rfl
      | some q =>
        have := (Place.next_of_one hq).2
        omega
    have hgo : FindsAt (label + 1)
        ([.expr (.chars s) inner, .loop true (.chars s) label inner] ++ k) (fun _ => none) x := by
      refine ⟨fun _ => iff_of_false (fun ha => ?_) (by simp), fun _ hb => ?_⟩
      · obtain ⟨q, hq, -⟩ := ha.of_step rfl
        rw [hnone] at hq
        cases hq
      · obtain ⟨q, hq, -⟩ := hb.of_step rfl
        rw [hnone] at hq
        cases hq
    exact .choose hr hgo (h x)
  | succ n ih =>
    refine .choose hr (.step rfl (fun q hq => .inl ?_) fun q hq => ih (q, x.2) ?_) (h x)
    · have := (Place.next_of_one hq).1
      omega
    · have := (Place.next_of_one hq).2
      simp only
      omega

/-- **What is found first.** Doing an expression finds the first answer behind its
    matches. -/
theorem finds_expr {e : Expr} (he : e.Plain) (h : Finds (label + e.labels) k goal) :
    Finds label (.expr e label :: k) fun x => e.first? x goal := by
  induction e generalizing label k goal with
  | empty => exact fun x => .all rfl (h x)
  | literal t =>
    have hr : (Task.expr (.literal t) label).reduce = .step (·.skip t) := rfl
    refine fun x => .step hr (fun q hq => .inr ⟨?_, Nat.le_refl _⟩) fun q _ => h (q, x.2)
    exact Nat.le.intro (Place.pos_of_skip hq).symm
  | chars s =>
    refine fun x => .step rfl (fun q hq => .inl ?_) fun q _ => h (q, x.2)
    have := (Place.next_of_one hq).1
    omega
  | look l =>
    refine fun x => .step rfl (fun q hq => .inr ⟨?_, Nat.le_refl _⟩) fun q _ => h (q, x.2)
    rw [Place.eq_of_test hq]
  | group index name e ih =>
    refine fun x => .all rfl (.note rfl (ih he ?_ _))
    exact fun y => .note rfl (h _)
  | seq a b iha ihb =>
    rw [Expr.labels, ← Nat.add_assoc] at h
    exact fun x => .all rfl (iha he.1 (ihb he.2 h) x)
  | alt a b iha ihb =>
    rw [Expr.labels, ← Nat.add_assoc, ← Nat.add_assoc] at h
    have ha : Finds (label + 1) (.expr a (label + 1) :: k) fun x => a.first? x goal :=
      iha he.1 fun x => (h x).mono (Nat.le_add_right _ _)
    have hb : Finds (label + 1) (.expr b (label + 1 + a.labels) :: k) fun x => b.first? x goal :=
      fun x => (ihb he.2 h x).mono (Nat.le_add_right _ _)
    exact fun x => .choose rfl (ha x) (hb x)
  | repeated min max greedy e ih =>
    obtain ⟨rfl, rfl, rfl, s, rfl, hs⟩ := he
    have hc : (Expr.chars s).consumes := by
      simp [Expr.consumes, Expr.minLength, hs]
    have hr : (Task.expr (.repeated 0 none true (.chars s)) label).reduce =
        .all [.loop true (.chars s) label (label + 2)] := by
      simp only [Task.reduce, hc, if_true]
    refine fun x => .all hr (finds_run (fun y => (h y).mono ?_) x)
    simp [Expr.labels]

end

/-- **Searching.** For an expression that matches at the start of a text only, a
    search finds what is found first there. -/
theorem search_eq_first {e : Expr} (he : e.Plain) (hs : e.AtStart) (t : Text) :
    e.search t =
      (e.first? (⟨0, none, t⟩, []) fun x => some ⟨x.2, x.1.pos⟩).map (⟨0, ·⟩) := by
  have hf : FindsAt 0 [.expr e 0] _ (⟨0, none, t⟩, []) := finds_expr he finds_nil _
  have hp : Passed ∅ (Place.mk 0 none t) 0 := fun x hx => absurd hx (Set.notMem_empty x)
  obtain ⟨hn, hnone⟩ | ⟨p, f, hsome, hp', hb, -⟩ := search_cases e t
  · have := (hf.accepts hp).not.1 (hnone _ (.start t))
    rw [hn, Option.not_isSome_iff_eq_none.1 this]
    rfl
  · obtain ⟨q, ⟨y, hm, -⟩, -⟩ := hb.allMatch
    have hpos := hs.eq_zero ⟨p, y, hp', rfl, hm⟩
    obtain rfl : p = ⟨0, none, t⟩ := hp'.eq (.start t) hpos
    rw [hsome, hf.best hp hb]
    rfl

/-! ## Simplest forms -/

/-- The meaning of an expression by what is found first. -/
def ordered (α : Type) : Interpretation (Point → (Point → Option α) → Option α) where
  of := Expr.first?
  unit x k := k x
  comp f g x k := f x fun y => g y k
  fail _ _ := none
  join f g x k := (f x k).or (g x k)
  comp_assoc _ _ _ := rfl
  unit_comp _ := rfl
  comp_unit _ := rfl
  join_assoc a b c := by
    funext x k
    exact Option.or_assoc
  fail_join _ := rfl
  join_fail a := by
    funext x k
    exact Option.or_none
  of_empty := rfl
  of_seq _ _ := rfl
  of_alt _ _ := rfl
  of_literal t u := by
    funext x k
    simp only [Expr.first?, Place.skip_append, Option.bind_assoc]
  of_none := by
    funext x k
    simp only [Expr.first?, Place.one_empty, Option.bind_none]
  of_one h := by
    funext x k
    simp only [Expr.first?, Place.skip_singleton h]
  of_union a b := by
    funext x k
    obtain ⟨⟨pos, before, rest⟩, saves⟩ := x
    match rest with
    | [] => rfl
    | d :: rest =>
      simp only [Expr.first?, Place.one_cons, if_congr CharSet.has_union rfl rfl]
      by_cases ha : a.has d
      · by_cases hb : b.has d <;> simp [ha, hb]
      · simp [ha]

/-- Whether an expression is a text or a character from a set. -/
def Expr.isFixed : Expr → Bool
  | .literal _ | .chars _ => true
  | _ => false

/-- What has one match at most may stand in front of a choice or of each branch. -/
theorem ordered_splits {e : Expr} (h : e.isFixed) : (ordered α).Splits e.first? := by
  intro a b
  funext x k
  match e with
  | .literal t =>
    simp only [ordered, Expr.first?]
    cases x.1.skip t <;> rfl
  | .chars s =>
    simp only [ordered, Expr.first?]
    cases x.1.one s <;> rfl

end PathRouting.Regex
