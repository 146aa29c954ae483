/-
  What a search finds.

  * `Search.run_cases`: a search from one place finds what is best there, or goes
    back with more choices made, all of which lead nowhere. `rank` bounds the
    steps that it still takes.
  * `search_eq_none_iff`, `search_eq_some`: what a search in a text finds.
-/
import PathRouting.Proofs.Regex.Backtracking
import Mathlib.Data.List.ProdSigma
import Mathlib.Data.List.Perm.Basic

namespace PathRouting.Regex

/-! ## The choices made -/

/-- The choices that were made. -/
def made (v : Visited) : Set (ℕ × ℕ) :=
  {x | x ∈ v}

theorem made_empty : made ∅ = ∅ :=
  Set.eq_empty_iff_forall_notMem.2 fun _ => Std.TreeSet.not_mem_emptyc

theorem made_insert (v : Visited) (x : ℕ × ℕ) : made (v.insert x) = insert x (made v) := by
  ext y
  show y ∈ v.insert x ↔ _
  rw [Std.TreeSet.mem_insert, Set.mem_insert_iff, Std.LawfulEqCmp.compare_eq_iff_eq, eq_comm]
  rfl

/-- There are no more choices than labels and positions. -/
theorem size_le {labels width : ℕ} {v : Visited} (h : ∀ x ∈ v, x.1 < labels ∧ x.2 < width) :
    v.size ≤ labels * width := by
  have hsub : v.toList ⊆ List.range labels ×ˢ List.range width := by
    intro x hx
    have := h x (Std.TreeSet.mem_toList.1 hx)
    exact List.mem_product.2 ⟨List.mem_range.2 this.1, List.mem_range.2 this.2⟩
  have hnodup : v.toList.Nodup := by
    refine (Std.TreeSet.distinct_toList (t := v)).imp fun h he => h ?_
    rw [he]
    exact Std.ReflCmp.compare_self
  have := (List.subperm_of_subset hnodup hsub).length_le
  rwa [Std.TreeSet.length_toList, List.length_product, List.length_range, List.length_range] at this

/-! ## The state of a search -/

/-- Tasks that a search for an expression in a text can come to. -/
structure Fit (e : Expr) (t : Text) (todo : List Task) (p : Place) : Prop where
  choices : choicesOf todo ⊆ choicesOf [.expr e 0]
  need : need todo ≤ e.steps + 1
  place : p.In t

/-- Choices that a search for an expression in a text can make. -/
def Bounded (e : Expr) (t : Text) (v : Visited) : Prop :=
  ∀ x ∈ v, x.1 < e.labels ∧ x.2 < t.length + 1

/-- A state that a search for an expression in a text can be in. -/
structure Search.Fit (e : Expr) (t : Text) (s : Search) : Prop where
  here : Regex.Fit e t s.todo s.place
  others : ∀ o ∈ s.others, Regex.Fit e t o.todo o.place
  visited : Bounded e t s.visited

/-- The steps that the alternatives still take, and those behind the choices that
    are still to be made. -/
def rest (e : Expr) (t : Text) (others : List Alternative) (v : Visited) : ℕ :=
  (e.labels * (t.length + 1) - v.size) * (2 * e.steps + 4) +
    (others.map fun o => total o.todo + 1).sum

/-- The most steps that a search still takes. -/
def Search.rank (e : Expr) (t : Text) (s : Search) : ℕ :=
  total s.todo + rest e t s.others s.visited

theorem rest_cons (e : Expr) (t : Text) (o : Alternative) (others : List Alternative)
    (v : Visited) : rest e t (o :: others) v = rest e t others v + total o.todo + 1 := by
  simp only [rest, List.map_cons, List.sum_cons]
  omega

/-- How a search goes on that goes back to its next alternative. -/
def resume (fuel : ℕ) (others : List Alternative) (v : Visited) : Option Found × Visited :=
  match others with
  | [] => (none, v)
  | o :: others => Search.run fuel ⟨o.todo, o.place, o.saves, others, v⟩

section
variable {e : Expr} {t : Text} {task : Task} {k : List Task} {p : Place}

theorem Fit.tail (h : Fit e t (task :: k) p) : Fit e t k p :=
  ⟨List.Subset.trans choicesOf_tail h.choices, need_tail.trans h.need, h.place⟩

theorem Fit.all {ts : List Task} (h : Fit e t (task :: k) p) (hr : task.reduce = .all ts) :
    Fit e t (ts ++ k) p :=
  ⟨List.Subset.trans (choicesOf_all hr) h.choices, (need_all hr).2.trans h.need, h.place⟩

theorem Fit.choose {label : ℕ} {first second : List Task} (h : Fit e t (task :: k) p)
    (hr : task.reduce = .choose label first second) :
    Fit e t (first ++ k) p ∧ Fit e t (second ++ k) p := by
  obtain ⟨-, h1, h2⟩ := choicesOf_choose (k := k) hr
  obtain ⟨h3, h4⟩ := need_choose (k := k) hr
  exact ⟨⟨List.Subset.trans h1 h.choices, h3.trans h.need, h.place⟩,
    ⟨List.Subset.trans h2 h.choices, h4.trans h.need, h.place⟩⟩

/-- The choice that is made has one of the labels of the expression. -/
theorem Fit.mem {label : ℕ} {first second : List Task} (h : Fit e t (task :: k) p)
    (hr : task.reduce = .choose label first second) :
    (label, task :: k) ∈ choicesOf [.expr e 0] :=
  h.choices (choicesOf_choose hr).1

theorem choicesOf_distinct (e : Expr) : Distinct 0 e.labels (choicesOf [.expr e 0]) := by
  have := e.choices_distinct 0 []
  rw [Nat.zero_add] at this
  rwa [choicesOf, choicesOf, List.append_nil]

theorem Bounded.insert {v : Visited} {label : ℕ} {first second : List Task} (hv : Bounded e t v)
    (h : Fit e t (task :: k) p) (hr : task.reduce = .choose label first second) :
    Bounded e t (v.insert (label, p.pos)) := by
  intro x hx
  rcases Std.TreeSet.mem_insert.1 hx with he | hx
  · rw [← Std.LawfulEqCmp.compare_eq_iff_eq.1 he]
    exact ⟨((choicesOf_distinct e).bounds _ (h.mem hr)).2, Nat.lt_succ_of_le h.place.le⟩
  · exact hv x hx

/-- A choice both of whose alternatives lead nowhere may be avoided. -/
theorem Fit.closed {a b : Set (ℕ × ℕ)} {label : ℕ} {first second : List Task}
    (h : Fit e t (task :: k) p) (hr : task.reduce = .choose label first second)
    (hc : Closed (choicesOf [.expr e 0]) t (insert (label, p.pos) a) b)
    (h1 : ¬Accepts b (first ++ k) p) (h2 : ¬Accepts b (second ++ k) p) :
    Closed (choicesOf [.expr e 0]) t a b := by
  intro task' k' p' label' first' second' hm hp hr' hb ha
  by_cases hx : (label', p'.pos) = (label, p.pos)
  · rw [Prod.mk.injEq] at hx
    obtain ⟨rfl, hpos⟩ := hx
    obtain rfl := hp.eq h.place hpos
    have := (choicesOf_distinct e).eq _ hm _ (h.mem hr) rfl
    rw [Prod.mk.injEq, List.cons.injEq] at this
    obtain ⟨-, rfl, rfl⟩ := this
    rw [hr] at hr'
    cases hr'
    exact ⟨h1, h2⟩
  · refine hc task' k' p' label' first' second' hm hp hr' hb fun hi => ?_
    exact (Set.mem_insert_iff.1 hi).elim hx ha

/-- A new choice uses up more than its alternatives may take. -/
theorem rest_insert (others : List Alternative) {v : Visited} {x : ℕ × ℕ}
    (hv : Bounded e t (v.insert x)) (hx : ¬v.contains x) :
    rest e t others (v.insert x) + (2 * e.steps + 4) = rest e t others v := by
  have hle := size_le hv
  rw [Std.TreeSet.size_insert, if_neg hx] at hle
  obtain ⟨n, hn⟩ : ∃ n, e.labels * (t.length + 1) = v.size + 1 + n := ⟨_, (Nat.add_sub_of_le hle).symm⟩
  unfold rest
  rw [Std.TreeSet.size_insert, if_neg hx, hn, Nat.add_sub_cancel_left,
    show v.size + 1 + n - v.size = n + 1 by omega]
  ring

/-! ## Searching from one place -/

/-- A search that goes back: with more choices made, all of which lead nowhere, and
    fuel enough for the alternatives. -/
def GoesBack (e : Expr) (t : Text) (fuel : ℕ) (s : Search) : Prop :=
  ∃ v m, Search.run fuel s = resume m s.others v ∧ m ≤ fuel ∧ rest e t s.others v ≤ m ∧
    Bounded e t v ∧ made s.visited ⊆ made v ∧
    Closed (choicesOf [.expr e 0]) t (made s.visited) (made v) ∧
    ¬Accepts (made v) s.todo s.place

/-- A search that fails on the spot goes back. -/
theorem goesBack_of_goBack {s : Search} {n : ℕ} (hs : s.step = s.goBack) (hv : Bounded e t s.visited)
    (hn : rest e t s.others s.visited ≤ n) (ha : ¬Accepts (made s.visited) s.todo s.place) :
    GoesBack e t (n + 1) s := by
  refine ⟨s.visited, n, ?_, Nat.le_succ n, hn, hv, subset_rfl, .refl, ha⟩
  rw [Search.run, hs, Search.goBack]
  obtain ⟨todo, p, saves, others, v⟩ := s
  cases others with
  | nil => rfl
  | cons o others => rfl

/-- A search that finds what is best from where it stands, or goes back. -/
def Settles (e : Expr) (t : Text) (fuel : ℕ) (s : Search) : Prop :=
  (∃ f, Best (made s.visited) s.todo s.place s.saves f ∧ Search.run fuel s = (some f, ∅)) ∨
    GoesBack e t fuel s

/-- A step without a choice. -/
theorem Settles.of_running {s s' : Search} {n : ℕ} (h : Settles e t n s')
    (hstep : s.step = .running s') (hothers : s'.others = s.others)
    (hvisited : s'.visited = s.visited)
    (hbest : ∀ f, Best (made s.visited) s'.todo s'.place s'.saves f →
      Best (made s.visited) s.todo s.place s.saves f)
    (hacc : ∀ a, Accepts a s.todo s.place → Accepts a s'.todo s'.place) :
    Settles e t (n + 1) s := by
  have hrun : Search.run (n + 1) s = Search.run n s' := by rw [Search.run, hstep]
  obtain ⟨f, hf, he⟩ | ⟨v, m, he, hm, hrest, hb, hsub, hc, ha⟩ := h
  · rw [hvisited] at hf
    exact .inl ⟨f, hbest f hf, hrun.trans he⟩
  · rw [hothers] at he hrest
    rw [hvisited] at hsub hc
    exact .inr ⟨v, m, hrun.trans he, Nat.le_succ_of_le hm, hrest, hb, hsub, hc,
      fun h => ha (hacc _ h)⟩

/-- A new choice. The second alternative is searched with what the first one leaves. -/
theorem Settles.of_choose {n label : ℕ} {first second : List Task} {saves : List (ℕ × ℕ)}
    {others : List Alternative} {v : Visited} (hfit : Fit e t (task :: k) p)
    (hr : task.reduce = .choose label first second) (hnew : ¬v.contains (label, p.pos))
    (hfirst : Settles e t n ⟨first ++ k, p, saves, ⟨second ++ k, p, saves⟩ :: others,
      v.insert (label, p.pos)⟩)
    (hsecond : ∀ m v', m ≤ n → rest e t (⟨second ++ k, p, saves⟩ :: others) v' ≤ m →
      Bounded e t v' → Settles e t m ⟨second ++ k, p, saves, others, v'⟩) :
    Settles e t (n + 1) ⟨task :: k, p, saves, others, v⟩ := by
  obtain ⟨hfit₁, hfit₂⟩ := hfit.choose hr
  have hrun : Search.run (n + 1) ⟨task :: k, p, saves, others, v⟩ = Search.run n ⟨first ++ k, p,
      saves, ⟨second ++ k, p, saves⟩ :: others, v.insert (label, p.pos)⟩ := by
    rw [Search.run, Search.step]
    simp only [hr, Search.choose, hnew]
    rfl
  rw [Settles, GoesBack, ← hrun] at hfirst
  dsimp only at hfirst
  rw [made_insert] at hfirst
  obtain ⟨f, hf, he⟩ | ⟨v₁, m₁, he₁, hm₁, hrest₁, hb₁, hsub₁, hc₁, ha₁⟩ := hfirst
  · exact .inl ⟨f, .first hr hnew hf, he⟩
  obtain ⟨f, hf, he⟩ | ⟨v₂, m₂, he₂, hm₂, hrest₂, hb₂, hsub₂, hc₂, ha₂⟩ :=
    hsecond m₁ v₁ hm₁ hrest₁ hb₁
  · refine .inl ⟨f, .second hr hnew (fun h => ha₁ ?_) ?_, he₁.trans he⟩
    · exact h.of_closed hc₁ hfit₁.choices hfit₁.place
    · exact hf.of_closed hc₁ hsub₁ hfit₂.choices hfit₂.place
  · have hin : (label, p.pos) ∈ made v₂ := hsub₂ (hsub₁ (Set.mem_insert _ _))
    refine .inr ⟨v₂, m₂, he₁.trans he₂, (hm₂.trans hm₁).trans (Nat.le_succ n), hrest₂, hb₂, ?_, ?_,
      fun h => (h.of_choose hr).1 hin⟩
    · exact (Set.subset_insert _ _).trans (hsub₁.trans hsub₂)
    · exact hfit.closed hr (hc₁.trans hc₂ hsub₂) (fun h => ha₁ (h.mono hsub₂)) ha₂

/-- **Searching from one place.** A search with fuel enough finds what is best, or
    goes back. -/
theorem Search.run_cases (n : ℕ) : ∀ s : Search, s.Fit e t → s.rank e t ≤ n → Settles e t n s := by
  induction n using Nat.strong_induction_on with
  | _ n ih =>
    rintro ⟨todo, p, saves, others, v⟩ hs hn
    have hpos := total_pos todo
    unfold rank at hn
    dsimp only at hn
    obtain ⟨n, rfl⟩ : ∃ m, n = m + 1 := ⟨n - 1, by omega⟩
    match todo with
    | [] => exact .inl ⟨_, .nil, rfl⟩
    | task :: k =>
      have hfit := hs.here
      dsimp only at hfit
      -- a search for less, with the same alternatives
      have hless : ∀ {todo' q saves'}, Regex.Fit e t todo' q → total todo' + 1 ≤ total (task :: k) →
          Settles e t n ⟨todo', q, saves', others, v⟩ := by
        intro todo' q saves' hfit' htotal
        refine ih n (Nat.lt_succ_self n) _ ⟨hfit', hs.others, hs.visited⟩ ?_
        unfold rank
        dsimp only
        omega
      have hback : rest e t others v ≤ n := by
        have := task.cost_pos
        omega
      cases hr : task.reduce with
      | all ts =>
        refine (hless (hfit.all hr) (need_all hr).1).of_running ?_ rfl rfl (fun f h => .all hr h)
          fun a h => h.of_all hr
        rw [step]; simp only [hr]
      | note slot =>
        refine (hless hfit.tail total_tail).of_running ?_ rfl rfl (fun f h => .note hr h)
          fun a h => h.of_note hr
        rw [step]; simp only [hr]
      | step move =>
        cases hm : move p with
        | none =>
          refine .inr (goesBack_of_goBack ?_ hs.visited hback fun h => ?_)
          · rw [step]; simp only [hr, hm]
          · obtain ⟨q, hq, -⟩ := h.of_step hr
            rw [hm] at hq
            cases hq
        | some q =>
          have hq : Regex.Fit e t k q :=
            ⟨hfit.tail.choices, hfit.tail.need, (hfit.place.step hr hm).1⟩
          refine (hless hq total_tail).of_running ?_ rfl rfl (fun f h => .step hr hm h) ?_
          · rw [step]; simp only [hr, hm]
          · intro a h
            obtain ⟨q', hq', h⟩ := h.of_step hr
            rw [hm] at hq'
            cases hq'
            exact h
      | choose label first second =>
        by_cases hv : v.contains (label, p.pos)
        · refine .inr (goesBack_of_goBack ?_ hs.visited hback fun h => ?_)
          · rw [step]; simp only [hr, choose, hv, if_true]
          · exact (h.of_choose hr).1 hv
        · obtain ⟨hfirst, hsecond⟩ := hfit.choose hr
          have hb : Bounded e t (v.insert (label, p.pos)) := hs.visited.insert hfit hr
          have hrest := rest_insert others hb hv
          have hcons := rest_cons e t ⟨second ++ k, p, saves⟩ others
          have ht₁ := (total_le_need (first ++ k)).trans hfirst.need
          have ht₂ := (total_le_need (second ++ k)).trans hsecond.need
          refine Settles.of_choose hfit hr hv ?_ fun m v' hm hrest' hb' => ?_
          · refine ih n (Nat.lt_succ_self n) _ ⟨hfirst, List.forall_mem_cons.2 ⟨hsecond, hs.others⟩, hb⟩ ?_
            rw [rank, hcons]
            dsimp only
            omega
          · rw [hcons] at hrest'
            dsimp only at hrest'
            refine ih m (Nat.lt_succ_of_le hm) _ ⟨hsecond, hs.others, hb'⟩ ?_
            rw [rank]
            dsimp only
            omega

end

/-! ## Searching in a text -/

section
variable {e : Expr} {t : Text}

theorem fit_start {p : Place} (e : Expr) (hp : p.In t) : Fit e t [.expr e 0] p :=
  ⟨List.Subset.refl _, by simp [need, total, Task.reach, Task.cost], hp⟩

/-- A search of one place among several: the choices already made lead nowhere. -/
theorem explore_cases {p : Place} {v : Visited} (hp : p.In t) (hv : Bounded e t v)
    (hc : Closed (choicesOf [.expr e 0]) t ∅ (made v)) :
    (∃ f, Best ∅ [.expr e 0] p [] f ∧
        explore (stepBound e (t.length + 1)) e p v = (some f, ∅)) ∨
      ∃ v', explore (stepBound e (t.length + 1)) e p v = (none, v') ∧ Bounded e t v' ∧
        Closed (choicesOf [.expr e 0]) t ∅ (made v') ∧ ¬Accepts ∅ [.expr e 0] p := by
  have hfit := fit_start e hp
  have hrank : Search.rank e t ⟨[.expr e 0], p, [], [], v⟩ ≤ stepBound e (t.length + 1) := by
    have hle : (e.labels * (t.length + 1) - v.size) * (2 * e.steps + 4) ≤
        e.labels * (t.length + 1) * (2 * e.steps + 4) := Nat.mul_le_mul_right _ (Nat.sub_le _ _)
    have hadd : stepBound e (t.length + 1) =
        e.labels * (t.length + 1) * (2 * e.steps + 4) + (2 * e.steps + 4) + 1 := by
      rw [stepBound, Nat.add_mul, Nat.one_mul]
    simp only [Search.rank, rest, total, Task.cost, List.map_nil, List.sum_nil]
    omega
  have hs : Search.Fit e t ⟨[.expr e 0], p, [], [], v⟩ := ⟨hfit, List.forall_mem_nil _, hv⟩
  obtain ⟨f, hf, he⟩ | ⟨v', m, he, -, -, hb, hsub, hc', ha⟩ := Search.run_cases _ _ hs hrank
  · exact .inl ⟨f, hf.of_closed hc (Set.empty_subset _) hfit.choices hp, he⟩
  · have hc'' := hc.trans hc' hsub
    exact .inr ⟨v', he, hb, hc'', fun h => ha (h.of_closed hc'' hfit.choices hp)⟩

/-- What a search finds from a place on: what is best at the first place where there
    is something to be found. -/
theorem searchFrom_cases {pos : ℕ} {before : Option Char} {rest : Text} {v : Visited}
    (hp : Place.In t ⟨pos, before, rest⟩) (hv : Bounded e t v)
    (hc : Closed (choicesOf [.expr e 0]) t ∅ (made v)) :
    (searchFrom (stepBound e (t.length + 1)) e pos before rest v = none ∧
        ∀ q, q.In t → pos ≤ q.pos → ¬Accepts ∅ [.expr e 0] q) ∨
      ∃ q f, searchFrom (stepBound e (t.length + 1)) e pos before rest v = some ⟨q.pos, f⟩ ∧
        q.In t ∧ pos ≤ q.pos ∧ Best ∅ [.expr e 0] q [] f ∧
        ∀ q', q'.In t → pos ≤ q'.pos → q'.pos < q.pos → ¬Accepts ∅ [.expr e 0] q' := by
  induction rest generalizing pos before v with
  | nil =>
    obtain ⟨f, hf, he⟩ | ⟨v', he, -, -, ha⟩ := explore_cases hp hv hc
    · refine .inr ⟨_, f, ?_, hp, Nat.le_refl _, hf, fun q' _ h h' => absurd h' (Nat.not_lt.2 h)⟩
      rw [searchFrom, he]
      rfl
    · refine .inl ⟨by rw [searchFrom, he]; rfl, fun q hq h => ?_⟩
      have hlen : pos = t.length := by
        have := congrArg List.length hp.rest
        have hle := hp.le
        simp only [List.length_nil, List.length_drop] at this hle
        omega
      rwa [hq.eq hp (Nat.le_antisymm (hlen ▸ hq.le) h)]
  | cons c rest ih =>
    obtain ⟨f, hf, he⟩ | ⟨v', he, hb, hc', ha⟩ := explore_cases hp hv hc
    · refine .inr ⟨_, f, ?_, hp, Nat.le_refl _, hf, fun q' _ h h' => absurd h' (Nat.not_lt.2 h)⟩
      rw [searchFrom, he]
    · have hstep : searchFrom (stepBound e (t.length + 1)) e pos before (c :: rest) v =
          searchFrom (stepBound e (t.length + 1)) e (pos + 1) (some c) rest v' := by
        rw [searchFrom, he]
      have hhere : ∀ q, q.In t → pos ≤ q.pos → ¬pos + 1 ≤ q.pos → ¬Accepts ∅ [.expr e 0] q := by
        intro q hq h h'
        rwa [hq.eq hp (show q.pos = pos by omega)]
      obtain ⟨hn, hnone⟩ | ⟨q, f, hsome, hq, hle, hf, hfirst⟩ := ih (hp.next rfl) hb hc'
      all_goals dsimp only at *
      · refine .inl ⟨hstep.trans hn, fun q hq h => ?_⟩
        by_cases h' : pos + 1 ≤ q.pos
        · exact hnone q hq h'
        · exact hhere q hq h h'
      · refine .inr ⟨q, f, hstep.trans hsome, hq, by omega, hf, fun q' hq' h hlt => ?_⟩
        by_cases h' : pos + 1 ≤ q'.pos
        · exact hfirst q' hq' h' hlt
        · exact hhere q' hq' h h'

theorem closed_empty : Closed (choicesOf [.expr e 0]) t ∅ (made ∅) := by
  rw [made_empty]
  exact .refl

/-- **Searching.** A search for an expression finds nothing if it can be done
    nowhere; otherwise it finds what is best at the first place where it can be
    done. -/
theorem search_cases (e : Expr) (t : Text) :
    (e.search t = none ∧ ∀ q, q.In t → ¬Accepts ∅ [.expr e 0] q) ∨
      ∃ q f, e.search t = some ⟨q.pos, f⟩ ∧ q.In t ∧ Best ∅ [.expr e 0] q [] f ∧
        ∀ q', q'.In t → q'.pos < q.pos → ¬Accepts ∅ [.expr e 0] q' := by
  have hv : Bounded e t ∅ := fun x hx => absurd hx Std.TreeSet.not_mem_emptyc
  obtain ⟨hn, hnone⟩ | ⟨q, f, hsome, hq, -, hf, hfirst⟩ :=
    searchFrom_cases (Place.In.start t) hv closed_empty
  · exact .inl ⟨hn, fun q hq => hnone q hq (Nat.zero_le _)⟩
  · exact .inr ⟨q, f, hsome, hq, hf, fun q' hq' => hfirst q' hq' (Nat.zero_le _)⟩

end

end PathRouting.Regex
