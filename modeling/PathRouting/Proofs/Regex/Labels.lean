/-
  The labels of choices.

  * `Task.reduces`: what a task comes down to, said once for all that follows.
  * `choicesOf` lists the choices that some tasks can come to, each with its label
    and the tasks that are left there.
  * `choicesOf_all` and the lemmas after it: doing a task leads to no other
    choices.
  * `Expr.choices_distinct`: a label stands for one choice only.
  * `total` and `need` bound the work between two choices.
-/
import PathRouting.Regex.Search
import Mathlib.Data.List.Basic
import Mathlib.Tactic.Ring
import Mathlib.Tactic.Tauto

namespace PathRouting.Regex

/-! ## What a task comes down to -/

/-- The tasks that go on with others or with none, by choice under a label. -/
inductive Offers : Task → ℕ → List Task → Prop
  | upTo {n greedy e label} : Offers (.upTo (n + 1) greedy e label) label
      [.expr e (label + 1), .upTo n greedy e (label + 1 + e.labels)]
  | loop {greedy e label inner} : Offers (.loop greedy e label inner) label
      [.expr e inner, .loop greedy e label inner]
  | any {greedy e label} : e.consumes = false →
      Offers (.expr (.repeated 0 none greedy e) label) label
        [.expr e (label + 2), .loop greedy e (label + 1) (label + 2)]

/-- What a task comes down to, with one case for each kind of task. -/
inductive Reduces : Task → Reduction → Prop
  | save {slot} : Reduces (.save slot) (.note slot)
  | literal {t label} : Reduces (.expr (.literal t) label) (.step (·.skip t))
  | chars {s label} : Reduces (.expr (.chars s) label) (.step (Place.one s))
  | look {l label} : Reduces (.expr (.look l) label) (.step (Place.test l))
  | empty {label} : Reduces (.expr .empty label) (.all [])
  | noCopies {e label} : Reduces (.copies 0 e label) (.all [])
  | noMore {greedy e label} : Reduces (.upTo 0 greedy e label) (.all [])
  | copies {n e label} : Reduces (.copies (n + 1) e label)
      (.all [.expr e label, .copies n e (label + e.labels)])
  | group {index name e label} : Reduces (.expr (.group index name e) label)
      (.all [.save (2 * index), .expr e label, .save (2 * index + 1)])
  | seq {a b label} : Reduces (.expr (.seq a b) label)
      (.all [.expr a label, .expr b (label + a.labels)])
  | counted {min max greedy e label} : Reduces (.expr (.repeated min (some max) greedy e) label)
      (.all [.copies min e label, .upTo (max - min) greedy e (label + min * e.labels)])
  | endless {greedy e label} : e.consumes = true →
      Reduces (.expr (.repeated 0 none greedy e) label) (.all [.loop greedy e label (label + 2)])
  | atLeast {min greedy e label} : Reduces (.expr (.repeated (min + 1) none greedy e) label)
      (.all [.copies min e label, .expr e (label + min * e.labels + 1),
        .loop greedy e (label + min * e.labels) (label + min * e.labels + 1)])
  | alt {a b label} : Reduces (.expr (.alt a b) label)
      (.choose label [.expr a (label + 1)] [.expr b (label + 1 + a.labels)])
  | goOn {task label ts} : Offers task label ts → Reduces task (.choose label ts [])
  | stop {task label ts} : Offers task label ts → Reduces task (.choose label [] ts)

theorem Offers.reduces {task : Task} {label : ℕ} {ts : List Task} (h : Offers task label ts)
    (greedy : Bool) : Reduces task (.optional label greedy ts) := by
  unfold Reduction.optional
  split_ifs
  · exact .goOn h
  · exact .stop h

theorem Task.reduces (task : Task) : Reduces task task.reduce := by
  cases task with
  | save => exact .save
  | loop greedy => exact Offers.loop.reduces greedy
  | copies n =>
    cases n with
    | zero => exact .noCopies
    | succ n => exact .copies
  | upTo n greedy =>
    cases n with
    | zero => exact .noMore
    | succ n => exact Offers.upTo.reduces greedy
  | expr e label =>
    cases e with
    | empty => exact .empty
    | literal => exact .literal
    | chars => exact .chars
    | look => exact .look
    | group => exact .group
    | seq => exact .seq
    | alt => exact .alt
    | repeated min max greedy e =>
      cases max with
      | some max => exact .counted
      | none =>
        cases min with
        | zero =>
          unfold reduce
          dsimp only
          split_ifs with hc
          · exact .endless hc
          · exact (Offers.any (Bool.not_eq_true _ ▸ hc)).reduces greedy
        | succ min => exact .atLeast

theorem Task.reduces_of_eq {task : Task} {x : Reduction} (h : task.reduce = x) : Reduces task x :=
  h ▸ task.reduces

/-! ## The choices of tasks -/

/-- The choices of a repetition that goes on, given those of its body. -/
def loopChoices (inside : ℕ → List Task → List (ℕ × List Task)) (greedy : Bool) (e : Expr)
    (label inner : ℕ) (k : List Task) : List (ℕ × List Task) :=
  (label, .loop greedy e label inner :: k) :: inside inner (.loop greedy e label inner :: k)

/-- The choices of copies, given those of one. -/
def copiesChoices (inside : ℕ → List Task → List (ℕ × List Task)) (e : Expr) :
    ℕ → ℕ → List Task → List (ℕ × List Task)
  | 0, _, _ => []
  | n + 1, label, k =>
    inside label (.copies n e (label + e.labels) :: k) ++
      copiesChoices inside e n (label + e.labels) k

/-- The choices of optional copies, given those of one. -/
def upToChoices (inside : ℕ → List Task → List (ℕ × List Task)) (greedy : Bool) (e : Expr) :
    ℕ → ℕ → List Task → List (ℕ × List Task)
  | 0, _, _ => []
  | n + 1, label, k =>
    (label, .upTo (n + 1) greedy e label :: k) ::
      (inside (label + 1) (.upTo n greedy e (label + 1 + e.labels) :: k) ++
        upToChoices inside greedy e n (label + 1 + e.labels) k)

/-- The choices of an expression with other tasks behind it. -/
def Expr.choices : Expr → ℕ → List Task → List (ℕ × List Task)
  | .empty, _, _ | .literal _, _, _ | .chars _, _, _ | .look _, _, _ => []
  | .group index _ e, label, k => e.choices label (.save (2 * index + 1) :: k)
  | .seq a b, label, k =>
    a.choices label (.expr b (label + a.labels) :: k) ++ b.choices (label + a.labels) k
  | .alt a b, label, k =>
    (label, .expr (.alt a b) label :: k) ::
      (a.choices (label + 1) k ++ b.choices (label + 1 + a.labels) k)
  | .repeated min (some max) greedy e, label, k =>
    copiesChoices e.choices e min label
        (.upTo (max - min) greedy e (label + min * e.labels) :: k) ++
      upToChoices e.choices greedy e (max - min) (label + min * e.labels) k
  | .repeated 0 none greedy e, label, k =>
    if e.consumes then loopChoices e.choices greedy e label (label + 2) k
    else (label, .expr (.repeated 0 none greedy e) label :: k) ::
      loopChoices e.choices greedy e (label + 1) (label + 2) k
  | .repeated (min + 1) none greedy e, label, k =>
    let last := label + min * e.labels
    copiesChoices e.choices e min label
        (.expr e (last + 1) :: .loop greedy e last (last + 1) :: k) ++
      loopChoices e.choices greedy e last (last + 1) k

/-- The choices of a task with other tasks behind it. -/
def Task.choices : Task → List Task → List (ℕ × List Task)
  | .expr e label, k => e.choices label k
  | .copies n e label, k => copiesChoices e.choices e n label k
  | .upTo n greedy e label, k => upToChoices e.choices greedy e n label k
  | .loop greedy e label inner, k => loopChoices e.choices greedy e label inner k
  | .save _, _ => []

/-- The choices that some tasks can come to: the label of each, and the tasks that
    are left there. -/
def choicesOf : List Task → List (ℕ × List Task)
  | [] => []
  | task :: k => task.choices k ++ choicesOf k

/-! ## Doing a task -/

section
variable {task : Task} {k : List Task} {l : ℕ}

theorem choicesOf_tail : choicesOf k ⊆ choicesOf (task :: k) :=
  List.subset_append_right _ _

theorem eq_save {slot : ℕ} (h : task.reduce = .note slot) : task = .save slot := by
  cases Task.reduces_of_eq h
  rfl

/-- A task that is a step in the text is an expression without parts. -/
theorem eq_of_step {move : Place → Option Place} (h : task.reduce = .step move) :
    (∃ t label, task = .expr (.literal t) label ∧ move = (·.skip t)) ∨
    (∃ s label, task = .expr (.chars s) label ∧ move = Place.one s) ∨
    ∃ l label, task = .expr (.look l) label ∧ move = Place.test l := by
  cases Task.reduces_of_eq h with
  | @literal t label => exact .inl ⟨t, label, rfl, rfl⟩
  | @chars s label => exact .inr (.inl ⟨s, label, rfl, rfl⟩)
  | @look l label => exact .inr (.inr ⟨l, label, rfl, rfl⟩)

/-- A task that comes down to others leads to no other choices. -/
theorem choicesOf_all {ts : List Task} (h : task.reduce = .all ts) :
    choicesOf (ts ++ k) ⊆ choicesOf (task :: k) := by
  cases Task.reduces_of_eq h with
  | empty | noCopies | noMore => exact choicesOf_tail
  | copies => simp [choicesOf, Task.choices, copiesChoices]
  | group | seq | counted => simp [choicesOf, Task.choices, Expr.choices]
  | endless hc => simp [choicesOf, Task.choices, Expr.choices, hc]
  | atLeast =>
    intro x hx
    simp only [List.cons_append, List.nil_append, choicesOf, Task.choices, Expr.choices,
      loopChoices, List.mem_append, List.mem_cons] at hx ⊢
    tauto

theorem choicesOf_offers {ts : List Task} (h : Offers task l ts) :
    (l, task :: k) ∈ choicesOf (task :: k) ∧ choicesOf (ts ++ k) ⊆ choicesOf (task :: k) := by
  cases h with
  | upTo =>
    refine ⟨by simp [choicesOf, Task.choices, upToChoices], fun x hx => ?_⟩
    simp only [List.cons_append, List.nil_append, choicesOf, Task.choices, upToChoices,
      List.mem_append, List.mem_cons] at hx ⊢
    tauto
  | loop =>
    refine ⟨by simp [choicesOf, Task.choices, loopChoices], fun x hx => ?_⟩
    simp only [List.cons_append, List.nil_append, choicesOf, Task.choices, loopChoices,
      List.mem_append, List.mem_cons] at hx ⊢
    tauto
  | any hc =>
    refine ⟨by simp [choicesOf, Task.choices, Expr.choices, hc], fun x hx => ?_⟩
    simp only [List.cons_append, List.nil_append, choicesOf, Task.choices, Expr.choices, hc,
      Bool.false_eq_true, if_false, loopChoices, List.mem_append, List.mem_cons] at hx ⊢
    tauto

/-- A choice is among those of its task, and so are those that come after it. -/
theorem choicesOf_choose {first second : List Task} (h : task.reduce = .choose l first second) :
    (l, task :: k) ∈ choicesOf (task :: k) ∧ choicesOf (first ++ k) ⊆ choicesOf (task :: k) ∧
      choicesOf (second ++ k) ⊆ choicesOf (task :: k) := by
  cases Task.reduces_of_eq h with
  | goOn ho =>
    obtain ⟨hm, hs⟩ := choicesOf_offers (k := k) ho
    exact ⟨hm, hs, choicesOf_tail⟩
  | stop ho =>
    obtain ⟨hm, hs⟩ := choicesOf_offers (k := k) ho
    exact ⟨hm, choicesOf_tail, hs⟩
  | alt =>
    refine ⟨by simp [choicesOf, Task.choices, Expr.choices], fun x hx => ?_, fun x hx => ?_⟩
    all_goals
      simp only [List.cons_append, List.nil_append, choicesOf, Task.choices, Expr.choices,
        List.mem_append, List.mem_cons] at hx ⊢
      tauto

end

/-! ## One choice for a label -/

/-- Choices with labels from `first` up to, and without, `stop`, and no two of them
    with one label. -/
structure Distinct (first stop : ℕ) (choices : List (ℕ × List Task)) : Prop where
  bounds : ∀ x ∈ choices, first ≤ x.1 ∧ x.1 < stop
  eq : ∀ x ∈ choices, ∀ y ∈ choices, x.1 = y.1 → x = y

namespace Distinct

variable {a b c : ℕ} {xs ys : List (ℕ × List Task)}

theorem nil : Distinct a b [] :=
  ⟨fun _ h => (nomatch h), fun _ h => (nomatch h)⟩

theorem append (hx : Distinct a b xs) (hy : Distinct b c ys) (hab : a ≤ b) (hbc : b ≤ c) :
    Distinct a c (xs ++ ys) := by
  refine ⟨fun x h => ?_, fun x hx' y hy' he => ?_⟩
  · rcases List.mem_append.1 h with h | h
    · have := hx.bounds x h; omega
    · have := hy.bounds x h; omega
  · rcases List.mem_append.1 hx' with h | h <;> rcases List.mem_append.1 hy' with h' | h'
    · exact hx.eq x h y h' he
    · have := hx.bounds x h; have := hy.bounds y h'; omega
    · have := hy.bounds x h; have := hx.bounds y h'; omega
    · exact hy.eq x h y h' he

theorem cons (hx : Distinct (a + 1) b xs) (hab : a < b) (k : List Task) :
    Distinct a b ((a, k) :: xs) := by
  have h1 : Distinct a (a + 1) [(a, k)] := by
    refine ⟨fun x h => ?_, fun x h y h' _ => ?_⟩
    · rw [List.mem_singleton.1 h]; exact ⟨Nat.le_refl a, Nat.lt_succ_self a⟩
    · rw [List.mem_singleton.1 h, List.mem_singleton.1 h']
  exact h1.append hx (Nat.le_succ a) hab

theorem mono (hx : Distinct a b xs) {a' b' : ℕ} (ha : a' ≤ a) (hb : b ≤ b') :
    Distinct a' b' xs :=
  ⟨fun x h => by have := hx.bounds x h; omega, hx.eq⟩

end Distinct

section
variable {inside : ℕ → List Task → List (ℕ × List Task)} {e : Expr} (greedy : Bool)
  (hi : ∀ label k, Distinct label (label + e.labels) (inside label k))
include hi

theorem loopChoices_distinct {label inner : ℕ} (h : label < inner) (k : List Task) :
    Distinct label (inner + e.labels) (loopChoices inside greedy e label inner k) :=
  ((hi inner _).mono h (Nat.le_refl _)).cons (by omega) _

theorem copiesChoices_distinct (n label : ℕ) (k : List Task) :
    Distinct label (label + n * e.labels) (copiesChoices inside e n label k) := by
  induction n generalizing label with
  | zero => exact .nil
  | succ n ih =>
    rw [copiesChoices]
    have := (hi label (.copies n e (label + e.labels) :: k)).append (ih (label + e.labels))
      (by omega) (by omega)
    rwa [show label + (n + 1) * e.labels = label + e.labels + n * e.labels by ring]

theorem upToChoices_distinct (n label : ℕ) (k : List Task) :
    Distinct label (label + n * (1 + e.labels)) (upToChoices inside greedy e n label k) := by
  induction n generalizing label with
  | zero => exact .nil
  | succ n ih =>
    rw [upToChoices]
    have := (hi (label + 1) (.upTo n greedy e (label + 1 + e.labels) :: k)).append
      (ih (label + 1 + e.labels)) (by omega) (by omega)
    rw [show label + (n + 1) * (1 + e.labels) = label + 1 + e.labels + n * (1 + e.labels) by ring]
    exact this.cons (by omega) _

end

/-- **Labels.** Different choices of an expression have different labels, which are
    fewer than the expression has. -/
theorem Expr.choices_distinct (e : Expr) (label : ℕ) (k : List Task) :
    Distinct label (label + e.labels) (e.choices label k) := by
  induction e generalizing label k with
  | empty | literal | chars | look => exact .nil
  | group index name e ih => exact ih label _
  | seq a b iha ihb =>
    have := (iha label (.expr b (label + a.labels) :: k)).append (ihb (label + a.labels) k)
      (by omega) (by omega)
    rwa [Nat.add_assoc] at this
  | alt a b iha ihb =>
    have := (iha (label + 1) k).append (ihb (label + 1 + a.labels) k) (by omega) (by omega)
    rw [labels, show label + (1 + a.labels + b.labels) = label + 1 + a.labels + b.labels by omega]
    exact this.cons (by omega) _
  | repeated min max greedy e ih =>
    cases max with
    | some max =>
      have := (copiesChoices_distinct ih min label
        (.upTo (max - min) greedy e (label + min * e.labels) :: k)).append
        (upToChoices_distinct greedy ih (max - min) (label + min * e.labels) k)
        (by omega) (by omega)
      rwa [Nat.add_assoc] at this
    | none =>
      cases min with
      | zero =>
        rw [choices]
        simp only [labels, Nat.zero_mul, Nat.zero_add, Nat.lt_irrefl, if_false]
        split_ifs
        · exact (loopChoices_distinct greedy ih (by omega) k).mono (Nat.le_refl _) (by omega)
        · exact ((loopChoices_distinct greedy ih (by omega) k).mono (Nat.le_refl _) (by omega)).cons
            (by omega) _
      | succ min =>
        rw [choices]
        have := (copiesChoices_distinct ih min label (.expr e (label + min * e.labels + 1) ::
          .loop greedy e (label + min * e.labels) (label + min * e.labels + 1) :: k)).append
          (loopChoices_distinct greedy ih
            (Nat.lt_succ_self (label + min * e.labels)) k) (by omega) (by omega)
        refine this.mono (Nat.le_refl _) ?_
        simp only [labels, Nat.succ_pos, if_true]
        ring_nf
        omega

/-! ## The work between two choices -/

/-- The most steps that a task takes without a choice. -/
def Task.cost : Task → ℕ
  | .expr e _ => e.steps
  | .copies n e _ | .upTo n _ e _ => n * (e.steps + 1) + 1
  | .loop .. | .save _ => 1

/-- The most steps that a task takes up to a choice, where it may have been chosen
    to go on. -/
def Task.reach : Task → ℕ
  | .loop _ e _ _ => e.steps + 2
  | task => task.cost

/-- The most steps that some tasks take without a choice, and the one that ends the
    search. -/
def total : List Task → ℕ
  | [] => 1
  | task :: k => task.cost + total k

/-- The most steps between two choices that some tasks can come to. -/
def need : List Task → ℕ
  | [] => 1
  | task :: k => max (task.reach + total k) (need k)

theorem nat_max_eq (a b : ℕ) : Nat.max a b = a + (b - a) := by
  show max a b = _
  omega

theorem Expr.steps_pos (e : Expr) : 0 < e.steps := by
  cases e with
  | repeated => exact Nat.lt_of_lt_of_le (by decide : 0 < 4) (Nat.le_add_right _ _)
  | empty | literal | chars | look => exact Nat.one_pos
  | group | seq | alt => simp only [steps]; omega

theorem Task.cost_pos (task : Task) : 0 < task.cost := by
  cases task with
  | expr e label => exact e.steps_pos
  | copies | upTo => exact Nat.succ_pos _
  | loop | save => exact Nat.one_pos

theorem Task.cost_le_reach (task : Task) : task.cost ≤ task.reach := by
  cases task with
  | loop => simp only [cost, reach]; omega
  | _ => exact Nat.le_refl _

theorem total_pos (todo : List Task) : 0 < total todo := by
  cases todo with
  | nil => exact Nat.one_pos
  | cons task k => exact Nat.add_pos_left task.cost_pos _

theorem total_le_need (todo : List Task) : total todo ≤ need todo := by
  cases todo with
  | nil => exact Nat.le_refl _
  | cons task k =>
    exact (Nat.add_le_add_right task.cost_le_reach _).trans (le_max_left _ _)

section
variable {task : Task} {k : List Task} {l : ℕ}

theorem total_tail : total k + 1 ≤ total (task :: k) := by
  have := task.cost_pos
  simp only [total]
  omega

theorem need_tail : need k ≤ need (task :: k) := le_max_right _ _

/-- A task that comes down to others leaves less work and no more needs. -/
theorem need_all {ts : List Task} (h : task.reduce = .all ts) :
    total (ts ++ k) + 1 ≤ total (task :: k) ∧ need (ts ++ k) ≤ need (task :: k) := by
  cases Task.reduces_of_eq h with
  | empty | noCopies | noMore => exact ⟨total_tail, need_tail⟩
  | @copies n e =>
    have : (n + 1) * (e.steps + 1) = n * (e.steps + 1) + e.steps + 1 := by ring
    simp only [List.cons_append, List.nil_append, total, need, Task.cost, Task.reach, this]
    omega
  | group | seq =>
    simp only [List.cons_append, List.nil_append, total, need, Task.cost, Task.reach, Expr.steps]
    omega
  | @counted min max greedy e =>
    have : (Nat.max min max + 1) * (e.steps + 1) =
        min * (e.steps + 1) + (max - min) * (e.steps + 1) + e.steps + 1 := by
      rw [nat_max_eq]
      ring
    simp only [List.cons_append, List.nil_append, total, need, Task.cost, Task.reach,
      Expr.steps, Option.getD_some, this]
    omega
  | endless =>
    simp only [List.cons_append, List.nil_append, total, need, Task.cost, Task.reach,
      Expr.steps, Option.getD_none, nat_max_eq]
    omega
  | @atLeast min greedy e =>
    have : (Nat.max (min + 1) 0 + 1) * (e.steps + 1) =
        min * (e.steps + 1) + e.steps + e.steps + 2 := by
      rw [nat_max_eq, Nat.zero_sub]
      ring
    simp only [List.cons_append, List.nil_append, total, need, Task.cost, Task.reach,
      Expr.steps, Option.getD_none, this]
    omega

theorem need_offers {ts : List Task} (h : Offers task l ts) :
    need (ts ++ k) ≤ need (task :: k) := by
  cases h with
  | @upTo n greedy e =>
    have : (n + 1) * (e.steps + 1) = n * (e.steps + 1) + e.steps + 1 := by ring
    simp only [List.cons_append, List.nil_append, total, need, Task.cost, Task.reach, this]
    omega
  | loop =>
    simp only [List.cons_append, List.nil_append, total, need, Task.cost, Task.reach]
    omega
  | any =>
    simp only [List.cons_append, List.nil_append, total, need, Task.cost, Task.reach,
      Expr.steps, Option.getD_none, nat_max_eq]
    omega

theorem need_choose {first second : List Task} (h : task.reduce = .choose l first second) :
    need (first ++ k) ≤ need (task :: k) ∧ need (second ++ k) ≤ need (task :: k) := by
  cases Task.reduces_of_eq h with
  | goOn ho => exact ⟨need_offers ho, need_tail⟩
  | stop ho => exact ⟨need_tail, need_offers ho⟩
  | alt =>
    simp only [List.cons_append, List.nil_append, need, Task.cost, Task.reach, Expr.steps]
    omega

end

end PathRouting.Regex
