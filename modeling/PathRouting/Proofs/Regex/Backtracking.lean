/-
  What a search looks for.

  * `Accepts avoid todo p`: some tasks can be done from a place on, with no choice
    among those to be avoided.
  * `Best avoid todo p saves f`: `f` is what is found if the first alternative of
    each choice is taken that leads to the end.
  * `Closed before after`: no choice made after `before` leads to the end without
    another one that was made up to `after`. Such choices may as well be avoided:
    `Accepts.of_closed` and `Best.of_closed`.
-/
import PathRouting.Proofs.Regex.Labels
import Mathlib.Data.Set.Insert

namespace PathRouting.Regex

/-! ## Places -/

/-- A place in a text. -/
structure Place.In (t : Text) (p : Place) : Prop where
  le : p.pos ≤ t.length
  rest : p.rest = t.drop p.pos
  before : p.before = (t.take p.pos).getLast?

namespace Place.In

variable {t : Text} {p q : Place}

/-- Places at one position are the same. -/
theorem eq (hp : p.In t) (hq : q.In t) (h : p.pos = q.pos) : p = q := by
  obtain ⟨pos, before, rest⟩ := p
  obtain ⟨pos', before', rest'⟩ := q
  obtain rfl : pos = pos' := h
  rw [Place.mk.injEq]
  exact ⟨rfl, hp.before.trans hq.before.symm, hp.rest.trans hq.rest.symm⟩

theorem start (t : Text) : Place.In t ⟨0, none, t⟩ :=
  ⟨Nat.zero_le _, rfl, rfl⟩

theorem next {c : Char} {rest : Text} (hp : p.In t) (h : p.rest = c :: rest) :
    Place.In t ⟨p.pos + 1, some c, rest⟩ := by
  have hd : t.drop p.pos = c :: rest := hp.rest ▸ h
  have hlt : p.pos < t.length := by
    by_contra hn
    rw [List.drop_of_length_le (by omega)] at hd
    cases hd
  have hc : t[p.pos] = c := by
    have := List.drop_eq_getElem_cons hlt
    rw [hd] at this
    exact (List.cons.inj this).1.symm
  refine ⟨hlt, ?_, ?_⟩
  · rw [← List.drop_drop, hd]
    rfl
  · rw [List.take_succ_eq_append_getElem hlt, List.getLast?_append, hc]
    rfl

theorem skip {u : Text} (hp : p.In t) (h : p.skip u = some q) : q.In t ∧ p.pos ≤ q.pos := by
  induction u generalizing p with
  | nil => cases h; exact ⟨hp, Nat.le_refl _⟩
  | cons c u ih =>
    rw [Place.skip] at h
    split at h
    case h_2 => cases h
    case h_1 hr =>
      split_ifs at h with hc
      obtain ⟨h1, h2⟩ := ih (hp.next hr) h
      exact ⟨h1, by simp only at h2; omega⟩

theorem one {s : CharSet} (hp : p.In t) (h : p.one s = some q) : q.In t ∧ p.pos ≤ q.pos := by
  unfold Place.one at h
  split at h
  case h_2 => cases h
  case h_1 hr =>
    split_ifs at h
    cases h
    exact ⟨hp.next hr, Nat.le_succ _⟩

theorem test {l : Look} (hp : p.In t) (h : p.test l = some q) : q.In t ∧ p.pos ≤ q.pos := by
  unfold Place.test at h
  split_ifs at h
  cases h
  exact ⟨hp, Nat.le_refl _⟩

/-- A step in the text leads from place to place. -/
theorem step {task : Task} {move : Place → Option Place} (hr : task.reduce = .step move)
    (hp : p.In t) (h : move p = some q) : q.In t ∧ p.pos ≤ q.pos := by
  obtain ⟨u, label, rfl, rfl⟩ | ⟨s, label, rfl, rfl⟩ | ⟨l, label, rfl, rfl⟩ := eq_of_step hr
  · exact hp.skip h
  · exact hp.one h
  · exact hp.test h

end Place.In

/-! ## Runs without some choices -/

/-- Some tasks can be done from a place on, with no choice among those to be
    avoided. -/
inductive Accepts : Set (ℕ × ℕ) → List Task → Place → Prop
  | nil {avoid p} : Accepts avoid [] p
  | all {avoid p task k ts} : task.reduce = .all ts → Accepts avoid (ts ++ k) p →
      Accepts avoid (task :: k) p
  | note {avoid p task k slot} : task.reduce = .note slot → Accepts avoid k p →
      Accepts avoid (task :: k) p
  | step {avoid p task k move q} : task.reduce = .step move → move p = some q →
      Accepts avoid k q → Accepts avoid (task :: k) p
  | first {avoid p task k label first second} : task.reduce = .choose label first second →
      (label, p.pos) ∉ avoid → Accepts avoid (first ++ k) p → Accepts avoid (task :: k) p
  | second {avoid p task k label first second} : task.reduce = .choose label first second →
      (label, p.pos) ∉ avoid → Accepts avoid (second ++ k) p → Accepts avoid (task :: k) p

/-- What is found if the first alternative of each choice is taken that leads to the
    end, with no choice made twice and none among those to be avoided. -/
inductive Best : Set (ℕ × ℕ) → List Task → Place → Saves → Found → Prop
  | nil {avoid p saves} : Best avoid [] p saves ⟨saves, p.pos⟩
  | all {avoid p saves f task k ts} : task.reduce = .all ts → Best avoid (ts ++ k) p saves f →
      Best avoid (task :: k) p saves f
  | note {avoid p saves f task k slot} : task.reduce = .note slot →
      Best avoid k p ((slot, p.pos) :: saves) f → Best avoid (task :: k) p saves f
  | step {avoid p saves f task k move q} : task.reduce = .step move → move p = some q →
      Best avoid k q saves f → Best avoid (task :: k) p saves f
  | first {avoid p saves f task k label first second} :
      task.reduce = .choose label first second → (label, p.pos) ∉ avoid →
      Best (insert (label, p.pos) avoid) (first ++ k) p saves f →
      Best avoid (task :: k) p saves f
  | second {avoid p saves f task k label first second} :
      task.reduce = .choose label first second → (label, p.pos) ∉ avoid →
      ¬Accepts (insert (label, p.pos) avoid) (first ++ k) p →
      Best (insert (label, p.pos) avoid) (second ++ k) p saves f →
      Best avoid (task :: k) p saves f

variable {a b c : Set (ℕ × ℕ)} {todo : List Task} {p : Place}

section
variable {task : Task} {k : List Task}

theorem Accepts.of_all {ts : List Task} (h : Accepts a (task :: k) p)
    (hr : task.reduce = .all ts) : Accepts a (ts ++ k) p := by
  cases h with
  | all hr' h => rw [hr] at hr'; cases hr'; exact h
  | note hr' | step hr' | first hr' | second hr' => rw [hr] at hr'; cases hr'

theorem Accepts.of_note {slot : ℕ} (h : Accepts a (task :: k) p)
    (hr : task.reduce = .note slot) : Accepts a k p := by
  cases h with
  | note hr' h => exact h
  | all hr' | step hr' | first hr' | second hr' => rw [hr] at hr'; cases hr'

theorem Accepts.of_step {move : Place → Option Place} (h : Accepts a (task :: k) p)
    (hr : task.reduce = .step move) : ∃ q, move p = some q ∧ Accepts a k q := by
  cases h with
  | step hr' hm h => rw [hr] at hr'; cases hr'; exact ⟨_, hm, h⟩
  | all hr' | note hr' | first hr' | second hr' => rw [hr] at hr'; cases hr'

theorem Accepts.of_choose {label : ℕ} {first second : List Task} (h : Accepts a (task :: k) p)
    (hr : task.reduce = .choose label first second) :
    (label, p.pos) ∉ a ∧ (Accepts a (first ++ k) p ∨ Accepts a (second ++ k) p) := by
  cases h with
  | first hr' hn h => rw [hr] at hr'; cases hr'; exact ⟨hn, .inl h⟩
  | second hr' hn h => rw [hr] at hr'; cases hr'; exact ⟨hn, .inr h⟩
  | all hr' | note hr' | step hr' => rw [hr] at hr'; cases hr'

end

theorem Accepts.mono (h : Accepts b todo p) (hab : a ⊆ b) : Accepts a todo p := by
  induction h with
  | nil => exact .nil
  | all hr _ ih => exact .all hr ih
  | note hr _ ih => exact .note hr ih
  | step hr hm _ ih => exact .step hr hm ih
  | first hr hn _ ih => exact .first hr (fun h => hn (hab h)) ih
  | second hr hn _ ih => exact .second hr (fun h => hn (hab h)) ih

theorem Best.accepts {saves : Saves} {f : Found} (h : Best a todo p saves f) : Accepts a todo p := by
  induction h with
  | nil => exact .nil
  | all hr _ ih => exact .all hr ih
  | note hr _ ih => exact .note hr ih
  | step hr hm _ ih => exact .step hr hm ih
  | first hr hn _ ih => exact .first hr hn (ih.mono (Set.subset_insert _ _))
  | second hr hn _ _ ih => exact .second hr hn (ih.mono (Set.subset_insert _ _))

/-! ## Choices that may be avoided -/

variable {choices : List (ℕ × List Task)} {t : Text}

/-- Every choice in `after` that is not in `before` leads nowhere without another
    one in `after`. The choices are those with given labels, at places of a given
    text. -/
def Closed (choices : List (ℕ × List Task)) (t : Text) (before after : Set (ℕ × ℕ)) : Prop :=
  ∀ task k p label first second, (label, task :: k) ∈ choices → p.In t →
    task.reduce = .choose label first second → (label, p.pos) ∈ after → (label, p.pos) ∉ before →
    ¬Accepts after (first ++ k) p ∧ ¬Accepts after (second ++ k) p

namespace Closed

theorem refl : Closed choices t a a :=
  fun _ _ _ _ _ _ _ _ _ h hn => absurd h hn

theorem trans (hab : Closed choices t a b) (hbc : Closed choices t b c) (hsub : b ⊆ c) :
    Closed choices t a c := by
  intro task k p label first second hm hp hr hc ha
  by_cases hb : (label, p.pos) ∈ b
  · obtain ⟨h1, h2⟩ := hab task k p label first second hm hp hr hb ha
    exact ⟨fun h => h1 (h.mono hsub), fun h => h2 (h.mono hsub)⟩
  · exact hbc task k p label first second hm hp hr hc hb

theorem insert (hab : Closed choices t a b) (x : ℕ × ℕ) :
    Closed choices t (Insert.insert x a) (Insert.insert x b) := by
  intro task k p label first second hm hp hr hb ha
  rw [Set.mem_insert_iff, not_or] at ha
  have hb' := (Set.mem_insert_iff.1 hb).resolve_left ha.1
  obtain ⟨h1, h2⟩ := hab task k p label first second hm hp hr hb' ha.2
  have hsub := Set.subset_insert x b
  exact ⟨fun h => h1 (h.mono hsub), fun h => h2 (h.mono hsub)⟩

end Closed

/-- **Dead ends.** What can be done at all can be done without the choices that lead
    nowhere. -/
theorem Accepts.of_closed (h : Accepts a todo p) (hc : Closed choices t a b)
    (htodo : choicesOf todo ⊆ choices) (hp : p.In t) : Accepts b todo p := by
  induction h with
  | nil => exact .nil
  | all hr _ ih => exact .all hr (ih (List.Subset.trans (choicesOf_all hr) htodo) hp)
  | note hr _ ih => exact .note hr (ih (List.Subset.trans choicesOf_tail htodo) hp)
  | step hr hm _ ih =>
    exact .step hr hm (ih (List.Subset.trans choicesOf_tail htodo) (hp.step hr hm).1)
  | @first p task k label first second hr hn _ ih =>
    obtain ⟨h1, h2, h3⟩ := choicesOf_choose (k := k) hr
    have := ih (List.Subset.trans h2 htodo) hp
    by_cases hb : (label, p.pos) ∈ b
    · exact absurd this (hc task k p label first second (htodo h1) hp hr hb hn).1
    · exact .first hr hb this
  | @second p task k label first second hr hn _ ih =>
    obtain ⟨h1, h2, h3⟩ := choicesOf_choose (k := k) hr
    have := ih (List.Subset.trans h3 htodo) hp
    by_cases hb : (label, p.pos) ∈ b
    · exact absurd this (hc task k p label first second (htodo h1) hp hr hb hn).2
    · exact .second hr hb this

/-- What is found without the choices that lead nowhere is what is found at all. -/
theorem Best.of_closed {saves : Saves} {f : Found} (h : Best b todo p saves f)
    (hc : Closed choices t a b) (hab : a ⊆ b) (htodo : choicesOf todo ⊆ choices) (hp : p.In t) :
    Best a todo p saves f := by
  induction h generalizing a with
  | nil => exact .nil
  | all hr _ ih => exact .all hr (ih hc hab (List.Subset.trans (choicesOf_all hr) htodo) hp)
  | note hr _ ih => exact .note hr (ih hc hab (List.Subset.trans choicesOf_tail htodo) hp)
  | step hr hm _ ih =>
    exact .step hr hm (ih hc hab (List.Subset.trans choicesOf_tail htodo) (hp.step hr hm).1)
  | @first b p saves f task k label first second hr hn _ ih =>
    obtain ⟨h1, h2, h3⟩ := choicesOf_choose (k := k) hr
    refine .first hr (fun h => hn (hab h)) ?_
    exact ih (hc.insert _) (Set.insert_subset_insert hab) (List.Subset.trans h2 htodo) hp
  | @second b p saves f task k label first second hr hn hf _ ih =>
    obtain ⟨h1, h2, h3⟩ := choicesOf_choose (k := k) hr
    refine .second hr (fun h => hn (hab h)) (fun h => hf ?_) ?_
    · exact h.of_closed (hc.insert _) (List.Subset.trans h2 htodo) hp
    · exact ih (hc.insert _) (Set.insert_subset_insert hab) (List.Subset.trans h3 htodo) hp

end PathRouting.Regex
