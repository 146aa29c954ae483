/-
  What an expression matches.

  * `Expr.Matches` relates a place, with the positions noted up to there, to those
    at the end of a match.
  * `accepts_iff`: a search can get to the end exactly if there is a match.
  * `search_eq_none_iff`, `search_eq_some`: what a search in a text finds, in terms
    of matches.
-/
import PathRouting.Proofs.Regex.Exploration

namespace PathRouting.Regex

/-- A place, and the positions noted on the way there. -/
abbrev Point := Place × Saves

/-- What a step in the text relates. -/
def Moves (move : Place → Option Place) (x y : Point) : Prop :=
  move x.1 = some y.1 ∧ x.2 = y.2

/-- A point with its position noted under a number. -/
def Point.note (slot : ℕ) (x : Point) : Point :=
  (x.1, (slot, x.1.pos) :: x.2)

/-- So many steps of a relation. -/
def Copies (r : Point → Point → Prop) : ℕ → Point → Point → Prop
  | 0, x, y => x = y
  | n + 1, x, y => ∃ z, r x z ∧ Copies r n z y

/-- The matches of an expression: from which point to which they lead. -/
def Expr.Matches : Expr → Point → Point → Prop
  | .empty, x, y => x = y
  | .literal t, x, y => Moves (·.skip t) x y
  | .chars s, x, y => Moves (·.one s) x y
  | .look l, x, y => Moves (·.test l) x y
  | .group index _ e, x, y =>
    ∃ z, e.Matches (x.note (2 * index)) z ∧ y = z.note (2 * index + 1)
  | .repeated min max _ e, x, y =>
    ∃ n, min ≤ n ∧ (∀ m, max = some m → n ≤ Nat.max min m) ∧ Copies e.Matches n x y
  | .seq a b, x, y => ∃ z, a.Matches x z ∧ b.Matches z y
  | .alt a b, x, y => a.Matches x y ∨ b.Matches x y

/-- What a task relates. -/
def Task.Matches : Task → Point → Point → Prop
  | .expr e _ => e.Matches
  | .copies n e _ => Copies e.Matches n
  | .upTo n _ e _ => fun x y => ∃ m ≤ n, Copies e.Matches m x y
  | .loop _ e _ _ => fun x y => ∃ m, Copies e.Matches m x y
  | .save slot => fun x y => y = x.note slot

/-- What tasks relate that are done one after the other. -/
def AllMatch : List Task → Point → Point → Prop
  | [], x, y => x = y
  | task :: k, x, y => ∃ z, task.Matches x z ∧ AllMatch k z y

theorem allMatch_append {ts k : List Task} {x y : Point} :
    AllMatch (ts ++ k) x y ↔ ∃ z, AllMatch ts x z ∧ AllMatch k z y := by
  induction ts generalizing x with
  | nil => exact ⟨fun h => ⟨x, rfl, h⟩, fun ⟨_, h, h'⟩ => h ▸ h'⟩
  | cons task ts ih =>
    constructor
    · rintro ⟨w, hw, h⟩
      obtain ⟨z, hz, h⟩ := ih.1 h
      exact ⟨z, ⟨w, hw, hz⟩, h⟩
    · rintro ⟨z, ⟨w, hw, hz⟩, h⟩
      exact ⟨w, hw, ih.2 ⟨z, hz, h⟩⟩

theorem copies_add {r : Point → Point → Prop} {m n : ℕ} {x y : Point} :
    Copies r (m + n) x y ↔ ∃ z, Copies r m x z ∧ Copies r n z y := by
  induction m generalizing x with
  | zero =>
    rw [Nat.zero_add]
    exact ⟨fun h => ⟨x, rfl, h⟩, fun ⟨_, h, h'⟩ => h ▸ h'⟩
  | succ m ih =>
    rw [Nat.add_right_comm]
    constructor
    · rintro ⟨w, hw, h⟩
      obtain ⟨z, hz, h⟩ := ih.1 h
      exact ⟨z, ⟨w, hw, hz⟩, h⟩
    · rintro ⟨z, ⟨w, hw, hz⟩, h⟩
      exact ⟨w, hw, ih.2 ⟨z, hz, h⟩⟩

/-! ## Doing a task -/

section
variable {task : Task} {x y : Point}

theorem allMatch_pair {a b : Task} : AllMatch [a, b] x y ↔ ∃ z, a.Matches x z ∧ b.Matches z y := by
  simp [AllMatch]

theorem upTo_matches {n : ℕ} {greedy : Bool} {e : Expr} {label inner outer : ℕ} :
    (Task.upTo (n + 1) greedy e label).Matches x y ↔
      x = y ∨ AllMatch [.expr e inner, .upTo n greedy e outer] x y := by
  rw [allMatch_pair]
  constructor
  · rintro ⟨m, hm, h⟩
    cases m with
    | zero => exact .inl h
    | succ m =>
      obtain ⟨z, hz, h⟩ := h
      exact .inr ⟨z, hz, m, by omega, h⟩
  · rintro (rfl | ⟨z, hz, m, hm, h⟩)
    · exact ⟨0, Nat.zero_le _, rfl⟩
    · exact ⟨m + 1, by omega, z, hz, h⟩

theorem copies_iff {greedy : Bool} {e : Expr} {label inner outer : ℕ} :
    (∃ m, Copies e.Matches m x y) ↔
      x = y ∨ AllMatch [.expr e label, .loop greedy e outer inner] x y := by
  rw [allMatch_pair]
  constructor
  · rintro ⟨m, h⟩
    cases m with
    | zero => exact .inl h
    | succ m =>
      obtain ⟨z, hz, h⟩ := h
      exact .inr ⟨z, hz, m, h⟩
  · rintro (rfl | ⟨z, hz, m, h⟩)
    · exact ⟨0, rfl⟩
    · exact ⟨m + 1, z, hz, h⟩

/-- A counted repetition: the copies that there have to be, then those that there may be. -/
theorem counted_iff {min max : ℕ} {greedy : Bool} {e : Expr} {label label' : ℕ} :
    (Expr.repeated min (some max) greedy e).Matches x y ↔
      AllMatch [.copies min e label, .upTo (max - min) greedy e label'] x y := by
  rw [allMatch_pair]
  constructor
  · rintro ⟨n, hmin, hmax, h⟩
    have hmax := hmax max rfl
    rw [nat_max_eq] at hmax
    rw [← Nat.add_sub_of_le hmin] at h
    obtain ⟨z, hz, h⟩ := copies_add.1 h
    exact ⟨z, hz, n - min, by omega, h⟩
  · rintro ⟨z, hz, m, hm, h⟩
    refine ⟨min + m, Nat.le_add_right _ _, fun m' hm' => ?_, copies_add.2 ⟨z, hz, h⟩⟩
    cases hm'
    rw [nat_max_eq]
    omega

/-- An endless repetition. -/
theorem endless_iff (greedy : Bool) {min : ℕ} {e : Expr} :
    (Expr.repeated min none greedy e).Matches x y ↔ ∃ n, min ≤ n ∧ Copies e.Matches n x y := by
  constructor
  · rintro ⟨n, hmin, -, h⟩
    exact ⟨n, hmin, h⟩
  · rintro ⟨n, hmin, h⟩
    exact ⟨n, hmin, fun _ h => (nomatch h), h⟩

/-- A task that comes down to others matches what they match. -/
theorem matches_all {ts : List Task} (h : task.reduce = .all ts) :
    task.Matches x y ↔ AllMatch ts x y := by
  cases Task.reduces_of_eq h with
  | empty | noCopies => exact Iff.rfl
  | noMore =>
    constructor
    · rintro ⟨m, hm, h⟩
      rwa [Nat.le_zero.1 hm] at h
    · exact fun h => ⟨0, Nat.le_refl _, h⟩
  | copies => rw [allMatch_pair]; exact Iff.rfl
  | group =>
    constructor
    · rintro ⟨z, hz, rfl⟩
      exact ⟨_, rfl, z, hz, _, rfl, rfl⟩
    · rintro ⟨_, rfl, z, hz, _, rfl, rfl⟩
      exact ⟨z, hz, rfl⟩
  | seq => rw [allMatch_pair]; exact Iff.rfl
  | counted => exact counted_iff
  | @endless greedy =>
    refine (endless_iff greedy).trans ⟨?_, ?_⟩
    · rintro ⟨n, -, h⟩
      exact ⟨y, ⟨n, h⟩, rfl⟩
    · rintro ⟨z, ⟨n, h⟩, rfl⟩
      exact ⟨n, Nat.zero_le n, h⟩
  | @atLeast min greedy =>
    refine (endless_iff greedy).trans ⟨?_, ?_⟩
    · rintro ⟨n, hmin, h⟩
      rw [← Nat.add_sub_of_le hmin, Nat.add_assoc] at h
      obtain ⟨w, hw, h⟩ := copies_add.1 h
      rw [Nat.add_comm] at h
      obtain ⟨z, hz, h⟩ := h
      exact ⟨w, hw, z, hz, y, ⟨_, h⟩, rfl⟩
    · rintro ⟨w, hw, z, hz, y', ⟨n, h⟩, rfl⟩
      exact ⟨min + (n + 1), by omega, copies_add.2 ⟨w, hw, z, hz, h⟩⟩

/-- A task that goes on with others or with none matches nothing, or what they match. -/
theorem matches_offers {label : ℕ} {ts : List Task} (h : Offers task label ts) :
    task.Matches x y ↔ x = y ∨ AllMatch ts x y := by
  cases h with
  | upTo => exact upTo_matches
  | loop => exact copies_iff
  | @any greedy =>
    refine Iff.trans ?_ copies_iff
    exact (endless_iff greedy).trans (exists_congr fun n => and_iff_right (Nat.zero_le n))

theorem matches_choose {label : ℕ} {first second : List Task}
    (h : task.reduce = .choose label first second) :
    task.Matches x y ↔ AllMatch first x y ∨ AllMatch second x y := by
  cases Task.reduces_of_eq h with
  | goOn ho => exact (matches_offers ho).trans or_comm
  | stop ho => exact matches_offers ho
  | alt => simp [Task.Matches, Expr.Matches, AllMatch]

theorem matches_note {slot : ℕ} (h : task.reduce = .note slot) :
    task.Matches x y ↔ y = x.note slot := by
  obtain rfl := eq_save h
  exact Iff.rfl

theorem matches_step {move : Place → Option Place} (h : task.reduce = .step move) :
    task.Matches x y ↔ Moves move x y := by
  obtain ⟨u, label, rfl, rfl⟩ | ⟨s, label, rfl, rfl⟩ | ⟨l, label, rfl, rfl⟩ := eq_of_step h
  all_goals exact Iff.rfl

end

/-! ## Searches and matches -/

/-- What is found is the end of a match. -/
theorem Best.allMatch {a : Set (ℕ × ℕ)} {todo : List Task} {p : Place} {saves : Saves} {f : Found}
    (h : Best a todo p saves f) :
    ∃ q, AllMatch todo (p, saves) (q, f.saves) ∧ f.stop = q.pos := by
  induction h with
  | @nil a p saves => exact ⟨p, rfl, rfl⟩
  | all hr _ ih =>
    obtain ⟨q, h, hq⟩ := ih
    obtain ⟨z, hz, h⟩ := allMatch_append.1 h
    exact ⟨q, ⟨z, (matches_all hr).2 hz, h⟩, hq⟩
  | note hr _ ih =>
    obtain ⟨q, h, hq⟩ := ih
    exact ⟨q, ⟨_, (matches_note hr).2 rfl, h⟩, hq⟩
  | @step a p saves f task k move p' hr hm _ ih =>
    obtain ⟨q, h, hq⟩ := ih
    exact ⟨q, ⟨(p', saves), (matches_step hr).2 ⟨hm, rfl⟩, h⟩, hq⟩
  | first hr _ _ ih =>
    obtain ⟨q, h, hq⟩ := ih
    obtain ⟨z, hz, h⟩ := allMatch_append.1 h
    exact ⟨q, ⟨z, (matches_choose hr).2 (.inl hz), h⟩, hq⟩
  | second hr _ _ _ ih =>
    obtain ⟨q, h, hq⟩ := ih
    obtain ⟨z, hz, h⟩ := allMatch_append.1 h
    exact ⟨q, ⟨z, (matches_choose hr).2 (.inr hz), h⟩, hq⟩

/-- Where a search can get to the end, there is a match. -/
theorem Accepts.allMatch {a : Set (ℕ × ℕ)} {todo : List Task} {p : Place}
    (h : Accepts a todo p) (saves : Saves) : ∃ y, AllMatch todo (p, saves) y := by
  induction h generalizing saves with
  | @nil p => exact ⟨_, rfl⟩
  | all hr _ ih =>
    obtain ⟨y, h⟩ := ih saves
    obtain ⟨z, hz, h⟩ := allMatch_append.1 h
    exact ⟨y, z, (matches_all hr).2 hz, h⟩
  | @note p task k slot hr _ ih =>
    obtain ⟨y, h⟩ := ih ((slot, p.pos) :: saves)
    exact ⟨y, _, (matches_note hr).2 rfl, h⟩
  | @step p task k move q hr hm _ ih =>
    obtain ⟨y, h⟩ := ih saves
    exact ⟨y, (q, saves), (matches_step hr).2 ⟨hm, rfl⟩, h⟩
  | first hr _ _ ih =>
    obtain ⟨y, h⟩ := ih saves
    obtain ⟨z, hz, h⟩ := allMatch_append.1 h
    exact ⟨y, z, (matches_choose hr).2 (.inl hz), h⟩
  | second hr _ _ ih =>
    obtain ⟨y, h⟩ := ih saves
    obtain ⟨z, hz, h⟩ := allMatch_append.1 h
    exact ⟨y, z, (matches_choose hr).2 (.inr hz), h⟩

section
variable {e : Expr} {k : List Task} {x y : Point}

theorem Accepts.optional {task : Task} {label : ℕ} {greedy : Bool} {ts : List Task} {p : Place}
    (hr : task.reduce = .optional label greedy ts)
    (h : Accepts ∅ k p ∨ Accepts ∅ (ts ++ k) p) : Accepts ∅ (task :: k) p := by
  have hn : (label, p.pos) ∉ (∅ : Set (ℕ × ℕ)) := Set.notMem_empty _
  cases greedy with
  | true =>
    rcases h with h | h
    · exact .second hr hn h
    · exact .first hr hn h
  | false =>
    rcases h with h | h
    · exact .first hr hn h
    · exact .second hr hn h

section
variable (he : ∀ {label k x y}, e.Matches x y → Accepts ∅ k y.1 → Accepts ∅ (.expr e label :: k) x.1)
include he

theorem accepts_copies {n label : ℕ} (h : Copies e.Matches n x y) (hk : Accepts ∅ k y.1) :
    Accepts ∅ (.copies n e label :: k) x.1 := by
  induction n generalizing label x with
  | zero => cases h; exact .all rfl hk
  | succ n ih =>
    obtain ⟨z, hz, h⟩ := h
    exact .all rfl (he hz (ih h))

theorem accepts_upTo {m n label : ℕ} {greedy : Bool} (hm : m ≤ n) (h : Copies e.Matches m x y)
    (hk : Accepts ∅ k y.1) : Accepts ∅ (.upTo n greedy e label :: k) x.1 := by
  induction n generalizing m label x with
  | zero =>
    rw [Nat.le_zero.1 hm] at h
    cases h
    exact .all rfl hk
  | succ n ih =>
    cases m with
    | zero => cases h; exact .optional rfl (.inl hk)
    | succ m =>
      obtain ⟨z, hz, h⟩ := h
      exact .optional rfl (.inr (he hz (ih (by omega) h)))

theorem accepts_loop {m label inner : ℕ} {greedy : Bool} (h : Copies e.Matches m x y)
    (hk : Accepts ∅ k y.1) : Accepts ∅ (.loop greedy e label inner :: k) x.1 := by
  induction m generalizing x with
  | zero => cases h; exact .optional rfl (.inl hk)
  | succ m ih =>
    obtain ⟨z, hz, h⟩ := h
    exact .optional rfl (.inr (he hz (ih h)))

end

/-- A search can follow a match. -/
theorem accepts_of_matches {label : ℕ} (h : e.Matches x y) (hk : Accepts ∅ k y.1) :
    Accepts ∅ (.expr e label :: k) x.1 := by
  induction e generalizing label k x y with
  | empty => cases h; exact .all rfl hk
  | literal t => exact .step rfl h.1 hk
  | chars s => exact .step rfl h.1 hk
  | look l => exact .step rfl h.1 hk
  | group index name e ih =>
    obtain ⟨z, hz, rfl⟩ := h
    exact .all rfl (.note rfl (ih (x := x.note (2 * index)) hz (.note rfl hk)))
  | seq a b iha ihb =>
    obtain ⟨z, hz, h⟩ := h
    exact .all rfl (iha hz (ihb h hk))
  | alt a b iha ihb =>
    rcases h with h | h
    · exact .first rfl (Set.notMem_empty _) (iha h hk)
    · exact .second rfl (Set.notMem_empty _) (ihb h hk)
  | repeated min max greedy e ih =>
    cases max with
    | some max =>
      have hr : (Task.expr (.repeated min (some max) greedy e) label).reduce =
        .all [.copies min e label, .upTo (max - min) greedy e (label + min * e.labels)] := rfl
      obtain ⟨z, hz, _, ⟨m, hm, h'⟩, rfl⟩ := (matches_all hr).1 h
      exact .all hr (accepts_copies ih hz (accepts_upTo ih hm h' hk))
    | none =>
      obtain ⟨n, hmin, -, h⟩ := h
      cases min with
      | zero =>
        by_cases hc : e.consumes
        · exact .all (by simp only [Task.reduce, hc]; rfl) (accepts_loop ih h hk)
        · refine .optional (by simp only [Task.reduce, hc]; rfl) ?_
          cases n with
          | zero => cases h; exact .inl hk
          | succ n =>
            obtain ⟨z, hz, h⟩ := h
            exact .inr (ih hz (accepts_loop ih h hk))
      | succ min =>
        rw [← Nat.add_sub_of_le hmin, Nat.add_assoc] at h
        obtain ⟨w, hw, h⟩ := copies_add.1 h
        rw [Nat.add_comm] at h
        obtain ⟨z, hz, h⟩ := h
        exact .all rfl (accepts_copies ih hw (ih hz (accepts_loop ih h hk)))

theorem accepts_iff {p : Place} (saves : Saves) :
    Accepts ∅ [.expr e 0] p ↔ ∃ y, e.Matches (p, saves) y := by
  constructor
  · intro h
    obtain ⟨y, z, hz, rfl⟩ := h.allMatch saves
    exact ⟨z, hz⟩
  · rintro ⟨y, h⟩
    exact accepts_of_matches h .nil

/-- **No match.** A search fails exactly if there is no match anywhere. -/
theorem search_eq_none_iff {t : Text} :
    e.search t = none ↔ ∀ p, p.In t → ∀ saves y, ¬e.Matches (p, saves) y := by
  obtain ⟨hn, hnone⟩ | ⟨q, f, hsome, hq, hf, -⟩ := search_cases e t
  · rw [hn]
    exact ⟨fun _ p hp saves y h => hnone p hp ((accepts_iff saves).2 ⟨y, h⟩), fun _ => rfl⟩
  · rw [hsome]
    constructor
    · intro h
      cases h
    · intro h
      obtain ⟨y, hy⟩ := (accepts_iff []).1 hf.accepts
      exact absurd hy (h q hq [] y)

/-- **The first match.** What a search finds is a match, and none starts before it. -/
theorem search_eq_some {t : Text} {m : Match} (h : e.search t = some m) :
    ∃ p q, p.In t ∧ p.pos = m.start ∧ e.Matches (p, []) (q, m.found.saves) ∧
      m.found.stop = q.pos ∧
      ∀ p', p'.In t → p'.pos < p.pos → ∀ saves y, ¬e.Matches (p', saves) y := by
  obtain ⟨hn, -⟩ | ⟨p, f, hsome, hp, hf, hfirst⟩ := search_cases e t
  · rw [hn] at h
    cases h
  · rw [hsome] at h
    cases h
    obtain ⟨q, ⟨z, hz, he⟩, hstop⟩ := hf.allMatch
    cases he
    exact ⟨p, q, hp, rfl, hz, hstop, fun p' hp' hlt saves y h =>
      hfirst p' hp' hlt ((accepts_iff saves).2 ⟨y, h⟩)⟩

end

end PathRouting.Regex
