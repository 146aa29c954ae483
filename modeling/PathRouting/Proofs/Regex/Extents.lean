/-
  The stretches that groups match.

  * `Bracketed`: of each group both ends are noted or none, in order and between two
    positions.
  * `Advances`: what every match does. It goes on in the text, and what it notes is
    bracketed by its own ends.
  * `Captures.span_within`, `Captures.group?_infix`: a group that took part in a match has
    matched a part of what the match as a whole has.
-/
import PathRouting.Proofs.Regex.Matching
import PathRouting.Regex.Basic

namespace PathRouting.Regex

/-! ## Noted positions -/

/-- Of each group both ends are noted or none, in order and between two positions. -/
def Bracketed (lo hi : ℕ) (new : Saves) : Prop :=
  ∀ i, (new.lookup (2 * i) = none ∧ new.lookup (2 * i + 1) = none) ∨
    ∃ s e, new.lookup (2 * i) = some s ∧ new.lookup (2 * i + 1) = some e ∧
      lo ≤ s ∧ s ≤ e ∧ e ≤ hi

namespace Bracketed

variable {lo mid hi : ℕ} {new old : Saves}

theorem nil : Bracketed lo hi [] := fun _ => .inl ⟨rfl, rfl⟩

theorem mono {lo' hi' : ℕ} (h : Bracketed lo hi new) (hlo : lo' ≤ lo) (hhi : hi ≤ hi') :
    Bracketed lo' hi' new :=
  fun i => (h i).imp id fun ⟨s, e, hs, he, h1, h2, h3⟩ =>
    ⟨s, e, hs, he, hlo.trans h1, h2, h3.trans hhi⟩

/-- What is noted last counts, for both ends of a group. -/
theorem append (h : Bracketed lo mid old) (h' : Bracketed mid hi new) (hlo : lo ≤ mid)
    (hhi : mid ≤ hi) : Bracketed lo hi (new ++ old) := by
  intro i
  rw [List.lookup_append, List.lookup_append]
  obtain ⟨hs, he⟩ | ⟨s, e, hs, he, h1, h2, h3⟩ := h' i
  · rw [hs, he, Option.none_or, Option.none_or]
    exact h.mono (Nat.le_refl lo) hhi i
  · rw [hs, he, Option.some_or, Option.some_or]
    exact .inr ⟨s, e, rfl, rfl, hlo.trans h1, h2, h3⟩

/-- A group notes its ends around what is noted inside. -/
theorem group (h : Bracketed lo hi new) (hle : lo ≤ hi) (index : ℕ) :
    Bracketed lo hi ((2 * index + 1, hi) :: (new ++ [(2 * index, lo)])) := by
  intro i
  have hother : (2 * i == 2 * index + 1) = false := beq_false_of_ne (by omega)
  have hother' : (2 * i + 1 == 2 * index) = false := beq_false_of_ne (by omega)
  by_cases hi : i = index
  · subst hi
    simp only [List.lookup_cons, List.lookup_append, hother, beq_self_eq_true]
    obtain ⟨hs, -⟩ | ⟨s, e, hs, -, h1, h2, h3⟩ := h i
    · exact .inr ⟨lo, _, by rw [hs]; rfl, rfl, Nat.le_refl _, hle, Nat.le_refl _⟩
    · exact .inr ⟨s, _, by rw [hs]; rfl, rfl, h1, h2.trans h3, Nat.le_refl _⟩
  · have hs : (2 * i == 2 * index) = false := beq_false_of_ne (by omega)
    have he : (2 * i + 1 == 2 * index + 1) = false := beq_false_of_ne (by omega)
    simp only [List.lookup_cons, List.lookup_append, List.lookup_nil, hother, hother', hs, he,
      Option.or_none]
    exact h i

end Bracketed

/-! ## Matches -/

/-- A way through a text on which what is noted is bracketed by the ends of the way. -/
structure Advances (t : Text) (x y : Point) : Prop where
  place : y.1.In t
  le : x.1.pos ≤ y.1.pos
  noted : ∃ new, y.2 = new ++ x.2 ∧ Bracketed x.1.pos y.1.pos new

namespace Advances

variable {t : Text} {x y z : Point}

theorem refl (hx : x.1.In t) : Advances t x x :=
  ⟨hx, Nat.le_refl _, [], rfl, .nil⟩

theorem trans (h : Advances t x y) (h' : Advances t y z) : Advances t x z := by
  obtain ⟨old, hold, hb⟩ := h.noted
  obtain ⟨new, hnew, hb'⟩ := h'.noted
  refine ⟨h'.place, h.le.trans h'.le, new ++ old, ?_, hb.append hb' h.le h'.le⟩
  rw [hnew, hold, List.append_assoc]

theorem of_moves {move : Place → Option Place} (h : Moves move x y)
    (hm : y.1.In t ∧ x.1.pos ≤ y.1.pos) : Advances t x y :=
  ⟨hm.1, hm.2, [], h.2.symm, .nil⟩

theorem group {index : ℕ} (h : Advances t (x.note (2 * index)) y) :
    Advances t x (y.note (2 * index + 1)) := by
  obtain ⟨new, hnew, hb⟩ := h.noted
  refine ⟨h.place, h.le, _, ?_, hb.group h.le index⟩
  rw [Point.note, hnew]
  simp [Point.note]

theorem copies {r : Point → Point → Prop}
    (hr : ∀ {x y}, x.1.In t → r x y → Advances t x y) {n : ℕ} (hx : x.1.In t)
    (h : Copies r n x y) : Advances t x y := by
  induction n generalizing x with
  | zero =>
    cases h
    exact refl hx
  | succ n ih =>
    obtain ⟨z, hz, h⟩ := h
    have hxz := hr hx hz
    exact hxz.trans (ih hxz.place h)

/-- **Every match advances.** -/
theorem of_matches {e : Expr} (hx : x.1.In t) (h : e.Matches x y) : Advances t x y := by
  induction e generalizing x y with
  | empty =>
    cases h
    exact refl hx
  | literal u => exact of_moves h (hx.skip h.1)
  | chars s => exact of_moves h (hx.one h.1)
  | look l => exact of_moves h (hx.test h.1)
  | group index name e ih =>
    obtain ⟨z, hz, rfl⟩ := h
    exact (ih (x := x.note (2 * index)) hx hz).group
  | repeated min max greedy e ih =>
    obtain ⟨n, -, -, h⟩ := h
    exact copies ih hx h
  | seq a b iha ihb =>
    obtain ⟨z, hz, h⟩ := h
    have hxz := iha hx hz
    exact hxz.trans (ihb hxz.place h)
  | alt a b iha ihb => exact h.elim (iha hx) (ihb hx)

end Advances

/-! ## Captures -/

namespace Captures

variable {r : Regex} {t : Text} {c : Captures}

/-- A match is a way through the text. -/
theorem advances (h : r.captures t = some c) :
    c.text = t ∧ ∃ p q, p.pos = c.start ∧ q.pos = c.stop ∧ Advances t (p, []) (q, c.saves) := by
  obtain ⟨m, hm, rfl⟩ := Option.map_eq_some_iff.1 h
  obtain ⟨p, q, hp, hstart, hmatch, hstop, -⟩ := search_eq_some hm
  exact ⟨rfl, p, q, hstart, hstop.symm, .of_matches hp hmatch⟩

/-- A group that took part has matched a stretch inside of that of the match. -/
theorem span_within (h : r.captures t = some c) :
    c.start ≤ c.stop ∧ c.stop ≤ t.length ∧ ∀ i s, c.span? i = some s →
      c.start ≤ s.1 ∧ s.1 ≤ s.2 ∧ s.2 ≤ c.stop := by
  obtain ⟨-, p, q, hp, hq, hadv⟩ := advances h
  obtain ⟨new, hnew, hb⟩ := hadv.noted
  have hsaves : c.saves = new := hnew.trans (List.append_nil new)
  have hle : c.start ≤ c.stop := hp ▸ hq ▸ hadv.le
  refine ⟨hle, hq ▸ hadv.place.le, fun i s hs => ?_⟩
  unfold span? at hs
  split_ifs at hs
  · cases hs
    exact ⟨Nat.le_refl _, hle, Nat.le_refl _⟩
  · rw [hsaves] at hs
    obtain ⟨h1, -⟩ | ⟨first, last, h1, h2, hlo, hmid, hhi⟩ := hb i
    · rw [h1] at hs
      cases hs
    · rw [h1, h2] at hs
      cases hs
      exact ⟨hp ▸ hlo, hmid, hq ▸ hhi⟩

/-- The text of a group that took part stands in the text up to the end of the match. -/
theorem group?_infix (h : r.captures t = some c) {i : ℕ} {value : Text}
    (hi : c.group? i = some value) : value <:+: t.take c.stop := by
  obtain ⟨s, hs, rfl⟩ := Option.map_eq_some_iff.1 hi
  obtain ⟨-, -, hwithin⟩ := span_within h
  obtain ⟨-, -, hstop⟩ := hwithin i s hs
  rw [(advances h).1, Text.slice]
  have hprefix : t.take s.2 <+: t.take c.stop := List.take_prefix_take_left hstop
  exact (List.drop_suffix s.1 _).isInfix.trans hprefix.isInfix

end Captures

end PathRouting.Regex
