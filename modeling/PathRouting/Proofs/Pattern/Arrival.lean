/-
  The matches of a tree's expression are its ways.

  * `boundBy`: the values that noted positions give to names.
  * `Arrives`: a match gets to where a way ends, and notes what the way binds.
  * `Lowers.arrives`: the matches of what is written, in their order, arrive where the
    ways do.
-/
import PathRouting.Proofs.Pattern.Lowering
import PathRouting.Proofs.Regex.Ends
import PathRouting.Regex.Basic
import Mathlib.Data.List.Forall2

namespace PathRouting.Pattern

open Regex

/-! ## Noted positions -/

/-- All positions are noted under numbers from one on and below another. -/
def Within (saves : Saves) (first last : ℕ) : Prop :=
  ∀ s ∈ saves, first ≤ s.1 ∧ s.1 < last

/-- The values that noted positions give to names, the groups of which have the numbers
    from one on. -/
def boundBy (t : Text) (saves : Saves) (xs : List Text) (first : ℕ) : List (Text × Text) :=
  (xs.zipIdx first).filterMap fun x =>
    ((Captures.mk t 0 0 saves).group? x.2).map fun value => (x.1, value)

section
variable {t : Text} {saves saves' : Saves} {xs ys : List Text} {first last n : ℕ}

theorem Within.lookup (h : Within saves first last) (hn : n < first ∨ last ≤ n) :
    saves.lookup n = none := by
  rw [List.lookup_eq_none_iff]
  intro s hs
  have := h s hs
  rw [bne_iff_ne]
  omega

theorem Within.mono {first' last' : ℕ} (h : Within saves first last) (hf : first' ≤ first)
    (hl : last ≤ last') : Within saves first' last' := by
  intro s hs
  have := h s hs
  omega

theorem Within.append (h : Within saves first last) (h' : Within saves' first last) :
    Within (saves ++ saves') first last := by
  intro s hs
  rcases List.mem_append.1 hs with hs | hs
  · exact h s hs
  · exact h' s hs

theorem group?_eq {start stop : ℕ} (hn : n ≠ 0) (hs : saves.lookup (2 * n) = saves'.lookup (2 * n))
    (hs' : saves.lookup (2 * n + 1) = saves'.lookup (2 * n + 1)) :
    (Captures.mk t start stop saves).group? n = (Captures.mk t 0 0 saves').group? n := by
  simp only [Captures.group?, Captures.span?, if_neg hn, hs, hs']

theorem boundBy_congr (hf : first ≠ 0) (h : ∀ n, 2 * first ≤ n → n < 2 * (first + xs.length) →
    saves.lookup n = saves'.lookup n) : boundBy t saves xs first = boundBy t saves' xs first := by
  refine List.filterMap_congr fun x hx => ?_
  have h1 := List.le_snd_of_mem_zipIdx hx
  have h2 := List.snd_lt_add_of_mem_zipIdx hx
  have hgroup : (Captures.mk t 0 0 saves).group? x.2 = (Captures.mk t 0 0 saves').group? x.2 :=
    group?_eq (by omega) (h _ (by omega) (by omega)) (h _ (by omega) (by omega))
  rw [hgroup]

theorem boundBy_append : boundBy t saves (xs ++ ys) first =
    boundBy t saves xs first ++ boundBy t saves ys (first + xs.length) := by
  rw [boundBy, List.zipIdx_append, List.filterMap_append]
  rfl

theorem boundBy_eq_nil (hf : first ≠ 0) (h : ∀ n, 2 * first ≤ n →
    n < 2 * (first + xs.length) → saves.lookup n = none) : boundBy t saves xs first = [] := by
  have hcongr : boundBy t saves xs first = boundBy t [] xs first := boundBy_congr hf h
  rw [hcongr, boundBy, List.filterMap_eq_nil_iff]
  intro x hx
  have h1 := List.le_snd_of_mem_zipIdx hx
  rw [Captures.group?, Captures.span?, if_neg (by omega)]
  rfl

/-- The first group is noted in front of and behind all others. -/
theorem boundBy_cons {name : Text} {start stop : ℕ} (hf : first ≠ 0)
    (h : Within saves (2 * (first + 1)) last) :
    boundBy t ((2 * first + 1, stop) :: saves ++ [(2 * first, start)]) (name :: xs) first =
      (name, t.slice start stop) :: boundBy t saves xs (first + 1) := by
  have hgroup : (Captures.mk t 0 0 ((2 * first + 1, stop) :: saves ++
      [(2 * first, start)])).group? first = some (t.slice start stop) := by
    have h1 : ((2 * first + 1, stop) :: saves ++ [(2 * first, start)]).lookup (2 * first) =
        some start := by
      rw [List.cons_append, List.lookup_cons, beq_false_of_ne (by omega), List.lookup_append,
        h.lookup (.inl (by omega)), List.lookup_cons, beq_self_eq_true]
      rfl
    have h2 : ((2 * first + 1, stop) :: saves ++ [(2 * first, start)]).lookup (2 * first + 1) =
        some stop := by
      rw [List.cons_append, List.lookup_cons, beq_self_eq_true]
    rw [Captures.group?, Captures.span?, if_neg hf]
    dsimp only
    rw [h1, h2]
    rfl
  rw [boundBy, List.zipIdx_cons, List.filterMap_cons, hgroup]
  dsimp only [Option.map_some]
  refine congrArg (_ :: ·) (boundBy_congr (Nat.succ_ne_zero first) fun n hn _ => ?_)
  rw [List.cons_append, List.lookup_cons, beq_false_of_ne (by omega), List.lookup_append,
    List.lookup_cons, beq_false_of_ne (by omega)]
  exact Option.or_none

end

/-! ## Arriving where a way ends -/

/-- A match leads from a point to where a way ends, and notes what the way binds to
    names, the groups of which are numbered from the one behind `groups` on. -/
structure Arrives (t : Text) (groups : ℕ) (xs : List Text) (x y : Point) (w : Way) : Prop where
  front : x.1.rest = w.taken ++ w.rest
  rest : y.1.rest = w.rest
  pos : y.1.pos = x.1.pos + w.taken.length
  notes : ∃ saves, y.2 = saves ++ x.2 ∧
    Within saves (2 * (groups + 1)) (2 * (groups + 1 + xs.length)) ∧
    boundBy t saves xs (groups + 1) = w.bound

namespace Arrives

variable {t : Text} {g : ℕ} {xs ys : List Text} {x y z : Point} {v w : Way}

theorem drop (h : Arrives t g xs x y w) (hx : x.1.rest = t.drop x.1.pos) :
    y.1.rest = t.drop y.1.pos := by
  rw [h.pos, ← List.drop_drop, ← hx, h.front, List.drop_left, h.rest]

theorem stay (x : Point) : Arrives t g [] x x ⟨[], x.1.rest, []⟩ :=
  ⟨rfl, rfl, rfl, [], rfl, fun _ h => (nomatch h), rfl⟩

theorem andThen (ha : Arrives t g xs x y v) (hb : Arrives t (g + xs.length) ys y z w) :
    Arrives t g (xs ++ ys) x z ⟨v.taken ++ w.taken, w.rest, v.bound ++ w.bound⟩ := by
  obtain ⟨as, hya, hwa, hba⟩ := ha.notes
  obtain ⟨bs, hyb, hwb, hbb⟩ := hb.notes
  refine ⟨?_, hb.rest, ?_, bs ++ as, ?_, ?_, ?_⟩
  · rw [ha.front, List.append_assoc, ← hb.front, ha.rest]
  · rw [hb.pos, ha.pos, List.length_append, Nat.add_assoc]
  · rw [hyb, hya, List.append_assoc]
  · rw [List.length_append]
    exact (hwb.mono (by omega) (by omega)).append (hwa.mono (by omega) (by omega))
  · rw [boundBy_append, ← hba, ← hbb, Nat.add_right_comm]
    refine congrArg₂ _ (boundBy_congr (Nat.succ_ne_zero g) fun n _ hn => ?_)
      (boundBy_congr (Nat.succ_ne_zero _) fun n hn _ => ?_)
    · rw [List.lookup_append, hwb.lookup (.inl (by omega)), Option.none_or]
    · rw [List.lookup_append, hwa.lookup (.inr (by omega)), Option.or_none]

/-- A group around a match notes where it starts and where it stops. -/
theorem bind (hx : x.1.rest = t.drop x.1.pos) (name : Text)
    (h : Arrives t (g + 1) xs (x.note (2 * (g + 1))) y w) :
    Arrives t g (name :: xs) x (y.note (2 * (g + 1) + 1))
      { w with bound := (name, w.taken) :: w.bound } := by
  obtain ⟨saves, hy, hw, hb⟩ := h.notes
  have hslice : t.slice x.1.pos y.1.pos = w.taken := by
    have hd : t.drop x.1.pos = w.taken ++ w.rest := hx.symm.trans h.front
    have hp : y.1.pos = x.1.pos + w.taken.length := h.pos
    rw [Text.slice, List.drop_take, hd, hp, Nat.add_sub_cancel_left, List.take_left]
  refine ⟨h.front, h.rest, h.pos, (2 * (g + 1) + 1, y.1.pos) :: saves ++ [(2 * (g + 1), x.1.pos)],
    ?_, ?_, ?_⟩
  · show (2 * (g + 1) + 1, y.1.pos) :: y.2 = _
    rw [hy]
    simp [Point.note]
  · intro s hs
    rw [List.length_cons]
    rcases List.mem_append.1 hs with hs | hs
    · rcases List.mem_cons.1 hs with rfl | hs
      · dsimp only
        omega
      · have := hw s hs
        omega
    · rw [List.mem_singleton.1 hs]
      dsimp only
      omega
  · rw [boundBy_cons (Nat.succ_ne_zero g) hw, hslice, hb]

/-- Names of groups behind are not bound. -/
theorem left (h : Arrives t g xs x y w) (ys : List Text) : Arrives t g (xs ++ ys) x y w := by
  obtain ⟨saves, hy, hw, hb⟩ := h.notes
  refine ⟨h.front, h.rest, h.pos, saves, hy, hw.mono (Nat.le_refl _) ?_, ?_⟩
  · rw [List.length_append]
    omega
  · rw [boundBy_append, hb, boundBy_eq_nil (by omega), List.append_nil]
    exact fun n hn _ => hw.lookup (.inr (by omega))

/-- Names of groups in front are not bound. -/
theorem right (h : Arrives t (g + xs.length) ys x y w) : Arrives t g (xs ++ ys) x y w := by
  obtain ⟨saves, hy, hw, hb⟩ := h.notes
  refine ⟨h.front, h.rest, h.pos, saves, hy, hw.mono (by omega) ?_, ?_⟩
  · rw [List.length_append]
    omega
  · rw [boundBy_append, Nat.add_right_comm, hb, boundBy_eq_nil (by omega), List.nil_append]
    exact fun n _ hn => hw.lookup (.inl (by omega))

end Arrives

/-! ## The ways of what is written -/

theorem has_ofLiteral_eq {cs : Bool} {c d : Char} :
    (CharSet.ofLiteral (!cs) true c).has d = Ways.sameChar cs c d := by
  rw [Bool.eq_iff_iff, CharSet.has_ofLiteral]
  cases cs with
  | true => exact eq_comm.trans decide_eq_true_iff.symm
  | false => exact eq_comm.trans decide_eq_true_iff.symm

section
variable {t : Text} {g : ℕ} {x : Point}

/-- One character of a set. -/
theorem arrives_one {s : CharSet} {p : Char → Bool} (hs : ∀ c, s.has c = p c) :
    List.Forall₂ (Arrives t g [] x) ((Expr.chars s).ends x) (Ways.one p x.1.rest) := by
  obtain ⟨⟨pos, before, rest⟩, saves⟩ := x
  cases rest with
  | nil => exact .nil
  | cons c rest =>
    rw [Expr.ends, Place.one_cons, Ways.one, hs]
    cases p c with
    | false => exact .nil
    | true =>
      refine .cons ⟨rfl, rfl, rfl, [], rfl, List.forall_mem_nil _, rfl⟩ .nil

/-- A run of characters that are not among some. -/
theorem arrives_run {s : CharSet} {stops : Text} (hs : ∀ c, s.compl.has c ↔ c ∉ stops) :
    List.Forall₂ (Arrives t g [] x) ((runExpr s).ends x) (Ways.run stops x.1.rest) := by
  suffices h : ∀ rest, x.1.rest = rest → List.Forall₂ (Arrives t g [] x)
      (longestFirst (Expr.chars s.compl).ends rest.length x) (Ways.run stops rest) from
    h _ rfl
  intro rest
  induction rest generalizing x with
  | nil =>
    intro hx
    have hstay := Arrives.stay (t := t) (g := g) x
    rw [hx] at hstay
    exact .cons hstay .nil
  | cons c rest ih =>
    intro hx
    have hstay := Arrives.stay (t := t) (g := g) x
    rw [hx] at hstay
    have hp : ∀ d, s.compl.has d = !stops.contains d := by
      intro d
      rw [Bool.eq_iff_iff, hs, Bool.not_eq_true', ← Bool.not_eq_true, List.contains_iff_mem]
    have hone := arrives_one (t := t) (g := g) (x := x) hp
    rw [hx, Ways.one] at hone
    refine List.rel_append ?_ (.cons hstay .nil)
    cases hc : stops.contains c with
    | true =>
      rw [hc] at hone
      rw [List.forall₂_nil_right_iff.1 hone]
      exact .nil
    | false =>
      rw [hc] at hone
      obtain ⟨y, l, hy, hl, he⟩ := List.forall₂_cons_right_iff.1 hone
      rw [he, List.forall₂_nil_right_iff.1 hl]
      simp only [List.flatMap_cons, List.flatMap_nil, List.append_nil, if_neg Bool.false_ne_true]
      rw [List.forall₂_map_right_iff]
      exact (ih hy.rest).imp fun _ _ h => hy.andThen h

end

namespace Lowers

variable {cs : Bool} {p : Expr → Bool} {all : Bool} {s : Source} {xs : List Text}
  {es : ℕ → List Expr} {q : ℕ → Bool} {w : ℕ → Expr} {f : Ways}

/-- **Ways.** From any point in a text, the matches of what is written arrive, in their
    order, where the ways end. -/
theorem arrives (h : Lowers cs p all s xs es q w f) {t : Text} {x : Point}
    (hx : x.1.rest = t.drop x.1.pos) (g : ℕ) :
    List.Forall₂ (Arrives t g xs x) ((w g).ends x) (f x.1.rest) := by
  induction h generalizing x g with
  | nil => exact .cons (Arrives.stay x) .nil
  | char c =>
    rw [charExpr, ends_ofSet]
    exact arrives_one fun d => has_ofLiteral_eq
  | run _ _ hs => exact arrives_run hs
  | append _ _ iha ihb =>
    refine List.rel_flatMap (iha hx g) fun y v hv => ?_
    rw [List.forall₂_map_right_iff, ← hv.rest]
    exact (ihb (hv.drop hx) _).imp fun _ _ hw => hv.andThen hw
  | capture name _ ih =>
    refine List.forall₂_map_left_iff.2 (List.forall₂_map_right_iff.2 ?_)
    exact (ih (x := x.note (2 * (g + 1))) hx (g + 1)).imp fun _ _ h => h.bind hx name
  | single _ ih | group _ ih => exact ih hx g
  | @cons _ _ xs ys _ _ _ _ _ _ _ _ _ _ iha ihb =>
    exact List.rel_append ((iha hx g).imp fun _ _ h => h.left ys)
      ((ihb hx _).imp fun _ _ h => h.right)

end Lowers

end PathRouting.Pattern
