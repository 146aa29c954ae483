/-
  Simple case folding as an equivalence.

  * `rules_apart` and `targets_apart`: no two rules cover a common code point, and
    none covers what a rule leads to. Both are checked on the bounds of the rules,
    not on their code points.
  * `mem_caseOrbit`: the members of an orbit are the code points with the same
    folded form.
-/
import PathRouting.Unicode.CaseFolding
import Mathlib.Data.List.Chain
import Mathlib.Data.List.Pairwise

namespace PathRouting.Unicode

/-- A rule leads to no code point that another one covers: they lie apart, or both
    go in steps of two, past each other. -/
def FoldRule.misses (r r' : FoldRule) : Bool :=
  (r.target + (r.last - r.first)).blt r'.first || r'.last.blt r.target ||
    ((r'.step % 2).beq 0 && ((r.step % 2).beq 0 || r.first.beq r.last) &&
      ((r.target + r'.first) % 2).beq 1)

theorem targets_apart : (foldRules.all fun r => foldRules.all fun r' => r.misses r') = true := by
  decide +kernel

/-- A rule covers only code points in front of those of another one. -/
def FoldRule.Before (r r' : FoldRule) : Prop :=
  r.last < r'.first ∧ r'.first ≤ r'.last

instance (r r' : FoldRule) : Decidable (r.Before r') :=
  inferInstanceAs (Decidable (_ ∧ _))

instance : Trans FoldRule.Before FoldRule.Before FoldRule.Before where
  trans {r r' r''} h h' := by
    unfold FoldRule.Before at *
    omega

theorem rules_apart : foldRules.Pairwise FoldRule.Before := by
  have h : foldRules.IsChain FoldRule.Before := by decide +kernel
  exact h.pairwise

theorem rules_ordered : ∀ r ∈ foldRules, r.first ≤ r.last := by
  decide +kernel

namespace FoldRule

variable {r r' : FoldRule} {m n : ℕ}

theorem covers_iff : r.covers n ↔ r.first ≤ n ∧ n ≤ r.last ∧ (n - r.first) % r.step = 0 := by
  simp [covers, and_assoc]

theorem reaches_iff :
    r.reaches n ↔ r.target ≤ n ∧ n - r.target ≤ r.last - r.first ∧ (n - r.target) % r.step = 0 := by
  simp [reaches, and_assoc]

/-- What a rule leads to is covered by none. -/
theorem not_covers_target (hr : r ∈ foldRules) (hr' : r' ∈ foldRules) (h : r.covers n) :
    ¬r'.covers (r.target + (n - r.first)) := by
  intro h'
  have hm := List.all_eq_true.1 (List.all_eq_true.1 targets_apart r hr) r' hr'
  rw [covers_iff] at h h'
  obtain ⟨h1, h2, h3⟩ := h
  obtain ⟨h4, h5, h6⟩ := h'
  simp only [misses, Bool.or_eq_true, Bool.and_eq_true, Nat.blt_eq, Nat.beq_eq] at hm
  rcases hm with (hm | hm) | ⟨⟨hs', hs⟩, hp⟩
  · omega
  · omega
  -- the distances from the first code points are even
  have heven : ∀ {k s : ℕ}, s % 2 = 0 → k % s = 0 → k % 2 = 0 := by
    intro k s hs hk
    obtain ⟨c, rfl⟩ := Nat.dvd_of_mod_eq_zero hk
    rw [Nat.mul_mod, hs, Nat.zero_mul, Nat.zero_mod]
  have h7 := heven hs' h6
  have h8 : (n - r.first) % 2 = 0 := by
    rcases hs with hs | hs
    · exact heven hs h3
    · rw [show n - r.first = 0 by omega]
  omega

end FoldRule

variable {r : FoldRule} {m n : ℕ}

theorem eq_of_covers {r r' : FoldRule} (hr : r ∈ foldRules) (hr' : r' ∈ foldRules)
    (h : r.covers n) (h' : r'.covers n) : r = r' := by
  by_contra hne
  have hsymm : Std.Symm fun r r' : FoldRule => ¬(r.covers n ∧ r'.covers n) :=
    ⟨fun _ _ h h' => h h'.symm⟩
  have hapart : foldRules.Pairwise fun r r' => ¬(r.covers n ∧ r'.covers n) := by
    refine rules_apart.imp fun {r r'} hb hc => ?_
    have h1 := FoldRule.covers_iff.1 hc.1
    have h2 := FoldRule.covers_iff.1 hc.2
    unfold FoldRule.Before at hb
    omega
  exact hapart.forall hr hr' hne ⟨h, h'⟩

theorem fold_of_covers (hr : r ∈ foldRules) (h : r.covers n) :
    fold n = r.target + (n - r.first) := by
  unfold fold
  cases hf : foldRules.find? (·.covers n) with
  | none => exact absurd h (List.find?_eq_none.1 hf r hr)
  | some r' =>
    have h' := List.find?_some hf
    rw [eq_of_covers hr (List.mem_of_find?_eq_some hf) h h']

theorem fold_of_not_covers (h : ∀ r ∈ foldRules, ¬r.covers n) : fold n = n := by
  unfold fold
  rw [List.find?_eq_none.2 h]

theorem fold_cases (n : ℕ) :
    (∃ r ∈ foldRules, r.covers n ∧ fold n = r.target + (n - r.first)) ∨
      (∀ r ∈ foldRules, ¬r.covers n) ∧ fold n = n := by
  by_cases h : ∃ r ∈ foldRules, r.covers n
  · obtain ⟨r, hr, h⟩ := h
    exact .inl ⟨r, hr, h, fold_of_covers hr h⟩
  · have h : ∀ r ∈ foldRules, ¬r.covers n := fun r hr hc => h ⟨r, hr, hc⟩
    exact .inr ⟨h, fold_of_not_covers h⟩

/-- Folding once is enough. -/
theorem fold_fold (n : ℕ) : fold (fold n) = fold n := by
  obtain ⟨r, hr, h, hf⟩ | ⟨-, hf⟩ := fold_cases n
  · refine fold_of_not_covers fun r' hr' => ?_
    rw [hf]
    exact FoldRule.not_covers_target hr hr' h
  · rw [hf, hf]

/-- **Orbits.** The members of an orbit have the same folded form. -/
theorem mem_caseOrbit : n ∈ caseOrbit m ↔ fold n = fold m := by
  rw [caseOrbit, List.mem_cons, unfold, List.mem_map]
  constructor
  · rintro (rfl | ⟨r, hr, rfl⟩)
    · exact fold_fold m
    · obtain ⟨hr, ht⟩ := List.mem_filter.1 hr
      rw [FoldRule.reaches_iff] at ht
      have hle := rules_ordered r hr
      rw [fold_of_covers hr (FoldRule.covers_iff.2 ⟨by omega, by omega, ?_⟩)]
      · omega
      · rw [Nat.add_sub_cancel_left]
        exact ht.2.2
  · intro h
    obtain ⟨r, hr, hc, hf⟩ | ⟨-, hf⟩ := fold_cases n
    · rw [FoldRule.covers_iff] at hc
      refine .inr ⟨r, List.mem_filter.2 ⟨hr, FoldRule.reaches_iff.2 ⟨by omega, by omega, ?_⟩⟩, ?_⟩
      · rw [← h, hf, Nat.add_sub_cancel_left]
        exact hc.2.2
      · omega
    · exact .inl (hf.symm.trans h)

/-- The orbits of more than one code point are those of code points that a rule
    covers. -/
theorem mem_caseOrbits {orbit : List ℕ} (h : orbit ∈ caseOrbits) :
    ∃ n, orbit = caseOrbit n ∧ ∃ r ∈ foldRules, r.covers n := by
  obtain ⟨r, hr, ho⟩ := List.mem_flatMap.1 h
  obtain ⟨n, hn, rfl⟩ := List.mem_map.1 ho
  obtain ⟨i, hi, rfl⟩ := List.mem_map.1 hn
  have hle := rules_ordered r hr
  have hi : i * r.step ≤ r.last - r.first :=
    (Nat.mul_le_mul_right _ (Nat.lt_succ_iff.1 (List.mem_range.1 hi))).trans (Nat.div_mul_le_self _ _)
  refine ⟨r.first + i * r.step, rfl, r, hr, FoldRule.covers_iff.2 ⟨Nat.le_add_right _ _, ?_, ?_⟩⟩
  · omega
  · rw [Nat.add_sub_cancel_left, Nat.mul_mod_left]

end PathRouting.Unicode
