/-
  The members of sets of characters.

  * `contains_table`: joining ranges changes no members.
  * `has_union`, `has_single` and the others tell the members of what the
    operations build.
  * `has_of_member`: a set with one member has no others.
-/
import PathRouting.Proofs.Unicode.Folding
import PathRouting.Regex.CharSet
import Mathlib.Data.List.Basic

namespace PathRouting.Regex.CharSet

open Unicode

/-- Whether a code point is in a range. -/
def InRange (n : ℕ) (r : ℕ × ℕ) : Prop :=
  r.1 ≤ n ∧ n ≤ r.2

theorem contains_iff {t : RangeTable} {n : ℕ} : t.contains n ↔ ∃ r ∈ t, InRange n r := by
  simp [RangeTable.contains, InRange, List.any_eq_true]

theorem contains_cons {r : ℕ × ℕ} {t : RangeTable} {n : ℕ} :
    RangeTable.contains (r :: t) n ↔ InRange n r ∨ RangeTable.contains t n := by
  simp [contains_iff]

/-! ## Ranges in order -/

theorem mem_insertRange {r r' : ℕ × ℕ} {t : RangeTable} :
    r' ∈ insertRange r t ↔ r' = r ∨ r' ∈ t := by
  induction t with
  | nil => simp [insertRange]
  | cons r'' t ih =>
    rw [insertRange]
    split_ifs
    · exact List.mem_cons
    · rw [List.mem_cons, ih, List.mem_cons]
      tauto

theorem mem_inOrder {r : ℕ × ℕ} {t : RangeTable} : r ∈ inOrder t ↔ r ∈ t := by
  induction t with
  | nil => exact Iff.rfl
  | cons r' t ih => rw [inOrder, mem_insertRange, ih, List.mem_cons]

/-- Ranges that start in rising order. -/
def Rising (t : RangeTable) : Prop :=
  t.Pairwise fun r r' => r.1 ≤ r'.1

theorem rising_insertRange {r : ℕ × ℕ} {t : RangeTable} (h : Rising t) :
    Rising (insertRange r t) := by
  induction t with
  | nil => exact List.pairwise_singleton _ _
  | cons r' t ih =>
    obtain ⟨h1, h2⟩ := List.pairwise_cons.1 h
    rw [insertRange]
    split_ifs with hr
    · refine List.pairwise_cons.2 ⟨fun r'' hm => ?_, h⟩
      rcases List.mem_cons.1 hm with rfl | hm
      · exact hr
      · exact Nat.le_trans hr (h1 r'' hm)
    · refine List.pairwise_cons.2 ⟨fun r'' hm => ?_, ih h2⟩
      rcases mem_insertRange.1 hm with rfl | hm
      · omega
      · exact h1 r'' hm

theorem rising_inOrder (t : RangeTable) : Rising (inOrder t) := by
  induction t with
  | nil => exact .nil
  | cons r t ih => exact rising_insertRange ih

/-! ## Joined ranges -/

theorem contains_joinFrom {first last n : ℕ} {t : RangeTable} (ht : Rising t)
    (hf : ∀ r ∈ t, first ≤ r.1) :
    (joinFrom first last t).contains n ↔ InRange n (first, last) ∨ RangeTable.contains t n := by
  induction t generalizing first last with
  | nil => simp [joinFrom, contains_iff]
  | cons r t ih =>
    obtain ⟨lo, hi⟩ := r
    obtain ⟨h1, h2⟩ := List.pairwise_cons.1 ht
    have hlo := hf (lo, hi) (by simp)
    rw [joinFrom, contains_cons]
    split_ifs with hj
    · rw [ih h2 fun r hr => Nat.le_trans hlo (h1 r hr), ← or_assoc]
      refine or_congr_left ?_
      have hmax : Nat.max last hi = max last hi := rfl
      simp only [InRange, hmax]
      simp only at hlo
      omega
    · rw [contains_cons, ih h2 h1]

/-- Joining the ranges of a table changes no members. -/
theorem contains_table {t : RangeTable} {n : ℕ} :
    (table t).contains n ↔ ∃ r ∈ t, InRange n r := by
  have hmem : (inOrder (t.filter fun r => r.1 ≤ r.2)).contains n ↔ ∃ r ∈ t, InRange n r := by
    rw [contains_iff]
    constructor
    · rintro ⟨r, hr, hn⟩
      exact ⟨r, (List.mem_filter.1 (mem_inOrder.1 hr)).1, hn⟩
    · rintro ⟨r, hr, hn⟩
      refine ⟨r, mem_inOrder.2 (List.mem_filter.2 ⟨hr, ?_⟩), hn⟩
      exact decide_eq_true (Nat.le_trans hn.1 hn.2)
  rw [← hmem]
  have hrise := rising_inOrder (t.filter fun r => r.1 ≤ r.2)
  unfold table
  generalize inOrder (t.filter fun r => r.1 ≤ r.2) = u at hrise
  match u with
  | [] => exact Iff.rfl
  | (lo, hi) :: rest =>
    obtain ⟨h1, h2⟩ := List.pairwise_cons.1 hrise
    exact (contains_joinFrom h2 h1).trans contains_cons.symm

/-! ## Members -/

variable {a b s : CharSet} {c d : Char}

theorem has_union : (a.union b).has c ↔ a.has c ∨ b.has c := by
  unfold has union
  rw [contains_table]
  simp only [CharSet.contains, contains_iff, List.mem_append]
  constructor
  · rintro ⟨r, hr | hr, h⟩
    · exact .inl ⟨r, hr, h⟩
    · exact .inr ⟨r, hr, h⟩
  · rintro (⟨r, hr, h⟩ | ⟨r, hr, h⟩)
    · exact ⟨r, .inl hr, h⟩
    · exact ⟨r, .inr hr, h⟩

theorem has_single {n : ℕ} : (single n).has c ↔ c.toNat = n := by
  simp only [has, single, CharSet.contains, contains_iff, List.mem_singleton, exists_eq_left, InRange]
  omega

theorem has_ofList {ns : List ℕ} : (ofList ns).has c ↔ c.toNat ∈ ns := by
  unfold has ofList
  rw [contains_table]
  simp only [List.mem_map, InRange]
  constructor
  · rintro ⟨_, ⟨n, hn, rfl⟩, h⟩
    rwa [Nat.le_antisymm h.2 h.1]
  · intro h
    exact ⟨_, ⟨_, h, rfl⟩, Nat.le_refl _, Nat.le_refl _⟩

/-- A set with one member has no others. -/
theorem has_of_member (h : s.member? = some c) : s.has d ↔ d = c := by
  unfold member? at h
  split at h
  case h_2 => cases h
  case h_1 lo hi hs =>
    split_ifs at h with hv
    cases h
    obtain ⟨rfl, hv⟩ := hv
    have hlo : (Char.ofNat lo).toNat = lo := by
      rw [Char.ofNat, dif_pos hv]
      rfl
    unfold has CharSet.contains
    rw [hs, contains_iff]
    simp only [List.mem_singleton, exists_eq_left, InRange]
    constructor
    · rintro ⟨h1, h2⟩
      rw [← Char.toNat_inj, hlo]
      omega
    · rintro rfl
      omega

theorem has_ofLiteral {fold : Bool} :
    (ofLiteral fold true c).has d ↔
      if fold then Unicode.fold d.toNat = Unicode.fold c.toNat else d = c := by
  cases fold with
  | false => exact has_single.trans Char.toNat_inj
  | true => exact has_ofList.trans mem_caseOrbit

/-! ## Sets of characters without case -/

/-- A set stays the same under folding if none of its members has another case. -/
theorem folded_eq (h : ∀ n, s.contains n → caseOrbit n = [n] ∧ ∀ r ∈ foldRules, ¬r.covers n) :
    s.folded = table s.ranges := by
  have horbits : caseOrbits.filter (fun orbit => orbit.any s.contains) = [] := by
    rw [List.filter_eq_nil_iff]
    intro orbit ho hany
    obtain ⟨m, rfl, r, hr, hm⟩ := mem_caseOrbits ho
    obtain ⟨n, hn, hs⟩ := List.any_eq_true.1 hany
    obtain ⟨h1, h2⟩ := h n hs
    have hmn : m ∈ caseOrbit n := mem_caseOrbit.2 (mem_caseOrbit.1 hn).symm
    rw [h1, List.mem_singleton] at hmn
    exact h2 r hr (hmn ▸ hm)
  unfold folded
  rw [horbits]
  exact congrArg table (List.append_nil _)

/-- The slash, the question mark and the number sign. -/
def delimiters : CharSet := ⟨[(0x23, 0x23), (0x2F, 0x2F), (0x3F, 0x3F)]⟩

/-- The question mark and the number sign. -/
def pathDelimiters : CharSet := ⟨[(0x23, 0x23), (0x3F, 0x3F)]⟩

theorem delimiters_caseless : ∀ n ∈ [0x23, 0x2F, 0x3F],
    caseOrbit n = [n] ∧ ∀ r ∈ foldRules, ¬r.covers n := by
  decide +kernel

theorem folded_delimiters : delimiters.folded = delimiters := by
  refine (folded_eq fun n hn => delimiters_caseless n ?_).trans rfl
  simp only [CharSet.contains, delimiters, contains_iff, InRange, List.mem_cons, List.not_mem_nil,
    or_false, exists_eq_or_imp, exists_eq_left] at hn ⊢
  omega

theorem folded_pathDelimiters : pathDelimiters.folded = pathDelimiters := by
  refine (folded_eq fun n hn => delimiters_caseless n ?_).trans rfl
  simp only [CharSet.contains, pathDelimiters, contains_iff, InRange, List.mem_cons,
    List.not_mem_nil, or_false, exists_eq_or_imp, exists_eq_left] at hn ⊢
  omega

theorem toNat_le (c : Char) : c.toNat ≤ 0x10FFFF := by
  have h : c.toNat < 0xD800 ∨ 0xDFFF < c.toNat ∧ c.toNat < 0x110000 := c.valid
  omega

theorem has_compl_delimiters : delimiters.compl.has c ↔ c ∉ "/?#".toList := by
  have hc := toNat_le c
  have heq : delimiters.compl = ⟨[(0, 0x22), (0x24, 0x2E), (0x30, 0x3E), (0x40, 0x10FFFF)]⟩ := rfl
  have hmem : c ∈ "/?#".toList ↔ c.toNat = 0x2F ∨ c.toNat = 0x3F ∨ c.toNat = 0x23 := by
    simp [← Char.toNat_inj]
  rw [has, heq, hmem]
  simp only [CharSet.contains, contains_iff, InRange, List.mem_cons, List.not_mem_nil,
    or_false, exists_eq_or_imp, exists_eq_left]
  omega

theorem has_compl_pathDelimiters : pathDelimiters.compl.has c ↔ c ∉ "?#".toList := by
  have hc := toNat_le c
  have heq : pathDelimiters.compl = ⟨[(0, 0x22), (0x24, 0x3E), (0x40, 0x10FFFF)]⟩ := rfl
  have hmem : c ∈ "?#".toList ↔ c.toNat = 0x3F ∨ c.toNat = 0x23 := by
    simp [← Char.toNat_inj]
  rw [has, heq, hmem]
  simp only [CharSet.contains, contains_iff, InRange, List.mem_cons, List.not_mem_nil,
    or_false, exists_eq_or_imp, exists_eq_left]
  omega

end PathRouting.Regex.CharSet
