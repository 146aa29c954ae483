/-
  The numbers of capturing groups.

  * `Level.groupSet`: the groups that stand in a level; `Reader.Numbered`: they have the
    numbers that were given out.
  * `Reader.Reads`: how the reader gets from one place of the text to another.
  * `Reader.Reads.groups_le`: the reader opens no group that is not counted.
  * `Reader.Reads.opens_of_counted`: where it opens as many as are counted, it
    opens one at each counted parenthesis, with the number that counting gives.
-/
import PathRouting.Proofs.Regex.Alignment
import PathRouting.Proofs.Regex.Interpretation

namespace PathRouting.Regex

open Pattern

namespace Expr

theorem groupSet_ofSet (s : CharSet) : (ofSet s).groupSet = ∅ :=
  grouping.of_ofSet s

/-- A repetition keeps the groups, or takes them all away. -/
theorem groupSet_iterate_subset (e : Expr) (min : ℕ) (max : Option ℕ) (greedy : Bool) :
    (e.iterate min max greedy).groupSet ⊆ e.groupSet := by
  unfold iterate
  split
  split_ifs
  · exact Finset.empty_subset _
  · exact subset_rfl
  · exact subset_rfl

end Expr

namespace Level

/-- The numbers of the groups that stand in a level. -/
def groupSet (l : Level) : Finset ℕ :=
  l.close.1.groupSet

variable {l l' : Level} {i : ℕ}

theorem mem_groupSet : i ∈ l.groupSet ↔
    (∃ x ∈ l.items, i ∈ x.expr.groupSet) ∨ ∃ b ∈ l.branches, i ∈ b.1.groupSet := by
  have hsequence : i ∈ l.sequence.1.groupSet ↔ ∃ x ∈ l.items, i ∈ x.expr.groupSet := by
    rw [sequence, mem_groupSet_sequence]
    simp only [List.mem_map, List.mem_reverse, exists_exists_and_eq_and]
  unfold groupSet close
  split
  case h_1 hnil =>
    rw [hnil, hsequence]
    simp only [List.not_mem_nil, false_and, exists_false, or_false]
  case h_2 =>
    rw [mem_groupSet_choice]
    simp only [List.mem_map, List.mem_reverse, exists_exists_and_eq_and]
    rw [List.exists_mem_cons_iff, hsequence]

@[simp] theorem groupSet_empty : empty.groupSet = ∅ := rfl

@[simp] theorem groupSet_push (e : Expr) (depth : ℕ) :
    (l.push e depth).groupSet = l.groupSet ∪ e.groupSet := by
  ext i
  simp only [Finset.mem_union, mem_groupSet, push, List.exists_mem_cons_iff]
  exact or_assoc.trans or_comm

@[simp] theorem groupSet_split : l.split.groupSet = l.groupSet := by
  ext i
  simp only [mem_groupSet, split, sequence, List.exists_mem_cons_iff, mem_groupSet_sequence,
    List.mem_map, List.mem_reverse, exists_exists_and_eq_and, List.not_mem_nil, false_and,
    exists_false, false_or]

/-- Items and branches behind those of a level. -/
theorem groupSet_append :
    groupSet ⟨l'.items ++ l.items, l'.branches ++ l.branches⟩ = l.groupSet ∪ l'.groupSet := by
  ext i
  simp only [Finset.mem_union, mem_groupSet, List.mem_append, or_and_right, exists_or]
  exact or_or_or_comm.trans or_comm

end Level

namespace Reader

/-- All groups met so far have numbers from one up to that of the last one opened. -/
structure Numbered (r : Reader) : Prop where
  level : r.level.groupSet ⊆ Finset.Icc 1 r.groups
  enclosing : ∀ g ∈ r.enclosing, g.outer.groupSet ⊆ Finset.Icc 1 r.groups ∧
    ∀ index name, g.capture = some (index, name) → index ∈ Finset.Icc 1 r.groups

section
variable {r r' s : Reader} {t u v rest : Text}

theorem initial_numbered (flags : Flags) : (Reader.initial flags).Numbered :=
  ⟨Finset.empty_subset _, fun _ h => (nomatch h)⟩

theorem Numbered.push (h : r.Numbered) {e : Expr} (he : e.groupSet ⊆ Finset.Icc 1 r.groups)
    (depth : ℕ) : (r.push e depth).Numbered :=
  ⟨(Level.groupSet_push e depth).trans_subset (Finset.union_subset h.level he), h.enclosing⟩

theorem Numbered.closeGroup (h : r.Numbered) (hc : r.closeGroup = .ok r') : r'.Numbered := by
  obtain ⟨g, gs, hg, rfl⟩ := closeGroup_eq_ok.1 hc
  have hg' := h.enclosing g (by rw [hg]; simp)
  refine ⟨(Level.groupSet_push _ _).trans_subset (Finset.union_subset hg'.1 ?_),
    fun g' hm => h.enclosing g' (by rw [hg]; simp [hm])⟩
  unfold OpenGroup.wrap
  cases hcap : g.capture with
  | none => exact h.level
  | some c =>
    obtain ⟨index, name⟩ := c
    exact Finset.insert_subset (hg'.2 index name hcap) h.level

theorem Numbered.iterate (h : r.Numbered) {min : ℕ} {max : Option ℕ} {greedy : Bool}
    (hi : r.iterate min max greedy = .ok r') : r'.Numbered := by
  obtain ⟨e, depth, items, he, rfl⟩ := iterate_eq_ok.1 hi
  refine ⟨fun i hi => h.level ?_, h.enclosing⟩
  simp only [Level.mem_groupSet, he, List.exists_mem_cons_iff] at hi ⊢
  exact hi.imp_left (Or.imp_left fun hi => Expr.groupSet_iterate_subset e min max _ hi)

/-- A parenthesis that is not counted stands right in front of a question mark,
    which no blanks hide. -/
theorem skip_of_not_opensGroup (f : Flags) (h : ¬ opensGroup t) :
    skip f t = t ∧ ∃ u, t = '?' :: u := by
  match t with
  | [] => exact absurd rfl h
  | c :: u =>
    by_cases hc : c = '?'
    · subst hc
      refine ⟨?_, u, rfl⟩
      unfold skip
      split_ifs
      · rw [skipBlank, if_neg (by decide), if_neg (by decide)]
      · rfl
    · exact absurd (opensGroup_of_ne hc u) h

theorem openNamed_eq (h : r.openNamed t = .ok (r', rest)) :
    ∃ name, name ∉ r.names ∧ r' = r.openCapture (some name) := by
  unfold openNamed at h
  split at h
  case h_2 => cases h
  dsimp only at h
  split at h
  · cases h
  split at h
  case isTrue => cases h
  case isFalse hnew =>
    cases h
    exact ⟨_, by simpa using hnew, rfl⟩

/-- What an opening parenthesis does: it opens a capturing group, but only where
    one is counted and under a new name, or a plain group, or it sets flags. -/
theorem openGroup_cases (h : r.openGroup t = .ok (r', rest)) :
    (∃ name, r' = r.openCapture name ∧ opensGroup t ∧ ∀ n ∈ name, n ∉ r.names) ∨
    (∃ flags, r' = r.openPlain flags) ∨ ∃ flags, r' = { r with
      flags, level := { r.level with items := ⟨.empty, 0, true⟩ :: r.level.items } } := by
  -- where no group is counted, the question mark stands right there
  have hcounted : opensGroup (skip r.flags t) → opensGroup t := by
    intro hs
    by_contra ho
    rw [(skip_of_not_opensGroup _ ho).1] at hs
    exact ho hs
  cases openGroup_eq_ok.1 h with
  | marked hm h =>
    obtain ⟨name, hnew, rfl⟩ := openNamed_eq h
    refine .inl ⟨_, rfl, hcounted ?_, by simpa using hnew⟩
    rw [hm, opensGroup]
  | named hm he hn h =>
    obtain ⟨name, hnew, rfl⟩ := openNamed_eq h
    refine .inl ⟨_, rfl, hcounted ?_, by simpa using hnew⟩
    rw [hm, opensGroup]
    · exact fun u h => he (List.cons.inj h).1
    · exact fun u h => hn (List.cons.inj h).1
  | flags hm h =>
    obtain ⟨⟨flags, directive, u⟩, -, he⟩ := map_eq_ok.1 h
    dsimp only at he
    split_ifs at he
    · cases he; exact .inr (.inr ⟨_, rfl⟩)
    · cases he; exact .inr (.inl ⟨_, rfl⟩)
  | capture hq =>
    refine .inl ⟨none, rfl, ?_, nofun⟩
    by_contra ho
    obtain ⟨hs, u, rfl⟩ := skip_of_not_opensGroup r.flags ho
    exact hq (by rw [hs]; rfl)

/-! ## Runs of the reader -/

/-- The reader gets from one place of the text to another, construct by
    construct. -/
inductive Reads : Reader → Text → Reader → Text → Prop
  | refl {r : Reader} {t : Text} : Reads r t r t
  | step {r t c rest r' u s v} : skip r.flags t = c :: rest → r.step c rest = .ok (r', u) →
      Reads r' u s v → Reads r t s v

/-- What each construct preserves holds all along. -/
theorem Reads.invariant {P : Reader → Prop} (h : Reads r t s u)
    (hstep : ∀ {r r' : Reader} {c : Char} {t rest : Text}, P r → r.step c t = .ok (r', rest) → P r')
    (hr : P r) : P s := by
  induction h with
  | refl => exact hr
  | step _ hs _ ih => exact ih (hstep hr hs)

/-- A run that ends is a way to the end of the text. -/
theorem reads_of_run {fuel : ℕ} (h : r.run fuel t = .ok s) :
    ∃ u, Reads r t s u ∧ skip s.flags u = [] := by
  induction fuel generalizing r t with
  | zero =>
    unfold run at h
    split at h
    case h_1 hs => cases h; exact ⟨t, .refl, hs⟩
    case h_2 => cases h
  | succ fuel ih =>
    unfold run at h
    split at h
    case h_1 hs => cases h; exact ⟨t, .refl, hs⟩
    case h_2 hs =>
      obtain ⟨⟨r', u⟩, hr, h⟩ := bind_eq_ok.1 h
      obtain ⟨v, hv, he⟩ := ih h
      exact ⟨v, .step hs hr hv, he⟩

/-! ## Counting along a run -/

theorem behind_of_step_paren (h : r.step '(' t = .ok (r', rest)) : Behind t rest := by
  obtain ⟨-, h⟩ | ⟨hc, -⟩ | ⟨hc, -⟩ | ⟨hc, -⟩ := step_cases h
  · exact openGroup_behind h
  · cases hc
  · cases hc
  · exact absurd rfl hc

/-- A construct opens one group if it is a counted parenthesis, and none
    otherwise. -/
theorem step_groups {c : Char} (h : r.step c t = .ok (r', rest)) :
    (c = '(' ∧ opensGroup t ∧ Behind t rest ∧ ∃ name, r' = r.openCapture name) ∨
      r'.groups = r.groups := by
  obtain ⟨rfl, h⟩ | ⟨rfl, hc, rfl⟩ | ⟨rfl, rfl, rfl⟩ | ⟨-, -, h⟩ := step_cases h
  · obtain ⟨name, rfl, ho, -⟩ | ⟨flags, rfl⟩ | ⟨flags, rfl⟩ := openGroup_cases h
    · exact .inl ⟨rfl, ho, openGroup_behind h, name, rfl⟩
    · exact .inr rfl
    · exact .inr rfl
  · exact .inr (closeGroup_groups hc)
  · exact .inr rfl
  · obtain ⟨e, depth, -, rfl⟩ | ⟨min, max, greedy, h⟩ := h
    · exact .inr rfl
    · exact .inr (by rw [iterate_eq_level h])

/-- Where another group is opened, there are numbers for one more. -/
theorem Numbered.openCapture (h : r.Numbered) (name : Option Text) :
    (r.openCapture name).Numbered := by
  have hmono : Finset.Icc 1 r.groups ⊆ Finset.Icc 1 (r.groups + 1) :=
    Finset.Icc_subset_Icc_right (Nat.le_succ _)
  refine ⟨Finset.empty_subset _, List.forall_mem_cons.2 ⟨⟨h.level.trans hmono, ?_⟩, fun g hg => ?_⟩⟩
  · rintro index name' ⟨⟩
    exact Finset.mem_Icc.2 ⟨Nat.le_add_left 1 _, le_rfl⟩
  · obtain ⟨houter, hindex⟩ := h.enclosing g hg
    exact ⟨houter.trans hmono, fun index name' he => hmono (hindex index name' he)⟩

theorem Numbered.step {c : Char} (hr : r.Numbered) (h : r.step c t = .ok (r', rest)) :
    r'.Numbered := by
  obtain ⟨rfl, h⟩ | ⟨rfl, hc, rfl⟩ | ⟨rfl, rfl, rfl⟩ | ⟨-, -, h⟩ := step_cases h
  · obtain ⟨name, rfl, -⟩ | ⟨flags, rfl⟩ | ⟨flags, rfl⟩ := openGroup_cases h
    · exact hr.openCapture name
    · exact ⟨Finset.empty_subset _, List.forall_mem_cons.2 ⟨⟨hr.level, nofun⟩, hr.enclosing⟩⟩
    · refine ⟨fun i hi => hr.level ?_, hr.enclosing⟩
      simpa [Level.mem_groupSet, Expr.groupSet] using hi
  · exact hr.closeGroup hc
  · exact ⟨Level.groupSet_split.trans_subset hr.level, hr.enclosing⟩
  · obtain ⟨e, depth, ⟨s, rfl⟩ | ⟨l, rfl⟩, rfl⟩ | ⟨min, max, greedy, h⟩ := h
    · exact hr.push ((Expr.groupSet_ofSet s).trans_subset (Finset.empty_subset _)) _
    · exact hr.push (Finset.empty_subset _) _
    · exact hr.iterate h

theorem Reads.numbered (h : Reads r t s u) (hr : r.Numbered) : s.Numbered :=
  h.invariant .step hr

/-- The groups opened by a construct are counted in what it reads. -/
theorem step_groups_le {c : Char} (h : r.step c t = .ok (r', rest)) :
    r'.groups + groupCount rest ≤ r.groups + groupCount (c :: t) := by
  obtain ⟨rfl, ho, hb, name, rfl⟩ | hg := step_groups h
  · have hle := groupCount_le hb
    rw [groupCount_cons (by decide)]
    simp only [decide_true, ho, Bool.and_self, if_true, openCapture]
    omega
  · rw [hg]
    exact Nat.add_le_add_left (groupCount_le (step_behind h)) _

/-- **No uncounted groups.** Along a run, the groups met and those that are still
    counted never become more. -/
theorem Reads.groups_le (h : Reads r t s u) :
    s.groups + groupCount u ≤ r.groups + groupCount t := by
  induction h with
  | refl => exact Nat.le_refl _
  | @step r t c rest r' u s v hs hr _ ih =>
    have h1 := step_groups_le hr
    have h2 := groupCount_le (skip_behind r.flags t)
    rw [hs] at h2
    omega

/-- A construct that reads past a counted parenthesis behind its own first
    character opens fewer groups than are counted in what it reads. -/
theorem step_groups_lt {c : Char} (h : r.step c t = .ok (r', rest))
    (hv : Behind (c :: t) ('(' :: v)) (ho : opensGroup v) (hlt : v.length < t.length)
    (hr : rest.length ≤ v.length) :
    r'.groups + groupCount rest < r.groups + groupCount (c :: t) := by
  obtain ⟨rfl, hc, hb, name, rfl⟩ | hg := step_groups h
  · have hv' : Behind t ('(' :: v) := hv.drop_cons (by decide) (by rintro he; cases he; omega)
    have := groupCount_lt hv' ho hb hr
    rw [groupCount_cons (by decide)]
    simp only [decide_true, hc, Bool.and_self, if_true, openCapture]
    omega
  · rw [hg]
    exact Nat.add_lt_add_left (groupCount_lt hv ho (step_behind h) hr) _

/-- **Numbers by counting.** A run to the end of the text that meets as many
    groups as are counted, opens a group at each counted parenthesis; from its
    number on there are as many groups as are counted behind it. -/
theorem Reads.opens_of_counted (h : Reads r t s u) (hu : skip s.flags u = [])
    (hn : s.groups = r.groups + groupCount t) (hv : Behind t ('(' :: v)) (ho : opensGroup v) :
    ∃ r₁ t₁ r₂ t₂ name, Reads r t r₁ t₁ ∧ skip r₁.flags t₁ = '(' :: v ∧
      r₁.step '(' v = .ok (r₂, t₂) ∧ r₂ = r₁.openCapture name ∧ Reads r₂ t₂ s u ∧
      r₂.groups + groupCount v = s.groups := by
  induction h with
  | @refl r t =>
    have := groupCount_le hv
    rw [groupCount_cons (by decide)] at this
    simp only [decide_true, ho, Bool.and_self, if_true] at this
    omega
  | @step r t c rest r' u s w hs hr hw ih =>
    have hle := hw.groups_le
    have hstep := step_groups_le hr
    have hskip := skip_behind r.flags t
    rw [hs] at hskip
    have hcount := groupCount_le hskip
    -- the parenthesis is not skipped
    by_cases hl : (c :: rest).length ≤ v.length
    · have := groupCount_lt hv ho hskip hl
      omega
    have hv' : Behind (c :: rest) ('(' :: v) := hv.of_length_le hskip
      (by simp only [List.length_cons] at hl ⊢; omega)
    -- the construct starts with it, reads past it, or ends in front of it
    by_cases heq : v.length = rest.length
    · obtain ⟨rfl, rfl⟩ : '(' = c ∧ v = rest := by
        have := hv'.suffix.eq_of_length (by simp only [List.length_cons]; omega)
        exact List.cons.inj this
      obtain ⟨-, -, hb, name, rfl⟩ | hg := step_groups hr
      · refine ⟨r, t, _, u, name, .refl, hs, hr, rfl, hw, ?_⟩
        have hlb := groupCount_le hb
        rw [groupCount_cons (by decide)] at hcount hstep
        simp only [decide_true, ho, Bool.and_self, if_true] at hcount hstep
        simp only [openCapture] at hle hstep ⊢
        omega
      · have hb := groupCount_le (behind_of_step_paren hr)
        rw [groupCount_cons (by decide)] at hcount
        simp only [decide_true, ho, Bool.and_self, if_true] at hcount
        omega
    · by_cases hpast : u.length ≤ v.length
      · have := step_groups_lt hr hv' ho (by simp only [List.length_cons] at hl; omega) hpast
        omega
      · have hvu : Behind u ('(' :: v) := hv'.of_length_le (step_behind hr)
          (by simp only [List.length_cons]; omega)
        obtain ⟨r₁, t₁, r₂, t₂, name, h1, h2, h3, h4, h5, h6⟩ := ih hu (by omega) hvu
        exact ⟨r₁, t₁, r₂, t₂, name, .step hs hr h1, h2, h3, h4, h5, h6⟩

end

end Reader

/-- The parenthesis at an offset opens the capturing group with a given number,
    when a text is read from its start to its end. -/
def Opens (flags : Flags) (t : Text) (offset index : ℕ) : Prop :=
  ∃ (r : Reader) (u v : Text) (name : Option Text) (r' : Reader) (u' : Text) (s : Reader) (w : Text),
    Reader.Reads (.initial flags) t r u ∧ skip r.flags u = '(' :: v ∧
    offset + (v.length + 1) = t.length ∧ r.step '(' v = .ok (r', u') ∧
    r' = r.openCapture name ∧ r'.groups = index ∧ Reader.Reads r' u' s w ∧ skip s.flags w = []

/-- Where a reader opens as many groups as are counted, counting gives the number of each. -/
theorem Reader.Reads.opens {flags : Flags} {t u v : Text} {s : Reader} {offset index : ℕ}
    (h : Reader.Reads (.initial flags) t s u) (hu : skip s.flags u = [])
    (hn : s.groups = groupCount t) (hv : Behind t ('(' :: v)) (ho : opensGroup v)
    (hi : index + groupCount v = groupCount t) (hoff : offset + (v.length + 1) = t.length) :
    Opens flags t offset index := by
  have hzero : (Reader.initial flags).groups = 0 := rfl
  obtain ⟨r₁, t₁, r₂, t₂, name, h1, h2, h3, h4, h5, h6⟩ :=
    h.opens_of_counted hu (by omega) hv ho
  exact ⟨r₁, t₁, v, name, r₂, t₂, s, u, h1, h2, hoff, h3, h4, by omega, h5, hu⟩

/-- A regular expression is what stands in the level of its reader at the end of its text. -/
theorem reads_of_read {flags : Flags} {t : Text} {e : Expr} (h : read flags t = .ok e) :
    ∃ s w, Reader.Reads (.initial flags) t s w ∧ skip s.flags w = [] ∧ s.enclosing = [] ∧
      e = s.level.close.1 := by
  obtain ⟨s, hs, h⟩ := bind_eq_ok.1 h
  obtain ⟨w, hw, hend⟩ := Reader.reads_of_run hs
  split at h
  · cases h
  case h_2 hnil =>
    dsimp only at h
    split_ifs at h
    cases h
    exact ⟨s, w, hw, hend, hnil, rfl⟩

/-- **Numbers of a whole expression.** In an expression with as many groups as are
    counted in its text, counting gives the number of each. -/
theorem opens_of_read {flags : Flags} {t v : Text} {e : Expr} {offset index : ℕ}
    (h : read flags t = .ok e) (hn : e.groupCount = groupCount t) (hv : Behind t ('(' :: v))
    (ho : opensGroup v) (hi : index + groupCount v = groupCount t)
    (hoff : offset + (v.length + 1) = t.length) : Opens flags t offset index := by
  obtain ⟨s, w, hw, hend, -, rfl⟩ := reads_of_read h
  have hle : s.level.close.1.groupCount ≤ s.groups := Expr.groupCount_le_iff.2 fun i hi =>
    (Finset.mem_Icc.1 ((hw.numbered (Reader.initial_numbered flags)).level hi)).2
  have hg := hw.groups_le
  have hzero : (Reader.initial flags).groups = 0 := rfl
  exact hw.opens hend (by omega) hv ho hi hoff

end PathRouting.Regex
