/-
  Parts of a regular expression that are read to their end.

  * `Reader.Fails`: no reading of the rest of a text is accepted.
  * `Reader.Deep`: something is nested so deep already. It stays so, whatever else is
    read (`Reads.deep`).
  * `Reads.within`: where a part is accepted alone, the reader gets past it wherever it
    stands, unless a name in it is taken.
-/
import PathRouting.Proofs.Regex.Framing
import PathRouting.Proofs.Regex.Numbering
import Mathlib.Data.List.MinMax

namespace PathRouting.Regex

/-! ## Depth -/

namespace Level

/-- Something in a level is nested `n` deep. -/
def Deep (n : ℕ) (l : Level) : Prop :=
  (∃ i ∈ l.items, n ≤ i.depth) ∨ ∃ b ∈ l.branches, n ≤ b.2

variable {n : ℕ} {l : Level}

theorem le_foldr_max {ds : List ℕ} {d : ℕ} (h : d ∈ ds) : d ≤ ds.foldr Nat.max 0 :=
  List.le_max_of_le h (Nat.le_refl d)

theorem le_sequence {i : Item} (h : i ∈ l.items) : i.depth ≤ l.sequence.2 := by
  unfold sequence
  match hi : l.items with
  | [] =>
    rw [hi] at h
    cases h
  | [j] =>
    rw [hi, List.mem_singleton] at h
    rw [h]
  | j :: k :: items =>
    rw [hi] at h
    exact (le_foldr_max (List.mem_map_of_mem h)).trans (Nat.le_add_left _ _)

theorem Deep.le_close (h : l.Deep n) : n ≤ l.close.2 := by
  obtain ⟨b, hb, hn⟩ : ∃ b ∈ l.sequence :: l.branches, n ≤ b.2 := by
    obtain ⟨i, hi, hn⟩ | ⟨b, hb, hn⟩ := h
    · exact ⟨_, List.mem_cons_self .., hn.trans (le_sequence hi)⟩
    · exact ⟨b, List.mem_cons_of_mem _ hb, hn⟩
  unfold close
  match hbs : l.branches with
  | [] =>
    rw [hbs, List.mem_singleton] at hb
    rwa [hb] at hn
  | c :: bs =>
    rw [hbs] at hb
    refine hn.trans (le_trans ?_ (Nat.le_add_left _ 1))
    exact le_foldr_max (List.mem_map_of_mem (List.mem_reverse.2 hb))

theorem Deep.split (h : l.Deep n) : l.split.Deep n := by
  obtain ⟨i, hi, hn⟩ | ⟨b, hb, hn⟩ := h
  · exact .inr ⟨l.sequence, List.mem_cons_self .., hn.trans (le_sequence hi)⟩
  · exact .inr ⟨b, List.mem_cons_of_mem _ hb, hn⟩

theorem Deep.cons (h : l.Deep n) (i : Item) : Level.Deep n { l with items := i :: l.items } := by
  obtain ⟨j, hj, hn⟩ | h := h
  · exact .inl ⟨j, List.mem_cons_of_mem _ hj, hn⟩
  · exact .inr h

end Level

namespace Reader

/-- Something that was read is nested `n` deep. -/
def Deep (n : ℕ) (r : Reader) : Prop :=
  r.level.Deep n ∨ ∃ g ∈ r.enclosing, g.outer.Deep n

section
variable {r r' s : Reader} {t u v rest : Text} {n : ℕ}

theorem Deep.closeGroup (hr : r.Deep n) (h : r.closeGroup = .ok r') : r'.Deep n := by
  obtain ⟨g, gs, hg, rfl⟩ := closeGroup_eq_ok.1 h
  obtain hl | ⟨g', hm, hg'⟩ := hr
  · exact .inl (.inl ⟨_, List.mem_cons_self .., hl.le_close.trans (Nat.le_succ _)⟩)
  · rw [hg] at hm
    rcases List.mem_cons.1 hm with rfl | hm
    · exact .inl (hg'.cons _)
    · exact .inr ⟨g', hm, hg'⟩

theorem Deep.iterate (hr : r.Deep n) {min : ℕ} {max : Option ℕ} {greedy : Bool}
    (h : r.iterate min max greedy = .ok r') : r'.Deep n := by
  obtain ⟨e, depth, items, hi, rfl⟩ := iterate_eq_ok.1 h
  refine hr.imp_left ?_
  rintro (⟨i, hm, hn⟩ | h)
  · rw [hi] at hm
    rcases List.mem_cons.1 hm with rfl | hm
    · exact .inl ⟨_, List.mem_cons_self .., hn.trans (Nat.le_succ _)⟩
    · exact .inl ⟨i, List.mem_cons_of_mem _ hm, hn⟩
  · exact .inr h

theorem Deep.step {c : Char} (hr : r.Deep n) (h : r.step c t = .ok (r', rest)) : r'.Deep n := by
  have hopen : ∀ {l : Level} {g : OpenGroup}, g.outer = r.level →
      (l.Deep n ∨ ∃ g' ∈ g :: r.enclosing, g'.outer.Deep n) := by
    intro l g hg
    obtain hl | ⟨g', hm, hg'⟩ := hr
    · exact .inr ⟨g, List.mem_cons_self .., hg ▸ hl⟩
    · exact .inr ⟨g', List.mem_cons_of_mem _ hm, hg'⟩
  obtain ⟨rfl, h⟩ | ⟨rfl, h, -⟩ | ⟨rfl, rfl, -⟩ | ⟨-, -, h⟩ := step_cases h
  · obtain ⟨name, rfl, -⟩ | ⟨flags, rfl⟩ | ⟨flags, rfl⟩ := openGroup_cases h
    · exact hopen rfl
    · exact hopen rfl
    · exact hr.imp_left fun h => h.cons _
  · exact hr.closeGroup h
  · exact hr.imp_left fun h => h.split
  · obtain ⟨e, depth, -, rfl⟩ | ⟨min, max, greedy, h⟩ := h
    · exact hr.imp_left fun h => h.cons _
    · exact hr.iterate h

theorem Reads.deep (h : Reads r t s u) (hr : r.Deep n) : s.Deep n :=
  h.invariant .step hr

/-! ## Readings that are not accepted -/

/-- However much fuel is left, a reading of the text ends in an error or with something
    that is nested too deep. -/
def Fails (r : Reader) (t : Text) : Prop :=
  ∀ fuel s, t.length ≤ fuel → r.run fuel t = .ok s → s.Deep (depthLimit + 1)

theorem Runs.fails (h : r.Runs t s u) (hf : s.Fails u) : r.Fails t := by
  obtain ⟨n, hn, h⟩ := h
  intro fuel s' hl hrun
  obtain ⟨k, rfl⟩ := Nat.exists_eq_add_of_le (show n ≤ fuel by omega)
  rw [h] at hrun
  exact hf k s' (by omega) hrun

theorem fails_of_deep (h : r.Deep (depthLimit + 1)) : r.Fails t := by
  intro fuel s _ hrun
  obtain ⟨u, hu, -⟩ := reads_of_run hrun
  exact hu.deep h

theorem fails_of_error {c : Char} {e : Rejection} (hs : skip r.flags t = c :: rest)
    (h : r.step c rest = .error e) : r.Fails t := by
  intro fuel s _ hrun
  cases fuel with
  | zero =>
    rw [run, hs] at hrun
    cases hrun
  | succ fuel =>
    rw [run, hs] at hrun
    dsimp only at hrun
    rw [h] at hrun
    cases hrun

/-- A construct reads its first character at least. -/
theorem step_suffix {c : Char} (h : r.step c t = .ok (r', rest)) : rest <:+ t := by
  rw [step_eq] at h
  cases hk : Construct.of c with
  | group =>
    rw [hk] at h
    exact (openGroup_behind h).suffix
  | close =>
    rw [hk] at h
    obtain ⟨_, -, he⟩ := map_eq_ok.1 h
    cases he
    exact List.suffix_refl _
  | bar | look =>
    rw [hk] at h
    cases h
    exact List.suffix_refl _
  | set =>
    rw [hk] at h
    obtain ⟨_, hr, he⟩ := map_eq_ok.1 h
    cases he
    exact (readClass_behind hr).suffix
  | iterate =>
    rw [hk] at h
    obtain ⟨_, -, he⟩ := map_eq_ok.1 h
    cases he
    exact (readGreed_behind t).suffix
  | counts =>
    rw [hk] at h
    exact (iterateCounted_behind h).suffix
  | escape =>
    rw [hk] at h
    obtain ⟨⟨_, _⟩, hr, h⟩ := bind_eq_ok.1 h
    obtain ⟨_, -, he⟩ := map_eq_ok.1 h
    cases he
    match t with
    | [] => cases hr
    | d :: t => exact (readEscape_cons_behind hr).suffix.trans (List.suffix_cons d t)
  | dot | char =>
    rw [hk] at h
    obtain ⟨_, -, he⟩ := map_eq_ok.1 h
    cases he
    exact List.suffix_refl _

theorem Runs.of_skip {c : Char} (hs : skip r.flags t = c :: rest)
    (h : r.step c rest = .ok (s, u)) : r.Runs t s u := by
  have hu := (step_suffix h).length_le
  have ht := (skip_behind r.flags t).length_le
  rw [hs, List.length_cons] at ht
  refine ⟨1, by omega, fun fuel => ?_⟩
  rw [Nat.add_comm 1 fuel, run, hs]
  dsimp only
  rw [h]
  rfl

/-! ## Parts in their places -/

/-- What cannot go on with a construct in front of it: it neither makes a repetition lazy
    or a parenthesis special, nor names an edge of words. -/
def Loose (u : Text) : Prop :=
  u.head? ≠ some '?' ∧ u.head? ≠ some '\x7b'

theorem step_names_subset {c : Char} (h : r.step c t = .ok (r', rest)) : r.names ⊆ r'.names := by
  by_cases hc : c = '('
  · subst hc
    obtain ⟨name, rfl, -⟩ | ⟨flags, rfl⟩ | ⟨flags, rfl⟩ := openGroup_cases h
    · exact List.subset_append_right _ _
    · exact List.Subset.refl _
    · exact List.Subset.refl _
  · rw [← step_names hc h]
    exact List.Subset.refl _

theorem Reads.names_subset (h : Reads r t s u) : r.names ⊆ s.names := by
  induction h with
  | refl => exact List.Subset.refl _
  | step _ hs _ ih => exact List.Subset.trans (step_names_subset hs) ih

theorem Reads.eq_of_nil (h : Reads r [] s u) : s = r := by
  cases h with
  | refl => rfl
  | @step _ _ c rest _ _ _ _ hs _ _ =>
    have := (skip_behind r.flags []).suffix.length_le
    rw [hs] at this
    simp at this

/-- **Parts in their places.** Where a part is read to its end alone, and does not end in
    verbose mode, the reader gets past it wherever it stands, unless a group in front of
    it has the name of one of its groups. In the same alternative there may be
    something in front of the part if it offers no choice outside its groups. -/
theorem Reads.within {b : Reader} (h : Reads r t s v) (hend : skip s.flags v = [])
    (hs : s.flags.verbose = false) (hr : Fresh b r) (hu : Loose u)
    (hb : b.level.items = [] ∨ '|' ∉ t) :
    (Fresh b s ∧ (b.within r).Runs (t ++ u) (b.within s) u) ∨
      (¬ Fresh b s ∧ (b.within r).Fails (t ++ u)) := by
  induction h with
  | @refl r t =>
    unfold skip at hend
    rw [hs] at hend
    rw [show t = [] from hend]
    exact .inl ⟨hr, .refl⟩
  | @step r t c rest r' w s v hskip hstep hw ih =>
    have ht := (skip_behind r.flags t).suffix
    rw [hskip] at ht
    have hskip' : skip r.flags (t ++ u) = c :: (rest ++ u) := by
      have := skip_local_of_ne (x := t) (z := []) (w := c :: rest) u (by simpa using hskip)
        (List.cons_ne_nil c rest)
      exact this
    have hv : r'.flags.verbose = true → w ≠ [] := by
      rintro hv rfl
      rw [hw.eq_of_nil, hv] at hs
      cases hs
    have hstep' : r.step c (rest ++ u) = .ok (r', w ++ u) := by
      refine step_local (z := []) u hu hv (fun h => absurd rfl h) ?_
      simpa using hstep
    have hbar : b.level.items = [] ∨ c ≠ '|' ∧ ∃ p, r.step c (rest ++ u) = .ok p := by
      refine hb.imp_right fun hb => ⟨?_, _, hstep'⟩
      rintro rfl
      exact hb (ht.subset (List.mem_cons_self ..))
    have hclose : c = ')' → r.enclosing ≠ [] := by
      rintro rfl hnil
      obtain ⟨s, hclose, -⟩ := map_eq_ok.1 hstep
      obtain ⟨g, gs, hg, -⟩ := closeGroup_eq_ok.1 hclose
      exact List.cons_ne_nil g gs (hg.symm.trans hnil)
    have hjoined := step_within hr hclose hbar
    rw [hstep'] at hjoined
    by_cases hr' : Fresh b r'
    · have hone : (b.within r).step c (rest ++ u) = .ok (b.within r', w ++ u) :=
        hjoined.trans (if_pos hr')
      have hone' : (b.within r).Runs (t ++ u) (b.within r') (w ++ u) := .of_skip hskip' hone
      have hbar' : b.level.items = [] ∨ '|' ∉ w := by
        refine hb.imp_right fun hb hm => hb (ht.subset (List.mem_cons_of_mem _ ?_))
        exact (step_suffix hstep).subset hm
      obtain ⟨hf, hruns⟩ | ⟨hf, hfails⟩ := ih hend hs hr' hbar'
      · exact .inl ⟨hf, hone'.trans hruns⟩
      · exact .inr ⟨hf, hone'.fails hfails⟩
    · have hone : (b.within r).step c (rest ++ u) = .error .badGroupName :=
        hjoined.trans (if_neg hr')
      exact .inr ⟨fun hf => hr' fun name hn => hf name (hw.names_subset hn),
        fails_of_error hskip' hone⟩

end

end Reader

end PathRouting.Regex
