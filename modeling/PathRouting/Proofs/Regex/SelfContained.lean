/-
  Parts of a regular expression that are regular expressions themselves.

  * `finalFlags?`: the flags that hold at the end of a regular expression.
  * `Reader.Alone`: how a text is read alone.
  * `Alone.grouped`: where a regular expression without choices keeps the flags, it may be
    put in a group of its own wherever it stands.
  * `Alone.inside`, `Alone.grouped_inside`: between parentheses any regular expression may
    stand that does not end in verbose mode, and it may be put in a group of its own.
  * `Alone.read_grouped`: the same of a regular expression as a whole.
-/
import PathRouting.Proofs.Regex.Rewriting

namespace PathRouting.Regex

/-- The flags that hold at the end of a text, if it is read as a regular expression. -/
def finalFlags? (f : Flags) (t : Text) : Option Flags :=
  match (Reader.initial f).run t.length t with
  | .ok s => if s.enclosing.isEmpty then some s.flags else none
  | .error _ => none

namespace Reader

section
variable {r r' s : Reader} {t u u' v rest : Text} {f g : Flags}

/-! ## Texts without choices -/

/-- There are no alternatives in front of the sequences that are being read. -/
structure Straight (r : Reader) : Prop where
  level : r.level.branches = []
  enclosing : ∀ g ∈ r.enclosing, g.outer.branches = []

theorem Straight.step {c : Char} (h : r.Straight) (hc : c ≠ '|')
    (hs : r.step c t = .ok (r', rest)) : r'.Straight := by
  have hopen : ∀ {g : OpenGroup}, g.outer = r.level →
      ∀ g' ∈ g :: r.enclosing, g'.outer.branches = [] := by
    intro g hg g' hm
    rcases List.mem_cons.1 hm with rfl | hm
    · exact hg ▸ h.level
    · exact h.enclosing g' hm
  obtain ⟨rfl, hs⟩ | ⟨rfl, hs, -⟩ | ⟨rfl, -⟩ | ⟨-, -, hs⟩ := step_cases hs
  · obtain ⟨name, rfl, -⟩ | ⟨flags, rfl⟩ | ⟨flags, rfl⟩ := openGroup_cases hs
    · exact ⟨rfl, hopen rfl⟩
    · exact ⟨rfl, hopen rfl⟩
    · exact ⟨h.level, h.enclosing⟩
  · obtain ⟨g, gs, hg, rfl⟩ := closeGroup_eq_ok.1 hs
    exact ⟨h.enclosing g (by simp [hg]), fun g' hm => h.enclosing g' (by simp [hg, hm])⟩
  · exact absurd rfl hc
  · obtain ⟨e, depth, -, rfl⟩ | ⟨min, max, greedy, hs⟩ := hs
    · exact ⟨h.level, h.enclosing⟩
    · obtain ⟨_, _, _, -, rfl⟩ := iterate_eq_ok.1 hs
      exact ⟨h.level, h.enclosing⟩

theorem Straight.reads (h : r.Straight) (hr : Reads r t s u) (ht : '|' ∉ t) : s.Straight := by
  induction hr with
  | refl => exact h
  | @step r t c rest r' w s v hskip hs _ ih =>
    have hsub : c :: rest ⊆ t := by
      rw [← hskip]
      exact (skip_behind r.flags t).suffix.subset
    refine ih (h.step ?_ hs) fun hm => ht (hsub (List.mem_cons_of_mem _ ?_))
    · rintro rfl
      exact ht (hsub (List.mem_cons_self ..))
    · exact (step_suffix hs).subset hm

/-! ## Texts alone -/

/-- A text is read alone, and not to an end in verbose mode. -/
structure Alone (f : Flags) (t : Text) (s : Reader) : Prop where
  reads : ∃ v, Reads (.initial f) t s v ∧ skip s.flags v = []
  outermost : s.enclosing = []
  verbose : s.flags.verbose = false

theorem exists_run_of_finalFlags (h : (finalFlags? f t).any (!·.verbose)) :
    ∃ s, (Reader.initial f).run t.length t = .ok s ∧ Alone f t s ∧
      finalFlags? f t = some s.flags := by
  unfold finalFlags? at h ⊢
  cases hrun : (Reader.initial f).run t.length t with
  | error x =>
    rw [hrun] at h
    cases h
  | ok s =>
    rw [hrun] at h
    dsimp only at h ⊢
    split_ifs at h ⊢ with hs
    · have hv : s.flags.verbose = false := by simpa using h
      exact ⟨s, rfl, ⟨reads_of_run hrun, List.isEmpty_iff.1 hs, hv⟩, rfl⟩
    · cases h

theorem alone_of_finalFlags (h : (finalFlags? f t).any (!·.verbose)) :
    ∃ s, Alone f t s ∧ finalFlags? f t = some s.flags := by
  obtain ⟨s, -, hs⟩ := exists_run_of_finalFlags h
  exact ⟨s, hs⟩

theorem Alone.tidy (h : Alone f t s) : s.Tidy := by
  obtain ⟨v, hr, -⟩ := h.reads
  exact (initial_tidy f).reads hr

theorem Alone.straight (h : Alone f t s) (ht : '|' ∉ t) : s.Straight := by
  obtain ⟨v, hr, -⟩ := h.reads
  have hinitial : (Reader.initial f).Straight := ⟨rfl, fun _ hg => (nomatch hg)⟩
  exact hinitial.reads hr ht

/-- A regular expression starts with no repetition. -/
theorem Alone.loose (h : Alone f t s) (hf : f.verbose = false) : Loose t := by
  obtain ⟨v, hr, hv⟩ := h.reads
  have hfail : ∀ c rest p, c = '?' ∨ c = '\x7b' → (Reader.initial f).step c rest ≠ .ok p := by
    rintro c rest p (rfl | rfl) hp
    · cases hp
    · cases hp
  have hhead : ∀ c rest, t = c :: rest → ¬ (c = '?' ∨ c = '\x7b') := by
    rintro c rest rfl hc
    have hskip : skip (Reader.initial f).flags (c :: rest) = c :: rest := by
      show skip f _ = _
      unfold skip
      rw [hf]
      rfl
    cases hr with
    | refl =>
      rw [hskip] at hv
      cases hv
    | step hs hstep _ =>
      rw [hskip] at hs
      cases hs
      exact hfail c rest _ hc hstep
  cases t with
  | nil => exact loose_nil
  | cons c rest => exact loose_cons (not_or.1 (hhead c rest rfl))

theorem within_outermost (hs : s.enclosing = []) :
    r.within s = ⟨s.flags, ⟨(s.level.shifted r.groups).items ++ r.level.items,
      (s.level.shifted r.groups).branches ++ r.level.branches⟩, r.enclosing, s.groups + r.groups,
      s.names ++ r.names⟩ := by
  unfold within insideOf around
  rw [hs]

/-- A part is read in the same way in two places. -/
theorem Alone.together (h : Alone f t s) (hf : r.flags = f) (hf' : r'.flags = f)
    (hnames : r.names = r'.names)
    (hitems : r.level.items = [] ∧ r'.level.items = [] ∨ '|' ∉ t) (hu : Loose u) (hu' : Loose u') :
    Together True (fun x x' => x = r.within s ∧ x' = r'.within s) r r' (t ++ u) (t ++ u') u u' := by
  obtain ⟨v, hr, hv⟩ := h.reads
  have hin : ∀ {b : Reader} {w : Text}, b.flags = f → b.level.items = [] ∨ '|' ∉ t → Loose w →
      (Fresh b s ∧ b.Runs (t ++ w) (b.within s) w) ∨ (¬ Fresh b s ∧ b.Fails (t ++ w)) := by
    intro b w hb hi hw
    have hfresh : Fresh b (.initial f) := fun _ hn => nomatch hn
    have := hr.within hv h.verbose hfresh hw hi
    rwa [← hb, within_initial] at this
  have hsame : Fresh r s ↔ Fresh r' s := by
    unfold Fresh
    rw [hnames]
  obtain ⟨hs, hrun⟩ | ⟨hs, hfail⟩ := hin hf (hitems.imp_left And.left) hu
  · obtain ⟨-, hrun'⟩ | ⟨hs', -⟩ := hin hf' (hitems.imp_left And.right) hu'
    · exact .inr ⟨trivial, _, _, ⟨rfl, rfl⟩, hrun, hrun'⟩
    · exact absurd (hsame.1 hs) hs'
  · obtain ⟨hs', -⟩ | ⟨-, hfail'⟩ := hin hf' (hitems.imp_left And.right) hu'
    · exact absurd (hsame.2 hs') hs
    · exact .inl ⟨hfail, hfail'⟩

/-- What a group makes of a part. -/
theorem within_close (hs : s.enclosing = []) (hr : r.level = .empty) :
    (r.within s).level.close = (s.level.close.1.shifted r.groups, s.level.close.2) := by
  have hlevel : (r.within s).level = s.level.shifted r.groups := by
    rw [within_outermost hs, hr]
    unfold Level.empty
    rw [List.append_nil, List.append_nil]
  rw [hlevel, Level.close_shifted]

/-- Between parentheses, a regular expression may stand. -/
theorem Alone.inside (h : Alone f t s) : RewritesInside True f t t := by
  refine ⟨fun {r r' u u'} hr hf hlevel hlevel' => ?_⟩
  have hclose : ∀ {v : Text}, Loose (')' :: v) := loose_cons (by decide)
  have hitems : r.level.items = [] ∧ r'.level.items = [] := by
    rw [hlevel, hlevel']
    exact ⟨rfl, rfl⟩
  refine (h.together hf (hr.flags ▸ hf) hr.names (.inl hitems) hclose hclose).imp id ?_
  rintro x x' ⟨rfl, rfl⟩
  refine ⟨h.verbose, h.verbose, ?_, ?_, ?_, ?_, ?_, ?_⟩
  · rw [within_close h.outermost hlevel, within_close h.outermost hlevel', hr.groups]
  · rw [within_close h.outermost hlevel, within_close h.outermost hlevel']
  · exact congrArg (s.groups + ·) hr.groups
  · exact congrArg (s.names ++ ·) hr.names
  · rw [within_outermost h.outermost]
  · rw [within_outermost h.outermost]

/-- The reader behind a part in a group. -/
def behindGroup (r s : Reader) : Reader :=
  { r with
    level := r.level.push (s.level.close.1.shifted r.groups) (s.level.close.2 + 1)
    groups := s.groups + r.groups
    names := s.names ++ r.names }

/-- A part, and the same part in a group. -/
theorem Alone.together_grouped (h : Alone f t s) (hv : f.verbose = false) (hr : r.Alike r')
    (hf : r.flags = f) (hitems : r.level.items = [] ∨ '|' ∉ t) (hu : Loose u) (u' : Text) :
    Together True (fun x x' => x = r.within s ∧ x' = r'.behindGroup s) r r' (t ++ u)
      ("(?:".toList ++ t ++ ")".toList ++ u') u u' := by
  have hf' : r'.flags = f := hr.flags ▸ hf
  have hv' : r'.flags.verbose = false := by rw [hf', hv]
  have hopen : r'.Runs ('(' :: '?' :: ':' :: (t ++ ')' :: u')) (r'.openPlain r'.flags)
      (t ++ ')' :: u') := .of_step hv' (step_openPlain hv' _) (Nat.le_add_right _ 2)
  rw [List.append_assoc, List.append_assoc]
  refine .of_runs .refl hopen (.bind (h.together hf (show (r'.openPlain r'.flags).flags = f from hf')
    hr.names (hitems.imp_left fun hi => ⟨hi, rfl⟩) hu (loose_cons (by decide))) ?_)
  rintro - x x' ⟨rfl, rfl⟩
  have henclosing : ((r'.openPlain r'.flags).within s).enclosing =
      ⟨r'.level, r'.flags, none⟩ :: r'.enclosing := by
    rw [within_outermost h.outermost]
    rfl
  refine .of_runs .refl (runs_close h.verbose henclosing) (.of_holds trivial ⟨rfl, ?_⟩)
  rw [within_close h.outermost (show (r'.openPlain r'.flags).level = .empty from rfl)]
  rfl

/-- Nothing is in a group but the group around a part, and what is there is the same. -/
theorem Alone.filled_grouped (h : Alone f t s) (hv : f.verbose = false) (hr : r.Alike r')
    (hf : r.flags = f) (hlevel : r.level = .empty) (hlevel' : r'.level = .empty) :
    Filled r.enclosing r'.enclosing (r.within s) (r'.behindGroup s) := by
  have hf' : r'.flags = f := hr.flags ▸ hf
  refine ⟨h.verbose, by rw [← hv, ← hf']; rfl, ?_, ?_, ?_, ?_, ?_, rfl⟩
  · have hgroup : (r'.behindGroup s).level.close.1 =
        .sequence ([s.level.close.1].map (Expr.shifted r'.groups)) := by
      unfold behindGroup
      rw [hlevel']
      rfl
    rw [within_close h.outermost hlevel, hgroup, Expr.sequence_shifted, h.tidy.level.close.2,
      hr.groups]
  · unfold behindGroup
    rw [within_close h.outermost hlevel, hlevel']
    exact Nat.le_succ _
  · exact congrArg (s.groups + ·) hr.groups
  · exact congrArg (s.names ++ ·) hr.names
  · rw [within_outermost h.outermost]

/-- Between parentheses, a regular expression may be put in a group. -/
theorem Alone.grouped_inside (h : Alone f t s) (hv : f.verbose = false) :
    RewritesInside True f t ("(?:".toList ++ t ++ ")".toList) := by
  refine ⟨fun {r r' u u'} hr hf hlevel hlevel' => ?_⟩
  have hitems : r.level.items = [] := by
    rw [hlevel]
    rfl
  refine (h.together_grouped hv hr hf (.inl hitems) (loose_cons (by decide)) _).imp id ?_
  rintro x x' ⟨rfl, rfl⟩
  exact h.filled_grouped hv hr hf hlevel hlevel'

/-- A regular expression as a whole may be put in a group. -/
theorem Alone.read_grouped (h : Alone f t s) (hv : f.verbose = false) :
    ReadAlike True f t ("(?:".toList ++ t ++ ")".toList) := by
  have halike : (Reader.initial f).Alike (.initial f) := ⟨rfl, .refl, rfl, rfl⟩
  have htogether := h.together_grouped hv halike rfl (.inl rfl) loose_nil []
  rw [List.append_nil, List.append_nil] at htogether
  refine htogether.read ?_
  rintro x x' ⟨rfl, rfl⟩
  have hfilled := h.filled_grouped hv halike rfl rfl rfl
  exact ⟨⟨hfilled.close, hfilled.depth⟩, hfilled.enclosing, hfilled.enclosing'⟩

/-- Behind a part without choices there are its items. -/
theorem Alone.spliced_level (h : Alone f t s) (ht : '|' ∉ t) : (r.within s).level =
    { r.level with items := s.level.items.map (Item.shifted r.groups) ++ r.level.items } := by
  rw [within_outermost h.outermost]
  unfold Level.shifted
  rw [(h.straight ht).level]
  rfl

/-- Wherever it stands, a regular expression without choices that keeps the flags is read
    in the same way. -/
theorem Alone.spliced (h : Alone f t s) (hv : f.verbose = false) (hs : s.flags = f)
    (ht : '|' ∉ t) : Rewrites True f t t := by
  refine ⟨h.loose hv, h.loose hv, fun {r r' u u'} hr hf hu hu' => ?_⟩
  refine (h.together hf (hr.flags ▸ hf) hr.names (.inr ht) hu hu').imp id ?_
  rintro x x' ⟨rfl, rfl⟩
  refine ⟨hs.trans hf.symm, ?_, congrArg (s.groups + ·) hr.groups,
    congrArg (s.names ++ ·) hr.names, hs.trans (hr.flags ▸ hf).symm, ?_, ?_⟩
  · rw [h.spliced_level ht, h.spliced_level ht, ← hr.groups]
    exact hr.level.append rfl .refl
  · rw [within_outermost h.outermost]
  · rw [within_outermost h.outermost]

/-- Wherever it stands, a regular expression without choices that keeps the flags may be
    put in a group. -/
theorem Alone.grouped (h : Alone f t s) (hv : f.verbose = false) (hs : s.flags = f)
    (ht : '|' ∉ t) : Rewrites True f t ("(?:".toList ++ t ++ ")".toList) := by
  refine ⟨h.loose hv, loose_cons (by decide), fun {r r' u u'} hr hf hu _ => ?_⟩
  refine (h.together_grouped hv hr hf (.inr ht) hu _).imp id ?_
  rintro x x' ⟨rfl, rfl⟩
  refine ⟨hs.trans hf.symm, ?_, congrArg (s.groups + ·) hr.groups,
    congrArg (s.names ++ ·) hr.names, rfl, ?_, rfl⟩
  · have hexprs : Expr.SameParts ((s.level.items.map (Item.shifted r.groups)).reverse.map (·.expr))
        (([⟨s.level.close.1.shifted r'.groups, s.level.close.2 + 1, false⟩] : List Item).reverse.map
          (·.expr)) := by
      have hmap : (s.level.items.map (Item.shifted r.groups)).reverse.map (·.expr) =
          s.level.exprs.map (Expr.shifted r.groups) := by
        unfold Level.exprs
        rw [← List.map_reverse, List.map_map, List.map_map]
        rfl
      have hclose : s.level.close.1 = .sequence s.level.exprs := by
        rw [close_eq, (h.straight ht).level]
        rfl
      rw [hmap, ← hr.groups, hclose]
      exact ((Expr.sameParts_sequence h.tidy.level.exprs).shifted r.groups).symm
    have hdepth : DeepAs (s.level.items.map (Item.shifted r.groups))
        [⟨s.level.close.1.shifted r'.groups, s.level.close.2 + 1, false⟩] := by
      refine .single (l := s.level.shifted r.groups) ?_
      have hclose : s.level.close.2 = s.level.sequence.2 := by
        unfold Level.close
        rw [(h.straight ht).level]
      rw [Level.sequence_shifted, hclose]
      exact Nat.le_succ _
    rw [h.spliced_level ht]
    exact hr.level.append hexprs hdepth
  · rw [within_outermost h.outermost]

end

end Reader

end PathRouting.Regex
