/-
  Parts of a regular expression that may be exchanged.

  Two readers go over two texts side by side. They stay alike as long as each part of the
  one text is read as the part of the other in its place.

  * `Rewrites`: wherever one text stands, another may stand in its place.
  * `RewritesInside`: the same of what a pair of parentheses encloses.
  * `Rewrites.append`, `RewritesInside.group`, `RewritesInside.capture`: texts are
    exchanged part by part.
  * `Rewrites.read`: a regular expression means the same with a part exchanged.
-/
import PathRouting.Proofs.Regex.Fragments
import PathRouting.Proofs.Regex.Tidy

namespace PathRouting.Regex

/-! ## Depth -/

/-- How deep the deepest of some items is nested. -/
def maxDepth (items : List Item) : ℕ :=
  (items.map (·.depth)).foldr Nat.max 0

theorem maxDepth_append (is js : List Item) :
    maxDepth (is ++ js) = max (maxDepth is) (maxDepth js) := by
  induction is with
  | nil => exact (Nat.zero_max _).symm
  | cons i is ih =>
    show max i.depth (maxDepth (is ++ js)) = max (max i.depth (maxDepth is)) (maxDepth js)
    rw [ih, Nat.max_assoc]

/-- Items that are nested as deep as others at least, whatever is around both. -/
structure DeepAs (is js : List Item) : Prop where
  depth : maxDepth is ≤ maxDepth js
  nonempty : is ≠ [] → js ≠ []
  length : 2 ≤ is.length → 2 ≤ js.length ∨ 1 + maxDepth is ≤ maxDepth js

namespace DeepAs

variable {is is' js js' : List Item}

theorem refl : DeepAs is is :=
  ⟨Nat.le_refl _, id, .inl⟩

theorem append (h : DeepAs is js) (h' : DeepAs is' js') : DeepAs (is ++ is') (js ++ js') := by
  refine ⟨?_, ?_, fun hlen => ?_⟩
  · rw [maxDepth_append, maxDepth_append]
    exact max_le_max h.depth h'.depth
  · intro hne hnil
    obtain ⟨rfl, rfl⟩ := List.append_eq_nil_iff.1 hnil
    by_cases his : is = []
    · exact h'.nonempty (fun h => hne (by rw [his, h]; rfl)) rfl
    · exact h.nonempty his rfl
  · rw [maxDepth_append, maxDepth_append, List.length_append]
    rw [List.length_append] at hlen
    have hdepth := h.depth
    have hdepth' := h'.depth
    by_cases his : is = []
    · subst his
      have hzero : maxDepth [] = 0 := rfl
      have := h'.length (by simpa using hlen)
      omega
    by_cases his' : is' = []
    · subst his'
      have hzero : maxDepth [] = 0 := rfl
      have := h.length (by simpa using hlen)
      omega
    · have := List.length_pos_iff.2 (h.nonempty his)
      have := List.length_pos_iff.2 (h'.nonempty his')
      omega

theorem maxDepth_le_sequence (is : List Item) (bs : List (Expr × ℕ)) :
    maxDepth is ≤ (Level.mk is bs).sequence.2 := by
  match is with
  | [] => exact Nat.zero_le _
  | [i] => exact Nat.max_le.2 ⟨Nat.le_refl _, Nat.zero_le _⟩
  | i :: j :: is => exact Nat.le_add_left _ 1

theorem sequence_of_two (h : 2 ≤ is.length) (bs : List (Expr × ℕ)) :
    (Level.mk is bs).sequence.2 = 1 + maxDepth is := by
  match is with
  | [] | [_] => simp at h
  | i :: j :: is => rfl

theorem sequence {bs bs' : List (Expr × ℕ)} (h : DeepAs is js) :
    (Level.mk is bs).sequence.2 ≤ (Level.mk js bs').sequence.2 := by
  have hjs := maxDepth_le_sequence js bs'
  by_cases hlen : 2 ≤ is.length
  · rw [sequence_of_two hlen]
    obtain hlen' | hdepth := h.length hlen
    · rw [sequence_of_two hlen']
      exact Nat.add_le_add_left h.depth 1
    · exact hdepth.trans hjs
  · match is with
    | [] => exact Nat.zero_le _
    | [i] => exact (Nat.le_max_left i.depth 0).trans (h.depth.trans hjs)
    | i :: i' :: is => exact absurd (Nat.le_add_left 2 is.length) hlen

/-- One item that is nested as deep as a sequence of others. -/
theorem single {l : Level} {i : Item} (h : l.sequence.2 ≤ i.depth) : DeepAs l.items [i] := by
  have hi : i.depth ≤ maxDepth [i] := Nat.le_max_left i.depth 0
  refine ⟨?_, fun _ => List.cons_ne_nil _ _, fun hlen => .inr ?_⟩
  · exact (maxDepth_le_sequence l.items l.branches).trans (h.trans hi)
  · rw [← sequence_of_two hlen l.branches]
    exact h.trans hi

end DeepAs

/-! ## Levels -/

namespace Level

/-- The expressions of the sequence at hand. -/
def exprs (l : Level) : List Expr :=
  l.items.reverse.map (·.expr)

/-- Levels of which the same expressions are made, those of the second one nested at least
    as deep. -/
structure Alike (l l' : Level) : Prop where
  items : Expr.SameParts l.exprs l'.exprs
  depth : DeepAs l.items l'.items
  branches : List.Forall₂ (fun b b' => b.1 = b'.1 ∧ b.2 ≤ b'.2) l.branches l'.branches

variable {l l' : Level}

theorem Alike.refl : l.Alike l :=
  ⟨rfl, .refl, List.forall₂_same.2 fun _ _ => ⟨rfl, Nat.le_refl _⟩⟩

theorem Alike.split (h : l.Alike l') : l.split.Alike l'.split :=
  ⟨rfl, .refl, .cons ⟨h.items.sequence, h.depth.sequence⟩ h.branches⟩

/-- Alike levels are closed with the same expression. -/
theorem Alike.close (h : l.Alike l') : l.close.1 = l'.close.1 ∧ l.close.2 ≤ l'.close.2 := by
  have hall : List.Forall₂ (fun b b' => b.1 = b'.1 ∧ b.2 ≤ b'.2) (l.sequence :: l.branches).reverse
      (l'.sequence :: l'.branches).reverse := List.rel_reverse h.split.branches
  have hexprs : (l.sequence :: l.branches).reverse.map (·.1) =
      (l'.sequence :: l'.branches).reverse.map (·.1) := by
    rw [← List.forall₂_eq_eq_eq, List.forall₂_map_left_iff, List.forall₂_map_right_iff]
    exact hall.imp fun _ _ h => h.1
  refine ⟨by rw [close_eq, close_eq, hexprs], ?_⟩
  have hbranches := h.branches
  have hmax : ((l.sequence :: l.branches).reverse.map (·.2)).foldr Nat.max 0 ≤
      ((l'.sequence :: l'.branches).reverse.map (·.2)).foldr Nat.max 0 := by
    generalize (l.sequence :: l.branches).reverse = bs at hall
    generalize (l'.sequence :: l'.branches).reverse = bs' at hall
    induction hall with
    | nil => exact Nat.le_refl _
    | cons hb _ ih => exact max_le_max hb.2 ih
  unfold Level.close
  cases hb : l.branches with
  | nil =>
    rw [hb, List.forall₂_nil_left_iff] at hbranches
    rw [hbranches]
    exact h.depth.sequence
  | cons b bs =>
    rw [hb] at hbranches hmax
    cases hb' : l'.branches with
    | nil =>
      rw [hb'] at hbranches
      cases hbranches
    | cons b' bs' =>
      rw [hb'] at hmax
      exact Nat.add_le_add_left hmax 1

/-- The same parts behind alike levels. -/
theorem Alike.append (h : l.Alike l') {items items' : List Item}
    (hi : Expr.SameParts (items.reverse.map (·.expr)) (items'.reverse.map (·.expr)))
    (hd : DeepAs items items') :
    Level.Alike { l with items := items ++ l.items } { l' with items := items' ++ l'.items } := by
  refine ⟨?_, hd.append h.depth, h.branches⟩
  unfold exprs
  rw [List.reverse_append, List.reverse_append, List.map_append, List.map_append]
  exact h.items.append hi

theorem Alike.push (h : l.Alike l') (e : Expr) {d d' : ℕ} (hd : d ≤ d') :
    (l.push e d).Alike (l'.push e d') := by
  have he : Expr.SameParts (([⟨e, d, false⟩] : List Item).reverse.map (·.expr))
      (([⟨e, d', false⟩] : List Item).reverse.map (·.expr)) := rfl
  exact h.append he (.single (l := ⟨[⟨e, d, false⟩], []⟩) hd)

end Level

/-! ## Readers side by side -/

namespace Reader

/-- Readers that go on in the same way. The groups around them need not be the same. -/
structure Alike (r r' : Reader) : Prop where
  flags : r.flags = r'.flags
  level : r.level.Alike r'.level
  groups : r.groups = r'.groups
  names : r.names = r'.names

/-- Two readers go over two texts side by side: neither of them gets to the end, or `P`
    holds and they come to two readers as `Q` says. -/
def Together (P : Prop) (Q : Reader → Reader → Prop) (r r' : Reader) (t t' u u' : Text) : Prop :=
  r.Fails t ∧ r'.Fails t' ∨ P ∧ ∃ s s', Q s s' ∧ r.Runs t s u ∧ r'.Runs t' s' u'

section
variable {P P' : Prop} {Q Q' : Reader → Reader → Prop} {r r' s s' : Reader}
  {t t' u u' v v' : Text}

theorem Together.of_runs (h : r.Runs t s u) (h' : r'.Runs t' s' u')
    (ht : Together P Q s s' u u' v v') : Together P Q r r' t t' v v' := by
  obtain ⟨hf, hf'⟩ | ⟨hP, x, x', hQ, hx, hx'⟩ := ht
  · exact .inl ⟨h.fails hf, h'.fails hf'⟩
  · exact .inr ⟨hP, x, x', hQ, h.trans hx, h'.trans hx'⟩

theorem Together.bind (h : Together P Q r r' t t' u u')
    (hQ : P → ∀ s s', Q s s' → Together P' Q' s s' u u' v v') :
    Together P' Q' r r' t t' v v' := by
  obtain ⟨hf, hf'⟩ | ⟨hP, s, s', hs, hr, hr'⟩ := h
  · exact .inl ⟨hf, hf'⟩
  · exact (hQ hP s s' hs).of_runs hr hr'

theorem Together.of_holds (hP : P) (hQ : Q r r') : Together P Q r r' t t' t t' :=
  .inr ⟨hP, r, r', hQ, .refl, .refl⟩

theorem Together.imp (h : Together P Q r r' t t' u u') (hP : P → P')
    (hQ : ∀ s s', Q s s' → Q' s s') : Together P' Q' r r' t t' u u' :=
  h.imp_right fun ⟨h, s, s', hs, hr⟩ => ⟨hP h, s, s', hQ s s' hs, hr⟩

/-- Readers that have come from two others without entering or leaving groups. -/
structure Beside (r r' s s' : Reader) : Prop where
  flags : s.flags = r.flags
  level : s.level.Alike s'.level
  groups : s.groups = s'.groups
  names : s.names = s'.names
  flags' : s'.flags = r'.flags
  enclosing : s.enclosing = r.enclosing
  enclosing' : s'.enclosing = r'.enclosing

theorem Beside.refl (h : r.Alike r') : Beside r r' r r' :=
  ⟨rfl, h.level, h.groups, h.names, rfl, rfl, rfl⟩

theorem Beside.alike (hr : r.Alike r') (h : Beside r r' s s') : s.Alike s' :=
  ⟨h.flags.trans (hr.flags.trans h.flags'.symm), h.level, h.groups, h.names⟩

theorem Beside.trans {x x' : Reader} (h : Beside r r' s s') (h' : Beside s s' x x') :
    Beside r r' x x' :=
  ⟨h'.flags.trans h.flags, h'.level, h'.groups, h'.names, h'.flags'.trans h.flags',
    h'.enclosing.trans h.enclosing, h'.enclosing'.trans h.enclosing'⟩

/-- Readers that have read what two groups enclose: the same has become of it, and no
    blanks are skipped in front of the parentheses behind. -/
structure Filled (gs gs' : List OpenGroup) (s s' : Reader) : Prop where
  verbose : s.flags.verbose = false
  verbose' : s'.flags.verbose = false
  close : s.level.close.1 = s'.level.close.1
  depth : s.level.close.2 ≤ s'.level.close.2
  groups : s.groups = s'.groups
  names : s.names = s'.names
  enclosing : s.enclosing = gs
  enclosing' : s'.enclosing = gs'

/-- What a parenthesis that closes a group does. -/
theorem runs_close {g : OpenGroup} {gs : List OpenGroup} (hv : s.flags.verbose = false)
    (h : s.enclosing = g :: gs) :
    s.Runs (')' :: u) { s with
      flags := g.flags
      level := g.outer.push (g.wrap s.level.close.1) (s.level.close.2 + 1)
      enclosing := gs } u := by
  refine .of_step hv ?_ (Nat.le_refl _)
  show s.closeGroup.map _ = _
  rw [closeGroup_cons h]
  rfl

/-- Groups with the same in them are closed alike. -/
theorem Filled.together {capture capture' : Option (ℕ × Option Text)}
    (h : Filled (⟨r.level, r.flags, capture⟩ :: r.enclosing)
      (⟨r'.level, r'.flags, capture'⟩ :: r'.enclosing) s s') (hr : r.Alike r')
    (hcapture : capture = capture') :
    Together True (Beside r r') s s' (')' :: u) (')' :: u') u u' := by
  refine .of_runs (runs_close h.verbose h.enclosing) (runs_close h.verbose' h.enclosing')
    (.of_holds trivial ⟨rfl, ?_, h.groups, h.names, rfl, rfl, rfl⟩)
  unfold OpenGroup.wrap
  dsimp only
  rw [h.close, hcapture]
  exact hr.level.push _ (Nat.add_le_add_right h.depth 1)

end

/-! ## Texts in the place of others -/

section
variable {P P' : Prop} {f : Flags} {t t' x x' : Text}

theorem Loose.append (h : Loose t) (hx : Loose x) : Loose (t ++ x) := by
  cases t with
  | nil => exact hx
  | cons c t => exact h

theorem loose_nil : Loose [] :=
  ⟨fun h => (nomatch h), fun h => (nomatch h)⟩

theorem loose_cons {c : Char} (hc : c ≠ '?' ∧ c ≠ '\x7b') : Loose (c :: t) :=
  ⟨fun h => hc.1 (Option.some.inj h), fun h => hc.2 (Option.some.inj h)⟩

end

end Reader

open Reader

/-- Wherever the text `t` stands, under given flags, `t'` may stand in its place. If they
    are read, then `P` holds. -/
structure Rewrites (P : Prop) (f : Flags) (t t' : Text) : Prop where
  loose : Loose t
  loose' : Loose t'
  reads : ∀ {r r' : Reader} {u u' : Text}, r.Alike r' → r.flags = f → Loose u → Loose u' →
    Together P (Beside r r') r r' (t ++ u) (t' ++ u') u u'

/-- Wherever the text `t` stands between parentheses, under given flags, `t'` may stand in
    its place. If they are read, then `P` holds. -/
structure RewritesInside (P : Prop) (f : Flags) (t t' : Text) : Prop where
  reads : ∀ {r r' : Reader} {u u' : Text}, r.Alike r' → r.flags = f → r.level = .empty →
    r'.level = .empty →
    Together P (Filled r.enclosing r'.enclosing) r r' (t ++ ')' :: u) (t' ++ ')' :: u')
      (')' :: u) (')' :: u')

section
variable {P P' : Prop} {f : Flags} {t t' x x' : Text}

theorem Rewrites.imp (h : Rewrites P f t t') (hP : P → P') : Rewrites P' f t t' :=
  ⟨h.loose, h.loose', fun hr hf hu hu' => (h.reads hr hf hu hu').imp hP fun _ _ h => h⟩

theorem rewrites_nil : Rewrites True f [] [] :=
  ⟨loose_nil, loose_nil, fun hr _ _ _ => .of_holds trivial (.refl hr)⟩

/-- Texts are exchanged part by part. -/
theorem Rewrites.append (h : Rewrites P f t t') (h' : Rewrites P' f x x') :
    Rewrites (P ∧ P') f (t ++ x) (t' ++ x') := by
  refine ⟨h.loose.append h'.loose, h.loose'.append h'.loose', fun {r r' u u'} hr hf hu hu' => ?_⟩
  rw [List.append_assoc, List.append_assoc]
  refine (h.reads hr hf (h'.loose.append hu) (h'.loose'.append hu')).bind fun hP s s' hs => ?_
  refine (h'.reads (hs.alike hr) (hs.flags.trans hf) hu hu').imp (fun hP' => ⟨hP, hP'⟩) ?_
  exact fun _ _ => hs.trans

/-- A bar between alternatives. -/
theorem rewrites_bar (hf : f.verbose = false) : Rewrites True f "|".toList "|".toList := by
  have hloose : Loose "|".toList := loose_cons (by decide)
  refine ⟨hloose, hloose, fun {r r' u u'} hr hrf _ _ => ?_⟩
  have hbar : ∀ {s : Reader} {v : Text}, s.flags = f →
      s.Runs ('|' :: v) { s with level := s.level.split } v := fun hs =>
    .of_step (by rw [hs, hf]) rfl (Nat.le_refl _)
  refine .of_runs (hbar hrf) (hbar (hr.flags ▸ hrf)) (.of_holds trivial ?_)
  exact ⟨rfl, hr.level.split, hr.groups, hr.names, rfl, rfl, rfl⟩

/-- A text that adds an item. -/
theorem rewrites_of_push {e : Expr} {d : ℕ} (ht : Loose t)
    (h : ∀ (r : Reader) (u : Text), r.flags = f → r.Runs (t ++ u) (r.push e d) u) :
    Rewrites True f t t := by
  refine ⟨ht, ht, fun {r r' u u'} hr hf _ _ => ?_⟩
  refine .of_runs (h r u hf) (h r' u' (hr.flags ▸ hf)) (.of_holds trivial ?_)
  exact ⟨rfl, hr.level.push _ (Nat.le_refl d), hr.groups, hr.names, rfl, rfl, rfl⟩

/-! ## Groups -/

theorem Rewrites.inside (h : Rewrites P f t t') (hf : f.verbose = false) :
    RewritesInside P f t t' := by
  refine ⟨fun {r r' u u'} hr hrf _ _ => ?_⟩
  have hclose : ∀ {v : Text}, Loose (')' :: v) := loose_cons (by decide)
  refine (h.reads hr hrf hclose hclose).imp id fun s s' hs => ?_
  have hs' := hs.alike hr
  exact ⟨by rw [hs.flags, hrf, hf], by rw [← hs'.flags, hs.flags, hrf, hf], hs.level.close.1,
    hs.level.close.2, hs.groups, hs.names, hs.enclosing, hs.enclosing'⟩

/-- A group that does not capture. -/
theorem RewritesInside.group (h : RewritesInside P f t t') (hf : f.verbose = false) :
    Rewrites P f ("(?:".toList ++ t ++ ")".toList) ("(?:".toList ++ t' ++ ")".toList) := by
  have hloose : ∀ {v : Text}, Loose ("(?:".toList ++ v ++ ")".toList) := loose_cons (by decide)
  refine ⟨hloose, hloose, fun {r r' u u'} hr hrf _ _ => ?_⟩
  have hopen : ∀ {s : Reader} {v : Text}, s.flags = f →
      s.Runs ('(' :: '?' :: ':' :: v) (s.openPlain s.flags) v := fun hs =>
    .of_step (by rw [hs, hf]) (step_openPlain (by rw [hs, hf]) _) (Nat.le_add_right _ 2)
  rw [List.append_assoc, List.append_assoc, List.append_assoc, List.append_assoc]
  refine .of_runs (hopen hrf) (hopen (hr.flags ▸ hrf)) ?_
  have hopened : (r.openPlain r.flags).Alike (r'.openPlain r'.flags) :=
    ⟨hr.flags, .refl, hr.groups, hr.names⟩
  refine (h.reads hopened hrf rfl rfl).bind fun hP s s' hs => ?_
  exact (hs.together hr rfl).imp (fun _ => hP) fun _ _ h => h

/-- A group that captures. -/
theorem RewritesInside.capture (h : RewritesInside P f t t') (hf : f.verbose = false)
    (ht : t.head? ≠ some '?') (ht' : t'.head? ≠ some '?') :
    Rewrites P f ('(' :: t ++ ")".toList) ('(' :: t' ++ ")".toList) := by
  have hloose : ∀ {v : Text}, Loose ('(' :: v ++ ")".toList) := loose_cons (by decide)
  refine ⟨hloose, hloose, fun {r r' u u'} hr hrf _ _ => ?_⟩
  have hopen : ∀ {s : Reader} {v w : Text}, s.flags = f → v.head? ≠ some '?' →
      s.Runs ('(' :: (v ++ ')' :: w)) (s.openCapture none) (v ++ ')' :: w) := by
    intro s v w hs hv
    have hsv : s.flags.verbose = false := by rw [hs, hf]
    refine .of_step hsv (openGroup_of_ne hsv ?_) (Nat.le_refl _)
    cases v with
    | nil => exact fun h => absurd (Option.some.inj h) (by decide)
    | cons c v => exact hv
  rw [List.append_assoc, List.append_assoc]
  refine .of_runs (hopen hrf ht) (hopen (hr.flags ▸ hrf) ht') ?_
  have hopened : (r.openCapture none).Alike (r'.openCapture none) :=
    ⟨hr.flags, .refl, congrArg (· + 1) hr.groups, hr.names⟩
  refine (h.reads hopened hrf rfl rfl).bind fun hP s s' hs => ?_
  have hcapture : some (r.groups + 1, (none : Option Text)) = some (r'.groups + 1, none) := by
    rw [hr.groups]
  exact (hs.together hr hcapture).imp (fun _ => hP) fun _ _ h => h

/-! ## Whole expressions -/

/-- A condition at the start of a line or of the text. -/
theorem rewrites_caret (hf : f.verbose = false) : Rewrites True f "^".toList "^".toList := by
  refine rewrites_of_push (e := .look (lineStart f)) (d := 0) (loose_cons (by decide)) fun r u hr =>
    .of_step (by rw [hr, hf]) ?_ (Nat.le_refl _)
  show Except.ok (r.push (.look (lineStart r.flags)) 0, u) = _
  rw [hr]

theorem read_of_run {s : Reader} (h : (Reader.initial f).run t.length t = .ok s) :
    Regex.read f t = if s.enclosing ≠ [] then .error .unclosedGroup
      else if depthLimit < s.level.close.2 then .error .tooDeep else .ok s.level.close.1 := by
  unfold Regex.read
  rw [h, Except.bind]
  cases s.enclosing with
  | nil => rfl
  | cons g gs => exact (if_pos (List.cons_ne_nil g gs)).symm

theorem Reader.Fails.read {t : Text} (h : (Reader.initial f).Fails t) :
    ∃ x, Regex.read f t = .error x := by
  cases hrun : (Reader.initial f).run t.length t with
  | error x =>
    refine ⟨x, ?_⟩
    unfold Regex.read
    rw [hrun]
    rfl
  | ok s =>
    rw [read_of_run hrun]
    split_ifs with hs hd
    · exact ⟨_, rfl⟩
    · exact ⟨_, rfl⟩
    · obtain hl | ⟨g, hg, -⟩ := h _ s (Nat.le_refl _) hrun
      · exact absurd hl.le_close hd
      · rw [not_not.1 hs] at hg
        cases hg

theorem Reader.Runs.read {s : Reader} (h : (Reader.initial f).Runs t s []) (hs : s.enclosing = []) :
    Regex.read f t =
      if depthLimit < s.level.close.2 then .error .tooDeep else .ok s.level.close.1 := by
  rw [read_of_run h.run_eq, if_neg (not_not.2 hs)]

/-- Both texts are refused, or `P` holds and both are read as the same expression, unless
    the second one is nested too deeply. -/
def ReadAlike (P : Prop) (f : Flags) (t t' : Text) : Prop :=
  ((∃ x, Regex.read f t = .error x) ∧ ∃ x, Regex.read f t' = .error x) ∨
    P ∧ (Regex.read f t' = .error .tooDeep ∨
      ∃ e, Regex.read f t = .ok e ∧ Regex.read f t' = .ok e)

/-- What is read side by side as a whole is read alike. -/
theorem Reader.Together.read {Q : Reader → Reader → Prop}
    (h : Together P Q (.initial f) (.initial f) t t' [] [])
    (hQ : ∀ s s', Q s s' → (s.level.close.1 = s'.level.close.1 ∧ s.level.close.2 ≤ s'.level.close.2) ∧
      s.enclosing = [] ∧ s'.enclosing = []) :
    ReadAlike P f t t' := by
  obtain ⟨hf, hf'⟩ | ⟨hP, s, s', hs, hrun, hrun'⟩ := h
  · exact .inl ⟨hf.read, hf'.read⟩
  · obtain ⟨⟨hexpr, hdepth⟩, hend, hend'⟩ := hQ s s' hs
    refine .inr ⟨hP, ?_⟩
    rw [hrun.read hend, hrun'.read hend', ← hexpr]
    by_cases hd : depthLimit < s'.level.close.2
    · exact .inl (if_pos hd)
    · exact .inr ⟨_, if_neg fun h => hd (h.trans_le hdepth), if_neg hd⟩

/-- **Exchange.** A regular expression is read alike when parts of it are exchanged. -/
theorem Rewrites.read (h : Rewrites P f t t') : ReadAlike P f t t' := by
  have halike : (Reader.initial f).Alike (.initial f) := ⟨rfl, .refl, rfl, rfl⟩
  have htogether := h.reads halike rfl loose_nil loose_nil
  rw [List.append_nil, List.append_nil] at htogether
  exact htogether.read fun _ _ hs => ⟨hs.level.close, hs.enclosing, hs.enclosing'⟩

end

end PathRouting.Regex
