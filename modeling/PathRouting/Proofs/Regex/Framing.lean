/-
  A regular expression inside another one.

  A part of a regular expression is read where it stands as it is read alone, behind
  the groups in front of it and within those around it.

  * `Reader.within`: a reader of the part alone, put to the place where the part starts.
  * `Reader.step_within`: what a construct does there, if it does not close a group that
    it does not stand in, or go on with what is in front of the part. A name that a group
    in front has already is refused.
-/
import PathRouting.Proofs.Regex.Locality.Reader
import PathRouting.Proofs.Regex.Renumbering

namespace PathRouting.Regex

/-! ## Expressions, items and levels -/

namespace Expr

theorem isEmptyOnly_shifted (n : ℕ) (e : Expr) : (e.shifted n).isEmptyOnly = e.isEmptyOnly := by
  induction e with
  | group _ _ e ih => exact ih
  | repeated _ _ _ e ih => simp only [shifted, isEmptyOnly, ih]
  | seq a b iha ihb | alt a b iha ihb => simp only [shifted, isEmptyOnly, iha, ihb]
  | _ => rfl

theorem iterate_shifted (n min : ℕ) (max : Option ℕ) (greedy : Bool) (e : Expr) :
    (e.shifted n).iterate min max greedy = (e.iterate min max greedy).shifted n := by
  unfold iterate
  rw [isEmptyOnly_shifted]
  dsimp only
  split_ifs <;> rfl

end Expr

/-- An item behind `n` other groups. -/
def Item.shifted (n : ℕ) (i : Item) : Item :=
  { i with expr := i.expr.shifted n }

namespace Level

/-- A level behind `n` other groups. -/
def shifted (n : ℕ) (l : Level) : Level :=
  ⟨l.items.map (Item.shifted n), l.branches.map fun b => (b.1.shifted n, b.2)⟩

variable (n : ℕ) (l : Level)

theorem sequence_shifted :
    (l.shifted n).sequence = (l.sequence.1.shifted n, l.sequence.2) := by
  have hexprs : (l.items.map (Item.shifted n)).reverse.map (·.expr) =
      (l.items.reverse.map (·.expr)).map (Expr.shifted n) := by
    rw [← List.map_reverse, List.map_map, List.map_map]
    rfl
  have hdepth : (l.items.map (Item.shifted n)).map (·.depth) = l.items.map (·.depth) := by
    rw [List.map_map]
    rfl
  unfold sequence shifted
  dsimp only
  rw [hexprs, Expr.sequence_shifted]
  refine Prod.ext rfl ?_
  match h : l.items with
  | [] => rfl
  | [i] => rfl
  | i :: j :: items =>
    rw [h] at hdepth
    show 1 + (((i :: j :: items).map (Item.shifted n)).map (·.depth)).foldr Nat.max 0 = _
    rw [hdepth]

theorem split_shifted : (l.shifted n).split = l.split.shifted n := by
  unfold split
  rw [sequence_shifted]
  rfl

theorem all_shifted : ((l.shifted n).sequence :: (l.shifted n).branches).reverse =
    (l.sequence :: l.branches).reverse.map fun b => (b.1.shifted n, b.2) := by
  rw [sequence_shifted, List.map_reverse]
  rfl

theorem close_shifted : (l.shifted n).close = (l.close.1.shifted n, l.close.2) := by
  have hall := all_shifted n l
  refine Prod.ext ?_ ?_
  · have hexprs : ((l.sequence :: l.branches).reverse.map fun b => (b.1.shifted n, b.2)).map (·.1) =
        ((l.sequence :: l.branches).reverse.map (·.1)).map (Expr.shifted n) := by
      rw [List.map_map, List.map_map]
      rfl
    rw [close_eq, close_eq, hall, hexprs, Expr.ofAlternatives_shifted]
  · unfold close
    match h : l.branches with
    | [] =>
      have hnil : (l.shifted n).branches = [] := by
        unfold shifted
        rw [h]
        rfl
      rw [hnil, sequence_shifted]
    | b :: bs =>
      have hcons : (l.shifted n).branches =
          (b.1.shifted n, b.2) :: bs.map fun b => (b.1.shifted n, b.2) := by
        unfold shifted
        rw [h]
        rfl
      rw [hcons, h] at hall
      rw [hcons]
      dsimp only
      rw [hall, List.map_map]
      rfl

end Level

theorem OpenGroup.wrap_shifted (g : OpenGroup) (l : Level) (n : ℕ) (e : Expr) :
    OpenGroup.wrap ⟨l, g.flags, g.capture.map fun c => (c.1 + n, c.2)⟩ (e.shifted n) =
      (g.wrap e).shifted n := by
  unfold wrap
  cases g.capture <;> rfl

namespace Reader

/-- A level of the reader of a part, put to its place; `gs` are the groups of the part
    around it. The outermost one goes on the level in front of the part. -/
def insideOf (b : Reader) (gs : List OpenGroup) (l : Level) : Level :=
  match gs with
  | [] => ⟨(l.shifted b.groups).items ++ b.level.items,
      (l.shifted b.groups).branches ++ b.level.branches⟩
  | _ :: _ => l.shifted b.groups

/-- The groups around a part behind those of the part. -/
def around (b : Reader) : List OpenGroup → List OpenGroup
  | [] => b.enclosing
  | g :: gs => ⟨b.insideOf gs g.outer, g.flags, g.capture.map fun c => (c.1 + b.groups, c.2)⟩ ::
      b.around gs

/-- The reader of a part alone, put to the place where the reader `b` meets the part. -/
def within (b r : Reader) : Reader :=
  ⟨r.flags, b.insideOf r.enclosing r.level, b.around r.enclosing, r.groups + b.groups,
    r.names ++ b.names⟩

section
variable {b r r' : Reader}

theorem within_flags : (b.within r).flags = r.flags := rfl

theorem insideOf_push (gs : List OpenGroup) (l : Level) (e : Expr) (depth : ℕ) :
    b.insideOf gs (l.push e depth) = (b.insideOf gs l).push (e.shifted b.groups) depth := by
  cases gs <;> rfl

theorem within_push (e : Expr) (depth : ℕ) :
    b.within (r.push e depth) = (b.within r).push (e.shifted b.groups) depth := by
  unfold within push
  rw [insideOf_push]

theorem within_initial : b.within (.initial b.flags) = b := by
  simp [within, initial, insideOf, around, Level.empty, Level.shifted]

/-! ## Constructs -/

theorem within_openCapture (name : Option Text) :
    (b.within r).openCapture name = b.within (r.openCapture name) := by
  have hgroups : r.groups + b.groups + 1 = r.groups + 1 + b.groups := Nat.add_right_comm _ _ _
  refine (Reader.mk.injEq ..).mpr ⟨rfl, rfl, ?_, hgroups, (List.append_assoc ..).symm⟩
  show (⟨_, _, some (r.groups + b.groups + 1, name)⟩ : OpenGroup) :: _ =
    ⟨_, _, some (r.groups + 1 + b.groups, name)⟩ :: _
  rw [hgroups]
  rfl

/-- A level of the part that ends an alternative. In the outermost one nothing may be
    in front. -/
theorem within_split (h : r.enclosing = [] → b.level.items = []) :
    { b.within r with level := (b.within r).level.split } =
      b.within { r with level := r.level.split } := by
  have hlevel : (b.insideOf r.enclosing r.level).split = b.insideOf r.enclosing r.level.split := by
    cases hr : r.enclosing with
    | nil =>
      unfold insideOf
      rw [h hr, ← Level.split_shifted]
      simp only [List.append_nil]
      rfl
    | cons g gs => exact Level.split_shifted _ _
  unfold within
  rw [hlevel]

theorem closeGroup_cons {g : OpenGroup} {gs : List OpenGroup} (hr : r.enclosing = g :: gs) :
    r.closeGroup = .ok { r with
      flags := g.flags
      level := g.outer.push (g.wrap r.level.close.1) (r.level.close.2 + 1)
      enclosing := gs } :=
  closeGroup_eq_ok.2 ⟨g, gs, hr, rfl⟩

theorem within_closeGroup (h : r.enclosing ≠ []) :
    (b.within r).closeGroup = r.closeGroup.map b.within := by
  obtain ⟨g, gs, hr⟩ := List.exists_cons_of_ne_nil h
  have henc : (b.within r).enclosing = ⟨b.insideOf gs g.outer, g.flags,
      g.capture.map fun c => (c.1 + b.groups, c.2)⟩ :: b.around gs := by
    unfold within
    rw [hr]
    rfl
  have hlevel : (b.within r).level = r.level.shifted b.groups := by
    unfold within
    rw [hr]
    rfl
  rw [closeGroup_cons henc, closeGroup_cons hr, hlevel, Level.close_shifted, OpenGroup.wrap_shifted]
  refine congrArg Except.ok ?_
  unfold within
  rw [insideOf_push]

theorem insideOf_items_cons (gs : List OpenGroup) (i : Item) (items : List Item)
    (branches : List (Expr × ℕ)) :
    b.insideOf gs ⟨i :: items, branches⟩ =
      ⟨i.shifted b.groups :: (b.insideOf gs ⟨items, branches⟩).items,
        (b.insideOf gs ⟨items, branches⟩).branches⟩ := by
  cases gs <;> rfl

theorem within_iterate {min : ℕ} {max : Option ℕ} {greedy : Bool}
    (h : r.enclosing = [] → r.level.items = [] → b.level.items = []) :
    (b.within r).iterate min max greedy = (r.iterate min max greedy).map b.within := by
  obtain ⟨flags, ⟨items, branches⟩, enclosing, groups, names⟩ := r
  match items with
  | [] =>
    have hnil : (b.within ⟨flags, ⟨[], branches⟩, enclosing, groups, names⟩).level.items = [] := by
      cases enclosing with
      | nil => exact h rfl rfl
      | cons g gs => rfl
    unfold iterate
    rw [hnil]
    rfl
  | ⟨e, depth, directive⟩ :: items =>
    have hcons := insideOf_items_cons (b := b) enclosing ⟨e, depth, directive⟩ items branches
    unfold iterate within
    dsimp only
    rw [hcons]
    cases directive with
    | true => rfl
    | false =>
      dsimp only [Item.shifted]
      rw [Expr.iterate_shifted]
      exact congrArg (fun l => Except.ok (⟨flags, l, b.around enclosing, _, _⟩ : Reader))
        (insideOf_items_cons enclosing ⟨e.iterate min max _, depth + 1, false⟩ items branches).symm

theorem within_pushAtom (a : Atom) : (b.within r).pushAtom a = (r.pushAtom a).map b.within := by
  have hset : ∀ s : CharSet, (b.within r).push (.ofSet s) 0 = b.within (r.push (.ofSet s) 0) := by
    intro s
    rw [within_push, Expr.shifted_ofSet]
  unfold pushAtom
  cases a with
  | literal c byte =>
    dsimp only
    rw [within_flags]
    split_ifs
    · rfl
    · exact congrArg Except.ok (hset _)
  | look l => exact congrArg Except.ok (within_push (b := b) (r := r) (.look l) 0).symm
  | set s => exact congrArg Except.ok (hset s)

theorem map_within (x : Except Rejection Reader) (t : Text) :
    (x.map b.within).map (fun s => (s, t)) =
      (x.map fun s => (s, t)).map fun p => (b.within p.1, p.2) := by
  cases x <;> rfl

theorem iterate_ok_items {min : ℕ} {max : Option ℕ} {greedy : Bool}
    (h : r.iterate min max greedy = .ok r') : r.level.items ≠ [] := by
  obtain ⟨_, _, _, hi, -⟩ := iterate_eq_ok.1 h
  exact List.ne_nil_of_mem (hi ▸ List.mem_cons_self ..)

theorem within_iterateCounted (h : r.enclosing = [] → r.level.items = [] → b.level.items = [])
    (t : Text) :
    (b.within r).iterateCounted t =
      (r.iterateCounted t).map fun p => (b.within p.1, p.2) := by
  have hhead : (b.within r).level.items.head?.all (·.directive) =
      r.level.items.head?.all (·.directive) := by
    obtain ⟨flags, ⟨items, branches⟩, enclosing, groups, names⟩ := r
    match items, enclosing with
    | [], [] =>
      have hb := h rfl rfl
      show (([] : List Item) ++ b.level.items).head?.all _ = _
      rw [hb]
      rfl
    | [], g :: gs => rfl
    | i :: items, enclosing =>
      have hcons := insideOf_items_cons (b := b) enclosing i items branches
      unfold within
      dsimp only
      rw [hcons]
      rfl
  unfold iterateCounted
  rw [hhead, within_flags]
  split_ifs
  · rfl
  · cases readCounts r.flags t with
    | error => rfl
    | ok p =>
      show Except.map _ ((b.within r).iterate _ _ _) = Except.map _ (Except.map _ (r.iterate _ _ _))
      rw [within_iterate h]
      exact map_within _ _

/-- What a construct that is no parenthesis does in its place. -/
theorem read_within {k : Construct} (hk : k ≠ .group) (hclose : k = .close → r.enclosing ≠ [])
    (hbar : k = .bar → r.enclosing = [] → b.level.items = [])
    (hrep : r.enclosing = [] → r.level.items = [] → b.level.items = [] ∨
      (∀ min max, k ≠ .iterate min max) ∧ k ≠ .counts) (t : Text) :
    k.read (b.within r) t = (k.read r t).map fun p => (b.within p.1, p.2) := by
  cases k with
  | group => exact absurd rfl hk
  | close =>
    show Except.map _ ((b.within r).closeGroup) = Except.map _ (Except.map _ r.closeGroup)
    rw [within_closeGroup (hclose rfl)]
    exact map_within _ _
  | bar =>
    exact congrArg (fun s => Except.ok (s, t)) (within_split (hbar rfl))
  | set =>
    show Except.map _ (readClass r.flags t) = Except.map _ (Except.map _ (readClass r.flags t))
    cases readClass r.flags t with
    | error => rfl
    | ok p =>
      refine congrArg (fun s => Except.ok (s, p.2)) ?_
      show (b.within r).push (.ofSet p.1.1) p.1.2 = b.within (r.push (.ofSet p.1.1) p.1.2)
      rw [within_push, Expr.shifted_ofSet]
  | iterate min max =>
    have h : r.enclosing = [] → r.level.items = [] → b.level.items = [] := fun he hi =>
      (hrep he hi).resolve_right fun h => h.1 min max rfl
    show Except.map _ ((b.within r).iterate _ _ _) = Except.map _ (Except.map _ (r.iterate _ _ _))
    rw [within_iterate h]
    exact map_within _ _
  | counts =>
    exact within_iterateCounted (fun he hi => (hrep he hi).resolve_right fun h => h.2 rfl) t
  | escape =>
    show (readEscape r.flags t).bind _ = Except.map _ ((readEscape r.flags t).bind _)
    cases readEscape r.flags t with
    | error => rfl
    | ok p =>
      show Except.map _ ((b.within r).pushAtom p.1) = Except.map _ (Except.map _ (r.pushAtom p.1))
      rw [within_pushAtom]
      exact map_within _ _
  | dot =>
    show Except.map _ (dot r.flags) = Except.map _ (Except.map _ (dot r.flags))
    cases dot r.flags with
    | error => rfl
    | ok s =>
      refine congrArg (fun s => Except.ok (s, t)) ?_
      show (b.within r).push (.ofSet s) 0 = b.within (r.push (.ofSet s) 0)
      rw [within_push, Expr.shifted_ofSet]
  | look l =>
    refine congrArg (fun s => Except.ok (s, t)) ?_
    show (b.within r).push (.look (l r.flags)) 0 = b.within (r.push (.look (l r.flags)) 0)
    rw [within_push]
    rfl
  | char c =>
    show Except.map _ ((b.within r).pushAtom _) = Except.map _ (Except.map _ (r.pushAtom _))
    rw [within_pushAtom]
    exact map_within _ _

/-! ## Names -/

/-- No group of the part has the name of one in front of it. -/
def Fresh (b r : Reader) : Prop :=
  ∀ name ∈ r.names, name ∉ b.names

instance (b r : Reader) : Decidable (Fresh b r) := by
  unfold Fresh
  infer_instance

/-- What the reader of a part finds, in its place: names that are taken are refused. -/
def joined (b : Reader) (x : Except Rejection (Reader × Text)) :
    Except Rejection (Reader × Text) :=
  x.bind fun p => if Fresh b p.1 then .ok (b.within p.1, p.2) else .error .badGroupName

theorem joined_eq_map {x : Except Rejection (Reader × Text)}
    (h : ∀ p, x = .ok p → Fresh b p.1) :
    joined b x = x.map fun p => (b.within p.1, p.2) := by
  cases x with
  | error => rfl
  | ok p => exact if_pos (h p rfl)

theorem fresh_openCapture (hr : Fresh b r) (name : Text) :
    Fresh b (r.openCapture (some name)) ↔ name ∉ b.names := by
  constructor
  · intro h
    exact h name (List.mem_cons_self ..)
  · intro h n hn
    rcases List.mem_cons.1 hn with rfl | hn
    · exact h
    · exact hr n hn

theorem within_openAs (hr : Fresh b r) (name : Text) (t : Text) :
    ((b.within r).openAs name).map (fun s => (s, t)) =
      joined b ((r.openAs name).map fun s => (s, t)) := by
  have hnames : (b.within r).names = r.names ++ b.names := rfl
  cases name with
  | nil => rfl
  | cons c cs =>
    unfold openAs
    dsimp only
    by_cases hc : (!isGroupNameChar true c || !cs.all (isGroupNameChar false)) = true
    · rw [if_pos hc, if_pos hc]
      rfl
    rw [if_neg hc, if_neg hc, hnames]
    by_cases hold : c :: cs ∈ r.names
    · rw [if_pos (by simp [hold]), if_pos (by simp [hold])]
      rfl
    have hold' : ¬ r.names.contains (c :: cs) = true := by simpa using hold
    rw [if_neg hold']
    by_cases hfront : c :: cs ∈ b.names
    · rw [if_pos (by simp [hfront])]
      refine (if_neg ?_).symm
      rw [fresh_openCapture hr]
      exact not_not_intro hfront
    · rw [if_neg (by simp [hold, hfront]), within_openCapture]
      exact (if_pos ((fresh_openCapture hr _).2 hfront)).symm

theorem within_openNamed (hr : Fresh b r) (t : Text) :
    (b.within r).openNamed t = joined b (r.openNamed t) := by
  by_cases ht : '>' ∈ t
  · obtain ⟨name, t, rfl, hn⟩ := List.eq_append_cons_of_mem ht
    rw [openNamed_append hn, openNamed_append hn]
    exact within_openAs hr name t
  · have herror : ∀ s : Reader, s.openNamed t = .error .badGroupName := by
      intro s
      have hdrop : t.dropWhile (· ≠ '>') = [] := by
        refine List.dropWhile_eq_nil_iff.2 fun c hc => decide_eq_true ?_
        rintro rfl
        exact ht hc
      unfold openNamed
      rw [hdrop]
      split
      case h_1 he => cases he
      case h_2 => rfl
    rw [herror, herror]
    rfl

theorem openFlags_names {t : Text} {p : Reader × Text} (h : r.openFlags t = .ok p) :
    p.1.names = r.names := by
  obtain ⟨⟨f, directive, t'⟩, -, he⟩ := map_eq_ok.1 h
  dsimp only at he
  split_ifs at he <;> cases he <;> rfl

theorem within_openFlags (hr : Fresh b r) (t : Text) :
    (b.within r).openFlags t = joined b (r.openFlags t) := by
  rw [joined_eq_map fun p hp name hn => hr name (openFlags_names hp ▸ hn)]
  unfold openFlags
  rw [within_flags]
  cases r.flags.read t with
  | error => rfl
  | ok p =>
    obtain ⟨f, directive, t'⟩ := p
    cases directive with
    | false => rfl
    | true =>
      refine congrArg (fun s => Except.ok (s, t')) ?_
      have hcons := insideOf_items_cons (b := b) r.enclosing ⟨.empty, 0, true⟩ r.level.items
        r.level.branches
      exact congrArg (fun l => (⟨f, l, b.around r.enclosing, _, _⟩ : Reader)) hcons.symm

theorem within_openGroup (hr : Fresh b r) (t : Text) :
    (b.within r).openGroup t = joined b (r.openGroup t) := by
  unfold openGroup
  rw [within_flags]
  split
  case h_5 => exact within_openNamed hr _
  case h_6 => exact within_openNamed hr _
  case h_7 => exact within_openFlags hr _
  case h_8 =>
    refine (congrArg (fun s => Except.ok (s, _)) (within_openCapture none)).trans ?_
    exact (if_pos hr).symm
  all_goals rfl

/-! ## Steps -/

theorem step_names {c : Char} (hc : c ≠ '(') {t : Text} {p : Reader × Text}
    (h : r.step c t = .ok p) : p.1.names = r.names := by
  obtain ⟨r', rest⟩ := p
  obtain ⟨rfl, -⟩ | ⟨-, h, -⟩ | ⟨-, h, -⟩ | ⟨-, -, h⟩ := step_cases h
  · exact absurd rfl hc
  · exact closeGroup_names h
  · rw [h]
  · obtain ⟨e, depth, -, h⟩ | ⟨min, max, greedy, h⟩ := h
    · rw [h]
      rfl
    · rw [iterate_eq_level h]

/-- **In its place.** What a construct of a part does where the part stands. It may not
    close a group around the part; in front of the part there may be nothing in the same
    alternative, unless the construct neither ends it nor repeats what is in front. -/
theorem step_within {c : Char} {t : Text} (hr : Fresh b r)
    (hclose : c = ')' → r.enclosing ≠ [])
    (hb : b.level.items = [] ∨ c ≠ '|' ∧ ∃ p, r.step c t = .ok p) :
    (b.within r).step c t = joined b (r.step c t) := by
  by_cases hc : c = '('
  · subst hc
    exact within_openGroup hr t
  rw [joined_eq_map fun p hp name hn => hr name (step_names hc hp ▸ hn)]
  rw [step_eq] at hb
  rw [step_eq, step_eq]
  have hmark : ∀ {k : Construct} {e : Char}, Construct.of c = k → k.mark? = some e → c = e :=
    fun hk he => Construct.eq_of_mark (hk ▸ he)
  refine read_within (fun h => hc (hmark h rfl)) (fun h => hclose (hmark h rfl)) ?_ ?_ t
  · intro hk _
    exact hb.resolve_right fun h => h.1 (hmark hk rfl)
  · intro _ hitems
    refine hb.imp_right ?_
    rintro ⟨-, p, hp⟩
    refine ⟨fun min max hk => ?_, fun hk => ?_⟩
    · rw [hk] at hp
      obtain ⟨s, hs, -⟩ := map_eq_ok.1 hp
      exact iterate_ok_items hs hitems
    · rw [hk] at hp
      obtain ⟨_, _, _, -, hs, -⟩ := iterateCounted_eq_ok.1 hp
      exact iterate_ok_items hs hitems

end

end Reader

end PathRouting.Regex
