/-
  Reading the source of a tree.

  * `Lowers.spells`: the text of a source is read as its expressions.
  * `Lowers.shift_slots`: the slots of a source number its variables in order.
  * `compile_cases`: a tree without raw regular expressions compiles to what its
    source is read as, if that is neither nested too deeply nor too large.
-/
import PathRouting.Proofs.Pattern.Lowering
import PathRouting.Proofs.Pattern.Slots

namespace PathRouting.Pattern

open Regex

namespace Lowers

section
variable {cs : Bool} {p : Expr → Bool} {all : Bool} {s : Source} {xs : List Text}
  {es : ℕ → List Expr} {q : ℕ → Bool} {w : ℕ → Expr} {f : Ways}

theorem plain (h : Lowers cs p all s xs es q w f) : s.Plain := by
  induction h with
  | nil => exact fun h => nomatch h
  | char c =>
    unfold Source.Plain Source.ofText
    dsimp only
    split_ifs with hc
    · exact fun h => absurd (Option.some.inj h) (by decide)
    · intro h
      rw [Option.some.inj h] at hc
      exact hc rfl
  | run => exact fun h => absurd (Option.some.inj h) (by decide)
  | append _ _ ha hb => exact ha.append hb
  | capture => exact fun h => absurd (Option.some.inj h) (by decide)
  | single _ ih => exact ih
  | cons _ _ ha hb => exact (ha.append (by decide)).append hb
  | group => exact fun h => absurd (Option.some.inj h) (by decide)

/-- **Reading.** The text of a source is read as its expressions. -/
theorem spells (h : Lowers cs p all s xs es q w f) :
    if all then SpellsAll (!cs) s.text es xs.length else Spells (!cs) s.text es xs.length := by
  induction h with
  | nil => exact spells_nil
  | char c => exact spells_char c
  | run hm _ _ hclass => exact spells_run hm hclass
  | append _ hb iha ihb =>
    have := Spells.append iha ihb hb.plain
    rw [← List.length_append] at this
    exact this
  | capture name h ih =>
    have := Spells.capture ih h.plain
    rw [Nat.add_comm, ← List.length_cons] at this
    exact this
  | single _ ih => exact Spells.all ih
  | @cons a b xs ys es fs _ _ _ _ _ _ _ _ iha ihb =>
    have ht : a.text ++ '|' :: b.text = (a ++ .ofText "|".toList ++ b).text :=
      (List.append_assoc a.text "|".toList b.text).symm
    have := Spells.cons iha ihb
    rw [ht, ← List.length_append] at this
    exact this
  | group _ ih => exact SpellsAll.group ih

/-- A source accounts for a group for each of its variables. -/
theorem groups_eq (h : Lowers cs p all s xs es q w f) : s.groups = xs.length := by
  induction h with
  | nil | char | run => rfl
  | append _ _ ha hb => rw [Source.groups_append, List.length_append, ha, hb]
  | @capture s xs _ _ _ _ name _ ih =>
    have hg : (s.capture name).groups = 1 + s.groups := rfl
    rw [hg, List.length_cons, ih, Nat.add_comm]
  | single _ ih => exact ih
  | cons _ _ ha hb =>
    rw [Source.groups_append, Source.groups_append, List.length_append, ha, hb]
    rfl
  | @group s _ _ _ _ _ _ ih =>
    have hg : s.group.groups = 0 + s.groups + 0 := rfl
    rw [hg, Nat.add_zero, Nat.zero_add, ih]

/-- The slots of some names, numbered from a number on. -/
def slotsFrom (xs : List Text) (n : ℕ) : List Slot :=
  (xs.zipIdx n).map fun x => ⟨x.1, x.2⟩

theorem slotsFrom_append (xs ys : List Text) (n : ℕ) :
    slotsFrom (xs ++ ys) n = slotsFrom xs n ++ slotsFrom ys (n + xs.length) := by
  rw [slotsFrom, List.zipIdx_append, List.map_append]
  rfl

/-- Behind other groups, slots number the variables from the next number on. -/
theorem shift_slots (h : Lowers cs p all s xs es q w f) (n : ℕ) :
    Source.shift n s.slots = slotsFrom xs (n + 1) := by
  have happend : ∀ (a b : Source) (n : ℕ), Source.shift n (a ++ b).slots =
      Source.shift n a.slots ++ Source.shift (n + a.groups) b.slots := by
    intro a b n
    simp [Source.slots_append, Source.shift, Nat.add_assoc]
  induction h generalizing n with
  | nil | char | run => rfl
  | append ha _ iha ihb =>
    rw [happend, iha, ihb, ha.groups_eq, slotsFrom_append, Nat.add_right_comm]
  | capture name _ ih =>
    rw [Source.capture, happend, happend, ih]
    exact List.append_nil _
  | single _ ih => exact ih n
  | cons ha _ iha ihb =>
    rw [happend, happend, iha, ihb, Source.groups_append, ha.groups_eq, slotsFrom_append,
      Nat.add_right_comm]
    exact congrArg (· ++ _) (List.append_nil _)
  | group _ ih =>
    rw [Source.group, happend, happend]
    exact (List.append_nil _).trans (ih n)

end

end Lowers

/-! ## Compiling a tree -/

theorem check_default (cs : Bool) : Options.check { caseSensitive := cs } = .ok () := by
  have h : ∀ cs, (Options.check { caseSensitive := cs }).isOk := by decide +kernel
  obtain ⟨_, h⟩ := exists_of_isOk (h cs)
  exact h

/-- **Reading a tree.** The text of a tree is read as `^` and its items, unless they are
    nested too deeply. -/
theorem read_anchored {cs : Bool} {s : Source} {es : ℕ → List Expr} {n : ℕ}
    (h : Spells (!cs) s.text es n) :
    Regex.read { caseInsensitive := !cs } (Matcher.anchored s) = .error .tooDeep ∨
      Regex.read { caseInsensitive := !cs } (Matcher.anchored s) =
        .ok (.sequence [.look .textStart, .sequence (es 0)]) := by
  have hstep : (Reader.initial (patternFlags (!cs))).step '^' ("(?:".toList ++ s.text ++ ")".toList) =
      .ok ((Reader.initial (patternFlags (!cs))).push (.look .textStart) 0,
        "(?:".toList ++ s.text ++ ")".toList) := rfl
  obtain ⟨items, hitems, hrun⟩ :=
    h.all.group ((Reader.initial (patternFlags (!cs))).push (.look .textStart) 0) [] rfl
      fun h => nomatch h
  rw [List.append_nil] at hrun
  have hread := ((Reader.Runs.of_step rfl hstep (Nat.le_refl _)).trans hrun).run_eq
  have hclose : (((Reader.initial (patternFlags (!cs))).push (.look .textStart) 0).add
      items n).level.close.1 = .sequence [.look .textStart, .sequence (es 0)] := by
    rw [close_eq]
    replace hitems : items.map (·.expr) = [.sequence (es 0)] := hitems
    simp [Reader.add, Reader.push, Level.push, Reader.initial, Level.empty, Level.sequence,
      Expr.ofAlternatives, hitems]
  have heq : Regex.read { caseInsensitive := !cs } (Matcher.anchored s) =
      if depthLimit < (((Reader.initial (patternFlags (!cs))).push (.look .textStart) 0).add
        items n).level.close.2 then .error .tooDeep
      else .ok (((Reader.initial (patternFlags (!cs))).push (.look .textStart) 0).add
        items n).level.close.1 := by
    rw [Regex.read, Matcher.anchored, List.append_assoc]
    exact congrArg (Except.bind · _) hread
  rw [heq, hclose]
  split_ifs
  · exact .inl rfl
  · exact .inr rfl

namespace Node

/-- The expression of a tree behind a `^`. -/
def compiled (n : Node) (ci : Bool) : Expr :=
  .sequence [.look .textStart, .sequence (n.items ci 0)]

/-- The same as its source is written. -/
def asWritten (n : Node) (ci : Bool) : Expr :=
  .seq (.look .textStart) (n.written ci 0)

variable {n : Node} {cs : Bool}

/-- The compiled expression means what is written, whatever alternatives share. -/
theorem of_compiled {M : Type} (I : Interpretation M) (hg : I.Groups) (hs : ∀ m, I.Splits m)
    (hw : n.WellFormed) (hr : n.rawFree) :
    I.of (n.compiled (!cs)) = I.of (n.asWritten (!cs)) := by
  have h : Lowers cs (fun _ => true) _ _ _ _ _ _ _ := lowers n hw hr
  exact h.of_anchored I hg (fun e _ => hs _) (h.shares_true 0)

theorem compiled_groupCount (hw : n.WellFormed) (hr : n.rawFree) :
    (n.compiled (!cs)).groupCount = n.variableNames.length := by
  refine Expr.groupCount_of_groupSet ?_
  have h : (n.compiled (!cs)).groupSet = ∅ ∪ (n.written (!cs) 0).groupSet :=
    of_compiled grouping grouping_groups grouping_splits hw hr
  rw [h, (lowers (p := fun _ => true) n hw hr).written_groupSet, Finset.empty_union, Nat.zero_add,
    Nat.zero_add]

end Node

section
variable {n : Node} {o : Options} {ci : Bool} {t : Text}

theorem regex_compile_of_read {e : Expr} (h : Regex.read { caseInsensitive := ci } t = .ok e) :
    Regex.compile ci t = if e.fits then .ok ⟨t, e⟩ else .error .tooLarge := by
  rw [Regex.compile, h]
  rfl

theorem regex_compile_of_rejected {x : Rejection}
    (h : Regex.read { caseInsensitive := ci } t = .error x) : Regex.compile ci t = .error x := by
  rw [Regex.compile, h]
  rfl

theorem compile_of_regex {r : Regex} (ho : o.check = .ok ())
    (h : Regex.compile (!o.caseSensitive) (Matcher.anchored (n.source o)) = .ok r)
    (hg : r.groupCount = (n.source o).groups) : compile n o = .ok ⟨r, (n.source o).slots⟩ := by
  rw [compile_eq, ho, Except.bind, h]
  exact if_pos hg

theorem compile_of_mismatch {r : Regex} (ho : o.check = .ok ())
    (h : Regex.compile (!o.caseSensitive) (Matcher.anchored (n.source o)) = .ok r)
    (hg : r.groupCount ≠ (n.source o).groups) :
    compile n o = .error (.groupCountMismatch (n.source o).groups r.groupCount) := by
  rw [compile_eq, ho, Except.bind, h]
  exact if_neg hg

theorem compile_of_rejected {x : Rejection} (ho : o.check = .ok ())
    (h : Regex.compile (!o.caseSensitive) (Matcher.anchored (n.source o)) = .error x) :
    compile n o = .error (.invalidRegex (Matcher.anchored (n.source o))) := by
  rw [compile_eq, ho, Except.bind, h]

end

/-- **Compiling.** A tree without raw regular expressions compiles, unless what is read
    is nested too deeply or too large. -/
theorem compile_cases {n : Node} {cs : Bool} (hw : n.WellFormed) (hr : n.rawFree) :
    (∃ x, (x = .tooDeep ∨ x = .tooLarge) ∧
      Regex.compile (!cs) (Matcher.anchored (n.source { caseSensitive := cs })) = .error x ∧
      compile n { caseSensitive := cs } =
        .error (.invalidRegex (Matcher.anchored (n.source { caseSensitive := cs })))) ∨
    compile n { caseSensitive := cs } =
      .ok ⟨⟨Matcher.anchored (n.source { caseSensitive := cs }), n.compiled (!cs)⟩,
        Lowers.slotsFrom n.variableNames 1⟩ := by
  have hl : Lowers cs (fun _ => true) _ _ _ _ _ _ _ := Node.lowers n hw hr
  have hspells := hl.spells
  rw [if_neg (by decide)] at hspells
  rcases read_anchored hspells with hread | hread
  · have h := regex_compile_of_rejected hread
    exact .inl ⟨.tooDeep, .inl rfl, h, compile_of_rejected (check_default cs) h⟩
  · have h := regex_compile_of_read hread
    split_ifs at h
    · have hslots : Source.shift 0 (n.source { caseSensitive := cs }).slots =
          Lowers.slotsFrom n.variableNames 1 := hl.shift_slots 0
      rw [Source.shift_zero] at hslots
      rw [← hslots]
      refine .inr (compile_of_regex (check_default cs) h ?_)
      exact (Node.compiled_groupCount hw hr).trans hl.groups_eq.symm
    · exact .inl ⟨.tooLarge, .inr rfl, h, compile_of_rejected (check_default cs) h⟩

end PathRouting.Pattern
