/-
  Reading the text of which the regular expressions of patterns are made.

  * `Reader.Runs`: the reader gets from one place of the text to another with no
    more constructs than it passes characters.
  * `Spells`: a text, with any other one behind it, is read as items with given
    expressions that open so many groups.
  * `runs_char`, `spells_char`, `spells_run`, `Spells.capture`, `SpellsAll.group`: escaped text,
    runs of characters, capturing groups, and groups that offer a choice.
-/
import PathRouting.Proofs.Regex.Constructs
import PathRouting.Proofs.Regex.Sets

namespace PathRouting.Regex

namespace Reader

/-- The reader gets from one place of the text to another, whatever fuel is left. -/
def Runs (r : Reader) (t : Text) (r' : Reader) (u : Text) : Prop :=
  ∃ n, n + u.length ≤ t.length ∧ ∀ fuel, r.run (n + fuel) t = r'.run fuel u

section
variable {r s s' : Reader} {t u v : Text}

theorem Runs.refl : Runs r t r t :=
  ⟨0, by rw [Nat.zero_add], fun fuel => by rw [Nat.zero_add]⟩

theorem Runs.trans (h : Runs r t s u) (h' : Runs s u s' v) : Runs r t s' v := by
  obtain ⟨n, hn, h⟩ := h
  obtain ⟨m, hm, h'⟩ := h'
  refine ⟨n + m, by omega, fun fuel => ?_⟩
  rw [Nat.add_assoc, h, h']

theorem Runs.of_step {c : Char} (hv : r.flags.verbose = false) (h : r.step c t = .ok (s, u))
    (hu : u.length ≤ t.length) : Runs r (c :: t) s u := by
  refine ⟨1, by rw [List.length_cons]; omega, fun fuel => ?_⟩
  have hs : skip r.flags (c :: t) = c :: t := by
    unfold skip
    rw [hv]
    rfl
  rw [Nat.add_comm 1 fuel, run, hs]
  dsimp only
  rw [h]
  rfl

/-- A run to the end of the text is all that is read. -/
theorem Runs.run_eq (h : Runs r t s []) : r.run t.length t = .ok s := by
  obtain ⟨n, hn, h⟩ := h
  obtain ⟨m, hm⟩ := Nat.exists_eq_add_of_le ((Nat.le_add_right n _).trans hn)
  have hs : skip s.flags [] = [] := by
    unfold skip
    split_ifs <;> rfl
  rw [hm, h, run, hs]

end

/-- Adds items to the level at hand, and groups to those met. -/
def add (r : Reader) (items : List Item) (n : ℕ) : Reader :=
  { r with
    level := { r.level with items := items.reverse ++ r.level.items }
    groups := r.groups + n }

theorem add_add (r : Reader) (is js : List Item) (m n : ℕ) :
    (r.add is m).add js n = r.add (is ++ js) (m + n) := by
  simp [add, Nat.add_assoc]

end Reader

open Reader

/-- The flags under which patterns are read. -/
def patternFlags (caseInsensitive : Bool) : Flags := { caseInsensitive }

/-- A text is read as items with given expressions, and opens so many groups; the
    expressions depend on how many groups are in front. What stands behind the text
    must not make the last repetition lazy. -/
def Spells (ci : Bool) (t : Text) (es : ℕ → List Expr) (n : ℕ) : Prop :=
  ∀ (r : Reader) (u : Text), r.flags = patternFlags ci → u.head? ≠ some '?' →
    ∃ items : List Item, items.map (·.expr) = es r.groups ∧ r.Runs (t ++ u) (r.add items n) u

section
variable {ci : Bool} {t t' : Text} {es es' : ℕ → List Expr} {n n' : ℕ}

theorem spells_nil : Spells ci [] (fun _ => []) 0 :=
  fun _ _ _ _ => ⟨[], rfl, .refl⟩

theorem Spells.append (h : Spells ci t es n) (h' : Spells ci t' es' n')
    (ht : t'.head? ≠ some '?') : Spells ci (t ++ t') (fun g => es g ++ es' (g + n)) (n + n') := by
  intro r u hr hu
  have hu' : (t' ++ u).head? ≠ some '?' := by
    cases t' with
    | nil => exact hu
    | cons c t' => exact ht
  obtain ⟨is, his, hrun⟩ := h r (t' ++ u) hr hu'
  obtain ⟨js, hjs, hrun'⟩ := h' (r.add is n) u hr hu
  refine ⟨is ++ js, by rw [List.map_append, his, hjs]; rfl, ?_⟩
  rw [List.append_assoc, ← add_add]
  exact hrun.trans hrun'

/-! ## Characters -/

/-- What a character is read as. -/
def charExpr (ci : Bool) (c : Char) : Expr :=
  .ofSet (.ofLiteral ci true c)

theorem step_plain (r : Reader) {c : Char} (hc : isMeta c = false) (u : Text) :
    r.step c u = (r.pushAtom (.literal c false)).map fun r' => (r', u) := by
  have hne : ∀ d, isMeta d = true → c ≠ d := by
    rintro d hd rfl
    rw [hc] at hd
    cases hd
  have hof : Reader.Construct.of c = .char c := by
    unfold Reader.Construct.of
    rw [if_neg (hne '(' rfl), if_neg (hne ')' rfl), if_neg (hne '|' rfl), if_neg (hne '[' rfl),
      if_neg (hne '?' rfl), if_neg (hne '*' rfl), if_neg (hne '+' rfl), if_neg (hne '\x7b' rfl),
      if_neg (hne '\\' rfl), if_neg (hne '.' rfl), if_neg (hne '^' rfl), if_neg (hne '$' rfl)]
  rw [Reader.step_eq, hof]
  rfl

theorem pushAtom_char {r : Reader} (hr : r.flags = patternFlags ci) (c : Char) :
    r.pushAtom (.literal c false) = .ok (r.push (charExpr ci c) 0) := by
  rw [pushAtom, hr]
  rfl

theorem readEscape_meta (f : Flags) {c : Char} (hc : isMeta c) (u : Text) :
    readEscape f (c :: u) = .ok (.literal c false, u) := by
  have hm : c ∈ "\\.+*?()|[]\x7b\x7d^$#&-~".toList := List.contains_iff_mem.1 hc
  have hall : "\\.+*?()|[]\x7b\x7d^$#&-~".toList.all fun c => Text.isDigit c = false ∧
      (c ≠ 'x' ∧ c ≠ 'u' ∧ c ≠ 'U') ∧ (c ≠ 'p' ∧ c ≠ 'P') ∧ isEscapable c = true := by
    decide +kernel
  obtain ⟨h1, h2, h3, h4⟩ := of_decide_eq_true (List.all_eq_true.1 hall c hm)
  have hof : Escape.of f c = .single (.ok (.literal c false)) := by
    unfold Escape.of
    rw [if_neg (by simp [h1]), if_neg (by tauto), if_neg (by tauto), if_pos h4]
  rw [readEscape_cons, hof]
  rfl

/-- A character, with a backslash if it means something. -/
theorem runs_char {r : Reader} (hr : r.flags = patternFlags ci) (c : Char) (u : Text) :
    r.Runs ((if isMeta c then ['\\', c] else [c]) ++ u) (r.push (charExpr ci c) 0) u := by
  have hv : r.flags.verbose = false := by
    rw [hr]
    rfl
  split_ifs with hc
  · refine .of_step hv ?_ (Nat.le_succ _)
    show ((readEscape r.flags (c :: u)).bind fun p =>
      (r.pushAtom p.1).map fun r' => (r', p.2)) = _
    rw [readEscape_meta _ hc]
    show (r.pushAtom (.literal c false)).map (fun r' => (r', u)) = _
    rw [pushAtom_char hr]
    rfl
  · refine .of_step hv ?_ (Nat.le_refl _)
    rw [step_plain r (Bool.not_eq_true _ ▸ hc), pushAtom_char hr]
    rfl

theorem spells_char (c : Char) :
    Spells ci (if isMeta c then ['\\', c] else [c]) (fun _ => [charExpr ci c]) 0 :=
  fun _ u hr _ => ⟨[⟨charExpr ci c, 0, false⟩], rfl, runs_char hr c u⟩

/-! ## Runs of characters -/

theorem readGreed_of_ne {u : Text} (hu : u.head? ≠ some '?') : readGreed u = (true, u) := by
  unfold readGreed
  split
  · exact absurd rfl hu
  · rfl

theorem step_class {r : Reader} {u : Text} {s : CharSet} {depth : ℕ}
    (h : readClass r.flags t = .ok ((s, depth), u)) :
    r.step '[' t = .ok (r.push (.ofSet s) depth, u) := by
  show (readClass r.flags t).map (fun p => (r.push (.ofSet p.1.1) p.1.2, p.2)) = _
  rw [h]
  rfl

theorem step_star {r : Reader} {u : Text} {e : Expr} {depth : ℕ} (hg : r.flags.swapGreed = false)
    (hu : u.head? ≠ some '?') :
    (r.push e depth).step '*' u = .ok (r.push (e.iterate 0 none true) (depth + 1), u) := by
  show ((r.push e depth).iterate 0 none (readGreed u).1).map (fun r' => (r', (readGreed u).2)) = _
  rw [readGreed_of_ne hu]
  show Except.ok (r.push (e.iterate 0 none (true != r.flags.swapGreed)) (depth + 1), u) = _
  rw [hg]
  rfl

/-- A class with a star behind it. -/
theorem spells_run {s : CharSet} {depth : ℕ} (hs : s.member? = none)
    (h : ∀ u, readClass (patternFlags ci) (t ++ u) = .ok ((s, depth), u)) :
    Spells ci ('[' :: t ++ "*".toList) (fun _ => [.repeated 0 none true (.chars s)]) 0 := by
  intro r u hr hu
  have hv : r.flags.verbose = false := by
    rw [hr]
    rfl
  have hg : r.flags.swapGreed = false := by
    rw [hr]
    rfl
  have hset : Expr.ofSet s = .chars s := by
    unfold Expr.ofSet
    rw [hs]
  have hclass : r.step '[' (t ++ '*' :: u) = .ok (r.push (.chars s) depth, '*' :: u) := by
    rw [step_class (hr ▸ h _), hset]
  refine ⟨[⟨.repeated 0 none true (.chars s), depth + 1, false⟩], rfl, ?_⟩
  rw [List.append_assoc]
  refine Runs.trans (.of_step hv hclass ?_) (.of_step hv (step_star hg hu) (Nat.le_refl _))
  show ('*' :: u).length ≤ (t ++ '*' :: u).length
  rw [List.length_append]
  exact Nat.le_add_left _ _

/-! ## Groups -/

theorem openGroup_of_ne {r : Reader} (hv : r.flags.verbose = false) {u : Text}
    (hu : u.head? ≠ some '?') : r.openGroup u = .ok (r.openCapture none, u) := by
  have hs : skip r.flags u = u := by
    unfold skip
    rw [hv]
    rfl
  have hopening := Reader.Opening.capture (r := r) (t := u) (hs.symm ▸ hu)
  rw [hs] at hopening
  exact Reader.openGroup_eq_ok.2 hopening

theorem step_close_capture (r : Reader) (items : List Item) (n : ℕ) (u : Text) :
    ((r.openCapture none).add items n).step ')' u =
      .ok (r.add [⟨.group (r.groups + 1) none (.sequence (items.map (·.expr))),
        ((r.openCapture none).add items n).level.sequence.2 + 1, false⟩] (1 + n), u) := by
  have hlevel : ((r.openCapture none).add items n).level.sequence.1 =
      .sequence (items.map (·.expr)) := by
    simp [Level.sequence, add, openCapture, Level.empty]
  show Except.ok ((⟨r.flags, r.level.push
    (.group (r.groups + 1) none ((r.openCapture none).add items n).level.sequence.1) _,
    r.enclosing, r.groups + 1 + n, r.names⟩ : Reader), u) = _
  rw [hlevel, Nat.add_assoc]
  rfl

/-- What is between the parentheses of a capturing group. -/
theorem Spells.capture (h : Spells ci t es n) (ht : t.head? ≠ some '?') :
    Spells ci ('(' :: t ++ ")".toList)
      (fun g => [.group (g + 1) none (.sequence (es (g + 1)))]) (1 + n) := by
  intro r u hr hu
  have hv : r.flags.verbose = false := by
    rw [hr]
    rfl
  have ht' : (t ++ ')' :: u).head? ≠ some '?' := by
    cases t with
    | nil => exact fun h => absurd (Option.some.inj h) (by decide)
    | cons c t => exact ht
  obtain ⟨items, hitems, hrun⟩ := h (r.openCapture none) (')' :: u) hr
    (fun h => absurd (Option.some.inj h) (by decide))
  refine ⟨[⟨.group (r.groups + 1) none (.sequence (items.map (·.expr))),
    ((r.openCapture none).add items n).level.sequence.2 + 1, false⟩], ?_, ?_⟩
  · exact congrArg (fun es => [Expr.group (r.groups + 1) none (.sequence es)]) hitems
  rw [List.append_assoc]
  refine Runs.trans (.of_step hv (openGroup_of_ne hv ht') (Nat.le_refl _)) (hrun.trans ?_)
  exact .of_step hv (step_close_capture r items n u) (Nat.le_refl _)

/-- What alternatives are read as: one alone as itself. -/
def Expr.ofAlternatives : List Expr → Expr
  | [e] => e
  | es => .choice es

theorem close_eq (l : Level) :
    l.close.1 = .ofAlternatives ((l.sequence :: l.branches).reverse.map (·.1)) := by
  have hchoice : ∀ es : List Expr, es.length ≠ 1 → Expr.ofAlternatives es = .choice es := by
    intro es h
    match es with
    | [] => rfl
    | [_] => exact absurd rfl h
    | _ :: _ :: _ => rfl
  unfold Level.close
  split
  case h_1 h => rw [h]; rfl
  case h_2 b hne =>
    rw [hchoice]
    rw [List.length_map, List.length_reverse, List.length_cons]
    intro h
    exact hne (List.length_eq_zero_iff.1 (Nat.succ.inj h))

/-- A text is read as alternatives with given expressions, and opens so many
    groups. -/
def SpellsAll (ci : Bool) (t : Text) (es : ℕ → List Expr) (n : ℕ) : Prop :=
  ∀ (r : Reader) (u : Text), r.flags = patternFlags ci → u.head? ≠ some '?' → r.level.items = [] →
    ∃ l : Level, (l.sequence :: l.branches).reverse.map (·.1) =
        r.level.branches.reverse.map (·.1) ++ es r.groups ∧
      r.Runs (t ++ u) { r with level := l, groups := r.groups + n } u

theorem Spells.all (h : Spells ci t es n) : SpellsAll ci t (fun g => [.sequence (es g)]) n := by
  intro r u hr hu hempty
  obtain ⟨items, hitems, hrun⟩ := h r u hr hu
  refine ⟨(r.add items n).level, ?_, hrun⟩
  simp [Level.sequence, Reader.add, hempty, hitems]

theorem Spells.cons (h : Spells ci t es n) (h' : SpellsAll ci t' es' n') :
    SpellsAll ci (t ++ '|' :: t') (fun g => .sequence (es g) :: es' (g + n)) (n + n') := by
  intro r u hr hu hempty
  have hv : r.flags.verbose = false := by
    rw [hr]
    rfl
  obtain ⟨items, hitems, hrun⟩ := h r ('|' :: (t' ++ u)) hr
    (fun h => absurd (Option.some.inj h) (by decide))
  have hbar : (r.add items n).step '|' (t' ++ u) =
      .ok ({ r.add items n with level := (r.add items n).level.split }, t' ++ u) := rfl
  obtain ⟨l, hl, hrun'⟩ :=
    h' { r.add items n with level := (r.add items n).level.split } u hr hu rfl
  refine ⟨l, ?_, ?_⟩
  · rw [hl]
    simp [Level.split, Level.sequence, Reader.add, hempty, hitems]
  · rw [List.append_assoc, ← Nat.add_assoc]
    exact hrun.trans (.trans (.of_step hv hbar (Nat.le_refl _)) hrun')

theorem step_openPlain {r : Reader} (hv : r.flags.verbose = false) (t : Text) :
    r.step '(' ('?' :: ':' :: t) = .ok (r.openPlain r.flags, t) := by
  show r.openGroup _ = _
  have hs : skip r.flags ('?' :: ':' :: t) = '?' :: ':' :: t := by
    unfold skip
    rw [hv]
    rfl
  unfold openGroup
  rw [hs]
  rfl

/-- A group that does not capture. -/
theorem SpellsAll.group (h : SpellsAll ci t es n) :
    Spells ci ("(?:".toList ++ t ++ ")".toList) (fun g => [.ofAlternatives (es g)]) n := by
  intro r u hr hu
  have hv : r.flags.verbose = false := by
    rw [hr]
    rfl
  obtain ⟨l, hl, hrun⟩ := h (r.openPlain r.flags) (')' :: u) hr
    (fun h => absurd (Option.some.inj h) (by decide)) rfl
  have hclose : Reader.step { r.openPlain r.flags with level := l, groups := r.groups + n } ')' u =
      .ok (r.add [⟨l.close.1, l.close.2 + 1, false⟩] n, u) := rfl
  refine ⟨[⟨l.close.1, l.close.2 + 1, false⟩], ?_, ?_⟩
  · rw [List.map_singleton, close_eq, hl]
    rfl
  rw [List.append_assoc, List.append_assoc]
  refine Runs.trans (.of_step hv (step_openPlain hv _) ?_)
    (hrun.trans (.of_step hv hclose (Nat.le_refl _)))
  exact Nat.le_add_right (t ++ ')' :: u).length 2

end

end PathRouting.Regex
