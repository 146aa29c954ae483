/-
  From trees to expressions.

  * `Node.items` are the expressions that the source of a tree is read as, given the
    number of groups in front of it.
  * `Node.written` is the expression that its source shows, part by part.
  * `Node.shares` tells whether all that the items move in front of alternations,
    because the branches share it, satisfies a condition.
  * `Lowers` relates sources, the variables in them, items, expressions as written and
    ways, part by part. `Node.lowers` says that it relates those of a tree, so that what
    holds of all its steps holds of every tree.
-/
import PathRouting.Proofs.Pattern.Shape
import PathRouting.Proofs.Pattern.Ways
import PathRouting.Proofs.Regex.Ordered
import PathRouting.Proofs.Regex.Runs

namespace PathRouting.Regex

/-- The longest run of characters that are not in a set. -/
def runExpr (stops : CharSet) : Expr :=
  .repeated 0 none true (.chars stops.compl)

/-- Whether all that comes in front of some alternatives because they share it
    satisfies a condition. -/
def Expr.alternativesShare (p : Expr → Bool) : List Expr → Bool
  | [_] => true
  | es => sharesOnly p ((es.map size).sum + 1) es

theorem Expr.alternativesShare_true (es : List Expr) : alternativesShare (fun _ => true) es := by
  unfold alternativesShare
  split
  · rfl
  · exact sharesOnly_true _ es

namespace Interpretation

variable {M : Type} (I : Interpretation M)

theorem of_ofAlternatives {p : Expr → Bool} (hp : ∀ e, p e → I.Splits (I.of e)) {es : List Expr}
    (h : Expr.alternativesShare p es) : I.of (.ofAlternatives es) = I.sum es := by
  match es with
  | [] => exact I.of_choiceWith hp h
  | [e] => exact (I.sum_singleton e).symm
  | e :: f :: es => exact I.of_choiceWith hp h

/-- What a group without a name means depends on the meaning of what is in it. -/
def Groups : Prop :=
  ∀ index e e', I.of e = I.of e' → I.of (.group index none e) = I.of (.group index none e')

end Interpretation

theorem grouping_groups : grouping.Groups :=
  fun index _ _ h => congrArg (insert index) h

theorem matching_groups : matching.Groups := by
  intro index e e' h
  funext x y
  have he : e.Matches = e'.Matches := h
  simp only [matching, Expr.Matches, he]

theorem ordered_groups (α : Type) : (ordered α).Groups := by
  intro index e e' h
  funext x k
  have he : @Expr.first? α e = @Expr.first? α e' := h
  simp only [ordered, Expr.first?, he]

theorem structural_plain : Expr.Structural Expr.Plain where
  empty := trivial
  literal _ := trivial
  chars _ := trivial
  seq _ _ := Iff.rfl
  alt _ _ := Iff.rfl

theorem structural_nameless : Expr.Structural Expr.Nameless where
  empty := nofun
  literal _ := nofun
  chars _ := nofun
  seq _ _ := List.forall_mem_append
  alt _ _ := List.forall_mem_append

theorem nameless_groups : structural_nameless.holding.Groups := fun index _ _ h =>
  propext ((Expr.nameless_group index).trans (h.to_iff.trans (Expr.nameless_group index).symm))

end PathRouting.Regex

namespace PathRouting.Pattern

open Regex

namespace Node

mutual

/-- What the source of a tree is read as, behind a number of groups. A raw regular
    expression is left out. -/
def items (ci : Bool) (groups : ℕ) : Node → List Expr
  | .path _ absolute segments =>
    (if absolute then [charExpr ci '/'] else []) ++ itemsOf ci [charExpr ci '/'] groups segments
  | .segment _ items => itemsOf ci [] groups items
  | .alternation _ branches => [.ofAlternatives (alternativesOf ci groups branches)]
  | .variable _ _ (some c) => [.group (groups + 1) none (.sequence (c.items ci (groups + 1)))]
  | .variable _ _ none =>
    [.group (groups + 1) none (.sequence [runExpr CharSet.delimiters])]
  | .wildcard _ true => [runExpr CharSet.pathDelimiters]
  | .wildcard _ false => [runExpr CharSet.delimiters]
  | .regexp .. => []
  | .text _ value => value.map (charExpr ci)

/-- What several trees are read as one after the other, with something between any
    two. -/
def itemsOf (ci : Bool) (between : List Expr) (groups : ℕ) : List Node → List Expr
  | [] => []
  | [n] => n.items ci groups
  | n :: m :: ns =>
    n.items ci groups ++ between ++
      itemsOf ci between (groups + n.variableNames.length) (m :: ns)

/-- What several trees are read as with bars between them. -/
def alternativesOf (ci : Bool) (groups : ℕ) : List Node → List Expr
  | [] => []
  | [n] => [.sequence (n.items ci groups)]
  | n :: m :: ns =>
    .sequence (n.items ci groups) ::
      alternativesOf ci (groups + n.variableNames.length) (m :: ns)

end

mutual

/-- The expression of a tree as its source is written, behind a number of groups. A raw
    regular expression is left out. -/
def written (ci : Bool) (groups : ℕ) : Node → Expr
  | .path _ absolute segments =>
    .seq (if absolute then charExpr ci '/' else .empty)
      (writtenOf ci (charExpr ci '/') groups segments)
  | .segment _ items => writtenOf ci .empty groups items
  | .alternation _ branches => writtenAny ci groups branches
  | .variable _ _ (some c) => .group (groups + 1) none (c.written ci (groups + 1))
  | .variable _ _ none => .group (groups + 1) none (runExpr CharSet.delimiters)
  | .wildcard _ true => runExpr CharSet.pathDelimiters
  | .wildcard _ false => runExpr CharSet.delimiters
  | .regexp .. => .empty
  | .text _ value => value.foldr (fun c e => .seq (charExpr ci c) e) .empty

/-- The expression of several trees one after the other, with something between any
    two. -/
def writtenOf (ci : Bool) (between : Expr) (groups : ℕ) : List Node → Expr
  | [] => .empty
  | [n] => n.written ci groups
  | n :: m :: ns =>
    .seq (.seq (n.written ci groups) between)
      (writtenOf ci between (groups + n.variableNames.length) (m :: ns))

/-- The expression of several trees with bars between them. -/
def writtenAny (ci : Bool) (groups : ℕ) : List Node → Expr
  | [] => .chars .empty
  | [n] => n.written ci groups
  | n :: m :: ns =>
    .alt (n.written ci groups) (writtenAny ci (groups + n.variableNames.length) (m :: ns))

end

mutual

/-- Whether all that comes in front of an alternation of a tree because its branches
    share it satisfies a condition. -/
def shares (p : Expr → Bool) (ci : Bool) (groups : ℕ) : Node → Bool
  | .path _ _ ns | .segment _ ns => allShare p ci groups ns
  | .alternation _ ns =>
    allShare p ci groups ns && Expr.alternativesShare p (alternativesOf ci groups ns)
  | .variable _ _ (some c) => c.shares p ci (groups + 1)
  | .variable _ _ none | .wildcard .. | .regexp .. | .text .. => true

/-- Whether it is so in several trees. -/
def allShare (p : Expr → Bool) (ci : Bool) (groups : ℕ) : List Node → Bool
  | [] => true
  | [n] => n.shares p ci groups
  | n :: m :: ns =>
    n.shares p ci groups && allShare p ci (groups + n.variableNames.length) (m :: ns)

end

end Node

/-- A source with given variables is read as given expressions, in place of the
    expression as it is written, which means given ways; with the first argument
    `true`, as alternatives with bars between them. The expressions depend on the number
    of groups in front, and so does whether what is moved in front of alternatives
    satisfies a condition. -/
inductive Lowers (cs : Bool) (p : Expr → Bool) :
    Bool → Source → List Text → (ℕ → List Expr) → (ℕ → Bool) → (ℕ → Expr) → Ways → Prop
  | nil : Lowers cs p false (.ofText []) [] (fun _ => []) (fun _ => true) (fun _ => .empty) .stay
  | char (c : Char) :
      Lowers cs p false (.ofText (if isMeta c then ['\\', c] else [c])) []
        (fun _ => [charExpr (!cs) c]) (fun _ => true) (fun _ => charExpr (!cs) c)
        (.one (Ways.sameChar cs c))
  | run {t : Text} {s : CharSet} {stops : Text} {depth : ℕ} :
      s.compl.member? = none → s.compl.isEmpty = false → (∀ c, s.compl.has c ↔ c ∉ stops) →
      (∀ u, readClass (patternFlags (!cs)) (t ++ u) = .ok ((s.compl, depth), u)) →
      Lowers cs p false (.ofText ('[' :: t ++ "*".toList)) [] (fun _ => [runExpr s])
        (fun _ => true) (fun _ => runExpr s) (.run stops)
  | append {a b xs ys es fs q r v w f g} : Lowers cs p false a xs es q v f →
      Lowers cs p false b ys fs r w g →
      Lowers cs p false (a ++ b) (xs ++ ys) (fun n => es n ++ fs (n + xs.length))
        (fun n => q n && r (n + xs.length)) (fun n => .seq (v n) (w (n + xs.length)))
        (f.andThen g)
  | capture {s xs es q v f} (name : Text) : Lowers cs p false s xs es q v f →
      Lowers cs p false (s.capture name) (name :: xs)
        (fun n => [.group (n + 1) none (.sequence (es (n + 1)))]) (fun n => q (n + 1))
        (fun n => .group (n + 1) none (v (n + 1))) (f.bind name)
  | single {s xs es q v f} : Lowers cs p false s xs es q v f →
      Lowers cs p true s xs (fun n => [.sequence (es n)]) q v f
  | cons {a b xs ys es fs q r v w f g} : Lowers cs p false a xs es q v f →
      Lowers cs p true b ys fs r w g →
      Lowers cs p true (a ++ .ofText "|".toList ++ b) (xs ++ ys)
        (fun n => .sequence (es n) :: fs (n + xs.length)) (fun n => q n && r (n + xs.length))
        (fun n => .alt (v n) (w (n + xs.length))) (f.orElse g)
  | group {s xs es q v f} : Lowers cs p true s xs es q v f →
      Lowers cs p false s.group xs (fun n => [.ofAlternatives (es n)])
        (fun n => q n && Expr.alternativesShare p (es n)) v f

namespace Lowers

variable {cs : Bool} {p : Expr → Bool}

theorem text (v : Text) : Lowers cs p false (.ofText (escape v)) []
    (fun _ => v.map (charExpr (!cs))) (fun _ => true)
    (fun _ => v.foldr (fun c e => .seq (charExpr (!cs) c) e) .empty) (.text cs v) := by
  induction v with
  | nil => exact .nil
  | cons c v ih => exact (Lowers.char c).append ih

theorem sameChar_slash (d : Char) : Ways.sameChar cs '/' d = decide ('/' = d) := by
  cases cs with
  | true => rfl
  | false =>
    have h : Unicode.caseOrbit '/'.toNat = ['/'.toNat] := by decide +kernel
    have hiff : Unicode.fold '/'.toNat = Unicode.fold d.toNat ↔ '/' = d := by
      rw [eq_comm, ← Unicode.mem_caseOrbit, h, List.mem_singleton, Char.toNat_inj, eq_comm]
    exact decide_eq_decide.2 hiff

theorem slash : Lowers cs p false (.ofText "/".toList) [] (fun _ => [charExpr (!cs) '/'])
    (fun _ => true) (fun _ => charExpr (!cs) '/') .slash := by
  have h : Ways.one (Ways.sameChar cs '/') = .slash := congrArg Ways.one (funext sameChar_slash)
  rw [← h]
  exact .char '/'

theorem foldSet_eq {ci : Bool} {s : CharSet} (h : s.folded = s) : foldSet (patternFlags ci) s = s := by
  cases ci with
  | true => exact h
  | false => rfl

theorem segmentRun : Lowers cs p false (.ofText "[^/?#]*".toList) []
    (fun _ => [runExpr CharSet.delimiters]) (fun _ => true)
    (fun _ => runExpr CharSet.delimiters) (.run "/?#".toList) := by
  have hclass : ∀ u, readClass (patternFlags (!cs)) ("^/?#]".toList ++ u) =
      .ok ((CharSet.delimiters.compl, 2), u) := by
    intro u
    have h : readClass (patternFlags (!cs)) ("^/?#]".toList ++ u) =
        .ok (((foldSet (patternFlags (!cs)) CharSet.delimiters).compl, 2), u) := rfl
    rw [h, foldSet_eq CharSet.folded_delimiters]
  exact .run rfl rfl (fun c => CharSet.has_compl_delimiters) hclass

theorem pathRun : Lowers cs p false (.ofText "[^?#]*".toList) []
    (fun _ => [runExpr CharSet.pathDelimiters]) (fun _ => true)
    (fun _ => runExpr CharSet.pathDelimiters) (.run "?#".toList) := by
  have hclass : ∀ u, readClass (patternFlags (!cs)) ("^?#]".toList ++ u) =
      .ok ((CharSet.pathDelimiters.compl, 2), u) := by
    intro u
    have h : readClass (patternFlags (!cs)) ("^?#]".toList ++ u) =
        .ok (((foldSet (patternFlags (!cs)) CharSet.pathDelimiters).compl, 2), u) := rfl
    rw [h, foldSet_eq CharSet.folded_pathDelimiters]
  exact .run rfl rfl (fun c => CharSet.has_compl_pathDelimiters) hclass

section
variable {all : Bool} {s : Source} {xs : List Text} {es : ℕ → List Expr} {q : ℕ → Bool}
  {w : ℕ → Expr} {f : Ways}

/-- **Meanings.** What is read means the same as what is written, if all that is moved
    in front of alternatives may as well stand in front of each of them. -/
theorem of_written {M : Type} (I : Interpretation M) (hg : I.Groups)
    (hp : ∀ e, p e → I.Splits (I.of e)) (h : Lowers cs p all s xs es q w f) {g : ℕ} (hq : q g) :
    (if all then I.sum (es g) else I.prod (es g)) = I.of (w g) := by
  induction h generalizing g with
  | nil => exact I.of_empty.symm
  | char => exact I.prod_singleton _
  | run => exact I.prod_singleton _
  | append _ _ ha hb =>
    obtain ⟨hqa, hqb⟩ := Bool.and_eq_true_iff.1 hq
    show I.prod (_ ++ _) = _
    rw [I.prod_append, I.of_seq, ← ha hqa, ← hb hqb]
    rfl
  | capture name _ ih =>
    refine (I.prod_singleton _).trans (hg _ _ _ ?_)
    exact (I.of_sequence _).trans (ih hq)
  | single _ ih => exact (I.sum_singleton _).trans ((I.of_sequence _).trans (ih hq))
  | cons _ _ ha hb =>
    obtain ⟨hqa, hqb⟩ := Bool.and_eq_true_iff.1 hq
    show I.sum (_ :: _) = _
    rw [I.sum_cons, I.of_sequence, I.of_alt, ← ha hqa, ← hb hqb]
    rfl
  | group _ ih =>
    obtain ⟨hqa, hqb⟩ := Bool.and_eq_true_iff.1 hq
    refine (I.prod_singleton _).trans ?_
    rw [I.of_ofAlternatives hp hqb]
    exact ih hqa

/-- Any expressions may be shared, if nothing is asked of them. -/
theorem shares_true (h : Lowers cs (fun _ => true) all s xs es q w f) (g : ℕ) : q g := by
  induction h generalizing g with
  | nil | char | run => rfl
  | append _ _ ha hb | cons _ _ ha hb => exact Bool.and_eq_true_iff.2 ⟨ha g, hb _⟩
  | capture _ _ ih => exact ih (g + 1)
  | single _ ih => exact ih g
  | group _ ih => exact Bool.and_eq_true_iff.2 ⟨ih g, Expr.alternativesShare_true _⟩

/-- Behind a `^` it is the same. -/
theorem of_anchored {M : Type} (I : Interpretation M) (hg : I.Groups)
    (hp : ∀ e, p e → I.Splits (I.of e)) (h : Lowers cs p false s xs es q w f) (hq : q 0) :
    I.of (.sequence [.look .textStart, .sequence (es 0)]) =
      I.of (.seq (.look .textStart) (w 0)) := by
  rw [I.of_sequence, I.prod_cons, I.prod_singleton, I.of_sequence, I.of_seq]
  exact congrArg (I.comp _) (h.of_written I hg hp hq)

/-! ## What is written -/

theorem written_plain (h : Lowers cs p all s xs es q w f) (g : ℕ) : (w g).Plain := by
  induction h generalizing g with
  | nil => trivial
  | char c => exact (structural_plain.holding.of_ofSet _).mpr trivial
  | @run _ s _ _ _ hs => exact ⟨rfl, rfl, rfl, _, rfl, hs⟩
  | append _ _ ha hb | cons _ _ ha hb => exact ⟨ha g, hb _⟩
  | capture _ _ ih => exact ih (g + 1)
  | single _ ih | group _ ih => exact ih g

theorem written_nameless (h : Lowers cs p all s xs es q w f) (g : ℕ) : (w g).Nameless := by
  induction h generalizing g with
  | nil | run => exact nofun
  | char c => exact (structural_nameless.holding.of_ofSet _).mpr nofun
  | append _ _ ha hb | cons _ _ ha hb => exact List.forall_mem_append.2 ⟨ha g, hb _⟩
  | capture _ _ ih => exact (Expr.nameless_group _).2 (ih (g + 1))
  | single _ ih | group _ ih => exact ih g

/-- The groups are those of the variables. -/
theorem written_groupSet (h : Lowers cs p all s xs es q w f) (g : ℕ) :
    (w g).groupSet = Finset.Icc (g + 1) (g + xs.length) := by
  induction h generalizing g with
  | nil | run => exact (Finset.Icc_eq_empty (Nat.not_succ_le_self g)).symm
  | char c =>
    exact (Expr.groupSet_ofSet _).trans (Finset.Icc_eq_empty (Nat.not_succ_le_self g)).symm
  | append _ _ ha hb | cons _ _ ha hb =>
    show Expr.groupSet _ ∪ Expr.groupSet _ = _
    rw [ha, hb]
    ext i
    simp only [Finset.mem_union, Finset.mem_Icc, List.length_append]
    omega
  | capture _ _ ih =>
    show insert (g + 1) (Expr.groupSet _) = _
    rw [ih]
    ext i
    simp only [Finset.mem_insert, Finset.mem_Icc, List.length_cons]
    omega
  | single _ ih | group _ ih => exact ih g

end

end Lowers

namespace Node

variable {cs : Bool} {p : Expr → Bool}

mutual

/-- **Lowering.** The source of a tree is read as its items, in place of its expression
    as written, which means its ways. -/
theorem lowers : ∀ n : Node, n.WellFormed → n.rawFree →
    Lowers cs p false (n.source { caseSensitive := cs }) n.variableNames
      (fun g => n.items (!cs) g) (fun g => n.shares p (!cs) g) (fun g => n.written (!cs) g)
      (n.ways cs)
  | .path _ absolute segments, h, hr => by
    have hjoin := lowersOf .slash segments h hr
    rw [source, variableNames, ways]
    cases absolute with
    | true => exact Lowers.slash.append hjoin
    | false => exact Lowers.nil.append hjoin
  | .segment _ ns, h, hr => by
    have := lowersOf .nil ns h hr
    rw [source, variableNames, ways]
    exact this
  | .alternation _ branches, h, hr => by
    have := (lowersAny branches h.1 h.2 hr).group
    rw [source, variableNames, ways]
    exact this
  | .variable _ name (some c), h, hr => by
    have := (lowers c h hr).capture name
    rw [source, variableNames, ways]
    exact this
  | .variable _ name none, _, _ => Lowers.segmentRun.capture name
  | .wildcard _ true, _, _ => Lowers.pathRun
  | .wildcard _ false, _, _ => Lowers.segmentRun
  | .text _ value, _, _ => Lowers.text value

theorem lowersOf {separator : Source} {between : List Expr} {e : Expr} {f : Ways}
    (hsep : Lowers cs p false separator [] (fun _ => between) (fun _ => true) (fun _ => e) f) :
    ∀ ns : List Node, AllWellFormed ns → allRawFree ns →
      Lowers cs p false (Source.join separator (sources { caseSensitive := cs } ns)) (namesOf ns)
        (fun g => itemsOf (!cs) between g ns) (fun g => allShare p (!cs) g ns)
        (fun g => writtenOf (!cs) e g ns) (waysOf cs f ns)
  | [], _, _ => Lowers.nil
  | [n], h, hr => by
    rw [namesOf, namesOf, List.append_nil]
    exact lowers n h.1 (Bool.and_eq_true_iff.1 hr).1
  | n :: m :: ns, h, hr => by
    have hn := lowers n h.1 (Bool.and_eq_true_iff.1 hr).1
    have := (hn.append hsep).append (lowersOf hsep (m :: ns) h.2 (Bool.and_eq_true_iff.1 hr).2)
    simp only [List.append_nil, Bool.and_true] at this
    exact this

theorem lowersAny : ∀ ns : List Node, ns ≠ [] → AllWellFormed ns → allRawFree ns →
    Lowers cs p true (Source.join (.ofText "|".toList) (sources { caseSensitive := cs } ns))
      (namesOf ns) (fun g => alternativesOf (!cs) g ns) (fun g => allShare p (!cs) g ns)
      (fun g => writtenAny (!cs) g ns) (waysAny cs ns)
  | [], h, _, _ => absurd rfl h
  | [n], _, h, hr => by
    rw [namesOf, namesOf, List.append_nil]
    exact (lowers n h.1 (Bool.and_eq_true_iff.1 hr).1).single
  | n :: m :: ns, _, h, hr =>
    (lowers n h.1 (Bool.and_eq_true_iff.1 hr).1).cons
      (lowersAny (m :: ns) (by simp) h.2 (Bool.and_eq_true_iff.1 hr).2)

end

end Node

end PathRouting.Pattern
