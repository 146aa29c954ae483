/-
  The shape of the tree of a pattern.

  * `Balanced`: the parentheses of a text close one another.
  * `tokens_sound`: the body of every raw regular expression is balanced.
  * `parse_wellFormed`: so it is in the tree of a pattern, all of whose
    alternations have branches.
-/
import PathRouting.Proofs.Pattern.Streaming

namespace PathRouting.Pattern

/-- A text that closes `depth` parentheses more than it opens, and none that was
    not open. -/
inductive Balanced : ℕ → Text → Prop
  | nil : Balanced 0 []
  | char {d : ℕ} {c : Char} {t : Text} : c ≠ '\\' → c ≠ '(' → c ≠ ')' → Balanced d t →
      Balanced d (c :: t)
  | escape {d : ℕ} {c : Char} {t : Text} : Balanced d t → Balanced d ('\\' :: c :: t)
  | opening {d : ℕ} {t : Text} : Balanced (d + 1) t → Balanced d ('(' :: t)
  | closing {d : ℕ} {t : Text} : Balanced d t → Balanced (d + 1) (')' :: t)

namespace Balanced

variable {d : ℕ} {t : Text}

theorem behind (h : Balanced d t) (u : Text) : Behind (t ++ u) u := by
  induction h with
  | nil => exact .refl
  | char hc _ _ _ ih => exact .char hc ih
  | escape _ ih => exact .escape ih
  | opening _ ih => exact .char (by decide) ih
  | closing _ ih => exact .char (by decide) ih

theorem eq_append (h : Balanced d t) (hd : 0 < d) : ∃ u v, t = u ++ ')' :: v := by
  induction h with
  | nil => exact absurd hd (Nat.lt_irrefl 0)
  | @char d c t _ _ _ _ ih =>
    obtain ⟨u, v, rfl⟩ := ih hd
    exact ⟨c :: u, v, rfl⟩
  | @escape d c t _ ih =>
    obtain ⟨u, v, rfl⟩ := ih hd
    exact ⟨'\\' :: c :: u, v, rfl⟩
  | opening _ ih =>
    obtain ⟨u, v, rfl⟩ := ih (Nat.succ_pos _)
    exact ⟨'(' :: u, v, rfl⟩
  | @closing d t => exact ⟨[], t, rfl⟩

theorem opensGroup_append (h : Balanced (d + 1) t) (u : Text) :
    opensGroup (t ++ u) = opensGroup t := by
  obtain ⟨v, w, rfl⟩ := h.eq_append (Nat.succ_pos d)
  rw [List.append_assoc, List.cons_append, PathRouting.opensGroup_append, PathRouting.opensGroup_append]

theorem groupCount_append (h : Balanced d t) (u : Text) :
    groupCount (t ++ u) = groupCount t + groupCount u := by
  induction h with
  | nil => exact (Nat.zero_add _).symm
  | char hc hp _ _ ih =>
    rw [List.cons_append, groupCount_cons_of_ne hc hp, groupCount_cons_of_ne hc hp, ih]
  | escape _ ih => rw [List.cons_append, List.cons_append, groupCount_escape, groupCount_escape, ih]
  | opening h ih =>
    rw [List.cons_append, groupCount_cons (by decide), groupCount_cons (by decide), ih,
      h.opensGroup_append, Nat.add_assoc]
  | closing _ ih =>
    rw [List.cons_append, groupCount_cons_of_ne (by decide) (by decide),
      groupCount_cons_of_ne (by decide) (by decide), ih]

end Balanced

/-! ## Tokens -/

/-- The body of a raw regular expression is balanced. -/
def Token.Sound (t : Token) : Prop :=
  ∀ body, t.lexeme = .regexp body → Balanced 0 body

/-- Whatever balances the rest of a raw regular expression balances the whole. -/
def Mode.Sound : Mode → Prop
  | .regexp depth false read => ∀ t, Balanced depth t → Balanced 0 (read.reverse ++ t)
  | .regexp depth true read => ∀ c t, Balanced depth t → Balanced 0 (read.reverse ++ c :: t)
  | _ => True

namespace Scanner

variable {s : Scanner}

theorem flush_sound (s : Scanner) (stop : ℕ) : ∀ t ∈ s.flush stop, t.Sound := by
  intro t ht body hb
  unfold flush at ht
  split at ht
  · rw [List.mem_singleton] at ht
    subst ht
    cases hb
  · cases ht

theorem deliver_sound (s : Scanner) {lexeme : Lexeme} (h : ∀ body, lexeme = .regexp body → Balanced 0 body)
    (stop : ℕ) : ∀ t ∈ s.deliver lexeme stop, t.Sound := by
  intro t ht
  rcases List.mem_append.1 ht with ht | ht
  · exact flush_sound s s.start t ht
  · rw [List.mem_singleton] at ht
    subst ht
    exact h

/-- Sound tokens, and a state whose mode is sound. -/
def StepSound (r : List Token × Scanner) : Prop :=
  (∀ t ∈ r.1, t.Sound) ∧ r.2.mode.Sound

theorem stepSound_nil {s : Scanner} (h : s.mode.Sound) : StepSound ([], s) :=
  ⟨fun _ ht => (nomatch ht), h⟩

theorem stepSound_deliver (s : Scanner) {lexeme : Lexeme} (stop : ℕ) (s' : Scanner)
    (hs : s'.mode.Sound) (h : ∀ body, lexeme = .regexp body → Balanced 0 body) :
    StepSound (s.deliver lexeme stop, s') :=
  ⟨deliver_sound s h stop, hs⟩

theorem openToken_sound (s : Scanner) (c : Char) : StepSound (s.openToken c) := by
  unfold openToken
  refine iteInduction (fun _ => ⟨flush_sound s _, trivial⟩) fun _ => ?_
  refine iteInduction (fun _ => stepSound_nil trivial) fun _ => ?_
  refine iteInduction (fun _ => stepSound_deliver _ _ _ trivial (by rintro _ ⟨⟩)) fun _ => ?_
  refine iteInduction (fun _ => stepSound_deliver _ _ _ trivial (by rintro _ ⟨⟩)) fun _ => ?_
  refine iteInduction (fun _ => stepSound_deliver _ _ _ trivial (by rintro _ ⟨⟩)) fun _ => ?_
  refine iteInduction (fun _ => stepSound_deliver _ _ _ trivial (by rintro _ ⟨⟩)) fun _ => ?_
  refine iteInduction (fun _ => stepSound_nil trivial) fun _ => ?_
  refine iteInduction (fun _ => stepSound_nil trivial) fun _ => ?_
  refine iteInduction (fun _ => stepSound_nil fun t ht => ht) fun _ => ?_
  exact stepSound_nil trivial

theorem stepSound_before (s s' : Scanner) {lexeme : Lexeme} (stop : ℕ) (c : Char)
    (h : ∀ body, lexeme = .regexp body → Balanced 0 body) :
    StepSound (s.deliver lexeme stop ++ (s'.openToken c).1, (s'.openToken c).2) := by
  refine ⟨fun t ht => ?_, (openToken_sound s' c).2⟩
  rcases List.mem_append.1 ht with ht | ht
  · exact deliver_sound s h stop t ht
  · exact (openToken_sound s' c).1 t ht

/-- Going on in a raw regular expression. -/
theorem regexp_sound {d d' : ℕ} {read : Text} {c : Char}
    (h : ∀ t, Balanced d t → Balanced 0 (read.reverse ++ t))
    (hc : ∀ t, Balanced d' t → Balanced d (c :: t)) :
    ∀ t, Balanced d' t → Balanced 0 ((c :: read).reverse ++ t) := by
  intro t ht
  rw [List.reverse_cons, List.append_assoc]
  exact h _ (hc t ht)

theorem step_sound (hs : s.mode.Sound) (c : Char) : StepSound (s.step c) := by
  unfold step
  cases hm : s.mode with
  | ready => exact openToken_sound s c
  | star =>
    refine iteInduction (fun _ => ?_) fun _ => ?_
    · exact stepSound_deliver _ _ _ trivial (by rintro _ ⟨⟩)
    · exact stepSound_before _ _ _ _ (by rintro _ ⟨⟩)
  | colon => exact iteInduction (fun _ => stepSound_nil trivial) fun _ => stepSound_nil trivial
  | name read =>
    refine iteInduction (fun _ => stepSound_nil trivial) fun _ => ?_
    exact stepSound_before _ _ _ _ (by rintro _ ⟨⟩)
  | quote mark escape read =>
    cases escape with
    | true => exact stepSound_nil trivial
    | false =>
      refine iteInduction (fun _ => stepSound_deliver _ _ _ trivial (by rintro _ ⟨⟩)) fun _ => ?_
      exact iteInduction (fun _ => stepSound_nil trivial) fun _ => stepSound_nil trivial
  | regexp depth escape read =>
    rw [hm] at hs
    cases escape with
    | true =>
      refine stepSound_nil fun t ht => ?_
      rw [List.reverse_cons, List.append_assoc]
      exact hs c t ht
    | false =>
      refine iteInduction (fun hc => ?_) fun hcl => iteInduction (fun hc => ?_) fun hop => ?_
      · subst hc
        cases depth with
        | zero =>
          refine stepSound_deliver _ _ _ trivial fun body hb => ?_
          cases hb
          have := hs [] .nil
          rwa [List.append_nil] at this
        | succ depth => exact stepSound_nil (regexp_sound hs fun t ht => .closing ht)
      · subst hc
        exact stepSound_nil (regexp_sound hs fun t ht => .opening ht)
      · by_cases hc : c = '\\'
        · subst hc
          refine stepSound_nil fun _ t ht => ?_
          rw [List.reverse_cons, List.append_assoc]
          exact hs _ (.escape ht)
        · rw [decide_eq_false hc]
          exact stepSound_nil (regexp_sound hs fun t ht => .char hc hop hcl ht)
  | stopped => exact stepSound_nil trivial

theorem run_sound (hs : s.mode.Sound) (t : Text) :
    (∀ k ∈ (s.run t).1, k.Sound) ∧ (s.run t).2.mode.Sound := by
  induction t generalizing s with
  | nil => exact ⟨fun k hk => (nomatch hk), hs⟩
  | cons c t ih =>
    obtain ⟨h1, h2⟩ := step_sound hs c
    obtain ⟨h3, h4⟩ := ih h2
    refine ⟨fun k hk => ?_, h4⟩
    rcases List.mem_append.1 hk with hk | hk
    · exact h1 k hk
    · exact h3 k hk

theorem finish_sound (s : Scanner) : ∀ t ∈ s.finish.1, t.Sound := by
  unfold finish
  split
  · exact flush_sound s _
  · exact deliver_sound s (by rintro _ ⟨⟩) _
  · exact deliver_sound s (by rintro _ ⟨⟩) _
  all_goals exact fun t ht => (nomatch ht)

end Scanner

theorem tokens_sound (pattern : Text) : ∀ t ∈ (tokens pattern).1, t.Sound := by
  intro t ht
  rcases List.mem_append.1 ht with ht | ht
  · exact (Scanner.run_sound (s := .initial) trivial pattern).1 t ht
  · exact Scanner.finish_sound _ t ht

/-! ## Trees -/

namespace Node

mutual

/-- Alternations have branches, and the bodies of raw regular expressions are
    balanced. -/
def WellFormed : Node → Prop
  | .path _ _ ns | .segment _ ns => AllWellFormed ns
  | .alternation _ ns => ns ≠ [] ∧ AllWellFormed ns
  | .variable _ _ (some n) => n.WellFormed
  | .regexp _ body => Balanced 0 body
  | .variable _ _ none | .wildcard .. | .text .. => True

/-- All of several trees are well-formed. -/
def AllWellFormed : List Node → Prop
  | [] => True
  | n :: ns => n.WellFormed ∧ AllWellFormed ns

end

theorem allWellFormed_iff {ns : List Node} : AllWellFormed ns ↔ ∀ n ∈ ns, n.WellFormed := by
  induction ns with
  | nil => simp [AllWellFormed]
  | cons n ns ih => simp [AllWellFormed, ih]

end Node

namespace OpenSegment

variable {s : OpenSegment} {n : Node}

theorem wellFormed_settled (hs : ∀ n ∈ s.items, n.WellFormed) : ∀ n ∈ s.settled, n.WellFormed := by
  unfold settled
  split
  · intro n hn
    rcases List.mem_cons.1 hn with rfl | hn
    · trivial
    · exact hs n hn
  · exact hs

theorem wellFormed_attach (hs : ∀ n ∈ s.items, n.WellFormed) (hn : n.WellFormed) :
    ∀ m ∈ (s.attach n).items, m.WellFormed := by
  unfold attach
  split
  · intro m hm
    rcases List.mem_cons.1 hm with rfl | hm
    · exact hn
    · exact hs m hm
  · intro m hm
    rcases List.mem_cons.1 hm with rfl | hm
    · exact hn
    · exact hs m hm

theorem wellFormed_close (hs : ∀ n ∈ s.items, n.WellFormed) : s.close.WellFormed :=
  Node.allWellFormed_iff.2 fun n hn => wellFormed_settled hs n (List.mem_reverse.1 hn)

end OpenSegment

/-- All nodes of an unfinished path are well-formed. -/
structure OpenPath.WellFormed (p : OpenPath) : Prop where
  segments : ∀ n ∈ p.segments, n.WellFormed
  current : ∀ s, p.current = some s → ∀ n ∈ s.items, n.WellFormed

namespace OpenPath

variable {p : OpenPath} {n : Node}

theorem wellFormed_empty (start : ℕ) : (empty start).WellFormed :=
  ⟨fun _ h => (nomatch h), fun _ h => (nomatch h)⟩

theorem WellFormed.attach (hp : p.WellFormed) (hn : n.WellFormed) : (p.attach n).WellFormed := by
  unfold OpenPath.attach
  split
  case h_1 s hs =>
    refine ⟨hp.segments, fun s' h => ?_⟩
    cases h
    exact OpenSegment.wellFormed_attach (hp.current s hs) hn
  case h_2 =>
    refine ⟨hp.segments, fun s' h => ?_⟩
    cases h
    exact OpenSegment.wellFormed_attach (fun m hm => (nomatch hm)) hn

theorem WellFormed.attachVariable (hp : p.WellFormed) (span : Span) (name : Text) :
    (p.attachVariable span name).WellFormed := by
  unfold OpenPath.attachVariable
  split
  case h_1 s hs =>
    refine ⟨hp.segments, fun s' h => ?_⟩
    cases h
    exact OpenSegment.wellFormed_settled (hp.current s hs)
  case h_2 =>
    refine ⟨hp.segments, fun s' h => ?_⟩
    cases h
    exact fun m hm => (nomatch hm)

theorem WellFormed.separate (hp : p.WellFormed) (span : Span) : (p.separate span).WellFormed := by
  unfold OpenPath.separate
  split
  case h_1 s hs =>
    refine ⟨fun n hn => ?_, fun s' h => ?_⟩
    · rcases List.mem_cons.1 hn with rfl | hn
      · exact OpenSegment.wellFormed_close (hp.current s hs)
      · exact hp.segments n hn
    · cases h
      exact fun m hm => (nomatch hm)
  case h_2 =>
    refine ⟨hp.segments, fun s' h => ?_⟩
    cases h
    exact fun m hm => (nomatch hm)

theorem WellFormed.close (hp : p.WellFormed) : p.close.WellFormed := by
  unfold OpenPath.close
  split
  case h_1 s hs =>
    refine Node.allWellFormed_iff.2 fun n hn => ?_
    rcases List.mem_cons.1 (List.mem_reverse.1 hn) with rfl | hn
    · exact OpenSegment.wellFormed_close (hp.current s hs)
    · exact hp.segments n hn
  case h_2 => exact Node.allWellFormed_iff.2 fun n hn => hp.segments n (List.mem_reverse.1 hn)

end OpenPath

/-- All nodes of an unfinished tree are well-formed. -/
structure Cursor.WellFormed (c : Cursor) : Prop where
  path : c.path.WellFormed
  enclosing : ∀ a ∈ c.enclosing, a.outer.WellFormed ∧ ∀ n ∈ a.branches, n.WellFormed

namespace Cursor

variable {c c' : Cursor} {t : Token}

theorem wellFormed_initial : initial.WellFormed :=
  ⟨OpenPath.wellFormed_empty 0, fun _ h => (nomatch h)⟩

theorem WellFormed.step (hc : c.WellFormed) (ht : t.Sound) (h : c.step t = .ok c') :
    c'.WellFormed := by
  cases step_eq_ok.1 h with
  | text | wildcard => exact ⟨hc.path.attach trivial, hc.enclosing⟩
  | @regexp _ _ body => exact ⟨hc.path.attach (ht body rfl), hc.enclosing⟩
  | named => exact ⟨hc.path.attachVariable _ _, hc.enclosing⟩
  | pathSeparator => exact ⟨hc.path.separate _, hc.enclosing⟩
  | altStart =>
    exact ⟨OpenPath.wellFormed_empty _,
      List.forall_mem_cons.2 ⟨⟨hc.path, List.forall_mem_nil _⟩, hc.enclosing⟩⟩
  | altSeparator =>
    obtain ⟨ha, has⟩ := List.forall_mem_cons.1 hc.enclosing
    exact ⟨OpenPath.wellFormed_empty _,
      List.forall_mem_cons.2 ⟨⟨ha.1, List.forall_mem_cons.2 ⟨hc.path.close, ha.2⟩⟩, has⟩⟩
  | altEnd =>
    obtain ⟨ha, has⟩ := List.forall_mem_cons.1 hc.enclosing
    refine ⟨ha.1.attach ⟨by simp, Node.allWellFormed_iff.2 fun n hn => ?_⟩, has⟩
    exact List.forall_mem_cons.2 ⟨hc.path.close, ha.2⟩ n (List.mem_reverse.1 hn)

end Cursor

/-- **Well-formed trees.** The tree of a pattern is well-formed. -/
theorem parse_wellFormed {pattern : Text} {root : Node} (h : parse pattern = .ok root) :
    root.WellFormed := by
  obtain ⟨p, hp, rfl⟩ := parse_induction (P := fun _ c => c.WellFormed) h
    Cursor.wellFormed_initial fun _ _ _ t ht hc hstep => hc.step (tokens_sound pattern t ht) hstep
  exact hp.path.close

end PathRouting.Pattern
