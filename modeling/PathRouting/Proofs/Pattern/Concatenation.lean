/-
  Patterns one behind the other.

  * `tokens_single`: behind a separator, a brace or a comma a scan is between tokens, so
    that what stands there is cut as if it stood alone, only further on.
  * `Node.bare` leaves out where the nodes of a tree stand. `Cursor.step_bare`: a token
    adds the same to a tree wherever it stands.
  * `Cursor.onto`: an unfinished tree behind finished segments. `Cursor.step_onto`: a
    token does not meet those.
  * `parse_append`: the tree of a pattern followed by another one that begins with a
    separator has the segments of both.
-/
import PathRouting.Proofs.Pattern.Flattening

namespace PathRouting.Pattern

/-! ## Tokens -/

/-- A token that stands further on. -/
def Token.shift (d : ℕ) (t : Token) : Token :=
  ⟨t.lexeme, ⟨t.span.start + d, t.span.stop + d⟩⟩

namespace Scanner

/-- A scan that is further on. -/
def shift (d : ℕ) (s : Scanner) : Scanner :=
  ⟨s.offset + d, s.start + d, s.waiting.map fun w => (w.1 + d, w.2), s.mode⟩

variable (d : ℕ) (s : Scanner)

theorem flush_shift (stop : ℕ) : (s.shift d).flush (stop + d) = (s.flush stop).map (·.shift d) := by
  obtain ⟨offset, start, waiting, mode⟩ := s
  cases waiting <;> rfl

theorem deliver_shift (lexeme : Lexeme) (stop : ℕ) :
    (s.shift d).deliver lexeme (stop + d) = (s.deliver lexeme stop).map (·.shift d) := by
  have hflush : (s.shift d).flush (s.shift d).start = (s.flush s.start).map (·.shift d) :=
    flush_shift d s s.start
  rw [deliver, deliver, hflush, List.map_append]
  rfl

/-- Tokens and a scan that are further on. -/
def shiftAll (r : List Token × Scanner) : List Token × Scanner :=
  (r.1.map (·.shift d), r.2.shift d)

theorem openToken_shift (c : Char) : (s.shift d).openToken c = shiftAll d (s.openToken c) := by
  have hflush : (s.shift d).flush (s.shift d).offset = (s.flush s.offset).map (·.shift d) :=
    flush_shift d s s.offset
  have hnext : (s.shift d).offset + 1 = s.offset + 1 + d := Nat.add_right_comm _ _ _
  unfold openToken
  simp only [apply_ite (shiftAll d), hflush, hnext]
  obtain ⟨offset, start, waiting, mode⟩ := s
  cases waiting <;> rfl

theorem step_shift (c : Char) : (s.shift d).step c = shiftAll d (s.step c) := by
  have hnext : (s.shift d).offset + 1 = s.offset + 1 + d := Nat.add_right_comm _ _ _
  have hclose : ∀ lexeme : Lexeme, ((s.shift d).deliver lexeme ((s.shift d).offset + 1),
      (⟨(s.shift d).offset + 1, (s.shift d).offset + 1, none, .ready⟩ : Scanner)) =
        shiftAll d (s.deliver lexeme (s.offset + 1), ⟨s.offset + 1, s.offset + 1, none, .ready⟩) := by
    intro lexeme
    rw [hnext, deliver_shift]
    rfl
  have hbefore : ∀ lexeme : Lexeme, ((s.shift d).deliver lexeme (s.shift d).offset ++
      (openToken ⟨(s.shift d).offset, (s.shift d).offset, none, .ready⟩ c).1,
        (openToken ⟨(s.shift d).offset, (s.shift d).offset, none, .ready⟩ c).2) =
        shiftAll d (s.deliver lexeme s.offset ++ (openToken ⟨s.offset, s.offset, none, .ready⟩ c).1,
          (openToken ⟨s.offset, s.offset, none, .ready⟩ c).2) := by
    intro lexeme
    have hopen : openToken ⟨(s.shift d).offset, (s.shift d).offset, none, .ready⟩ c = _ :=
      openToken_shift d ⟨s.offset, s.offset, none, .ready⟩ c
    have hdeliver : (s.shift d).deliver lexeme (s.shift d).offset = _ :=
      deliver_shift d s lexeme s.offset
    rw [hopen, hdeliver, shiftAll, shiftAll, List.map_append]
  have hgoOn : ∀ mode, ([], { s.shift d with offset := (s.shift d).offset + 1, mode }) =
      shiftAll d ([], { s with offset := s.offset + 1, mode }) := by
    intro mode
    rw [hnext]
    rfl
  have hmode : (s.shift d).mode = s.mode := rfl
  unfold step
  rw [hmode]
  dsimp only
  cases s.mode with
  | ready => exact openToken_shift d s c
  | star => simp only [apply_ite (shiftAll d), hclose, hbefore]
  | colon => simp only [apply_ite (shiftAll d), hgoOn]
  | name read => simp only [apply_ite (shiftAll d), hgoOn, hbefore]
  | quote mark escape read =>
    cases escape <;> simp only [apply_ite (shiftAll d), hclose, hgoOn]
  | regexp depth escape read =>
    cases escape <;> cases depth <;> simp only [apply_ite (shiftAll d), hclose, hgoOn]
  | stopped => exact hgoOn _

theorem run_shift (t : Text) : (s.shift d).run t = shiftAll d (s.run t) := by
  induction t generalizing s with
  | nil => rfl
  | cons c t ih =>
    rw [run, step_shift]
    dsimp only [shiftAll]
    rw [ih]
    simp only [run, shiftAll, List.map_append]

theorem finish_shift :
    (s.shift d).finish = (s.finish.1.map (·.shift d), s.finish.2 + d) := by
  have hdeliver : ∀ lexeme, (s.shift d).deliver lexeme (s.shift d).offset = _ :=
    fun lexeme => deliver_shift d s lexeme s.offset
  have hflush : (s.shift d).flush (s.shift d).offset = _ := flush_shift d s s.offset
  have hmode : (s.shift d).mode = s.mode := rfl
  unfold finish
  rw [hmode]
  cases s.mode <;> simp only [hdeliver, hflush, List.map_nil] <;> rfl

/-- Within a token, a scan is behind the beginning of the token. -/
def Entered (s : Scanner) : Prop :=
  s.mode = .ready ∨ s.start < s.offset

theorem entered_openToken (c : Char) : (s.openToken c).2.Entered := by
  unfold openToken
  dsimp only
  split_ifs
  all_goals simp [Entered]

theorem Started.entered {s : Scanner} (hs : s.Started) (c : Char) : (s.step c).2.Entered := by
  have hgoOn : ∀ mode, Entered { s with offset := s.offset + 1, mode } :=
    fun _ => .inr (Nat.lt_succ_of_le hs)
  have hbefore : Entered (openToken ⟨s.offset, s.offset, none, .ready⟩ c).2 :=
    entered_openToken _ c
  have hclosed : Entered ⟨s.offset + 1, s.offset + 1, none, .ready⟩ := .inl rfl
  unfold Scanner.step
  cases s.mode with
  | ready => exact entered_openToken s c
  | star => dsimp only; split_ifs; exacts [hclosed, hbefore]
  | colon => dsimp only; split_ifs; exacts [hgoOn _, hgoOn _]
  | name read => dsimp only; split_ifs; exacts [hgoOn _, hbefore]
  | quote mark escape read =>
    cases escape with
    | true => exact hgoOn _
    | false => dsimp only; split_ifs; exacts [hclosed, hgoOn _, hgoOn _]
  | regexp depth escape read =>
    cases escape with
    | true => exact hgoOn _
    | false =>
      cases depth with
      | zero => dsimp only; split_ifs; exacts [hclosed, hgoOn _, hgoOn _]
      | succ depth => dsimp only; split_ifs; exacts [hgoOn _, hgoOn _, hgoOn _]
  | stopped => exact hgoOn _

theorem Started.run_entered {s : Scanner} (hs : s.Started) (he : s.Entered) (t : Text) :
    (s.run t).2.Entered := by
  induction t generalizing s with
  | nil => exact he
  | cons c t ih => exact ih (hs.step c).1 (hs.entered c)

/-- The characters that are tokens by themselves. -/
inductive Single : Char → Lexeme → Prop
  | separator : Single '/' .pathSeparator
  | altStart : Single '{' .altStart
  | altSeparator : Single ',' .altSeparator
  | altEnd : Single '}' .altEnd

/-- A scan that has read all is in front of such a character as at the end. -/
theorem step_single {s : Scanner} {c : Char} {lexeme : Lexeme} (hc : Single c lexeme)
    (he : s.Entered) (hf : s.finish.2 = s.offset) :
    s.step c = (s.finish.1 ++ [⟨lexeme, ⟨s.offset, s.offset + 1⟩⟩],
      initial.shift (s.offset + 1)) := by
  have hready : ∀ s : Scanner, s.openToken c =
      (s.flush s.offset ++ [⟨lexeme, ⟨s.offset, s.offset + 1⟩⟩],
        ⟨s.offset + 1, s.offset + 1, none, .ready⟩) := by
    intro s
    cases hc <;> rfl
  have hinitial : initial.shift (s.offset + 1) = ⟨s.offset + 1, s.offset + 1, none, .ready⟩ := by
    simp only [initial, shift, Nat.zero_add, Option.map_none]
  rw [hinitial]
  obtain ⟨offset, start, waiting, mode⟩ := s
  cases mode with
  | ready => exact hready _
  | star | name => cases hc <;> rfl
  | colon | quote | regexp | stopped =>
    rcases he with he | he
    · cases he
    · exact absurd hf (Nat.ne_of_lt he)

end Scanner

/-- **Tokens.** Behind a character that is a token by itself, what follows is cut as if it
    stood alone. -/
theorem tokens_single {p : Text} {c : Char} {lexeme : Lexeme} (hp : (tokens p).2 = p.length)
    (hc : Scanner.Single c lexeme) (rest : Text) : tokens (p ++ c :: rest) =
      ((tokens p).1 ++ ⟨lexeme, ⟨p.length, p.length + 1⟩⟩ ::
        (tokens rest).1.map (·.shift (p.length + 1)), (tokens rest).2 + (p.length + 1)) := by
  have hinitial : Scanner.initial.Started := le_refl 0
  have hoffset : (Scanner.initial.run p).2.offset = p.length :=
    (hinitial.run p).2.trans (Nat.zero_add _)
  have hstep := Scanner.step_single hc (hinitial.run_entered (.inl rfl) p) (hp.trans hoffset.symm)
  rw [hoffset] at hstep
  have hrun := Scanner.run_shift (p.length + 1) Scanner.initial rest
  have hfinish := Scanner.finish_shift (p.length + 1) (Scanner.initial.run rest).2
  simp only [tokens, Scanner.run_append, Scanner.run, hstep, hrun, Scanner.shiftAll, hfinish,
    List.map_append, List.append_assoc, List.cons_append, List.nil_append]

/-! ## Trees without positions -/

/-- The same token without its position. -/
def Token.bare (t : Token) : Token :=
  ⟨t.lexeme, ⟨0, 0⟩⟩

namespace Node

mutual

/-- A tree without the positions of its nodes. -/
def bare : Node → Node
  | .path _ absolute segments => .path ⟨0, 0⟩ absolute (bareAll segments)
  | .segment _ items => .segment ⟨0, 0⟩ (bareAll items)
  | .alternation _ branches => .alternation ⟨0, 0⟩ (bareAll branches)
  | .variable _ name (some c) => .variable ⟨0, 0⟩ name (some c.bare)
  | .variable _ name none => .variable ⟨0, 0⟩ name none
  | .wildcard _ greedy => .wildcard ⟨0, 0⟩ greedy
  | .regexp _ body => .regexp ⟨0, 0⟩ body
  | .text _ value => .text ⟨0, 0⟩ value

/-- Several trees without the positions of their nodes. -/
def bareAll : List Node → List Node
  | [] => []
  | n :: ns => n.bare :: bareAll ns

end

theorem bareAll_eq (ns : List Node) : bareAll ns = ns.map bare := by
  induction ns with
  | nil => rfl
  | cons n ns ih => rw [bareAll, ih, List.map_cons]

@[simp] theorem span_bare (n : Node) : n.bare.span = ⟨0, 0⟩ := by
  match n with
  | .variable _ _ (some _) | .variable _ _ none => rfl
  | .path .. | .segment .. | .alternation .. | .wildcard .. | .regexp .. | .text .. => rfl

theorem bare_variable (span : Span) (name : Text) (c : Option Node) :
    (Node.variable span name c).bare = .variable ⟨0, 0⟩ name (c.map bare) := by
  cases c <;> rfl

end Node

namespace OpenSegment

/-- An unfinished segment without positions. -/
def bare (s : OpenSegment) : OpenSegment :=
  ⟨0, 0, s.items.map Node.bare, s.awaiting.map fun v => (⟨0, 0⟩, v.2)⟩

variable (s : OpenSegment) (n : Node)

theorem settled_bare : s.bare.settled = s.settled.map Node.bare := by
  obtain ⟨start, stop, items, awaiting⟩ := s
  cases awaiting <;> rfl

theorem attach_bare : s.bare.attach n.bare = (s.attach n).bare := by
  obtain ⟨start, stop, items, awaiting⟩ := s
  cases awaiting <;> simp [bare, attach, Node.bare_variable]

theorem attachVariable_bare (span : Span) (name : Text) :
    s.bare.attachVariable ⟨0, 0⟩ name = (s.attachVariable span name).bare := by
  simp only [attachVariable, settled_bare]
  rfl

theorem close_bare : s.bare.close = s.close.bare := by
  simp only [close, settled_bare, Node.bare, Node.bareAll_eq, List.map_reverse]
  rfl

end OpenSegment

namespace OpenPath

/-- An unfinished path without positions. -/
def bare (p : OpenPath) : OpenPath :=
  ⟨0, p.absolute, p.segments.map Node.bare, p.current.map OpenSegment.bare⟩

variable (p : OpenPath) (n : Node)

theorem attach_bare : p.bare.attach n.bare = (p.attach n).bare := by
  obtain ⟨start, absolute, segments, current⟩ := p
  cases current with
  | none =>
    have hfresh : OpenSegment.attach ⟨0, 0, [], none⟩ n.bare = OpenSegment.bare _ :=
      OpenSegment.attach_bare ⟨n.span.start, n.span.start, [], none⟩ n
    simp only [bare, attach, Option.map_none, Option.map_some, Node.span_bare, hfresh]
  | some s => simp only [bare, attach, Option.map_some, OpenSegment.attach_bare]

theorem attachVariable_bare (span : Span) (name : Text) :
    p.bare.attachVariable ⟨0, 0⟩ name = (p.attachVariable span name).bare := by
  obtain ⟨start, absolute, segments, current⟩ := p
  cases current with
  | none =>
    have hfresh : OpenSegment.attachVariable ⟨0, 0, [], none⟩ ⟨0, 0⟩ name = OpenSegment.bare _ :=
      OpenSegment.attachVariable_bare ⟨span.start, span.start, [], none⟩ span name
    simp only [bare, attachVariable, Option.map_none, Option.map_some, hfresh]
  | some s =>
    simp only [bare, attachVariable, Option.map_some, OpenSegment.attachVariable_bare s span name]

theorem separate_bare (span : Span) : p.bare.separate ⟨0, 0⟩ = (p.separate span).bare := by
  obtain ⟨start, absolute, segments, current⟩ := p
  cases current with
  | none => rfl
  | some s =>
    simp only [bare, separate, Option.map_some, OpenSegment.close_bare, List.map_cons]
    rfl

theorem close_bare : p.bare.close = p.close.bare := by
  obtain ⟨start, absolute, segments, current⟩ := p
  cases current with
  | none => simp [bare, close, Node.bare, Node.bareAll_eq]
  | some s =>
    simp [bare, close, Node.bare, Node.bareAll_eq, OpenSegment.close_bare]
    rfl

end OpenPath

/-- An open alternation without positions. -/
def OpenAlternation.bare (a : OpenAlternation) : OpenAlternation :=
  ⟨a.outer.bare, 0, a.branches.map Node.bare⟩

namespace Cursor

/-- An unfinished tree without positions. -/
def bare (c : Cursor) : Cursor :=
  ⟨c.enclosing.map OpenAlternation.bare, c.path.bare⟩

theorem attach_bare (c : Cursor) (n : Node) : c.bare.attach n.bare = (c.attach n).bare :=
  congrArg (Cursor.mk c.bare.enclosing) (c.path.attach_bare n)

/-- A token without its position does the same without positions. -/
theorem step_bare (c : Cursor) (t : Token) :
    (c.bare.step t.bare).toOption = (c.step t).toOption.map bare := by
  obtain ⟨enclosing, p⟩ := c
  obtain ⟨lexeme, span⟩ := t
  cases lexeme with
  | text value => exact congrArg some (attach_bare _ (.text span value))
  | wildcard greedy => exact congrArg some (attach_bare _ (.wildcard span greedy))
  | regexp body => exact congrArg some (attach_bare _ (.regexp span body))
  | «variable» name =>
    exact congrArg (fun p => some (Cursor.mk _ p)) (p.attachVariable_bare span name)
  | pathSeparator => exact congrArg (fun p => some (Cursor.mk _ p)) (p.separate_bare span)
  | altStart => rfl
  | altSeparator =>
    cases enclosing with
    | nil => rfl
    | cons a as =>
      simp only [step, bare, List.map_cons, OpenAlternation.bare, Token.bare, p.close_bare]
      rfl
  | altEnd =>
    cases enclosing with
    | nil => rfl
    | cons a as =>
      have hattach := a.outer.attach_bare
        (.alternation ⟨a.start, span.stop⟩ (p.close :: a.branches).reverse)
      simp only [Node.bare, Node.bareAll_eq, List.map_reverse, List.map_cons] at hattach
      simp only [step, bare, List.map_cons, OpenAlternation.bare, Token.bare, p.close_bare, hattach]
      rfl

theorem feed_bare (c : Cursor) (ts : List Token) :
    (feed step c.bare (ts.map Token.bare)).toOption = (feed step c ts).toOption.map bare := by
  induction ts generalizing c with
  | nil => rfl
  | cons t ts ih =>
    have hstep := step_bare c t
    rw [List.map_cons, feed, feed]
    cases hc : c.step t with
    | error e =>
      rw [hc] at hstep
      cases hb : c.bare.step t.bare with
      | error e' => rfl
      | ok d => rw [hb] at hstep; cases hstep
    | ok d =>
      rw [hc] at hstep
      rw [eq_ok_of_toOption hstep]
      exact ih d

end Cursor

/-! ## Behind finished segments -/

/-- The path at the bottom of an unfinished tree: that of the cursor, or that around all
    open alternations. -/
def Cursor.outermost (c : Cursor) : OpenPath :=
  (c.enclosing.getLast?.map (·.outer)).getD c.path

/-- An unfinished path behind the segments of another one. -/
def OpenPath.onto (front p : OpenPath) : OpenPath :=
  ⟨front.start, front.absolute, p.segments ++ front.segments, p.current⟩

namespace OpenAlternation

/-- Open alternations, the path around all of which is behind the segments of another
    one. -/
def onto (front : OpenPath) : List OpenAlternation → List OpenAlternation
  | [] => []
  | [a] => [{ a with outer := front.onto a.outer }]
  | a :: b :: as => a :: onto front (b :: as)

end OpenAlternation

namespace Cursor

/-- An unfinished tree, the outermost path of which is behind the segments of another
    path. -/
def onto (front : OpenPath) (c : Cursor) : Cursor :=
  match c.enclosing with
  | [] => ⟨[], front.onto c.path⟩
  | a :: as => ⟨OpenAlternation.onto front (a :: as), c.path⟩

end Cursor

namespace OpenPath

/-- A path that begins with a separator. -/
structure Separated (p : OpenPath) : Prop where
  absolute : p.absolute = true
  isSome : p.current.isSome

variable {front p : OpenPath}

theorem attach_onto (h : p.current.isSome) (n : Node) :
    (front.onto p).attach n = front.onto (p.attach n) := by
  obtain ⟨start, absolute, segments, current⟩ := p
  cases current with
  | none => cases h
  | some s => rfl

theorem attachVariable_onto (h : p.current.isSome) (span : Span) (name : Text) :
    (front.onto p).attachVariable span name = front.onto (p.attachVariable span name) := by
  obtain ⟨start, absolute, segments, current⟩ := p
  cases current with
  | none => cases h
  | some s => rfl

theorem separate_onto (h : p.current.isSome) (span : Span) :
    (front.onto p).separate span = front.onto (p.separate span) := by
  obtain ⟨start, absolute, segments, current⟩ := p
  cases current with
  | none => cases h
  | some s => rfl

theorem Separated.attach (h : p.Separated) (n : Node) : (p.attach n).Separated :=
  ⟨by simp [h.absolute], by simp⟩

theorem Separated.attachVariable (h : p.Separated) (span : Span) (name : Text) :
    (p.attachVariable span name).Separated :=
  ⟨by simp [h.absolute], by simp⟩

theorem Separated.separate (h : p.Separated) (span : Span) : (p.separate span).Separated := by
  obtain ⟨s, hs⟩ := Option.isSome_iff_exists.1 h.isSome
  exact ⟨by simp [OpenPath.separate, hs, h.absolute], by simp⟩

end OpenPath

namespace Cursor

variable {front : OpenPath} {c d : Cursor} {t : Token}

variable (front) in
/-- A token does not meet finished segments of the outermost path. -/
theorem step_onto (h : c.outermost.Separated) (hc : c.step t = .ok d) :
    (c.onto front).step t = .ok (d.onto front) ∧ d.outermost.Separated := by
  obtain ⟨enclosing, p⟩ := c
  obtain ⟨lexeme, span⟩ := t
  match enclosing with
  | [] =>
    cases lexeme with
    | text | wildcard | regexp =>
      cases hc
      exact ⟨congrArg (fun p => Except.ok (Cursor.mk [] p)) (OpenPath.attach_onto h.isSome _),
        h.attach _⟩
    | «variable» name =>
      cases hc
      exact ⟨congrArg (fun p => Except.ok (Cursor.mk [] p))
        (OpenPath.attachVariable_onto h.isSome _ _), h.attachVariable _ _⟩
    | pathSeparator =>
      cases hc
      exact ⟨congrArg (fun p => Except.ok (Cursor.mk [] p)) (OpenPath.separate_onto h.isSome _),
        h.separate _⟩
    | altStart =>
      cases hc
      exact ⟨rfl, h⟩
    | altSeparator | altEnd => cases hc
  | [a] =>
    cases lexeme with
    | altEnd =>
      cases hc
      exact ⟨congrArg (fun p => Except.ok (Cursor.mk [] p)) (OpenPath.attach_onto h.isSome _),
        h.attach _⟩
    | _ =>
      cases hc
      exact ⟨rfl, h⟩
  | a :: b :: as =>
    cases lexeme <;> cases hc <;> exact ⟨rfl, h⟩

variable (front) in
theorem feed_onto {ts : List Token} (h : c.outermost.Separated) (hc : feed step c ts = .ok d) :
    feed step (c.onto front) ts = .ok (d.onto front) ∧ d.outermost.Separated := by
  induction ts generalizing c with
  | nil =>
    cases hc
    exact ⟨rfl, h⟩
  | cons t ts ih =>
    obtain ⟨c', h1, h2⟩ := bind_eq_ok.1 hc
    obtain ⟨hstep, hseparated⟩ := step_onto front h h1
    obtain ⟨hfeed, hd⟩ := ih hseparated h2
    exact ⟨bind_eq_ok.2 ⟨c'.onto front, hstep, hfeed⟩, hd⟩

end Cursor

/-! ## The tree of a concatenation -/

/-- Of three paths without positions, the second one begins with a separator, and the third
    one has the segments of the first and then those of the second. -/
inductive Joined : Node → Node → Node → Prop
  | empty {ms} : ms ≠ [] →
      Joined (.path ⟨0, 0⟩ false []) (.path ⟨0, 0⟩ true ms) (.path ⟨0, 0⟩ true ms)
  | segments {absolute ns ms} : ns ≠ [] → ms ≠ [] →
      Joined (.path ⟨0, 0⟩ absolute ns) (.path ⟨0, 0⟩ true ms) (.path ⟨0, 0⟩ absolute (ns ++ ms))

/-- The tokens of a pattern are read into its tree. -/
theorem feed_of_parse {pattern : Text} {root : Node} (h : parse pattern = .ok root) :
    (tokens pattern).2 = pattern.length ∧
      ∃ p, feed Cursor.step .initial (tokens pattern).1 = .ok ⟨[], p⟩ ∧ p.Begun ∧
        root = p.close := by
  rw [parse_eq_feed] at h
  obtain ⟨⟨enclosing, p⟩, hc, h⟩ := bind_eq_ok.1 h
  have hbound : (Cursor.mk enclosing p).Bound :=
    feed_induction (P := fun _ c => c.Bound) hc Cursor.bound_initial
      fun _ _ _ _ _ hb hs => (hb.step hs).1
  have hle := consumed_le_length pattern
  unfold Cursor.finish at h
  split_ifs at h with hlt
  refine ⟨by omega, p, ?_⟩
  cases enclosing with
  | nil =>
    cases h
    exact ⟨hc, hbound.path.begun, rfl⟩
  | cons a as => cases h

theorem parse_of_feed {pattern : Text} {p : OpenPath}
    (hf : feed Cursor.step .initial (tokens pattern).1 = .ok ⟨[], p⟩)
    (hc : (tokens pattern).2 = pattern.length) : parse pattern = .ok p.close := by
  rw [parse_eq_feed, hf, hc]
  exact if_neg (Nat.lt_irrefl _)

/-- A separator behind a path, without positions: it is as if it stood alone, behind the
    segments of the path. -/
theorem separate_begun {x : OpenPath} (hx : x.Begun) :
    ∃ front : OpenPath, x.bare.separate ⟨0, 0⟩ = front.onto ((OpenPath.empty 0).separate ⟨0, 0⟩) ∧
      ∀ ms, ms ≠ [] → Joined x.close.bare (.path ⟨0, 0⟩ true ms)
        (.path ⟨front.start, 0⟩ front.absolute (front.segments.reverse ++ ms)) := by
  obtain ⟨start, absolute, segments, current⟩ := x
  cases current with
  | none =>
    obtain ⟨rfl, rfl⟩ := hx rfl
    exact ⟨⟨0, true, [], none⟩, rfl, fun _ hms => .empty hms⟩
  | some s =>
    refine ⟨⟨0, absolute, s.bare.close :: segments.map Node.bare, none⟩, rfl, fun ms hms => ?_⟩
    rw [← OpenPath.close_bare]
    exact .segments (by simp) hms

/-- The finished path that is behind the segments of another one. -/
theorem close_onto (front : OpenPath) {y : OpenPath} (hy : y.bare.Separated) :
    ∃ ms, ms ≠ [] ∧ y.bare.close = .path ⟨0, 0⟩ true ms ∧
      (front.onto y.bare).close =
        .path ⟨front.start, 0⟩ front.absolute (front.segments.reverse ++ ms) := by
  obtain ⟨s, hs⟩ := Option.isSome_iff_exists.1 hy.isSome
  have hstart : y.bare.start = 0 := rfl
  have hstop : s.stop = 0 := by
    obtain ⟨t, -, rfl⟩ := Option.map_eq_some_iff.1 hs
    rfl
  refine ⟨(s.close :: y.bare.segments).reverse, by simp, ?_, ?_⟩
  · simp [OpenPath.close, hs, hy.absolute, hstop, hstart]
  · simp [OpenPath.onto, OpenPath.close, hs, hstop]

/-- Behind a path, tokens that follow a separator build what they build alone. -/
theorem feed_behind {x y : OpenPath} {ts : List Token} (hx : x.Begun) (d : ℕ)
    (h : feed Cursor.step ⟨[], (OpenPath.empty 0).separate ⟨0, 1⟩⟩ ts = .ok ⟨[], y⟩) :
    ∃ z, feed Cursor.step ⟨[], x.separate ⟨d, d + 1⟩⟩ (ts.map (·.shift d)) = .ok ⟨[], z⟩ ∧
      Joined x.close.bare y.close.bare z.close.bare := by
  obtain ⟨front, hfront, hclose⟩ := separate_begun hx
  -- without positions, alone and then behind the path
  have halone := Cursor.feed_bare ⟨[], (OpenPath.empty 0).separate ⟨0, 1⟩⟩ ts
  rw [h] at halone
  obtain ⟨honto, hseparated⟩ := Cursor.feed_onto front ⟨rfl, rfl⟩ (eq_ok_of_toOption halone)
  -- and with them
  have hbehind := Cursor.feed_bare ⟨[], x.separate ⟨d, d + 1⟩⟩ (ts.map (·.shift d))
  have hstart : Cursor.bare ⟨[], x.separate ⟨d, d + 1⟩⟩ =
      Cursor.onto front (Cursor.bare ⟨[], (OpenPath.empty 0).separate ⟨0, 1⟩⟩) := by
    rw [Cursor.bare, ← OpenPath.separate_bare, hfront]
    rfl
  have hbare : (ts.map (·.shift d)).map Token.bare = ts.map Token.bare := by
    rw [List.map_map]
    rfl
  rw [hstart, hbare, honto] at hbehind
  obtain ⟨⟨enclosing, z⟩, hz, hzy⟩ := Option.map_eq_some_iff.1 hbehind.symm
  obtain ⟨henclosing, hpath⟩ := Cursor.mk.inj hzy
  obtain rfl : enclosing = [] := List.map_eq_nil_iff.1 henclosing
  obtain ⟨ms, hms, hy, hzclose⟩ := close_onto front hseparated
  refine ⟨z, eq_ok_of_toOption hz, ?_⟩
  have hz' : z.close.bare = (front.onto y.bare).close := by
    rw [← z.close_bare]
    exact congrArg OpenPath.close hpath
  rw [hz', hzclose, ← y.close_bare, hy]
  exact hclose ms hms

/-- **Concatenation.** The tree of a pattern followed by one that begins with a separator
    has, apart from positions, the segments of both. -/
theorem parse_append {p q : Text} {a b : Node} (hp : parse p = .ok a) (hq : parse q = .ok b)
    (hs : q.head? = some '/') :
    ∃ c, parse (p ++ q) = .ok c ∧ Joined a.bare b.bare c.bare := by
  obtain ⟨hpl, x, hx, hbegun, rfl⟩ := feed_of_parse hp
  obtain ⟨hql, y, hy, -, rfl⟩ := feed_of_parse hq
  match q with
  | c :: rest =>
    obtain rfl : c = '/' := Option.some.inj hs
    have halone := tokens_single (p := []) rfl .separator rest
    have htokens := tokens_single hpl .separator rest
    rw [List.nil_append] at halone
    rw [halone] at hy hql
    obtain ⟨z, hz, hclose⟩ := feed_behind hbegun p.length hy
    refine ⟨z.close, parse_of_feed ?_ ?_, hclose⟩
    · have hshift : ((tokens rest).1.map (·.shift 1)).map (·.shift p.length) =
          (tokens rest).1.map (·.shift (p.length + 1)) := by
        simp only [List.map_map, Function.comp_def, Token.shift, Nat.add_assoc, Nat.add_comm 1]
      rw [List.length_nil, Nat.zero_add, hshift] at hz
      rw [htokens, feed_append, hx]
      exact hz
    · rw [htokens, List.length_append, List.length_cons]
      rw [List.length_nil, List.length_cons] at hql
      dsimp only at hql ⊢
      omega

end PathRouting.Pattern
