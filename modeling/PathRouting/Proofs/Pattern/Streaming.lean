/-
  Tokens that are handed on while the pattern is read.

  * `feed_induction`: what each token keeps true is true behind all tokens.
  * `stream_eq_feed`: scanning a pattern for a handler is handing it the tokens of the
    pattern one by one.
  * `Cursor.Steps`: what a token does to a cursor, said once for all that follows.
  * `parse_induction`: what each token keeps true of a cursor, for the tree of a pattern,
    which is that of a cursor outside of alternations.
  * `consumed_le_length`: a scan reads no more characters than there are.
-/
import PathRouting.Pattern.Cursor
import PathRouting.Proofs.Regex.Units
import Mathlib.Tactic

namespace PathRouting.Pattern

section Handlers

variable {σ ε : Type} (handle : σ → Token → Except ε σ)

variable {handle} in
/-- What each token keeps true, by the tokens so far, is true behind all tokens. -/
theorem feed_induction {P : List Token → σ → Prop} {ts : List Token} {state last : σ}
    (h : feed handle state ts = .ok last) (hfirst : P [] state)
    (hstep : ∀ us s s', ∀ t ∈ ts, P us s → handle s t = .ok s' → P (us ++ [t]) s') :
    P ts last := by
  suffices hrest : ∀ us vs s, ts = us ++ vs → P us s → feed handle s vs = .ok last → P ts last from
    hrest [] ts state rfl hfirst h
  intro us vs
  induction vs generalizing us with
  | nil =>
    rintro s rfl hs ⟨⟩
    rwa [List.append_nil]
  | cons t vs ih =>
    intro s hts hs h
    obtain ⟨s', h1, h2⟩ := bind_eq_ok.1 h
    have ht : t ∈ ts := by simp [hts]
    exact ih (us ++ [t]) s' (by simp [hts]) (hstep us s s' t ht hs h1) h2

theorem feed_append (state : σ) (ts us : List Token) :
    feed handle state (ts ++ us) =
      (feed handle state ts).bind fun state' => feed handle state' us := by
  induction ts generalizing state with
  | nil => rfl
  | cons t ts ih =>
    rw [List.cons_append, feed, feed]
    cases handle state t with
    | error e => rfl
    | ok state' => exact ih state'

theorem streamFrom_eq_feed (state : σ) (s : Scanner) (text : Text) :
    streamFrom handle state s text =
      (feed handle state ((s.run text).1 ++ (s.run text).2.finish.1)).map fun state' =>
        (state', (s.run text).2.finish.2) := by
  induction text generalizing state s with
  | nil => rfl
  | cons c text ih =>
    rw [streamFrom, Scanner.run, List.append_assoc, feed_append]
    cases feed handle state (s.step c).1 with
    | error e => rfl
    | ok state' => exact ih state' _

/-- Scanning for a handler is handing it the tokens. -/
theorem stream_eq_feed (state : σ) (pattern : Text) :
    stream handle state pattern =
      (feed handle state (tokens pattern).1).map fun state' => (state', (tokens pattern).2) :=
  streamFrom_eq_feed handle state .initial pattern

end Handlers

/-! ## One token -/

/-- What a token does to a cursor. There is an open alternation around what separates or
    ends the branches of one. -/
inductive Cursor.Steps : Cursor → Token → Cursor → Prop
  | text {c span value} : Steps c ⟨.text value, span⟩ (c.attach (.text span value))
  | wildcard {c span greedy} : Steps c ⟨.wildcard greedy, span⟩ (c.attach (.wildcard span greedy))
  | regexp {c span body} : Steps c ⟨.regexp body, span⟩ (c.attach (.regexp span body))
  | named {c span name} : Steps c ⟨.variable name, span⟩
      { c with path := c.path.attachVariable span name }
  | pathSeparator {c span} : Steps c ⟨.pathSeparator, span⟩ { c with path := c.path.separate span }
  | altStart {c span} : Steps c ⟨.altStart, span⟩
      ⟨⟨c.path, span.start, []⟩ :: c.enclosing, .empty span.stop⟩
  | altSeparator {a as p span} : Steps ⟨a :: as, p⟩ ⟨.altSeparator, span⟩
      ⟨{ a with branches := p.close :: a.branches } :: as, .empty span.stop⟩
  | altEnd {a as p span} : Steps ⟨a :: as, p⟩ ⟨.altEnd, span⟩
      ⟨as, a.outer.attach (.alternation ⟨a.start, span.stop⟩ (p.close :: a.branches).reverse)⟩

theorem Cursor.step_eq_ok {c c' : Cursor} {t : Token} : c.step t = .ok c' ↔ Steps c t c' := by
  constructor
  · intro h
    obtain ⟨lexeme, span⟩ := t
    obtain ⟨as, p⟩ := c
    cases lexeme with
    | text => cases h; exact .text
    | wildcard => cases h; exact .wildcard
    | regexp => cases h; exact .regexp
    | «variable» => cases h; exact .named
    | pathSeparator => cases h; exact .pathSeparator
    | altStart => cases h; exact .altStart
    | altSeparator =>
      cases as with
      | nil => cases h
      | cons => cases h; exact .altSeparator
    | altEnd =>
      cases as with
      | nil => cases h
      | cons => cases h; exact .altEnd
  · intro h
    cases h <;> rfl

/-! ## The end of a pattern -/

/-- What the end of a pattern makes of a cursor. -/
def Cursor.finish (c : Cursor) (consumed length : ℕ) : Except PatternError Node :=
  if consumed < length then .error (.unexpectedSyntax consumed)
  else match c.enclosing with
    | [] => .ok c.path.close
    | _ :: _ => .error (.unterminatedAlternation consumed)

theorem parse_eq_feed (pattern : Text) :
    parse pattern = (feed Cursor.step .initial (tokens pattern).1).bind fun c =>
      c.finish (tokens pattern).2 pattern.length :=
  rfl

/-- What each token keeps true of a cursor is true of the one that has the finished tree. -/
theorem parse_induction {pattern : Text} {root : Node} {P : List Token → Cursor → Prop}
    (h : parse pattern = .ok root) (hfirst : P [] .initial)
    (hstep : ∀ us c c', ∀ t ∈ (tokens pattern).1, P us c → c.step t = .ok c' → P (us ++ [t]) c') :
    ∃ p, P (tokens pattern).1 ⟨[], p⟩ ∧ root = p.close := by
  rw [parse_eq_feed] at h
  obtain ⟨⟨enclosing, p⟩, hc, h⟩ := bind_eq_ok.1 h
  have hlast := feed_induction hc hfirst hstep
  unfold Cursor.finish at h
  split_ifs at h
  cases enclosing with
  | nil =>
    cases h
    exact ⟨p, hlast, rfl⟩
  | cons a as => cases h

/-! ## How far a scan reads -/

namespace Scanner

/-- The token being read began where the scan is, or before. -/
def Started (s : Scanner) : Prop :=
  s.start ≤ s.offset

/-- A step from `offset` reads one character. -/
def ReadsOne (offset : ℕ) (r : List Token × Scanner) : Prop :=
  r.2.Started ∧ r.2.offset = offset + 1

theorem readsOne_openToken (s : Scanner) (c : Char) : ReadsOne s.offset (s.openToken c) := by
  have hnext : ∀ (ts : List Token) (start : ℕ) (waiting : Option (ℕ × Text)) (mode : Mode),
      start ≤ s.offset + 1 → ReadsOne s.offset (ts, ⟨s.offset + 1, start, waiting, mode⟩) :=
    fun _ _ _ _ h => ⟨h, rfl⟩
  have hle : s.offset ≤ s.offset + 1 := Nat.le_succ _
  unfold openToken
  refine iteInduction (fun _ => hnext _ _ _ _ le_rfl) fun _ => ?_
  refine iteInduction (fun _ => hnext _ _ _ _ hle) fun _ => ?_
  refine iteInduction (fun _ => hnext _ _ _ _ le_rfl) fun _ => ?_
  refine iteInduction (fun _ => hnext _ _ _ _ le_rfl) fun _ => ?_
  refine iteInduction (fun _ => hnext _ _ _ _ le_rfl) fun _ => ?_
  refine iteInduction (fun _ => hnext _ _ _ _ le_rfl) fun _ => ?_
  refine iteInduction (fun _ => hnext _ _ _ _ hle) fun _ => ?_
  refine iteInduction (fun _ => hnext _ _ _ _ hle) fun _ => ?_
  exact iteInduction (fun _ => hnext _ _ _ _ hle) fun _ => hnext _ _ _ _ le_rfl

theorem Started.step {s : Scanner} (hs : s.Started) (c : Char) : ReadsOne s.offset (s.step c) := by
  have hclosed : ∀ ts, ReadsOne s.offset (ts, ⟨s.offset + 1, s.offset + 1, none, .ready⟩) :=
    fun _ => ⟨le_refl _, rfl⟩
  have hbefore : ∀ ts, ReadsOne s.offset
      (ts ++ (openToken ⟨s.offset, s.offset, none, .ready⟩ c).1,
        (openToken ⟨s.offset, s.offset, none, .ready⟩ c).2) :=
    fun _ => readsOne_openToken ⟨s.offset, s.offset, none, .ready⟩ c
  have hgoOn : ∀ mode, ReadsOne s.offset ([], { s with offset := s.offset + 1, mode }) :=
    fun _ => ⟨Nat.le_succ_of_le hs, rfl⟩
  unfold Scanner.step
  cases s.mode with
  | ready => exact readsOne_openToken s c
  | star => exact iteInduction (fun _ => hclosed _) fun _ => hbefore _
  | colon => exact iteInduction (fun _ => hgoOn _) fun _ => hgoOn _
  | name read => exact iteInduction (fun _ => hgoOn _) fun _ => hbefore _
  | quote mark escape read =>
    cases escape with
    | true => exact hgoOn _
    | false =>
      exact iteInduction (fun _ => hclosed _) fun _ =>
        iteInduction (fun _ => hgoOn _) fun _ => hgoOn _
  | regexp depth escape read =>
    cases escape with
    | true => exact hgoOn _
    | false =>
      refine iteInduction (fun _ => ?_) fun _ => iteInduction (fun _ => hgoOn _) fun _ => hgoOn _
      cases depth with
      | zero => exact hclosed _
      | succ depth => exact hgoOn _
  | stopped => exact hgoOn _

theorem Started.run {s : Scanner} (hs : s.Started) (text : Text) :
    (s.run text).2.Started ∧ (s.run text).2.offset = s.offset + text.length := by
  induction text generalizing s with
  | nil => exact ⟨hs, rfl⟩
  | cons c text ih =>
    obtain ⟨hs', ho⟩ := hs.step c
    obtain ⟨hr, ho'⟩ := ih hs'
    refine ⟨hr, ho'.trans ?_⟩
    rw [ho, List.length_cons]
    omega

theorem finish_le {s : Scanner} (hs : s.Started) : s.finish.2 ≤ s.offset := by
  unfold finish
  cases s.mode with
  | ready | star | name => exact le_refl _
  | colon | quote | regexp | stopped => exact hs

end Scanner

/-- A scan reads no more characters than there are. -/
theorem consumed_le_length (pattern : Text) : (tokens pattern).2 ≤ pattern.length := by
  have hinitial : Scanner.initial.Started := le_refl 0
  obtain ⟨hs, ho⟩ := hinitial.run pattern
  calc (tokens pattern).2 = (Scanner.initial.run pattern).2.finish.2 := rfl
    _ ≤ (Scanner.initial.run pattern).2.offset := Scanner.finish_le hs
    _ = pattern.length := ho.trans (Nat.zero_add _)

end PathRouting.Pattern
