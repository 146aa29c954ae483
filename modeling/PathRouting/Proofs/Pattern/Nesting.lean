/-
  What decides whether a pattern has a tree.

  * `nest` counts the open alternations. It fails at a `,` or a `}` outside of all of them.
  * `verdict`: what is wrong with a pattern, by its tokens and the number of characters read.
  * `parse_verdict`: this is what the tree and the cells of a pattern are refused for, and no
    other error comes up on the way.
-/
import PathRouting.Proofs.Pattern.Lockstep

namespace PathRouting.Pattern

/-- The number of alternations that are open behind a token. -/
def nest (depth : ℕ) (t : Token) : Except PatternError ℕ :=
  match t.lexeme, depth with
  | .altStart, depth => .ok (depth + 1)
  | .altSeparator, 0 => .error (.unexpectedAltSeparator t.span.start)
  | .altEnd, 0 => .error (.unexpectedAltEnd t.span.start)
  | .altEnd, depth + 1 => .ok depth
  | _, depth => .ok depth

/-- What is wrong with a pattern of so many characters, by its tokens and the number of
    characters read: the first `,` or `}` outside of alternations, or else the place where
    the scan stopped, or else an alternation that is still open. -/
def verdict (ts : List Token) (consumed length : ℕ) : Except PatternError Unit :=
  (feed nest 0 ts).bind fun depth =>
    if consumed < length then .error (.unexpectedSyntax consumed)
    else if depth ≠ 0 then .error (.unterminatedAlternation length)
    else .ok ()

/-- The alternations around a cursor are counted. -/
theorem nest_alike (c : Cursor) (t : Token) :
    Alike (fun c depth => c.enclosing.length = depth) (c.step t) (nest c.enclosing.length t) := by
  obtain ⟨lexeme, span⟩ := t
  cases lexeme with
  | text | wildcard | regexp | pathSeparator => exact .ok rfl
  | «variable» => exact .ok rfl
  | altStart => exact .ok rfl
  | altSeparator | altEnd =>
    obtain ⟨_ | ⟨a, as⟩, p⟩ := c
    · exact .error _
    · exact .ok rfl

theorem nest_alike_feed (ts : List Token) :
    Alike (fun c depth => c.enclosing.length = depth) (feed Cursor.step .initial ts)
      (feed nest 0 ts) := by
  have hstep : ∀ (c : Cursor) (depth : ℕ), c.enclosing.length = depth → ∀ t,
      Alike (fun c depth => c.enclosing.length = depth) (c.step t) (nest depth t) := by
    rintro c _ rfl t
    exact nest_alike c t
  exact Alike.feed hstep rfl ts

theorem verdict_alike (pattern : Text) :
    Alike (fun _ _ => True) (parse pattern)
      (verdict (tokens pattern).1 (tokens pattern).2 pattern.length) := by
  rw [parse_eq_feed]
  refine (nest_alike_feed _).bind fun c depth h => ?_
  have hle := consumed_le_length pattern
  unfold Cursor.finish
  by_cases hlt : (tokens pattern).2 < pattern.length
  · rw [if_pos hlt, if_pos hlt]
    exact .error _
  · rw [if_neg hlt, if_neg hlt, ← h, show (tokens pattern).2 = pattern.length by omega]
    cases c.enclosing with
    | nil => exact .ok trivial
    | cons a as => exact .error _

/-- **What a pattern is refused for.** By its tokens, counting the open alternations: the
    first `,` or `}` outside of alternations, or else the place where the scan stopped, or
    else an alternation that is still open. The cells of a pattern are refused for the same.
    Whatever tokens a builder has taken, it counts the alternations around its cursor, and
    the next token fails only if it is a `,` or a `}` and there are none. -/
theorem parse_verdict (pattern : Text) :
    (parse pattern).map (fun _ => ()) =
        verdict (tokens pattern).1 (tokens pattern).2 pattern.length ∧
      (Arena.ofPattern pattern).map (fun _ => ()) =
        verdict (tokens pattern).1 (tokens pattern).2 pattern.length ∧
      ∀ ts b, feed Builder.step .initial ts = .ok b →
        (b.arena.nearest? b.cursor .alternation = none ↔ b.altDepth = 0) ∧
          ∀ t, (b.step t).map (·.altDepth) = nest b.altDepth t := by
  have hparse : (parse pattern).map (fun _ => ()) =
      verdict (tokens pattern).1 (tokens pattern).2 pattern.length := by
    rw [(verdict_alike pattern).map_eq (g := fun _ => ()) fun _ _ _ => rfl]
    cases verdict (tokens pattern).1 (tokens pattern).2 pattern.length <;> rfl
  refine ⟨hparse, ?_, fun ts b hb => ?_⟩
  · rw [← hparse]
    exact (ofPattern_alike pattern).map_eq fun _ _ _ => rfl
  · have hfollows := follows_feed ts
    rw [hb] at hfollows
    generalize feed Cursor.step .initial ts = y at hfollows
    cases hfollows with
    | @ok _ c h =>
      refine ⟨?_, fun t => ?_⟩
      · rw [h.nearest?_eq_none_iff, h.altDepth_eq, List.length_eq_zero_iff]
      · have hstep := (h.step t).map_eq fun _ _ h => h.altDepth_eq
        have hnest := (nest_alike c t).map_eq (g := fun d => d) fun _ _ h => h
        rw [hstep, hnest, h.altDepth_eq]
        cases nest c.enclosing.length t <;> rfl

/-- A `}` outside of alternations counts before an open quote behind it, and a colon without
    a name before an alternation that is left open. The `,` in an alternation is taken. -/
theorem parse_verdict_order :
    (parse "\x7ba,b\x7d\x7d\x22c".toList).map (fun _ => ()) = .error (.unexpectedAltEnd 5) ∧
      (Arena.ofPattern "\x7ba,b:".toList).map (fun _ => ()) = .error (.unexpectedSyntax 4) ∧
      (Arena.ofPattern "\x7ba,b".toList).map (fun _ => ()) = .error (.unterminatedAlternation 4) ∧
      ∃ b, feed Builder.step .initial ((tokens "\x7ba,b".toList).1.take 2) = .ok b ∧
        (b.step ⟨.altSeparator, ⟨2, 3⟩⟩).map (·.altDepth) = .ok 1 := by
  refine ⟨(parse_verdict _).1.trans (by decide), (parse_verdict _).2.1.trans (by decide),
    (parse_verdict _).2.1.trans (by decide), ?_⟩
  have hok : (feed Builder.step .initial ((tokens "\x7ba,b".toList).1.take 2)).isOk := by decide
  obtain ⟨b, hb⟩ := exists_of_isOk hok
  have hdepth : (feed Builder.step .initial ((tokens "\x7ba,b".toList).1.take 2)).map (·.altDepth) =
      .ok 1 := by decide
  rw [hb] at hdepth
  have hone : b.altDepth = 1 := Except.ok.inj hdepth
  refine ⟨b, hb, ?_⟩
  rw [((parse_verdict []).2.2 _ b hb).2, hone]
  rfl

end PathRouting.Pattern
