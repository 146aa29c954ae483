/-
  Quoted text.

  * `escaped`: a text with a backslash in front of each mark and each backslash.
    `quoted_escaped`: between marks, it stands for that text.
  * `Scanner.scan_shift`: further on, a scan delivers the same tokens further on.
  * `tokens_quote`: wherever a pattern has been read to its end, any text can be quoted. It is a
    token of its own, and what follows is cut as if it stood alone.
-/
import PathRouting.Proofs.Pattern.Spacing

namespace PathRouting.Pattern

/-! ## Any text can be quoted -/

/-- A text with a backslash in front of each mark and each backslash. -/
def escaped (mark : Char) (value : Text) : Text :=
  value.flatMap fun c => if c = mark ∨ c = '\\' then ['\\', c] else [c]

/-- A text between marks. -/
def quote (mark : Char) (value : Text) : Text :=
  mark :: (escaped mark value ++ [mark])

theorem escaped_cons (mark c : Char) (value : Text) : escaped mark (c :: value) =
    (if c = mark ∨ c = '\\' then ['\\', c] else [c]) ++ escaped mark value :=
  List.flatMap_cons

/-- What is escaped stands for the text that it was made from. -/
theorem quoted_escaped (mark : Char) (value : Text) : Quoted mark (escaped mark value) value := by
  induction value with
  | nil => exact .nil
  | cons c value ih =>
    rw [escaped_cons]
    split_ifs with hc
    · exact .escape ih
    · obtain ⟨hmark, hslash⟩ := not_or.1 hc
      exact .char hmark hslash ih

section
variable {mark : Char} (hmark : isQuote mark) (value : Text)
include hmark

theorem written_quote : (Lexeme.text value).Written (quote mark value) :=
  .quoted hmark (quoted_escaped mark value)

/-- Quoted text ends at its mark, whatever follows. -/
theorem ends_quote (w : Text) : Ends (quote mark value) w := by
  have hbare : isBare mark = false := not_isBare_of_isQuote hmark
  constructor
  · intro c _
    rcases isQuote_iff.1 hmark with rfl | rfl <;> rfl
  · intro hall
    simp [quote, hbare] at hall

end

/-! ## What follows -/

/-- Further on, a scan delivers the same tokens further on. -/
theorem Scanner.scan_shift (d : ℕ) (s : Scanner) (u : Text) :
    (s.shift d).scan u = ((s.scan u).1.map (·.shift d), (s.scan u).2 + d) := by
  rw [scan, run_shift]
  dsimp only [shiftAll]
  rw [finish_shift, scan, List.map_append]

/-- Between tokens, a text is cut as if it stood alone. -/
theorem Scanner.scan_between (n : ℕ) (u : Text) :
    (between n none).scan u = ((tokens u).1.map (·.shift n), (tokens u).2 + n) := by
  have hshift : between n none = initial.shift n := by simp [between, initial, shift]
  rw [hshift, scan_shift]
  rfl

/-- **Quoting.** Any text can be quoted with either mark wherever a pattern has been read to its
    end: with a backslash in front of each mark and each backslash, it is one token, from the one
    mark to the other. The tokens in front of it are those of the pattern alone, and behind it
    the scan goes on as if what follows stood alone. -/
theorem tokens_quote {mark : Char} (hmark : isQuote mark) (value : Text) {u : Text}
    (hu : (tokens u).2 = u.length) (w : Text) :
    tokens (u ++ quote mark value ++ w) =
      ((tokens u).1 ++ ⟨.text value, ⟨u.length, u.length + (quote mark value).length⟩⟩ ::
          (tokens w).1.map (·.shift (u.length + (quote mark value).length)),
        (tokens w).2 + (u.length + (quote mark value).length)) := by
  have hwritten := written_quote hmark value
  have hends := ends_quote hmark value w
  have hfree : ¬Stuck (quote mark value ++ w) := hwritten.not_stuck hends
  -- no token of the pattern goes on with the mark
  have hapart : ∀ c ∈ (quote mark value ++ w).head?, (∀ a, goesOn a c = false) ∨
      ([] : Text).head? = some c := by
    rintro c ⟨⟩
    exact .inl (not_goesOn_of_isQuote hmark)
  obtain ⟨x, hx, hfront⟩ := (Cut.of_tokens hu).replace hfree hapart
  rw [List.append_nil] at hx
  subst hx
  have hcut := (hfront.append (.token hwritten hends .done)).scan_eq
  rw [List.append_assoc]
  calc tokens (u ++ (quote mark value ++ w))
    _ = (Scanner.between 0 none).scan (u ++ (quote mark value ++ w)) := rfl
    _ = _ := hcut
    _ = _ := by rw [Scanner.scan_between, Scanner.before, List.append_assoc]; rfl

/-- Quoted text with marks and a backslash behind a wildcard, in front of a name and of an open
    quote. -/
theorem tokens_quote_marks :
    quote '\x27' "a\x27 \\".toList = "\x27a\\\x27 \\\\\x27".toList ∧
      tokens ("*".toList ++ quote '\x27' "a\x27 \\".toList ++ ":b\x22".toList) =
        ([⟨.wildcard false, ⟨0, 1⟩⟩, ⟨.text "a\x27 \\".toList, ⟨1, 9⟩⟩,
          ⟨.variable ['b'], ⟨9, 11⟩⟩], 11) :=
  ⟨by decide, (tokens_quote (by decide) _ (by decide) _).trans (by decide)⟩

end PathRouting.Pattern
