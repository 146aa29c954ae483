/-
  Printed numbers and texts can be told apart, also in front of other text.

  * `append_inj_of_head`: where two stretches of characters of one class end says where what
    is behind them begins.
  * `decimal_append_inj`: a number is determined by its digits, and so is what is behind.
  * `escaped_append_inj`, `quoted_append_inj`: no escape is the beginning of another one, and
    no quoted text that of another one.
  * `newline_not_mem_quoted`: a quoted text stands on one line.
-/
import PathRouting.Text.Quoted
import Mathlib.Data.List.TakeWhile
import Mathlib.Tactic

namespace PathRouting.Text

variable {c d : Char} {s t u v x y : Text} {m n : ℕ}

/-! ## Stretches of characters -/

/-- Two texts that begin with characters of a class are the same up to where the class ends. -/
theorem append_inj_of_head {p : Char → Bool} (hu : ∀ c ∈ u, p c) (hv : ∀ c ∈ v, p c)
    (hx : ∀ c ∈ x.head?, p c = false) (hy : ∀ c ∈ y.head?, p c = false)
    (h : u ++ x = v ++ y) : u = v ∧ x = y := by
  have hnone : ∀ z : Text, (∀ c ∈ z.head?, p c = false) → z.takeWhile p = [] := by
    intro z hz
    cases z with
    | nil => rfl
    | cons c z => exact List.takeWhile_cons_of_neg (by simp [hz c rfl])
  have huv : u = v := by
    have htake := congrArg (List.takeWhile p) h
    rwa [List.takeWhile_append_of_pos hu, List.takeWhile_append_of_pos hv, hnone x hx, hnone y hy,
      List.append_nil, List.append_nil] at htake
  subst huv
  exact ⟨rfl, List.append_cancel_left h⟩

/-- Two lines that are the same up to their ends. -/
theorem line_append_inj (hs : c ∉ s) (ht : c ∉ t) (h : s ++ c :: x = t ++ c :: y) :
    s = t ∧ x = y := by
  refine (append_inj_of_head (p := (· != c)) ?_ ?_ ?_ ?_ h).imp id fun h => (List.cons.inj h).2
  · exact fun a ha => bne_iff_ne.2 fun heq => hs (heq ▸ ha)
  · exact fun a ha => bne_iff_ne.2 fun heq => ht (heq ▸ ha)
  · rintro a ⟨⟩
    simp
  · rintro a ⟨⟩
    simp

/-! ## Numbers -/

theorem decimal_append_inj (hx : ∀ c ∈ x.head?, c.isDigit = false)
    (hy : ∀ c ∈ y.head?, c.isDigit = false) (h : decimal m ++ x = decimal n ++ y) :
    m = n ∧ x = y := by
  have hdigits : ∀ n, ∀ c ∈ decimal n, c.isDigit := fun n c =>
    Nat.isDigit_of_mem_toDigits (by decide) (by decide)
  obtain ⟨hmn, hxy⟩ := append_inj_of_head (hdigits m) (hdigits n) hx hy h
  refine ⟨?_, hxy⟩
  calc m
    _ = Nat.ofDigitChars 10 (decimal m) 0 := Nat.ofDigitChars_ten_toDigits.symm
    _ = Nat.ofDigitChars 10 (decimal n) 0 := by rw [hmn]
    _ = n := Nat.ofDigitChars_ten_toDigits

theorem newline_not_mem_decimal (n : ℕ) : '\n' ∉ decimal n := fun h =>
  absurd (Nat.isDigit_of_mem_toDigits (by decide) (by decide) h) (by decide)

/-- The digits of a number in base sixteen are its last one behind those of the rest. -/
theorem toDigits_sixteen (n : ℕ) : Nat.toDigits 16 n =
    (if n < 16 then [] else Nat.toDigits 16 (n / 16)) ++ [Nat.digitChar (n % 16)] := by
  rw [Nat.toDigits_eq_if (by decide)]
  split_ifs with hn
  · rw [Nat.mod_eq_of_lt hn, List.nil_append]
  · rfl

theorem not_mem_toDigits (hc : ∀ k : Fin 16, Nat.digitChar k ≠ c) (n : ℕ) :
    c ∉ Nat.toDigits 16 n := by
  induction n using Nat.strongRecOn with
  | ind n ih =>
    rw [toDigits_sixteen, List.mem_append, List.mem_singleton]
    rintro (h | h)
    · split_ifs at h with hn
      · cases h
      · exact ih (n / 16) (by omega) h
    · exact hc ⟨n % 16, Nat.mod_lt n (by decide)⟩ h.symm

theorem toDigits_inj (h : Nat.toDigits 16 m = Nat.toDigits 16 n) : m = n := by
  have hdigit : ∀ i j : Fin 16, Nat.digitChar i = Nat.digitChar j → i = j := by decide
  induction m using Nat.strongRecOn generalizing n with
  | ind m ih =>
    rw [toDigits_sixteen m, toDigits_sixteen n] at h
    obtain ⟨hrest, hlast⟩ := List.append_inj' h rfl
    have hmod : m % 16 = n % 16 := by
      have := hdigit ⟨m % 16, Nat.mod_lt m (by decide)⟩ ⟨n % 16, Nat.mod_lt n (by decide)⟩
        (List.cons.inj hlast).1
      exact congrArg Fin.val this
    split_ifs at hrest with hm hn hn
    · omega
    · exact absurd hrest.symm Nat.toDigits_ne_nil
    · exact absurd hrest Nat.toDigits_ne_nil
    · have hdiv := ih (m / 16) (by omega) hrest
      omega

/-! ## Escapes -/

/-- The character for which a letter stands behind a backslash. -/
def short? : Char → Option Char
  | '0' => some '\x00'
  | 't' => some '\t'
  | 'n' => some '\n'
  | 'r' => some '\r'
  | '\\' => some '\\'
  | '\x22' => some '\x22'
  | _ => none

/-- How a character is written inside quotes: as it is, by a letter behind a backslash, or by
    its number. -/
inductive Escape (c : Char) : Text → Prop
  | plain : c ≠ '\n' → c ≠ '\\' → c ≠ '\x22' → Escape c [c]
  | short {k : Char} : short? k = some c → Escape c ['\\', k]
  | number : Escape c ('\\' :: 'u' :: '\x7b' :: (Nat.toDigits 16 c.toNat ++ ['\x7d']))

theorem escape_escaped (c : Char) : Escape c (escaped c) := by
  unfold escaped
  split_ifs with h₁ h₂ h₃ h₄ h₅ h₆
  · exact .short (h₁ ▸ rfl)
  · exact .short (h₂ ▸ rfl)
  · exact .short (h₃ ▸ rfl)
  · exact .short (h₄ ▸ rfl)
  · exact .short (h₅ ▸ rfl)
  · exact .short (h₆ ▸ rfl)
  · exact .plain h₃ h₅ h₆
  · exact .number

namespace Escape

/-- An escape ends where it does by itself. -/
theorem append_inj (hs : Escape c s) (ht : Escape d t) (h : s ++ x = t ++ y) : c = d ∧ x = y := by
  cases hs with
  | plain _ hc _ =>
    cases ht with
    | plain => exact List.cons.inj h
    | short | number => exact absurd (List.cons.inj h).1 hc
  | short hc =>
    cases ht with
    | plain _ hd _ => exact absurd (List.cons.inj h).1.symm hd
    | short hd =>
      obtain ⟨rfl, hxy⟩ := List.cons.inj (List.cons.inj h).2
      exact ⟨Option.some.inj (hc.symm.trans hd), hxy⟩
    | number =>
      obtain ⟨rfl, -⟩ := List.cons.inj (List.cons.inj h).2
      cases hc
  | number =>
    cases ht with
    | plain _ hd _ => exact absurd (List.cons.inj h).1.symm hd
    | short hd =>
      obtain ⟨rfl, -⟩ := List.cons.inj (List.cons.inj h).2
      cases hd
    | number =>
      simp only [List.cons_append, List.append_assoc, List.nil_append, List.cons.injEq,
        true_and] at h
      have hbrace := not_mem_toDigits (c := '\x7d') (by decide)
      obtain ⟨hnumber, hxy⟩ := line_append_inj (hbrace _) (hbrace _) h
      exact ⟨Char.toNat_inj.1 (toDigits_inj hnumber), hxy⟩

theorem head?_ne_quote (h : Escape c s) : s.head? ≠ some '\x22' := by
  cases h with
  | plain _ _ hc => simpa using hc
  | short | number => simp

theorem ne_nil (h : Escape c s) : s ≠ [] := by
  cases h <;> simp

theorem newline_not_mem (h : Escape c s) : '\n' ∉ s := by
  cases h with
  | plain hc => simpa using Ne.symm hc
  | @short k hk =>
    have hn : '\n' ≠ k := by
      rintro rfl
      cases hk
    simp [hn]
  | number => simpa using not_mem_toDigits (by decide) _

end Escape

theorem escaped_append_inj (h : escaped c ++ x = escaped d ++ y) : c = d ∧ x = y :=
  (escape_escaped c).append_inj (escape_escaped d) h

/-! ## Quoted texts -/

/-- The closing quote of a text is the first one that no escape stands for. -/
theorem flatMap_escaped_append_inj
    (h : s.flatMap escaped ++ '\x22' :: x = t.flatMap escaped ++ '\x22' :: y) : s = t ∧ x = y := by
  have hquote : ∀ (d : Char) (t z z' : Text), '\x22' :: z ≠ (d :: t).flatMap escaped ++ z' := by
    intro d t z z' heq
    have hd := escape_escaped d
    refine hd.head?_ne_quote ?_
    rw [List.flatMap_cons, List.append_assoc] at heq
    rw [← List.head?_append_of_ne_nil _ hd.ne_nil, ← heq, List.head?_cons]
  induction s generalizing t with
  | nil =>
    cases t with
    | nil => exact ⟨rfl, (List.cons.inj h).2⟩
    | cons d t => exact absurd h (hquote d t _ _)
  | cons c s ih =>
    cases t with
    | nil => exact absurd h.symm (hquote c s _ _)
    | cons d t =>
      rw [List.flatMap_cons, List.flatMap_cons, List.append_assoc, List.append_assoc] at h
      obtain ⟨rfl, hrest⟩ := escaped_append_inj h
      obtain ⟨rfl, hxy⟩ := ih hrest
      exact ⟨rfl, hxy⟩

/-- **Quoted texts.** A quoted text tells which text is quoted, and where it ends. -/
theorem quoted_append_inj (h : quoted s ++ x = quoted t ++ y) : s = t ∧ x = y := by
  simp only [quoted, List.cons_append, List.append_assoc, List.nil_append, List.cons.injEq,
    true_and] at h
  exact flatMap_escaped_append_inj h

theorem newline_not_mem_quoted (t : Text) : '\n' ∉ quoted t := by
  have hescaped : '\n' ∉ t.flatMap escaped := by
    rw [List.mem_flatMap]
    rintro ⟨c, -, hc⟩
    exact (escape_escaped c).newline_not_mem hc
  simp [quoted, hescaped]

end PathRouting.Text
