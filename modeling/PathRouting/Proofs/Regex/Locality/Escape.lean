/-
  Reading does not depend on what stands behind.

  What one of the functions of the reader takes off the front of a text, it takes off
  in the same way whatever follows. There is one lemma for each of them, of the same
  form: where `z` follows and `w ++ z` is left, `w ++ u` is left where `u` follows.

  * `skip_cons_local`, `skip_local`: white space and comments. In verbose mode a
    comment may go on into what follows, unless something is left in front of it.
  * `Flags.readFrom_local`: flags.
  * `readEscape_local`: escape sequences.
-/
import PathRouting.Proofs.Regex.Alignment

namespace PathRouting.Regex

/-- What is taken off in front of something that is left, was in front of it. -/
theorem exists_append_of_suffix {v w z : Text} (h : w ++ z <:+ v) :
    ∃ x, v = x ++ z ∧ w <:+ x := by
  obtain ⟨p, rfl⟩ := h
  exact ⟨p ++ w, (List.append_assoc ..).symm, p, rfl⟩

/-! ## White space and comments -/

section
variable {f : Flags} {x z w : Text} (u : Text)

theorem suffix_of_cons {a b : Char} {r t : Text} (h : b :: r <:+ a :: t) : r <:+ t := by
  rcases List.suffix_cons_iff.1 h with he | h
  · obtain rfl := (List.cons.inj he).2
    exact List.suffix_refl _
  · exact (List.suffix_cons b r).trans h

theorem not_suffix_of_ne_nil (hw : w ≠ []) : ¬ w ++ z <:+ z := by
  intro h
  have := h.length_le
  rw [List.length_append] at this
  exact hw (List.length_eq_zero_iff.1 (by omega))

theorem skipBlank_local (hw : w ≠ []) :
    (skipBlank (x ++ z) = w ++ z → skipBlank (x ++ u) = w ++ u) ∧
      (skipComment (x ++ z) = w ++ z → skipComment (x ++ u) = w ++ u) := by
  induction x with
  | nil =>
    obtain ⟨hb, hc⟩ := skip_behind_of_length z.length z (Nat.le_refl _)
    refine ⟨fun h => ?_, fun h => ?_⟩
    · exact (not_suffix_of_ne_nil hw (h ▸ hb.suffix)).elim
    · exact (not_suffix_of_ne_nil hw (h ▸ hc.suffix)).elim
  | cons c x ih =>
    obtain ⟨ihb, ihc⟩ := ih
    simp only [List.cons_append, skipBlank, skipComment]
    refine ⟨?_, ?_⟩
    · split_ifs
      · exact ihb
      · exact ihc
      · intro h
        rw [← List.cons_append] at h ⊢
        rw [List.append_cancel_right h]
    · split_ifs
      · exact ihb
      · exact ihc

theorem skip_local_of_ne (h : skip f (x ++ z) = w ++ z) (hw : w ≠ []) :
    skip f (x ++ u) = w ++ u := by
  unfold skip at h ⊢
  split_ifs at h ⊢
  · exact (skipBlank_local u hw).1 h
  · rw [List.append_cancel_right h]

theorem skip_local (h : skip f (x ++ z) = w ++ z) (hv : f.verbose = true → w ≠ []) :
    skip f (x ++ u) = w ++ u := by
  by_cases hf : f.verbose = true
  · exact skip_local_of_ne u h (hv hf)
  · unfold skip at h ⊢
    rw [if_neg hf] at h ⊢
    rw [List.append_cancel_right h]

/-- The first character behind what may be skipped, if something is left behind it. -/
theorem skip_cons_local {c : Char} {rest : Text} (h : skip f (x ++ z) = c :: rest)
    (hr : w ++ z <:+ rest) :
    ∃ y, rest = y ++ z ∧ w <:+ y ∧ y.length < x.length ∧ ∀ u, skip f (x ++ u) = c :: (y ++ u) := by
  obtain ⟨y, rfl, hy⟩ := exists_append_of_suffix hr
  have hl := (skip_behind f (x ++ z)).length_le
  rw [h, List.length_cons, List.length_append, List.length_append] at hl
  refine ⟨y, rfl, hy, by omega, fun u => ?_⟩
  rw [← List.cons_append] at h ⊢
  exact skip_local_of_ne u h (List.cons_ne_nil c y)

namespace Flags

/-- At least the character that ends the flags is read. -/
theorem readFrom_length_lt {seen t : Text} {r : Flags × Bool × Text}
    (h : f.readFrom seen t = .ok r) : r.2.2.length < t.length := by
  match t with
  | [] => cases h
  | c :: t =>
    rw [List.length_cons, Nat.lt_succ_iff]
    rw [readFrom] at h
    split_ifs at h
    · cases h; exact Nat.le_refl _
    · exact (readFrom_behind h).length_le
    · split at h
      · exact (readFrom_behind h).length_le
      · cases h

theorem readFrom_local {seen : Text} {f' : Flags} {directive : Bool}
    (h : f.readFrom seen (x ++ z) = .ok (f', directive, w ++ z)) :
    f.readFrom seen (x ++ u) = .ok (f', directive, w ++ u) := by
  induction x generalizing f seen with
  | nil =>
    have := readFrom_length_lt h
    simp only [List.nil_append, List.length_append] at this
    omega
  | cons c x ih =>
    rw [List.cons_append, readFrom] at h ⊢
    split_ifs at h ⊢ with hc hs hseen hm
    · simp only [Except.ok.injEq, Prod.mk.injEq, List.append_cancel_right_eq] at h
      obtain ⟨rfl, rfl, rfl⟩ := h
      rfl
    · exact ih h
    · split at h
      · exact ih h
      · cases h

end Flags

/-! ## Escape sequences -/

theorem readDigits_local {n count : ℕ} {c : Char} (hv : f.verbose = true → w ≠ [])
    (h : readDigits f n count (x ++ z) = .ok (c, w ++ z)) :
    readDigits f n count (x ++ u) = .ok (c, w ++ u) := by
  induction count generalizing n x with
  | zero =>
    rw [readDigits] at h ⊢
    split at h
    case h_1 v hc =>
      obtain ⟨rfl, hs⟩ := Prod.mk.inj (Except.ok.inj h)
      rw [skip_local u hs hv]
    case h_2 => cases h
  | succ count ih =>
    rw [readDigits] at h
    split at h
    · cases h
    case h_2 d rest hs =>
      split at h
      case h_2 => cases h
      case h_1 hd =>
        obtain ⟨y, rfl, -, -, hy⟩ := skip_cons_local hs (readDigits_behind h).suffix
        rw [readDigits, hy]
        dsimp only
        rw [hd]
        exact ih h

/-- The first digit is read in any case. -/
theorem suffix_of_readDigits {n count : ℕ} {c d : Char} {t rest : Text}
    (h : readDigits f n (count + 1) (d :: t) = .ok (c, rest)) : rest <:+ t := by
  rw [readDigits] at h
  split at h
  · cases h
  case h_2 e t' hs =>
    split at h
    case h_2 => cases h
    case h_1 =>
      have ht : e :: t' <:+ d :: t := hs ▸ (skip_behind f (d :: t)).suffix
      exact (readDigits_behind h).suffix.trans (suffix_of_cons ht)

theorem suffix_of_readName {name acc : Text} {m : ℕ} {t rest : Text}
    (h : readName f acc m t = .ok (name, rest)) : rest <:+ t := by
  induction m generalizing acc t with
  | zero => cases h
  | succ m ih =>
    rw [readName] at h
    split at h
    · cases h
    case h_2 c t' hs =>
      have ht : t' <:+ t := (List.suffix_cons c t').trans (hs ▸ (skip_behind f t).suffix)
      split_ifs at h
      · cases h
        exact ht
      · exact (ih h).trans ht

theorem readBraced_local {n m m' : ℕ} {any : Bool} {c : Char} (hv : f.verbose = true → w ≠ [])
    (h : readBraced f n any m (x ++ z) = .ok (c, w ++ z)) (hm : x.length < m') :
    readBraced f n any m' (x ++ u) = .ok (c, w ++ u) := by
  induction m generalizing n any x m' with
  | zero => cases h
  | succ m ih =>
    cases m' with
    | zero => exact absurd hm (Nat.not_lt_zero _)
    | succ m' =>
      rw [readBraced] at h
      split at h
      · cases h
      case h_2 d rest hs =>
        split at h
        case isTrue hd =>
          split at h
          case h_2 => cases h
          case h_1 hc =>
            obtain ⟨rfl, hs'⟩ := Prod.mk.inj (Except.ok.inj h)
            obtain ⟨y, rfl, -, -, hy⟩ := skip_cons_local hs (hs' ▸ (skip_behind f rest).suffix)
            rw [readBraced, hy]
            dsimp only
            rw [if_pos hd, hc, skip_local u hs' hv]
        case isFalse hd =>
          split at h
          case h_2 => cases h
          case h_1 hx =>
            obtain ⟨y, rfl, -, hl, hy⟩ := skip_cons_local hs (readBraced_behind h).suffix
            rw [readBraced, hy]
            dsimp only
            rw [if_neg hd, hx]
            exact ih h (by omega)

theorem readHex_local {c : Char} {a : Atom} (hv : f.verbose = true → w ≠ [])
    (h : readHex f c (x ++ z) = .ok (a, w ++ z)) : readHex f c (x ++ u) = .ok (a, w ++ u) := by
  unfold readHex at h
  split at h
  · cases h
  case h_2 d rest hs =>
    split at h
    case isTrue hd =>
      obtain ⟨⟨v, t⟩, hb, he⟩ := map_eq_ok.1 h
      obtain ⟨rfl, rfl⟩ := Prod.mk.inj he
      obtain ⟨y, rfl, -, -, hy⟩ := skip_cons_local hs (readBraced_behind hb).suffix
      unfold readHex
      rw [hy]
      dsimp only
      rw [if_pos hd, readBraced_local u hv hb (by rw [List.length_append]; omega)]
      rfl
    case isFalse hd =>
      obtain ⟨⟨v, t⟩, hb, he⟩ := map_eq_ok.1 h
      obtain ⟨rfl, rfl⟩ := Prod.mk.inj he
      obtain ⟨k, hk⟩ : ∃ k, (if c = 'x' then 2 else if c = 'u' then 4 else 8) = k + 1 := by
        split_ifs
        · exact ⟨1, rfl⟩
        · exact ⟨3, rfl⟩
        · exact ⟨7, rfl⟩
      obtain ⟨y, rfl, -, -, hy⟩ := skip_cons_local hs (suffix_of_readDigits (hk ▸ hb))
      unfold readHex
      rw [hy]
      dsimp only
      rw [if_neg hd, ← List.cons_append, readDigits_local u hv hb]
      rfl

theorem readName_local {name acc : Text} {m m' : ℕ}
    (h : readName f acc m (x ++ z) = .ok (name, w ++ z)) (hm : x.length < m') :
    readName f acc m' (x ++ u) = .ok (name, w ++ u) := by
  induction m generalizing acc x m' with
  | zero => cases h
  | succ m ih =>
    cases m' with
    | zero => exact absurd hm (Nat.not_lt_zero _)
    | succ m' =>
      rw [readName] at h
      split at h
      · cases h
      case h_2 d rest hs =>
        split at h
        case isTrue hd =>
          obtain ⟨rfl, rfl⟩ := Prod.mk.inj (Except.ok.inj h)
          rw [← List.cons_append] at hs
          rw [readName, skip_local_of_ne u hs (List.cons_ne_nil d w)]
          exact if_pos hd
        case isFalse hd =>
          obtain ⟨y, rfl, -, hl, hy⟩ := skip_cons_local hs (suffix_of_readName h)
          rw [readName, hy]
          dsimp only
          rw [if_neg hd]
          exact ih h (by omega)

theorem readProperty_local {negated : Bool} {a : Atom} (hv : f.verbose = true → w ≠ [])
    (h : readProperty f negated (x ++ z) = .ok (a, w ++ z)) :
    readProperty f negated (x ++ u) = .ok (a, w ++ u) := by
  unfold readProperty at h
  split at h
  · cases h
  case h_2 c rest hs =>
    split_ifs at h with hb hc
    · obtain ⟨⟨name, t⟩, hn, h⟩ := bind_eq_ok.1 h
      obtain ⟨s, hq, he⟩ := map_eq_ok.1 h
      obtain ⟨rfl, rfl⟩ := Prod.mk.inj he
      obtain ⟨y, rfl, -, -, hy⟩ := skip_cons_local hs (suffix_of_readName hn)
      unfold readProperty
      rw [hy]
      dsimp only
      rw [if_pos hb, readName_local u hn (by rw [List.length_append]; omega)]
      exact map_eq_ok.2 ⟨s, hq, rfl⟩
    · obtain ⟨s, hq, he⟩ := map_eq_ok.1 h
      obtain ⟨rfl, hs'⟩ := Prod.mk.inj he
      obtain ⟨y, rfl, -, -, hy⟩ := skip_cons_local hs (hs' ▸ (skip_behind f rest).suffix)
      unfold readProperty
      rw [hy]
      dsimp only
      rw [if_neg hb, if_neg hc, skip_local u hs' hv]
      exact map_eq_ok.2 ⟨s, hq, rfl⟩

theorem readEdgeName_local {name acc : Text} {m m' : ℕ} (hw : w ≠ [])
    (h : readEdgeName f acc m (x ++ z) = (name, w ++ z)) (hm : x.length ≤ m)
    (hm' : x.length ≤ m') : readEdgeName f acc m' (x ++ u) = (name, w ++ u) := by
  have hne : x ≠ [] := by
    rintro rfl
    have := (readEdgeName_behind f acc m z).suffix
    rw [show readEdgeName f acc m z = _ from h] at this
    exact not_suffix_of_ne_nil hw this
  induction m generalizing acc x m' with
  | zero => exact absurd (List.length_eq_zero_iff.1 (Nat.le_zero.1 hm)) hne
  | succ m ih =>
    obtain ⟨c, x, rfl⟩ := List.exists_cons_of_ne_nil hne
    rw [List.length_cons] at hm hm'
    obtain ⟨m', rfl⟩ := Nat.exists_eq_succ_of_ne_zero (by omega : m' ≠ 0)
    rw [List.cons_append, readEdgeName] at h ⊢
    split_ifs at h ⊢ with hc
    · have hb := (readEdgeName_behind f (c :: acc) m (skip f (x ++ z))).suffix
      rw [h] at hb
      obtain ⟨y, hy, hwy⟩ := exists_append_of_suffix hb
      have hy' : y ≠ [] := by
        rintro rfl
        exact hw (List.suffix_nil.1 hwy)
      have hl := (skip_behind f (x ++ z)).length_le
      rw [hy, List.length_append, List.length_append] at hl
      rw [hy] at h
      rw [skip_local_of_ne u hy hy']
      exact ih h (by omega) (by omega) hy'
    · rw [Prod.mk.injEq, ← List.cons_append, List.append_cancel_right_eq] at h
      obtain ⟨rfl, rfl⟩ := h
      rfl

/-- An edge has a name between braces, or none. -/
theorem readEdge_cases {e : WordEdge} {t rest : Text} (h : readEdge f t = .ok (e, rest)) :
    (e = .boundary ∧ rest = t) ∨ ∃ t', t = '\x7b' :: t' ∧ rest <:+ t' := by
  cases readEdge_eq_ok.1 h with
  | plain | braced => exact .inl ⟨rfl, rfl⟩
  | @named t c more name _ _ hs _ hn =>
    refine .inr ⟨t, rfl, ?_⟩
    have hb := (readEdgeName_behind f [] (more.length + 1) (c :: more)).suffix
    rw [hn, ← hs] at hb
    exact (List.suffix_cons _ _).trans (hb.trans (skip_behind f t).suffix)

/-- The next character behind a brace is met in what is read, unless all that is read is the
    brace. -/
theorem skip_brace_local {d : Char} {more : Text} (hs : skip f (x ++ z) = d :: more)
    (hz : z ≠ [] → f.verbose = false ∧ x ≠ []) : ∃ y, ∀ u, skip f (x ++ u) = d :: (y ++ u) := by
  have hsuf : d :: more <:+ x ++ z := hs ▸ (skip_behind f (x ++ z)).suffix
  have hl : z.length < (d :: more).length := by
    by_cases hne : z = []
    · simp [hne]
    · obtain ⟨hv, hx⟩ := hz hne
      rw [skip, if_neg (by simp [hv])] at hs
      rw [← hs, List.length_append]
      have := List.length_pos_iff.2 hx
      omega
  have hm : z <:+ more := by
    rcases List.suffix_cons_iff.1
        (List.suffix_of_suffix_length_le (List.suffix_append x z) hsuf hl.le) with he | h
    · rw [he] at hl
      exact absurd hl (Nat.lt_irrefl _)
    · exact h
  obtain ⟨y, -, -, -, hy⟩ := skip_cons_local (w := []) hs hm
  exact ⟨y, hy⟩

/-- The name of an edge ends in its own brace. What is left as it stands may be an
    opening brace, of which only more text tells that it starts no name. -/
theorem readEdge_local {e : WordEdge} (hu : u.head? ≠ some '\x7b')
    (hz : z ≠ [] → f.verbose = false ∧ w ≠ ['\x7b'])
    (h : readEdge f (x ++ z) = .ok (e, w ++ z)) : readEdge f (x ++ u) = .ok (e, w ++ u) := by
  match x with
  | [] =>
    obtain ⟨rfl, rfl⟩ : e = .boundary ∧ w = [] := by
      obtain ⟨rfl, hr⟩ | ⟨t, ht, hr⟩ := readEdge_cases h
      · exact ⟨rfl, List.append_left_eq_self.1 hr⟩
      · rw [List.nil_append] at ht
        rw [ht] at hr
        have := hr.length_le
        simp only [List.length_append, List.length_cons] at this
        omega
    exact readEdge_eq_ok.2 (.plain hu)
  | c :: x =>
    rw [readEdge_eq_ok, List.cons_append] at h ⊢
    generalize ht : x ++ z = t at h
    generalize hv : w ++ z = v at h
    cases h with
    | plain hne =>
      rw [← ht, ← List.cons_append] at hv
      obtain rfl := List.append_cancel_right hv
      exact .plain hne
    | braced hs hd =>
      rw [← ht, ← List.cons_append] at hv
      obtain rfl := List.append_cancel_right hv
      subst ht
      have hx : z ≠ [] → f.verbose = false ∧ x ≠ [] := by
        intro hne
        obtain ⟨hf, hw⟩ := hz hne
        exact ⟨hf, fun hx => hw (by rw [hx])⟩
      obtain ⟨y, hy⟩ := skip_brace_local hs hx
      exact .braced (hy u) hd
    | @named _ d more name rest _ hs hd hn he =>
      subst ht hv
      have hb := (readEdgeName_behind f [] (more.length + 1) (d :: more)).suffix
      rw [hn] at hb
      obtain ⟨y, rfl, -, -, hy⟩ := skip_cons_local hs (suffix_of_cons hb)
      have hlen : (d :: y).length ≤ (y ++ u).length + 1 := by simp
      have hname := readEdgeName_local (x := d :: y) (w := '\x7d' :: w) u
        (List.cons_ne_nil _ _) hn (by simp) hlen
      exact .named (hy u) hd hname he

theorem readEscape_local {a : Atom} (hv : f.verbose = true → w ≠ [])
    (he : (∃ l, a = .look l) →
      u.head? ≠ some '\x7b' ∧ (z ≠ [] → f.verbose = false ∧ w ≠ ['\x7b']))
    (h : readEscape f (x ++ z) = .ok (a, w ++ z)) : readEscape f (x ++ u) = .ok (a, w ++ u) := by
  match x with
  | [] =>
    match z with
    | [] => cases h
    | c :: z =>
      have := (readEscape_cons_behind h).suffix.length_le
      simp only [List.length_append, List.length_cons] at this
      omega
  | c :: x =>
    rw [List.cons_append, readEscape_cons] at h ⊢
    generalize Escape.of f c = e at h ⊢
    cases e with
    | hex => exact readHex_local u hv h
    | property => exact readProperty_local u hv h
    | edge =>
      obtain ⟨⟨e, t⟩, hr, heq⟩ := map_eq_ok.1 h
      obtain ⟨rfl, rfl⟩ := Prod.mk.inj heq
      obtain ⟨hu, hz⟩ := he ⟨_, rfl⟩
      exact map_eq_ok.2 ⟨_, readEdge_local u hu hz hr, rfl⟩
    | single =>
      obtain ⟨a', ha, heq⟩ := map_eq_ok.1 h
      rw [Prod.mk.injEq, List.append_cancel_right_eq] at heq
      obtain ⟨rfl, rfl⟩ := heq
      exact map_eq_ok.2 ⟨a', ha, rfl⟩

end

end PathRouting.Regex
