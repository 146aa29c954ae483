/-
  Constructs do not depend on what stands behind.

  * `readCounts_local`: the counts of a repetition, which end with a brace.
  * `openGroup_local`: what follows an opening parenthesis.
  * `Reader.step_local`: a construct as a whole. What follows may not go on with it:
    it neither makes a repetition lazy nor names an edge of words.
-/
import PathRouting.Proofs.Regex.Locality.Class
import PathRouting.Proofs.Regex.Runs

namespace PathRouting.Regex

namespace Reader

section
variable {f : Flags} {r r' : Reader} {x z w : Text} (u : Text)

/-! ## Repetitions -/

theorem readGreed_local {greedy : Bool} (hu : u.head? ≠ some '?')
    (h : readGreed (x ++ z) = (greedy, w ++ z)) : readGreed (x ++ u) = (greedy, w ++ u) := by
  match x with
  | [] =>
    by_cases hz : z.head? = some '?'
    · obtain ⟨z, rfl⟩ := List.head?_eq_some_iff.1 hz
      have := congrArg List.length (Prod.mk.inj h).2
      simp only [List.length_append, List.length_cons] at this
      omega
    · rw [List.nil_append, readGreed_of_ne hz] at h
      obtain ⟨rfl, hz⟩ := Prod.mk.inj h
      obtain rfl := List.append_left_eq_self.1 hz.symm
      exact readGreed_of_ne hu
  | c :: x =>
    by_cases hc : c = '?'
    · subst hc
      obtain ⟨rfl, hx⟩ := Prod.mk.inj h
      rw [← List.append_cancel_right hx]
      rfl
    · have hne : ∀ t : Text, (c :: x ++ t).head? ≠ some '?' := fun t h => hc (Option.some.inj h)
      rw [readGreed_of_ne (hne z), Prod.mk.injEq, List.append_cancel_right_eq] at h
      obtain ⟨rfl, rfl⟩ := h
      exact readGreed_of_ne (hne u)

theorem readDecimalDigits_local {acc digits : Text} {m m' : ℕ} (hw : w ≠ [])
    (h : readDecimalDigits f acc m (x ++ z) = (digits, w ++ z)) (hm : x.length ≤ m)
    (hm' : x.length ≤ m') : readDecimalDigits f acc m' (x ++ u) = (digits, w ++ u) := by
  have hne : x ≠ [] := by
    rintro rfl
    have := (readDecimalDigits_behind f acc m z).suffix
    rw [show readDecimalDigits f acc m z = _ from h] at this
    exact not_suffix_of_ne_nil hw this
  induction m generalizing acc x m' with
  | zero => exact absurd (List.length_eq_zero_iff.1 (Nat.le_zero.1 hm)) hne
  | succ m ih =>
    obtain ⟨c, x, rfl⟩ := List.exists_cons_of_ne_nil hne
    rw [List.length_cons] at hm hm'
    obtain ⟨m', rfl⟩ := Nat.exists_eq_succ_of_ne_zero (by omega : m' ≠ 0)
    rw [List.cons_append, readDecimalDigits] at h ⊢
    split_ifs at h ⊢ with hc
    · have hb := (readDecimalDigits_behind f (c :: acc) m (skip f (x ++ z))).suffix
      rw [h] at hb
      obtain ⟨y, hy, hwy⟩ := exists_append_of_suffix hb
      have hy' : y ≠ [] := by
        rintro rfl
        exact hw (List.suffix_nil.1 hwy)
      have hl := (skip_behind f (x ++ z)).length_le
      rw [hy, List.length_append, List.length_append] at hl
      rw [hy] at h
      rw [skip_local_of_ne u hy hy']
      exact ih h (by omega) (by omega) hy'
    · rw [Prod.mk.injEq, ← List.cons_append, List.append_cancel_right_eq] at h
      obtain ⟨rfl, rfl⟩ := h
      rfl

theorem dropWhile_local_of_ne {p : Char → Bool} (h : (x ++ z).dropWhile p = w ++ z)
    (hw : w ≠ []) : (x ++ u).dropWhile p = w ++ u := by
  induction x with
  | nil => exact (not_suffix_of_ne_nil hw (h ▸ List.dropWhile_suffix p)).elim
  | cons c x ih =>
    rw [List.cons_append, List.dropWhile_cons] at h ⊢
    split_ifs at h ⊢
    · exact ih h
    · rw [← List.cons_append] at h ⊢
      rw [List.append_cancel_right h]

/-- What is left behind the digits of a count. -/
def afterDigits (f : Flags) (t : Text) : Text :=
  match t with
  | c :: more => if Text.isBlank c then skip f (more.dropWhile Text.isBlank) else t
  | [] => []

theorem readCount_eq (f : Flags) (t : Text) :
    readCount f t =
      let (digits, rest) := readDecimalDigits f [] (t.length + 1) (t.dropWhile Text.isBlank)
      if digits = [] then .ok (none, afterDigits f rest)
      else if Text.readDecimal digits < Nat.pow 2 32 then
        .ok (some (Text.readDecimal digits), afterDigits f rest)
      else .error .badRepetition := by
  rfl

theorem afterDigits_behind (f : Flags) (t : Text) : Behind t (afterDigits f t) :=
  blanks_behind f t

theorem afterDigits_local (hw : w ≠ []) (h : afterDigits f (x ++ z) = w ++ z) :
    afterDigits f (x ++ u) = w ++ u := by
  match x with
  | [] =>
    have hb := (afterDigits_behind f z).suffix
    rw [show afterDigits f z = _ from h] at hb
    exact (not_suffix_of_ne_nil hw hb).elim
  | c :: x =>
    by_cases hc : Text.isBlank c
    · have hif : ∀ t, afterDigits f (c :: x ++ t) = skip f ((x ++ t).dropWhile Text.isBlank) :=
        fun t => if_pos hc
      rw [hif] at h ⊢
      obtain ⟨y, hy, hwy⟩ := exists_append_of_suffix (h ▸ (skip_behind f _).suffix)
      have hne : y ≠ [] := by
        rintro rfl
        exact hw (List.suffix_nil.1 hwy)
      rw [hy] at h
      rw [dropWhile_local_of_ne u hy hne]
      exact skip_local_of_ne u h hw
    · have hif : ∀ t, afterDigits f (c :: x ++ t) = c :: x ++ t := fun t => if_neg hc
      rw [hif] at h ⊢
      rw [List.append_cancel_right h]

theorem readCount_local {n : Option ℕ} (hw : w ≠ [])
    (h : readCount f (x ++ z) = .ok (n, w ++ z)) : readCount f (x ++ u) = .ok (n, w ++ u) := by
  rw [readCount_eq] at h ⊢
  rcases hd : readDecimalDigits f [] ((x ++ z).length + 1) ((x ++ z).dropWhile Text.isBlank) with
    ⟨digits, rest⟩
  rw [hd] at h
  have hafter : afterDigits f rest = w ++ z := by
    dsimp only at h
    split_ifs at h
    · exact (Prod.mk.inj (Except.ok.inj h)).2
    · exact (Prod.mk.inj (Except.ok.inj h)).2
  have hb := (afterDigits_behind f rest).suffix
  rw [hafter] at hb
  obtain ⟨y, rfl, hwy⟩ := exists_append_of_suffix hb
  have hne : y ≠ [] := by
    rintro rfl
    exact hw (List.suffix_nil.1 hwy)
  have hb := (readDecimalDigits_behind f [] ((x ++ z).length + 1)
    ((x ++ z).dropWhile Text.isBlank)).suffix
  rw [hd] at hb
  obtain ⟨y', hy', hyy⟩ := exists_append_of_suffix hb
  have hne' : y' ≠ [] := by
    rintro rfl
    exact hne (List.suffix_nil.1 hyy)
  have hl := (List.dropWhile_suffix Text.isBlank (l := x ++ z)).length_le
  rw [hy', List.length_append, List.length_append] at hl
  rw [hy'] at hd
  rw [dropWhile_local_of_ne u hy' hne', readDecimalDigits_local u hne hd
    (by rw [List.length_append]; omega) (by rw [List.length_append]; omega)]
  dsimp only at h ⊢
  rw [afterDigits_local u hw hafter]
  split_ifs at h ⊢
  · rw [(Prod.mk.inj (Except.ok.inj h)).1]
  · rw [(Prod.mk.inj (Except.ok.inj h)).1]

theorem readCount_skip_local {n : Option ℕ} (hw : w ≠ [])
    (h : readCount f (skip f (x ++ z)) = .ok (n, w ++ z)) :
    readCount f (skip f (x ++ u)) = .ok (n, w ++ u) := by
  obtain ⟨y, hy, hwy⟩ := exists_append_of_suffix (readCount_behind h).suffix
  have hne : y ≠ [] := by
    rintro rfl
    exact hw (List.suffix_nil.1 hwy)
  rw [hy] at h
  rw [skip_local_of_ne u hy hne]
  exact readCount_local u hw h

/-- Reads what follows the comma behind the least count. -/
def readGreatest (f : Flags) (n : ℕ) (t : Text) : Except Rejection ((ℕ × Option ℕ) × Text) :=
  match skip f t with
  | '\x7d' :: rest => .ok ((n, none), rest)
  | rest => (readCount f rest).bind fun (greatest, rest) =>
    match greatest, rest with
    | some m, '\x7d' :: rest => if n ≤ m then .ok ((n, some m), rest) else .error .badRepetition
    | _, _ => .error .badRepetition

theorem readCounts_eq (f : Flags) (t : Text) :
    readCounts f t = (readCount f (skip f t)).bind fun (least, rest) =>
      match least, rest with
      | some n, '\x7d' :: rest => .ok ((n, some n), rest)
      | some n, ',' :: rest => readGreatest f n rest
      | _, _ => .error .badRepetition := rfl

theorem readGreatest_suffix {n : ℕ} {counts : ℕ × Option ℕ} {t rest : Text}
    (h : readGreatest f n t = .ok (counts, rest)) : rest <:+ t := by
  have ht := (skip_behind f t).suffix
  unfold readGreatest at h
  split at h
  case h_1 hs =>
    cases h
    exact (List.suffix_cons _ _).trans (hs ▸ ht)
  case h_2 =>
    obtain ⟨⟨greatest, v⟩, hg, h⟩ := bind_eq_ok.1 h
    have hv := (readCount_behind hg).suffix.trans ht
    dsimp only at h
    split at h
    case h_2 => cases h
    case h_1 =>
      split_ifs at h
      cases h
      exact (List.suffix_cons _ _).trans hv

theorem readGreatest_local {n : ℕ} {counts : ℕ × Option ℕ}
    (h : readGreatest f n (x ++ z) = .ok (counts, w ++ z)) :
    readGreatest f n (x ++ u) = .ok (counts, w ++ u) := by
  unfold readGreatest at h
  split at h
  case h_1 hs =>
    obtain ⟨rfl, rfl⟩ := Prod.mk.inj (Except.ok.inj h)
    rw [← List.cons_append] at hs
    unfold readGreatest
    rw [skip_local_of_ne u hs (List.cons_ne_nil _ _)]
    rfl
  case h_2 hne =>
    obtain ⟨⟨greatest, t⟩, hg, h⟩ := bind_eq_ok.1 h
    dsimp only at h
    split at h
    case h_2 => cases h
    case h_1 m rest =>
      split_ifs at h with hm
      obtain ⟨rfl, rfl⟩ := Prod.mk.inj (Except.ok.inj h)
      have hg' := readCount_skip_local (w := '\x7d' :: w) u (List.cons_ne_nil _ _) hg
      obtain ⟨y, hy, hwy⟩ :=
        exists_append_of_suffix (w := '\x7d' :: w) (readCount_behind hg).suffix
      have hy' : y ≠ [] := by
        rintro rfl
        cases List.suffix_nil.1 hwy
      obtain ⟨d, y, rfl⟩ := List.exists_cons_of_ne_nil hy'
      have hs := skip_local_of_ne u hy hy'
      unfold readGreatest
      split
      case h_1 he =>
        rw [hs, List.cons_append, List.cons.injEq] at he
        rw [he.1] at hy
        exact (hne _ hy).elim
      case h_2 =>
        refine bind_eq_ok.2 ⟨_, hg', ?_⟩
        exact if_pos hm

theorem readCounts_local {counts : ℕ × Option ℕ}
    (h : readCounts f (x ++ z) = .ok (counts, w ++ z)) :
    readCounts f (x ++ u) = .ok (counts, w ++ u) := by
  rw [readCounts_eq] at h ⊢
  obtain ⟨⟨least, t⟩, hl, h⟩ := bind_eq_ok.1 h
  dsimp only at h
  split at h
  case h_3 => cases h
  case h_1 n rest =>
    obtain ⟨rfl, rfl⟩ := Prod.mk.inj (Except.ok.inj h)
    exact bind_eq_ok.2 ⟨_, readCount_skip_local (w := '\x7d' :: w) u (List.cons_ne_nil _ _) hl, rfl⟩
  case h_2 n rest =>
    obtain ⟨y, rfl, -⟩ := exists_append_of_suffix (readGreatest_suffix h)
    exact bind_eq_ok.2 ⟨_, readCount_skip_local (w := ',' :: y) u (List.cons_ne_nil _ _) hl,
      readGreatest_local u h⟩

theorem iterateCounted_local (hu : u.head? ≠ some '?') (hv : r.flags.verbose = true → w ≠ [])
    (h : r.iterateCounted (x ++ z) = .ok (r', w ++ z)) :
    r.iterateCounted (x ++ u) = .ok (r', w ++ u) := by
  obtain ⟨min, max, t, hc, hi, hg⟩ := iterateCounted_eq_ok.1 h
  have hb := (readGreed_behind (skip r.flags t)).suffix
  rw [hg] at hb
  obtain ⟨y, hy, hwy⟩ := exists_append_of_suffix hb
  obtain ⟨y', rfl, -⟩ := exists_append_of_suffix (hy ▸ (skip_behind r.flags t).suffix)
  have hy' : r.flags.verbose = true → y ≠ [] := by
    rintro hf rfl
    exact hv hf (List.suffix_nil.1 hwy)
  rw [hy] at hi hg
  have hgreed := readGreed_local u hu (Prod.ext rfl hg)
  refine iterateCounted_eq_ok.2 ⟨min, max, y' ++ u, readCounts_local u hc, ?_, ?_⟩
  · rw [skip_local u hy hy', hgreed]
    exact hi
  · rw [skip_local u hy hy', hgreed]

/-! ## Groups -/

/-- Opens a capturing group with a given name. -/
def openAs (r : Reader) (name : Text) : Except Rejection Reader :=
  match name with
  | [] => .error .badGroupName
  | c :: cs =>
    if !isGroupNameChar true c || !cs.all (isGroupNameChar false) then .error .badGroupName
    else if r.names.contains (c :: cs) then .error .badGroupName
    else .ok (r.openCapture (some (c :: cs)))

theorem openNamed_append {name : Text} (hn : '>' ∉ name) (t : Text) :
    r.openNamed (name ++ '>' :: t) = (r.openAs name).map fun r' => (r', t) := by
  have hall : ∀ c ∈ name, (fun c : Char => decide (c ≠ '>')) c = true := by
    intro c hm
    refine decide_eq_true ?_
    rintro rfl
    exact hn hm
  have htake : (name ++ '>' :: t).takeWhile (· ≠ '>') = name := by
    rw [List.takeWhile_append_of_pos hall]
    exact List.append_nil name
  have hdrop : (name ++ '>' :: t).dropWhile (· ≠ '>') = '>' :: t := by
    rw [List.dropWhile_append_of_pos hall]
    rfl
  unfold openNamed openAs
  rw [htake, hdrop]
  cases name with
  | nil => rfl
  | cons c cs =>
    show (if _ then _ else if _ then _ else _) = Except.map _ (if _ then _ else if _ then _ else _)
    split_ifs <;> rfl

theorem openNamed_cases {t rest : Text} (h : r.openNamed t = .ok (r', rest)) :
    ∃ name, '>' ∉ name ∧ t = name ++ '>' :: rest ∧ r.openAs name = .ok r' := by
  have hn : '>' ∉ t.takeWhile (· ≠ '>') := fun hm => by
    have := List.mem_takeWhile_imp hm
    simp at this
  have ht := List.takeWhile_append_dropWhile (p := (· ≠ '>')) (l := t)
  cases hd : t.dropWhile (· ≠ '>') with
  | nil =>
    unfold openNamed at h
    rw [hd] at h
    split at h
    case h_1 he => cases he
    case h_2 => cases h
  | cons d u =>
    obtain rfl : d = '>' := by
      have := List.head?_dropWhile_not (fun c : Char => decide (c ≠ '>')) t
      rw [hd] at this
      simpa using this
    rw [hd] at ht
    rw [← ht, openNamed_append hn] at h
    obtain ⟨s, hs, he⟩ := map_eq_ok.1 h
    obtain ⟨rfl, rfl⟩ := Prod.mk.inj he
    exact ⟨_, hn, ht.symm, hs⟩

theorem openNamed_local (h : r.openNamed (x ++ z) = .ok (r', w ++ z)) :
    r.openNamed (x ++ u) = .ok (r', w ++ u) := by
  obtain ⟨name, hn, hx, hr⟩ := openNamed_cases h
  obtain rfl : x = name ++ '>' :: w := by
    rw [← List.cons_append, ← List.append_assoc] at hx
    exact List.append_cancel_right hx
  rw [List.append_assoc, List.cons_append, openNamed_append hn, hr]
  rfl

theorem openFlags_local (h : r.openFlags (x ++ z) = .ok (r', w ++ z)) :
    r.openFlags (x ++ u) = .ok (r', w ++ u) := by
  obtain ⟨⟨f, directive, t⟩, hf, he⟩ := map_eq_ok.1 h
  have ht : t = w ++ z := by
    dsimp only at he
    split_ifs at he <;> exact (Prod.mk.inj he).2
  subst ht
  refine map_eq_ok.2 ⟨_, Flags.readFrom_local u hf, ?_⟩
  dsimp only at he ⊢
  split_ifs at he ⊢ <;> rw [(Prod.mk.inj he).1]

theorem openGroup_local (hu : u.head? ≠ some '?') (hv : r'.flags.verbose = true → w ≠ [])
    (h : r.openGroup (x ++ z) = .ok (r', w ++ z)) : r.openGroup (x ++ u) = .ok (r', w ++ u) := by
  rw [openGroup_eq_ok] at h ⊢
  generalize hrest : w ++ z = rest at h
  cases h with
  | @marked t _ _ hs h =>
    subst hrest
    obtain ⟨y, rfl, -⟩ := exists_append_of_suffix (openNamed_behind h).suffix
    have hs' := skip_local_of_ne (w := '?' :: 'P' :: '<' :: y) u hs (List.cons_ne_nil _ _)
    exact .marked hs' (openNamed_local u h)
  | @named c t _ _ hs he hn h =>
    subst hrest
    obtain ⟨name, hname, ht, hr⟩ := openNamed_cases h
    obtain ⟨y, rfl⟩ : ∃ y, t = y ++ z := by
      match name with
      | [] => cases hr
      | d :: name =>
        refine ⟨name ++ '>' :: w, ?_⟩
        rw [(List.cons.inj ht).2, List.append_assoc]
        rfl
    have hs' := skip_local_of_ne (w := '?' :: '<' :: c :: y) u hs (List.cons_ne_nil _ _)
    exact .named hs' he hn (openNamed_local (x := c :: y) u h)
  | @flags c t _ _ hs h =>
    subst hrest
    obtain ⟨⟨f, directive, t'⟩, hf, heq⟩ := map_eq_ok.1 h
    have ht : t' = w ++ z := by
      dsimp only at heq
      split_ifs at heq <;> exact (Prod.mk.inj heq).2
    have hlt := Flags.readFrom_length_lt hf
    obtain ⟨y, hy, -⟩ := exists_append_of_suffix (ht ▸ (Flags.readFrom_behind hf).suffix)
    obtain ⟨y, rfl⟩ : ∃ y', y = c :: y' := by
      match y with
      | [] =>
        have := congrArg List.length hy
        simp only [List.nil_append, List.length_cons, ht, List.length_append] at this hlt
        omega
      | d :: y =>
        rw [(List.cons.inj hy).1]
        exact ⟨y, rfl⟩
    obtain rfl := (List.cons.inj hy).2
    have hs' := skip_local_of_ne (w := '?' :: c :: y) u hs (List.cons_ne_nil _ _)
    exact .flags hs' (openFlags_local (x := c :: y) u h)
  | capture hq =>
    have hs' := skip_local u hrest.symm hv
    rw [← hs']
    refine .capture ?_
    rw [hs']
    rw [← hrest] at hq
    cases w with
    | nil => exact hu
    | cons c w => exact hq

/-! ## Constructs -/

/-- **Locality.** What follows a construct does not matter, unless it goes on with it.
    Where the construct ends the text in verbose mode, a comment might. -/
theorem step_local {c : Char} (hu : u.head? ≠ some '?' ∧ u.head? ≠ some '\x7b')
    (hv : r'.flags.verbose = true → w ≠ [])
    (hz : z ≠ [] → r.flags.verbose = false ∧ w ≠ ['\x7b'])
    (h : r.step c (x ++ z) = .ok (r', w ++ z)) : r.step c (x ++ u) = .ok (r', w ++ u) := by
  have hsame : ∀ {s : Reader}, (s, x ++ z) = (r', w ++ z) → (s, x ++ u) = (r', w ++ u) := by
    intro s h
    rw [Prod.mk.injEq, List.append_cancel_right_eq] at h
    rw [h.1, h.2]
  rw [step_eq] at h ⊢
  generalize Construct.of c = k at h ⊢
  cases k with
  | group => exact openGroup_local u hu.1 hv h
  | close =>
    obtain ⟨s, hg, he⟩ := map_eq_ok.1 h
    exact map_eq_ok.2 ⟨s, hg, hsame he⟩
  | bar => exact congrArg _ (hsame (Except.ok.inj h))
  | set =>
    obtain ⟨⟨⟨s, depth⟩, t⟩, hr, he⟩ := map_eq_ok.1 h
    obtain ⟨rfl, rfl⟩ := Prod.mk.inj he
    exact map_eq_ok.2 ⟨_, readClass_local u hr, rfl⟩
  | iterate min max =>
    obtain ⟨s, hi, he⟩ := map_eq_ok.1 h
    obtain ⟨rfl, hg⟩ := Prod.mk.inj he
    have hg' := readGreed_local u hu.1 (Prod.ext rfl hg)
    refine map_eq_ok.2 ⟨s, ?_, ?_⟩
    · rw [hg']
      exact hi
    · rw [hg']
  | counts =>
    have hf : r'.flags = r.flags := by rw [iterateCounted_eq_level h]
    rw [hf] at hv
    exact iterateCounted_local u hu.1 hv h
  | escape =>
    obtain ⟨⟨a, t⟩, hr, h⟩ := bind_eq_ok.1 h
    obtain ⟨s, ha, he⟩ := map_eq_ok.1 h
    obtain ⟨rfl, rfl⟩ := Prod.mk.inj he
    obtain ⟨e, -, rfl⟩ := pushAtom_eq ha
    exact bind_eq_ok.2 ⟨_, readEscape_local u hv (fun _ => ⟨hu.2, hz⟩) hr,
      map_eq_ok.2 ⟨_, ha, rfl⟩⟩
  | dot =>
    obtain ⟨s, hd, he⟩ := map_eq_ok.1 h
    exact map_eq_ok.2 ⟨s, hd, hsame he⟩
  | look l => exact congrArg _ (hsame (Except.ok.inj h))
  | char d =>
    obtain ⟨s, ha, he⟩ := map_eq_ok.1 h
    exact map_eq_ok.2 ⟨s, ha, hsame he⟩

end

end Reader

end PathRouting.Regex
