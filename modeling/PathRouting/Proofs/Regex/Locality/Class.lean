/-
  Classes do not depend on what stands behind.

  * `readNamedClass?_local`, `readRange_local`, `openClass_local`: the parts of a class
    in front of a closing bracket.
  * `readClass_local`: a class as a whole, which ends with a bracket of its own.
-/
import PathRouting.Proofs.Regex.Locality.Escape

namespace PathRouting.Regex

section
variable {f : Flags} {x z w : Text} (u : Text)

/-! ## Members -/

/-- The sets between colons have letters in their names. -/
theorem isLatinLetter_of_namedClass {name : Text} {table : Unicode.RangeTable}
    (h : namedClass? name = some table) {c : Char} (hc : c ∈ name) : Text.isLatinLetter c := by
  have := of_lookup (p := fun name => name.toList.all Text.isLatinLetter) (by decide +kernel) h
  rw [String.toList_ofList] at this
  exact List.all_eq_true.1 this c hc

theorem namedClass?_eq_none {name : Text} (h : ']' ∈ name) : namedClass? name = none := by
  rw [Option.eq_none_iff_forall_not_mem]
  intro table ht
  have := isLatinLetter_of_namedClass ht h
  revert this
  decide

/-- The set with a name between colons, and what stands behind its bracket. -/
def namedSet? (negated : Bool) (t : Text) : Option (Bool × List (ℕ × ℕ) × Text) :=
  match t.dropWhile (· ≠ ':') with
  | ':' :: ']' :: more =>
    (namedClass? (t.takeWhile (· ≠ ':'))).map fun table => (negated, table, more)
  | _ => none

theorem readNamedClass?_of_ne {c : Char} (hc : c ≠ ':') (t : Text) :
    readNamedClass? (c :: t) = none := by
  unfold readNamedClass?
  split
  · rename_i he
    cases he
    exact absurd rfl hc
  · rfl

theorem readNamedClass?_colon {c : Char} (hc : c ≠ '^') (t : Text) :
    readNamedClass? (':' :: c :: t) = namedSet? false (c :: t) := by
  have hsome : ¬ some c = some '^' := fun h => hc (Option.some.inj h)
  simp only [readNamedClass?, List.head?_cons, hsome, decide_false, if_false]
  rfl

theorem namedSet?_local (negated : Bool) (hx : ']' ∈ x) :
    namedSet? negated (x ++ z) = (namedSet? negated x).map fun named =>
      (named.1, named.2.1, named.2.2 ++ z) := by
  unfold namedSet?
  by_cases hc : ':' ∈ x
  case neg =>
    have hall : ∀ c ∈ x, (fun c : Char => decide (c ≠ ':')) c = true := by
      intro c hm
      refine decide_eq_true ?_
      rintro rfl
      exact hc hm
    rw [List.dropWhile_append_of_pos hall, List.takeWhile_append_of_pos hall,
      List.dropWhile_eq_nil_iff.2 hall]
    split
    · rw [namedClass?_eq_none (List.mem_append_left _ hx)]
      rfl
    · rfl
  case pos =>
    obtain ⟨pre, m, rfl, hpre⟩ := List.eq_append_cons_of_mem hc
    have hall : ∀ c ∈ pre, (fun c : Char => decide (c ≠ ':')) c = true := by
      intro c hm
      refine decide_eq_true ?_
      rintro rfl
      exact hpre hm
    have hdrop : ∀ t : Text, (pre ++ ':' :: t).dropWhile (· ≠ ':') = ':' :: t := fun t => by
      rw [List.dropWhile_append_of_pos hall]
      rfl
    have htake : ∀ t : Text, (pre ++ ':' :: t).takeWhile (· ≠ ':') = pre := fun t => by
      rw [List.takeWhile_append_of_pos hall]
      exact List.append_nil pre
    rw [List.append_assoc, List.cons_append, hdrop, hdrop, htake, htake]
    cases m with
    | nil =>
      have hn : namedClass? pre = none := by
        refine namedClass?_eq_none ((List.mem_append.1 hx).resolve_right ?_)
        decide
      rw [hn]
      split <;> rfl
    | cons d m =>
      by_cases hd : d = ']'
      · subst hd
        cases namedClass? pre <;> rfl
      · split
        · rename_i he
          cases he
          exact absurd rfl hd
        · split
          · rename_i he
            cases he
            exact absurd rfl hd
          · rfl

theorem readNamedClass?_local (hx : ']' ∈ x) :
    readNamedClass? (x ++ z) = (readNamedClass? x).map fun named =>
      (named.1, named.2.1, named.2.2 ++ z) := by
  rcases x with - | ⟨c, x⟩
  · cases hx
  by_cases hc : c = ':'
  case neg =>
    rw [List.cons_append, readNamedClass?_of_ne hc, readNamedClass?_of_ne hc]
    rfl
  case pos =>
    subst hc
    rcases x with - | ⟨d, x⟩
    · exact absurd hx (by decide)
    by_cases hd : d = '^'
    · subst hd
      exact namedSet?_local true (by simpa using hx)
    · rw [List.cons_append, List.cons_append, readNamedClass?_colon hd, readNamedClass?_colon hd]
      exact namedSet?_local false ((List.mem_cons.1 hx).resolve_left (by decide))

theorem dropWhile_isBlank_local (hx : ']' ∈ x) :
    (x ++ z).dropWhile Text.isBlank = x.dropWhile Text.isBlank ++ z ∧
      ']' ∈ x.dropWhile Text.isBlank := by
  induction x with
  | nil => cases hx
  | cons c x ih =>
    rw [List.cons_append, List.dropWhile_cons, List.dropWhile_cons]
    split_ifs with hc
    · refine ih ((List.mem_cons.1 hx).resolve_left ?_)
      rintro rfl
      revert hc
      decide
    · exact ⟨rfl, hx⟩

theorem head?_local (hx : ']' ∈ x) : (x ++ z).head? = x.head? := by
  cases x with
  | nil => cases hx
  | cons c x => rfl

theorem peek_local (hx : ']' ∈ x) : peek f (x ++ z) = peek f x := by
  unfold peek
  split_ifs
  case neg => exact head?_local hx
  case pos =>
    obtain ⟨hd, hm⟩ := dropWhile_isBlank_local (z := z) hx
    rw [hd, head?_local hx]
    cases hb : x.dropWhile Text.isBlank with
    | nil =>
      rw [hb] at hm
      cases hm
    | cons c y =>
      rw [hb] at hm
      by_cases hc : c = '#'
      · subst hc
        have hy : ']' ∈ y := (List.mem_cons.1 hm).resolve_left (by decide)
        obtain ⟨hd, hm⟩ := dropWhile_isBlank_local (z := z) hy
        show ((y ++ z).dropWhile Text.isBlank).head?.or x.head? =
          (y.dropWhile Text.isBlank).head?.or x.head?
        rw [hd, head?_local hm]
      · rw [List.cons_append]
        split
        · rename_i he
          cases he
          exact absurd rfl hc
        · split
          · rename_i he
            cases he
            exact absurd rfl hc
          · rfl

theorem readMember_local {a : Atom} (hw : ']' ∈ w) (ha : ∀ l, a ≠ .look l)
    (h : readMember f (x ++ z) = .ok (a, w ++ z)) : readMember f (x ++ u) = .ok (a, w ++ u) := by
  have hne := List.ne_nil_of_mem hw
  match x with
  | [] => exact (not_suffix_of_ne_nil hne (readMember_behind h).suffix).elim
  | c :: x =>
    by_cases hc : c = '\\'
    · subst hc
      exact readEscape_local u (fun _ => hne) (fun ⟨l, hl⟩ => (ha l hl).elim) h
    · rw [List.cons_append, readMember_of_ne hc, Except.ok.injEq, Prod.mk.injEq,
        List.append_cancel_right_eq] at h
      obtain ⟨rfl, rfl⟩ := h
      exact readMember_of_ne hc _

theorem readMember_cons_suffix {a : Atom} {c : Char} {t rest : Text}
    (h : readMember f (c :: t) = .ok (a, rest)) : rest <:+ t := by
  by_cases hc : c = '\\'
  · subst hc
    match t with
    | [] => cases h
    | d :: t => exact (readEscape_cons_behind h).suffix.trans (List.suffix_cons d t)
  · rw [readMember_of_ne hc] at h
    cases h
    exact List.suffix_refl _

theorem readRange_length_le {s : CharSet} {c : Char} {t rest : Text}
    (h : readRange f (c :: t) = .ok (s, rest)) : rest.length ≤ t.length := by
  obtain ⟨a, v, ha, hv⟩ := readRange_member h
  exact hv.length_le.trans (readMember_cons_suffix ha).length_le

theorem readRange_local {s : CharSet} (hw : ']' ∈ w)
    (h : readRange f (x ++ z) = .ok (s, w ++ z)) : readRange f (x ++ u) = .ok (s, w ++ u) := by
  have hne := List.ne_nil_of_mem hw
  rw [readRange_eq_ok] at h ⊢
  generalize hv : w ++ z = v at h
  cases h with
  | @single a t c more _ ha hs hc hm =>
    obtain ⟨c', w, rfl⟩ := List.exists_cons_of_ne_nil hne
    rw [List.cons_append] at hv
    obtain ⟨rfl, rfl⟩ := List.cons.inj hv
    rw [← List.cons_append] at hs
    obtain ⟨y, rfl, hy⟩ := exists_append_of_suffix (hs ▸ (skip_behind f t).suffix)
    have ha' := readMember_local u (hy.subset hw) (Atom.ne_look_of_member hm) ha
    refine .single ha' (skip_local_of_ne u hs hne) ?_ hm
    by_cases hd : c' = '-'
    · have hmem : ']' ∈ w := (List.mem_cons.1 hw).resolve_left (by rw [hd]; decide)
      show c' ≠ '-' ∨ peek f (w ++ u) = some ']' ∨ peek f (w ++ u) = some '-'
      rw [peek_local hmem]
      rwa [peek_local hmem] at hc
    · exact .inl hd
  | @range a t more d more' b _ _ ha hs hclose hdash hs' hb hm =>
    subst hv
    -- the places behind the second member, in front of it, behind the hyphen, in front of it
    obtain ⟨y, hy, hwy⟩ := exists_append_of_suffix (readMember_behind hb).suffix
    rw [hy] at hs' hb
    obtain ⟨y₁, rfl, hy₁⟩ := exists_append_of_suffix (hs' ▸ (skip_behind f more).suffix)
    rw [← List.cons_append] at hs
    obtain ⟨y₂, rfl, hy₂⟩ := exists_append_of_suffix (hs ▸ (skip_behind f t).suffix)
    have hmem := hwy.subset hw
    have hmem₁ := hy₁.subset hmem
    obtain ⟨d', y, rfl⟩ := List.exists_cons_of_ne_nil (List.ne_nil_of_mem hmem)
    rw [peek_local hmem₁] at hclose hdash
    have hlook := Atom.ne_look_of_upTo hm
    have ha' := readMember_local u (hy₂.subset (List.mem_cons_of_mem '-' hmem₁))
      (fun l => (hlook l).1) ha
    have hb' := readMember_local u hw (fun l => (hlook l).2) hb
    have hs₂ : skip f (y₂ ++ u) = '-' :: (y₁ ++ u) := skip_local_of_ne u hs (List.cons_ne_nil '-' y₁)
    exact .range ha' hs₂ (by rwa [peek_local hmem₁]) (by rwa [peek_local hmem₁])
      (skip_local_of_ne u hs' (List.cons_ne_nil d' y)) hb' hm

theorem readHyphens_local {c c' : ClassUnion} {m m' : ℕ} (hw : w ≠ [])
    (h : readHyphens f c m (x ++ z) = (c', w ++ z)) (hm : x.length < m) (hm' : x.length < m') :
    readHyphens f c m' (x ++ u) = (c', w ++ u) := by
  induction m generalizing c x m' with
  | zero => exact absurd hm (Nat.not_lt_zero _)
  | succ m ih =>
    obtain ⟨m', rfl⟩ := Nat.exists_eq_succ_of_ne_zero (by omega : m' ≠ 0)
    rw [readHyphens] at h
    split at h
    case h_1 rest hs =>
      have hb := (readHyphens_behind f (c.add (.single '-'.toNat) 0) m rest).suffix
      rw [h] at hb
      obtain ⟨y, rfl, -, hl, hy⟩ := skip_cons_local hs hb
      rw [readHyphens, hy]
      exact ih h (by omega) (by omega)
    case h_2 hne =>
      obtain ⟨rfl, hs⟩ := Prod.mk.inj h
      obtain ⟨d, w, rfl⟩ := List.exists_cons_of_ne_nil hw
      rw [readHyphens, skip_local_of_ne u hs hw]
      split
      · rename_i he
        obtain ⟨rfl, -⟩ := List.cons.inj he
        exact (hne _ hs).elim
      · rfl

/-- What follows the caret of a class. -/
def openMembers (f : Flags) (negated : Bool) (t : Text) : Bool × ClassUnion × Text :=
  match (readHyphens f .empty (t.length + 1) t).1.count,
      (readHyphens f .empty (t.length + 1) t).2 with
  | 0, ']' :: rest => (negated,
      (readHyphens f .empty (t.length + 1) t).1.add (.single ']'.toNat) 0, rest)
  | _, t' => (negated, (readHyphens f .empty (t.length + 1) t).1, t')

theorem openClass_eq (f : Flags) (t : Text) :
    openClass f t = match skip f t with
      | '^' :: rest => openMembers f true (skip f rest)
      | t => openMembers f false t := by
  generalize hs : skip f t = s
  split
  case h_1 rest =>
    unfold openClass
    rw [hs]
    rfl
  case h_2 hne =>
    unfold openClass
    rw [hs]
    split
    rename_i he
    split at he
    · exact (hne _ rfl).elim
    · cases he
      rfl

theorem openMembers_behind (f : Flags) (negated : Bool) (t : Text) :
    Behind t (openMembers f negated t).2.2 := by
  have hb := readHyphens_behind f .empty (t.length + 1) t
  unfold openMembers
  split
  case h_1 he => exact hb.trans (he ▸ .of_cons (by decide))
  case h_2 => exact hb

theorem openMembers_local {negated negated' : Bool} {c : ClassUnion} (hw : w ≠ [])
    (h : openMembers f negated (x ++ z) = (negated', c, w ++ z)) :
    openMembers f negated (x ++ u) = (negated', c, w ++ u) := by
  have hb : w ++ z <:+ (readHyphens f .empty ((x ++ z).length + 1) (x ++ z)).2 := by
    unfold openMembers at h
    split at h
    case h_1 he =>
      simp only [Prod.mk.injEq] at h
      exact ⟨[']'], by rw [he, ← h.2.2]; rfl⟩
    case h_2 =>
      simp only [Prod.mk.injEq] at h
      exact ⟨[], h.2.2.symm⟩
  obtain ⟨y, hy, hwy⟩ := exists_append_of_suffix hb
  have hne : y ≠ [] := by
    rintro rfl
    exact hw (List.suffix_nil.1 hwy)
  have hlen : ∀ u : Text, x.length < (x ++ u).length + 1 := by
    intro u
    rw [List.length_append]
    omega
  have hread := readHyphens_local u hne (Prod.ext rfl hy) (hlen z) (hlen u)
  obtain ⟨d, y, rfl⟩ := List.exists_cons_of_ne_nil hne
  unfold openMembers at h ⊢
  rw [hy] at h
  rw [hread]
  split at h
  case h_1 hc he =>
    obtain ⟨rfl, hy'⟩ := List.cons.inj he
    simp only [Prod.mk.injEq] at h
    obtain ⟨rfl, rfl, rfl⟩ := h
    rw [List.append_cancel_right hy']
    simp only [hc, List.cons_append]
  case h_2 hne =>
    simp only [Prod.mk.injEq, List.append_cancel_right_eq] at h
    obtain ⟨rfl, rfl, rfl⟩ := h
    split
    case h_1 hc he =>
      obtain ⟨rfl, -⟩ := List.cons.inj he
      exact (hne _ hc rfl).elim
    case h_2 => rfl

theorem openClass_local {negated : Bool} {c : ClassUnion} (hw : w ≠ [])
    (h : openClass f (x ++ z) = (negated, c, w ++ z)) :
    openClass f (x ++ u) = (negated, c, w ++ u) := by
  rw [openClass_eq] at h ⊢
  split at h
  case h_1 rest hs =>
    have hb := (openMembers_behind f true (skip f rest)).suffix
    rw [h] at hb
    obtain ⟨y, hy, hwy⟩ := exists_append_of_suffix hb
    have hne : y ≠ [] := by
      rintro rfl
      exact hw (List.suffix_nil.1 hwy)
    obtain ⟨y', rfl, -, -, hy'⟩ := skip_cons_local hs (hy ▸ (skip_behind f rest).suffix)
    rw [hy] at h
    rw [hy']
    show openMembers f true (skip f (y' ++ u)) = _
    rw [skip_local_of_ne u hy hne]
    exact openMembers_local u hw h
  case h_2 hc =>
    have hb := (openMembers_behind f false (skip f (x ++ z))).suffix
    rw [h] at hb
    obtain ⟨y, hy, hwy⟩ := exists_append_of_suffix hb
    have hne : y ≠ [] := by
      rintro rfl
      exact hw (List.suffix_nil.1 hwy)
    rw [hy] at h hc
    rw [skip_local_of_ne u hy hne]
    obtain ⟨d, y, rfl⟩ := List.exists_cons_of_ne_nil hne
    split
    case h_1 he =>
      obtain ⟨rfl, -⟩ := List.cons.inj he
      exact (hc _ rfl).elim
    case h_2 => exact openMembers_local u hw h

namespace ClassReader

variable {r : ClassReader}

/-- A class is finished by a closing bracket only. -/
theorem step_inr {t rest : Text} {whole : CharSet × ℕ}
    (h : r.step f t = .ok (.inr whole, rest)) :
    t = ']' :: rest ∧ r.close f = .ok (.inr whole) := by
  cases step_eq_ok.1 h with
  | close hc => exact ⟨rfl, hc⟩

theorem run_closes {m : ℕ} {t rest : Text} {whole : CharSet × ℕ}
    (h : r.run f m t = .ok (whole, rest)) : ']' :: rest <:+ t := by
  induction m generalizing r t with
  | zero => cases h
  | succ m ih =>
    rw [ClassReader.run] at h
    obtain ⟨⟨result, v⟩, hs, h⟩ := bind_eq_ok.1 h
    have hv := (skip_behind f t).suffix
    cases result with
    | inl r' => exact (ih h).trans ((step_behind hs).suffix.trans hv)
    | inr whole =>
      cases h
      rw [(step_inr hs).1] at hv
      exact hv

/-- A part of a class is never empty. -/
theorem step_length_lt {t rest : Text} {result : ClassReader ⊕ CharSet × ℕ}
    (h : r.step f t = .ok (result, rest)) : rest.length < t.length := by
  cases step_eq_ok.1 h with
  | named hn => exact Nat.lt_succ_of_le (readNamedClass_behind hn).length_le
  | @bracket t => exact Nat.lt_succ_of_le (openClass_behind f t).length_le
  | close => exact Nat.lt_succ_self _
  | operator => exact Nat.lt_succ_of_le (Nat.le_succ _)
  | member _ _ _ hr => exact Nat.lt_succ_of_le (readRange_length_le hr)

theorem step_local {result : ClassReader ⊕ CharSet × ℕ} (hw : ']' ∈ w)
    (h : r.step f (x ++ z) = .ok (result, w ++ z)) :
    r.step f (x ++ u) = .ok (result, w ++ u) := by
  have hne := List.ne_nil_of_mem hw
  have hsuf := (step_behind h).suffix
  obtain ⟨y, hy, hwy⟩ := exists_append_of_suffix hsuf
  obtain rfl := List.append_cancel_right hy
  obtain ⟨c, x, rfl⟩ := List.exists_cons_of_ne_nil (List.ne_nil_of_mem (hwy.subset hw))
  rw [step_eq_ok, List.cons_append] at h ⊢
  generalize ht : x ++ z = t at h
  generalize hv : w ++ z = v at h
  cases h with
  | named hn hs =>
    subst ht
    have hx : ']' ∈ x := (List.mem_cons.1 (hwy.subset hw)).resolve_left (by decide)
    rw [readNamedClass?_local hx] at hn
    obtain ⟨named, hnamed, rfl⟩ := Option.map_eq_some_iff.1 hn
    obtain rfl := List.append_cancel_right hv
    have hn' : readNamedClass? (x ++ u) = some (named.1, named.2.1, named.2.2 ++ u) := by
      rw [readNamedClass?_local hx, hnamed]
      rfl
    exact .named hn' hs
  | bracket hn =>
    subst ht
    have hx : ']' ∈ x := (List.mem_cons.1 (hwy.subset hw)).resolve_left (by decide)
    rw [readNamedClass?_local hx, Option.map_eq_none_iff] at hn
    have hn' : readNamedClass? (x ++ u) = none := by
      rw [readNamedClass?_local hx, hn]
      rfl
    have ho := openClass_local u hne (Prod.ext rfl (Prod.ext rfl hv.symm))
    have := Part.bracket (f := f) (r := r) hn'
    rw [ho] at this
    exact this
  | close hc =>
    obtain rfl := List.append_cancel_right (hv.trans ht.symm)
    exact .close hc
  | operator op =>
    rw [← hv, ← List.cons_append] at ht
    obtain rfl := List.append_cancel_right ht
    exact .operator op
  | member hopen hclose hop hr =>
    subst hv ht
    obtain ⟨d, x, rfl⟩ : ∃ d x', x = d :: x' := by
      refine List.exists_cons_of_ne_nil ?_
      rintro rfl
      exact hclose (List.mem_singleton.1 (hwy.subset hw)).symm
    exact .member hopen hclose hop (readRange_local (x := c :: d :: x) u hw hr)

theorem run_local {m m' : ℕ} {whole : CharSet × ℕ} (h : r.run f m (x ++ z) = .ok (whole, w ++ z))
    (hm : x.length < m') : r.run f m' (x ++ u) = .ok (whole, w ++ u) := by
  induction m generalizing r x m' with
  | zero => cases h
  | succ m ih =>
    obtain ⟨m', rfl⟩ := Nat.exists_eq_succ_of_ne_zero (by omega : m' ≠ 0)
    rw [ClassReader.run] at h ⊢
    obtain ⟨⟨result, v⟩, hs, h⟩ := bind_eq_ok.1 h
    cases result with
    | inl r' =>
      obtain ⟨y, rfl, hwy⟩ := exists_append_of_suffix (w := ']' :: w) (run_closes h)
      have hy : ']' ∈ y := hwy.subset (List.mem_cons_self ..)
      obtain ⟨y', hy', hyy⟩ := exists_append_of_suffix (step_behind hs).suffix
      have hne := List.ne_nil_of_mem (hyy.subset hy)
      rw [hy'] at hs
      rw [skip_local_of_ne u hy' hne, step_local u hy hs]
      have hl := (skip_behind f (x ++ z)).length_le
      rw [hy', List.length_append, List.length_append] at hl
      have hlt := step_length_lt hs
      rw [List.length_append, List.length_append] at hlt
      exact ih h (by omega)
    | inr whole' =>
      cases h
      obtain ⟨hv, hc⟩ := step_inr hs
      have hs' := skip_local_of_ne (w := ']' :: w) u hv (List.cons_ne_nil _ _)
      rw [hs']
      show (((r.close f).map fun result => (result, w ++ u)).bind _) = _
      rw [hc]
      rfl

end ClassReader

theorem readClass_local {whole : CharSet × ℕ} (h : readClass f (x ++ z) = .ok (whole, w ++ z)) :
    readClass f (x ++ u) = .ok (whole, w ++ u) := by
  unfold readClass at h ⊢
  rcases ho : openClass f (x ++ z) with ⟨negated, c, t⟩
  rw [ho] at h
  obtain ⟨y, rfl, hwy⟩ := exists_append_of_suffix (w := ']' :: w) (ClassReader.run_closes h)
  have hne := List.ne_nil_of_mem (hwy.subset (List.mem_cons_self ..))
  rw [openClass_local u hne ho]
  exact ClassReader.run_local u h (by rw [List.length_append]; omega)

end

end PathRouting.Regex
