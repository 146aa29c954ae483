/-
  Constructs of texts that close what they open.

  * `openGroup_sealed`, `iterateCounted_passes`: groups and repetitions.
  * `Reader.step_sealed`: in front of a parenthesis, a construct of a sealed text ends in
    the text, and what is left of the text is sealed.
-/
import PathRouting.Proofs.Regex.Locality.Reader
import PathRouting.Proofs.Regex.Sealing.Class

namespace PathRouting.Regex

open Nest

section
variable {d k : ℕ} {f : Flags} {x v rest : Text}

/-! ## Repetitions -/

/-- What stands in the counts of a repetition and behind them. -/
def isCountPart (c : Char) : Bool :=
  Text.isDigit c || Text.isBlank c || c = ',' || c = '\x7d' || c = '?'

theorem readGreed_passes (t : Text) : Passes isCountPart t (Reader.readGreed t).2 := by
  unfold Reader.readGreed
  split
  · exact .cons (by decide) .refl
  · exact .refl

theorem readDecimalDigits_passes (hf : f.verbose = false) (acc : Text) (fuel : ℕ) (t : Text) :
    Passes isCountPart t (Reader.readDecimalDigits f acc fuel t).2 := by
  induction fuel generalizing acc t with
  | zero => exact .refl
  | succ fuel ih =>
    cases t with
    | nil => exact .refl
    | cons c t =>
      rw [Reader.readDecimalDigits]
      split_ifs with hc
      · rw [skip_of_not_verbose hf]
        exact .cons (by simp [isCountPart, hc]) (ih _ _)
      · exact .refl

theorem afterDigits_passes (hf : f.verbose = false) (t : Text) :
    Passes isCountPart t (Reader.afterDigits f t) := by
  cases t with
  | nil => exact .refl
  | cons c t =>
    unfold Reader.afterDigits
    dsimp only
    split_ifs with hc
    · rw [skip_of_not_verbose hf]
      refine .cons (by simp [isCountPart, hc]) (.dropWhile (fun c hc => ?_) t)
      simp [isCountPart, hc]
    · exact .refl

theorem readCount_passes (hf : f.verbose = false) {m : Option ℕ} {t : Text}
    (h : Reader.readCount f t = .ok (m, rest)) : Passes isCountPart t rest := by
  have hblank : Passes isCountPart t (t.dropWhile Text.isBlank) :=
    .dropWhile (fun c hc => by simp [isCountPart, hc]) t
  have hdigits := readDecimalDigits_passes hf [] (t.length + 1) (t.dropWhile Text.isBlank)
  rw [Reader.readCount_eq] at h
  rcases hd : Reader.readDecimalDigits f [] (t.length + 1) (t.dropWhile Text.isBlank) with
    ⟨digits, t'⟩
  rw [hd] at h hdigits
  have hrest : rest = Reader.afterDigits f t' := by
    dsimp only at h
    split_ifs at h <;> cases h <;> rfl
  rw [hrest]
  exact (hblank.trans hdigits).trans (afterDigits_passes hf t')

theorem readGreatest_passes (hf : f.verbose = false) {m : ℕ} {counts : ℕ × Option ℕ} {t : Text}
    (h : Reader.readGreatest f m t = .ok (counts, rest)) : Passes isCountPart t rest := by
  unfold Reader.readGreatest at h
  rw [skip_of_not_verbose hf] at h
  split at h
  · cases h
    exact .cons (by decide) .refl
  · obtain ⟨⟨greatest, t'⟩, hc, h⟩ := bind_eq_ok.1 h
    dsimp only at h
    split at h
    case h_2 => cases h
    case h_1 =>
      split_ifs at h
      cases h
      exact (readCount_passes hf hc).trans (.cons (by decide) .refl)

theorem readCounts_passes (hf : f.verbose = false) {counts : ℕ × Option ℕ} {t : Text}
    (h : Reader.readCounts f t = .ok (counts, rest)) : Passes isCountPart t rest := by
  rw [Reader.readCounts_eq, skip_of_not_verbose hf] at h
  obtain ⟨⟨least, t'⟩, hc, h⟩ := bind_eq_ok.1 h
  refine (readCount_passes hf hc).trans ?_
  dsimp only at h
  split at h
  case h_3 => cases h
  case h_1 =>
    cases h
    exact .cons (by decide) .refl
  case h_2 => exact .cons (by decide) (readGreatest_passes hf h)

theorem iterateCounted_passes {r r' : Reader} (hf : r.flags.verbose = false) {t : Text}
    (h : r.iterateCounted t = .ok (r', rest)) : Passes isCountPart t rest := by
  obtain ⟨_, _, u, hc, -, rfl⟩ := Reader.iterateCounted_eq_ok.1 h
  rw [skip_of_not_verbose hf]
  exact (readCounts_passes hf hc).trans (readGreed_passes u)

/-! ## Groups -/

theorem put_verbose {c : Char} {value : Bool} {g : Flags} (hc : c ≠ 'x')
    (h : f.put c value = some g) : g.verbose = f.verbose := by
  unfold Flags.put at h
  split_ifs at h <;> cases h <;> rfl

/-- The flags of a group end at the first colon or closing parenthesis. -/
theorem readFrom_sealed {seen : Text} {g : Flags} {directive : Bool}
    (hx : (Nest.header d).Closes x)
    (h : f.readFrom seen (x ++ ')' :: v) = .ok (g, directive, rest)) :
    ∃ w, rest = w ++ ')' :: v ∧ g.verbose = f.verbose ∧
      (Nest.text (if directive then d else d + 1) 0).Closes w := by
  induction x generalizing f seen with
  | nil => cases hx
  | cons c x ih =>
    rw [closes_cons, Nest.next] at hx
    rw [List.cons_append, Flags.readFrom] at h
    by_cases hend : c = ':' ∨ c = ')'
    · rw [if_pos hend] at h
      split_ifs at h
      cases h
      refine ⟨x, rfl, rfl, ?_⟩
      rcases hend with rfl | rfl <;> exact hx
    · obtain ⟨hcolon, hclose⟩ := not_or.1 hend
      rw [if_neg hend] at h
      rw [if_neg hcolon, if_neg hclose] at hx
      split_ifs at h with hseen hminus
      · subst hminus
        exact ih hx h
      · split at h
        case h_2 => cases h
        case h_1 g' hput =>
          have hlt : c ≠ '<' := by
            rintro rfl
            cases hput
          have hxflag : c ≠ 'x' := by
            rintro rfl
            exact not_closes_stray hx
          rw [if_neg hlt, if_neg hxflag] at hx
          obtain ⟨w, hw, hg, hclose⟩ := ih hx h
          exact ⟨w, hw, hg.trans (put_verbose hxflag hput), hclose⟩

end

namespace Reader

/-- No blanks are skipped, and none will be behind the groups that are open. -/
structure Terse (r : Reader) : Prop where
  flags : r.flags.verbose = false
  enclosing : ∀ g ∈ r.enclosing, g.flags.verbose = false

section
variable {r r' : Reader} {x v rest : Text}

theorem terse_open (h : r.Terse) {g : OpenGroup} (hg : g.flags = r.flags) :
    ∀ g' ∈ g :: r.enclosing, g'.flags.verbose = false := by
  intro g' hm
  rcases List.mem_cons.1 hm with rfl | hm
  · rw [hg]
    exact h.flags
  · exact h.enclosing g' hm

theorem openNamed_sealed {d : ℕ} (hx : (Nest.name d).Closes x)
    (h : r.openNamed (x ++ ')' :: v) = .ok (r', rest)) :
    ∃ w, rest = w ++ ')' :: v ∧ (Nest.text (d + 1) 0).Closes w ∧
      ∃ name, r' = r.openCapture (some name) := by
  obtain ⟨name, w, rfl, hname, hw⟩ := hx.until (fun _ => rfl) (by rintro ⟨⟩)
  rw [List.append_assoc, List.cons_append, openNamed_append hname] at h
  obtain ⟨s, hs, he⟩ := map_eq_ok.1 h
  obtain ⟨rfl, rfl⟩ := Prod.mk.inj he
  refine ⟨w, rfl, hw, ?_⟩
  unfold openAs at hs
  split at hs
  · cases hs
  · split_ifs at hs
    cases hs
    exact ⟨_, rfl⟩

/-- A group, or flags. -/
theorem openGroup_sealed (hr : r.Terse) (hx : (Nest.opened r.enclosing.length).Closes x)
    (h : r.openGroup (x ++ ')' :: v) = .ok (r', rest)) :
    ∃ w, rest = w ++ ')' :: v ∧ (Nest.text r'.enclosing.length 0).Closes w ∧ r'.Terse := by
  have hcapture : ∀ name, (r.openCapture name).Terse := fun name => ⟨hr.flags, terse_open hr rfl⟩
  have hskip := skip_of_not_verbose hr.flags (x ++ ')' :: v)
  obtain _ | ⟨c, x⟩ := x
  · cases hx
  rw [closes_cons, Nest.next] at hx
  cases openGroup_eq_ok.1 h with
  | marked hs hn =>
    rw [hskip] at hs
    obtain _ | ⟨_, _ | ⟨_, x⟩⟩ := x
    · cases hs
    · cases hs
    · cases hs
      obtain ⟨w, hw, hclose, name, rfl⟩ := openNamed_sealed hx hn
      exact ⟨w, hw, hclose, hcapture _⟩
  | @named e _ _ _ hs _ _ hn =>
    rw [hskip] at hs
    obtain _ | ⟨_, _ | ⟨_, x⟩⟩ := x
    · cases hs
    · cases hs
      cases hx
    · cases hs
      obtain ⟨w, hw, hclose, name, rfl⟩ := openNamed_sealed (x := e :: x) hx hn
      exact ⟨w, hw, hclose, hcapture _⟩
  | @flags e _ _ _ hs hn =>
    rw [hskip] at hs
    obtain _ | ⟨_, x⟩ := x
    · cases hs
      cases hx
    · cases hs
      obtain ⟨⟨g, directive, t⟩, hread, he⟩ := map_eq_ok.1 hn
      obtain ⟨w, rfl, hg, hclose⟩ := readFrom_sealed (x := e :: x) hx hread
      rw [hr.flags] at hg
      dsimp only at he
      split_ifs at he with hd
      · cases he
        rw [if_pos hd] at hclose
        exact ⟨w, rfl, hclose, hg, hr.enclosing⟩
      · cases he
        rw [if_neg hd] at hclose
        exact ⟨w, rfl, hclose, hg, terse_open hr rfl⟩
  | capture hq =>
    rw [hskip] at hq
    rw [if_neg fun hc => hq (congrArg some hc)] at hx
    exact ⟨c :: x, hskip, hx, hcapture _⟩

/-! ## Constructs -/

theorem Terse.of_eq (h : r.Terse) (hf : r'.flags = r.flags) (he : r'.enclosing = r.enclosing) :
    r'.Terse :=
  ⟨by rw [hf, h.flags], by rw [he]; exact h.enclosing⟩

theorem closeGroup_sealed (hr : r.Terse) (hx : (Nest.text r.enclosing.length 0).Closes (')' :: x))
    (h : r.closeGroup = .ok r') : (Nest.text r'.enclosing.length 0).Closes x ∧ r'.Terse := by
  obtain ⟨g, gs, hg, rfl⟩ := closeGroup_eq_ok.1 h
  have henclosing := hr.enclosing
  rw [hg] at hx henclosing
  exact ⟨hx, henclosing g (List.mem_cons_self ..),
    fun g' hm => henclosing g' (List.mem_cons_of_mem _ hm)⟩

/-- **Sealing.** In front of a parenthesis, a construct of a text that closes what it opens
    ends in the text. What is left closes what is open then. -/
theorem step_sealed {c : Char} (hr : r.Terse) (hx : (Nest.text r.enclosing.length 0).Closes (c :: x))
    (h : r.step c (x ++ ')' :: v) = .ok (r', rest)) :
    ∃ w, rest = w ++ ')' :: v ∧ (Nest.text r'.enclosing.length 0).Closes w ∧ r'.Terse := by
  rw [step_eq] at h
  generalize hk : Construct.of c = k at h
  have hmark : ∀ {e : Char}, k.mark? = some e → c = e := fun he => Construct.eq_of_mark (hk ▸ he)
  -- what has no mark of its own means nothing to the scan
  have hquiet : k.mark? = none → (Nest.text r.enclosing.length 0).Closes x := by
    intro hnone
    have hne : ∀ e : Char, (Construct.of e).mark? = some e → c ≠ e := by
      rintro e he rfl
      rw [hk, hnone] at he
      cases he
    rwa [closes_cons, Nest.next, plain, if_neg (hne '\\' rfl), if_neg (hne '[' rfl), if_pos rfl,
      if_neg (hne '(' rfl), if_neg (hne ')' rfl)] at hx
  cases k with
  | group =>
    obtain rfl : c = '(' := hmark rfl
    exact openGroup_sealed hr hx h
  | close =>
    obtain rfl : c = ')' := hmark rfl
    obtain ⟨s, hs, he⟩ := map_eq_ok.1 h
    cases he
    exact ⟨x, rfl, closeGroup_sealed hr hx hs⟩
  | bar =>
    obtain rfl : c = '|' := hmark rfl
    cases h
    exact ⟨x, rfl, hx, hr.of_eq rfl rfl⟩
  | set =>
    obtain rfl : c = '[' := hmark rfl
    obtain ⟨⟨⟨s, depth⟩, t⟩, hs, he⟩ := map_eq_ok.1 h
    cases he
    obtain ⟨w, hw, hclose⟩ := readClass_sealed hr.flags hx hs
    exact ⟨w, hw, hclose, hr.of_eq rfl rfl⟩
  | escape =>
    obtain rfl : c = '\\' := hmark rfl
    obtain ⟨⟨a, t⟩, ha, h⟩ := bind_eq_ok.1 h
    obtain ⟨s, hs, he⟩ := map_eq_ok.1 h
    cases he
    obtain ⟨e, -, rfl⟩ := pushAtom_eq hs
    obtain ⟨w, hw, hclose⟩ := readEscape_sealed hr.flags hx (.inl rfl) ha
    exact ⟨w, hw, hclose, hr.of_eq rfl rfl⟩
  | look =>
    cases h
    exact ⟨x, rfl, hquiet rfl, hr.of_eq rfl rfl⟩
  | iterate min max =>
    obtain ⟨s, hs, he⟩ := map_eq_ok.1 h
    cases he
    obtain ⟨w, hw, hclose⟩ :=
      (hquiet rfl).pass (fun _ => next_of_quiet (by decide)) (readGreed_passes (x ++ ')' :: v))
    have hflags : r'.flags = r.flags := by rw [iterate_eq_level hs]
    have henclosing : r'.enclosing = r.enclosing := by rw [iterate_eq_level hs]
    exact ⟨w, hw, henclosing ▸ hclose, hr.of_eq hflags henclosing⟩
  | counts =>
    obtain ⟨w, hw, hclose⟩ :=
      (hquiet rfl).pass (fun _ => next_of_quiet (by decide)) (iterateCounted_passes hr.flags h)
    have hflags : r'.flags = r.flags := by rw [iterateCounted_eq_level h]
    have henclosing : r'.enclosing = r.enclosing := by rw [iterateCounted_eq_level h]
    exact ⟨w, hw, henclosing ▸ hclose, hr.of_eq hflags henclosing⟩
  | dot =>
    obtain ⟨s, -, he⟩ := map_eq_ok.1 h
    cases he
    exact ⟨x, rfl, hquiet rfl, hr.of_eq rfl rfl⟩
  | char e =>
    obtain ⟨s, hs, he⟩ := map_eq_ok.1 h
    cases he
    obtain ⟨e, -, rfl⟩ := pushAtom_eq hs
    exact ⟨x, rfl, hquiet rfl, hr.of_eq rfl rfl⟩

end

end Reader

end PathRouting.Regex
