/-
  Sealed parts of a regular expression.

  * `Sealed.accepted_or_fails`: where a text that closes what it opens is read in front of a
    parenthesis, it is accepted alone.
  * `Sealed.inside`: between parentheses such a text is read in the same way wherever it
    stands, and only if it is a regular expression itself.
-/
import PathRouting.Proofs.Regex.Sealing.Reader
import PathRouting.Proofs.Regex.SelfContained

namespace PathRouting.Regex

namespace Reader

variable {b r s : Reader} {f : Flags} {x t u v : Text}

theorem Reads.runs (h : Reads r t s u) : r.Runs t s u := by
  induction h with
  | refl => exact .refl
  | step hs hr _ ih => exact (Runs.of_skip hs hr).trans ih

/-- There are no counts in front of a parenthesis. -/
theorem fails_brace (hr : r.flags.verbose = false) : r.Fails ('\x7b' :: ')' :: v) := by
  have hcounts : ∃ e, r.iterateCounted (')' :: v) = .error e := by
    unfold iterateCounted
    split_ifs
    · exact ⟨_, rfl⟩
    · have hcount : readCount r.flags (skip r.flags (')' :: v)) = .ok (none, ')' :: v) := by
        rw [skip_of_not_verbose hr]
        rfl
      rw [readCounts_eq, hcount]
      exact ⟨_, rfl⟩
  obtain ⟨e, he⟩ := hcounts
  exact fails_of_error (skip_of_not_verbose hr _) he

/-- A group with something in it that is nested too deep. -/
theorem fails_close (hs : s.flags.verbose = false) (hd : depthLimit < s.level.close.2) :
    s.Fails (')' :: u) := by
  cases henclosing : s.enclosing with
  | nil =>
    have hclose : s.step ')' u = .error .unopenedGroup := by
      show s.closeGroup.map _ = _
      unfold closeGroup
      rw [henclosing]
      rfl
    exact fails_of_error (skip_of_not_verbose hs _) hclose
  | cons g gs =>
    refine (runs_close hs henclosing).fails (fails_of_deep (.inl (.inl ?_)))
    exact ⟨_, List.mem_cons_self .., Nat.succ_le_succ hd.le⟩

/-- **Sealing.** Between parentheses, a text that closes what it opens is read to its end
    alone, or is not accepted. -/
theorem accepted_or_fails (hr : r.Terse) (hx : (Nest.text r.enclosing.length 0).Closes x)
    (hb : b.level.items = []) (hfresh : Fresh b r) :
    (b.within r).Fails (x ++ ')' :: v) ∨
      ∃ s, Reads r x s [] ∧ s.enclosing = [] ∧ s.flags.verbose = false := by
  induction hl : x.length using Nat.strong_induction_on generalizing r x with
  | _ m ih =>
  match x with
  | [] =>
    have hlength : r.enclosing.length = 0 := (Nest.text.inj hx).1
    exact .inr ⟨r, .refl, List.length_eq_zero_iff.1 hlength, hr.flags⟩
  | c :: x =>
    have hskip : ∀ t, skip r.flags (c :: t) = c :: t := fun t => skip_of_not_verbose hr.flags _
    have hclose : c = ')' → r.enclosing ≠ [] := by
      rintro rfl hnil
      rw [hnil] at hx
      exact Nest.not_closes_stray hx
    have hjoined := step_within (t := x ++ ')' :: v) hfresh hclose (.inl hb)
    cases hstep : r.step c (x ++ ')' :: v) with
    | error e =>
      rw [hstep] at hjoined
      exact .inl (fails_of_error (hskip _) hjoined)
    | ok p =>
      obtain ⟨r', rest⟩ := p
      obtain ⟨w, rfl, hw, hr'⟩ := step_sealed hr hx hstep
      rw [hstep] at hjoined
      by_cases hfresh' : Fresh b r'
      case neg => exact .inl (fails_of_error (hskip _) (hjoined.trans (if_neg hfresh')))
      case pos =>
        have hone : (b.within r).Runs (c :: x ++ ')' :: v) (b.within r') (w ++ ')' :: v) :=
          .of_skip (hskip _) (hjoined.trans (if_pos hfresh'))
        by_cases hbrace : w = ['\x7b']
        · rw [hbrace] at hone
          exact .inl (hone.fails (fails_brace hr'.flags))
        have hlen := (step_suffix hstep).length_le
        rw [List.length_append, List.length_append, Nat.add_le_add_iff_right] at hlen
        obtain hfails | ⟨s, hs, hend, hv⟩ :=
          ih w.length (by rw [← hl, List.length_cons]; omega) hr' hw hfresh' rfl
        · exact .inl (hone.fails hfails)
        · have halone : r.step c (x ++ []) = .ok (r', w ++ []) := by
            refine step_local [] ⟨fun h => (nomatch h), fun h => (nomatch h)⟩ (fun h => ?_)
              (fun _ => ⟨hr.flags, hbrace⟩) hstep
            rw [hr'.flags] at h
            cases h
          rw [List.append_nil, List.append_nil] at halone
          exact .inr ⟨s, .step (hskip _) halone hs, hend, hv⟩

theorem Alone.read (h : Alone f x s) (hd : ¬ depthLimit < s.level.close.2) :
    Regex.read f x = .ok s.level.close.1 := by
  obtain ⟨t, hr, ht⟩ := h.reads
  rw [skip_of_not_verbose h.verbose] at ht
  rw [ht] at hr
  rw [hr.runs.read h.outermost, if_neg hd]

/-- Between parentheses, a regular expression is read only if it is not nested too
    deep. -/
theorem Alone.accepted_inside (h : Alone f x s) :
    RewritesInside (∃ e, Regex.read f x = .ok e) f x x := by
  refine ⟨fun {r r' u u'} hr hrf hlevel hlevel' => ?_⟩
  by_cases hd : depthLimit < s.level.close.2
  · have hitems : r.level.items = [] ∧ r'.level.items = [] := by
      rw [hlevel, hlevel']
      exact ⟨rfl, rfl⟩
    have hclose : ∀ {v : Text}, Loose (')' :: v) := loose_cons (by decide)
    refine (h.together hrf (hr.flags ▸ hrf) hr.names (.inl hitems) hclose hclose).bind ?_
    rintro - y y' ⟨rfl, rfl⟩
    refine .inl ⟨fails_close h.verbose ?_, fails_close h.verbose ?_⟩
    · rwa [within_close h.outermost hlevel]
    · rwa [within_close h.outermost hlevel']
  · exact (h.inside.reads hr hrf hlevel hlevel').imp (fun _ => ⟨_, h.read hd⟩) fun _ _ h => h

end Reader

open Reader

/-- A text that keeps to the parentheses around it: it closes what it opens, or it is a
    regular expression that does not end in verbose mode. -/
def Contained (f : Flags) (x : Text) : Prop :=
  Sealed x ∨ (finalFlags? f x).any (!·.verbose)

instance (f : Flags) (x : Text) : Decidable (Contained f x) := by
  unfold Contained
  infer_instance

/-- Between parentheses, a text that keeps to them is read in the same way everywhere. If
    it is, then it is a regular expression itself. -/
theorem Contained.inside {f : Flags} {x : Text} (hx : Contained f x) (hf : f.verbose = false) :
    RewritesInside (∃ e, Regex.read f x = .ok e) f x x := by
  by_cases halone : ∃ s, Alone f x s
  · obtain ⟨s, hs⟩ := halone
    exact hs.accepted_inside
  have hsealed : Sealed x := by
    refine hx.resolve_right fun hflags => ?_
    obtain ⟨s, hs, -⟩ := alone_of_finalFlags hflags
    exact halone ⟨s, hs⟩
  have hfails : ∀ {r : Reader} {u : Text}, r.flags = f → r.level = .empty →
      r.Fails (x ++ ')' :: u) := by
    intro r u hrf hlevel
    have hfresh : Fresh r (.initial f) := fun _ hn => nomatch hn
    have hterse : (Reader.initial f).Terse := ⟨hf, fun _ hg => nomatch hg⟩
    obtain hfails | ⟨s, hs, hend, hv⟩ :=
      accepted_or_fails (v := u) hterse hsealed (by rw [hlevel]; rfl) hfresh
    · rwa [← hrf, within_initial] at hfails
    · refine absurd ⟨s, ⟨[], hs, ?_⟩, hend, hv⟩ halone
      exact skip_of_not_verbose hv _
  exact ⟨fun hr hrf hlevel hlevel' => .inl ⟨hfails hrf hlevel, hfails (hr.flags ▸ hrf) hlevel'⟩⟩

end PathRouting.Regex
