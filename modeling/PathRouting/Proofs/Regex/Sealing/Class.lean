/-
  Classes of texts that close what they open.

  The scan takes each bracket in a class as the reader does. It does not follow a bracket
  behind a hyphen, which would be the end of a range.

  * `readRange_sealed`, `openClass_sealed`: the parts of a class in front of a parenthesis.
  * `readClass_sealed`: a class as a whole.
-/
import PathRouting.Proofs.Regex.Locality.Class
import PathRouting.Proofs.Regex.Sealing.Escape

namespace PathRouting.Regex

open Nest

section
variable {d n : ℕ} {f : Flags} {x v rest : Text}

/-- In a class, between its members, a text closes all that is open. -/
def Nest.ClosesClass (d n : ℕ) (x : Text) : Prop :=
  (Nest.text d n).Closes x ∨ (Nest.dash d n).Closes x

namespace Nest

theorem not_closesClass_nil (hn : n ≠ 0) : ¬ ClosesClass d n [] := by
  rintro (h | h)
  · cases h
    exact hn rfl
  · cases h

theorem plain_class (hn : n ≠ 0) {c : Char} (hesc : c ≠ '\\') (hopen : c ≠ '[') :
    plain d n c = if c = ']' then .text d (n - 1) else if c = '-' then .dash d n
      else .text d n := by
  unfold plain
  rw [if_neg hesc, if_neg hopen, if_neg hn]

/-- Behind a bracket in a class. -/
theorem ClosesClass.open (h : ClosesClass d n ('[' :: x)) : (Nest.start d (n + 1)).Closes x := by
  obtain h | h := h
  · exact h
  · exact absurd h not_closes_stray

theorem ClosesClass.escape (h : ClosesClass d n ('\\' :: x)) : (Nest.escape d n).Closes x := by
  obtain h | h := h <;> exact h

/-- Behind a bracket that closes a class. -/
theorem ClosesClass.close (hn : n ≠ 0) (h : ClosesClass d n (']' :: x)) :
    (Nest.text d (n - 1)).Closes x := by
  have hplain : plain d n ']' = .text d (n - 1) := by
    rw [plain_class hn (by decide) (by decide), if_pos rfl]
  obtain h | h := h
  · rwa [closes_cons, Nest.next, hplain] at h
  · rwa [closes_cons, Nest.next, if_neg (by decide), if_neg (by decide), hplain] at h

/-- Behind a hyphen. -/
theorem ClosesClass.hyphen (hn : n ≠ 0) (h : ClosesClass d n ('-' :: x)) : ClosesClass d n x := by
  have hplain : plain d n '-' = .dash d n := by
    rw [plain_class hn (by decide) (by decide), if_neg (by decide), if_pos rfl]
  obtain h | h := h
  · rw [closes_cons, Nest.next, hplain] at h
    exact .inr h
  · rw [closes_cons, Nest.next, if_pos rfl] at h
    exact .inl h

/-- Behind any other character. -/
theorem ClosesClass.char (hn : n ≠ 0) {c : Char} (hc : c ∉ ['\\', '[', ']', '-'])
    (h : ClosesClass d n (c :: x)) : (Nest.text d n).Closes x := by
  simp only [List.mem_cons, List.not_mem_nil, or_false, not_or] at hc
  obtain ⟨hesc, hopen, hclose, hdash⟩ := hc
  have hplain : plain d n c = .text d n := by
    rw [plain_class hn hesc hopen, if_neg hclose, if_neg hdash]
  obtain h | h := h
  · rwa [closes_cons, Nest.next, hplain] at h
  · rwa [closes_cons, Nest.next, if_neg hdash, if_neg hopen, hplain] at h

/-- Behind a character that makes an operator if it stands twice. -/
theorem ClosesClass.mark (hn : n ≠ 0) (op : SetOperator) (h : ClosesClass d n (op.mark :: x)) :
    ClosesClass d n x := by
  cases op with
  | difference => exact h.hyphen hn
  | intersection | symmetricDifference => exact .inl (h.char hn (by decide))

end Nest

/-! ## Members -/

theorem readMember_sealed (hf : f.verbose = false) (hn : n ≠ 0) {c : Char} {a : Atom}
    (hx : ClosesClass d n (c :: x)) (hopen : c ≠ '[') (hclose : c ≠ ']') (ha : ∀ l, a ≠ .look l)
    (h : readMember f (c :: x ++ ')' :: v) = .ok (a, rest)) :
    ∃ w, rest = w ++ ')' :: v ∧ ClosesClass d n w ∧ (c ≠ '-' → (Nest.text d n).Closes w) := by
  by_cases hesc : c = '\\'
  · subst hesc
    obtain ⟨w, hw, hclose⟩ := readEscape_sealed hf hx.escape (.inr ha) h
    exact ⟨w, hw, .inl hclose, fun _ => hclose⟩
  · rw [List.cons_append, readMember_of_ne hesc] at h
    cases h
    by_cases hdash : c = '-'
    · subst hdash
      exact ⟨x, rfl, hx.hyphen hn, fun h => absurd rfl h⟩
    · have := hx.char hn (by simp [hesc, hopen, hclose, hdash])
      exact ⟨x, rfl, .inl this, fun _ => this⟩

theorem peek_of_not_verbose (hf : f.verbose = false) (t : Text) : peek f t = t.head? := by
  unfold peek
  rw [hf]
  rfl

theorem readRange_sealed (hf : f.verbose = false) (hn : n ≠ 0) {c : Char} {s : CharSet}
    (hx : ClosesClass d n (c :: x)) (hopen : c ≠ '[') (hclose : c ≠ ']')
    (hop : c = '-' → x.head? ≠ some '-')
    (h : readRange f (c :: x ++ ')' :: v) = .ok (s, rest)) :
    ∃ w, rest = w ++ ')' :: v ∧ ClosesClass d n w := by
  cases readRange_eq_ok.1 h with
  | single ha hs _ hm =>
    rw [skip_of_not_verbose hf] at hs
    subst hs
    obtain ⟨w, hw, hmember, -⟩ := readMember_sealed hf hn hx hopen hclose (Atom.ne_look_of_member hm) ha
    exact ⟨w, hw, hmember⟩
  | @range a _ more e _ b _ _ ha hs hbracket _ hs' hb hm =>
    rw [skip_of_not_verbose hf] at hs hs'
    subst hs hs'
    rw [peek_of_not_verbose hf] at hbracket
    have hlook := Atom.ne_look_of_upTo hm
    obtain ⟨w, hw, hmember, htext⟩ := readMember_sealed hf hn hx hopen hclose (fun l => (hlook l).1) ha
    have hc : c ≠ '-' := by
      rintro rfl
      rw [List.cons_append, readMember_of_ne (by decide)] at ha
      refine hop rfl ?_
      have ht := (Prod.mk.inj (Except.ok.inj ha)).2
      match x with
      | [] => cases ht
      | e :: x => rw [(List.cons.inj ht).1]; rfl
    -- behind the first member the scan is not at a hyphen, so the hyphen makes it wait
    match w with
    | [] => exact absurd hmember (not_closesClass_nil hn)
    | [_] =>
      cases hw
      have := htext hc
      rw [closes_cons, Nest.next, plain_class hn (by decide) (by decide)] at this
      cases this
    | _ :: _ :: w =>
      cases hw
      have hwait : (Nest.dash d n).Closes (e :: w) := by
        have := htext hc
        rwa [closes_cons, Nest.next, plain_class hn (by decide) (by decide),
          if_neg (by decide), if_pos rfl] at this
      have he : e ≠ '[' := by
        rintro rfl
        exact not_closes_stray hwait
      obtain ⟨w', hw', hmember', -⟩ := readMember_sealed hf hn (.inr hwait) he
        (fun h => hbracket (congrArg some h)) (fun l => (hlook l).2) hb
      exact ⟨w', hw', hmember'⟩

/-! ## Openings -/

/-- What stands in the name of a set between colons, and the colons. -/
def isNamePart (c : Char) : Bool :=
  Text.isLatinLetter c || c = ':'

theorem readNamedClass_sealed {named : Bool × List (ℕ × ℕ) × Text}
    (hx : (Nest.start d (n + 1)).Closes x)
    (h : readNamedClass? (x ++ ')' :: v) = some named) :
    ∃ w, named.2.2 = w ++ ')' :: v ∧ (Nest.text d n).Closes w := by
  have hpart : ∀ (y : Text) (negated : Bool), (Nest.text d (n + 1)).Closes y →
      namedSet? negated (y ++ ')' :: v) = some named →
      ∃ w, named.2.2 = w ++ ')' :: v ∧ (Nest.text d n).Closes w := by
    intro y negated hy h
    unfold namedSet? at h
    split at h
    case h_2 => cases h
    case h_1 more hmore =>
      obtain ⟨table, htable, he⟩ := Option.map_eq_some_iff.1 h
      have hpass : Passes isNamePart (y ++ ')' :: v) (']' :: more) := by
        refine ⟨(y ++ ')' :: v).takeWhile (· ≠ ':') ++ [':'], ?_, fun c hc => ?_⟩
        · rw [List.append_assoc, List.singleton_append, ← hmore, List.takeWhile_append_dropWhile]
        · rcases List.mem_append.1 hc with hc | hc
          · simp [isNamePart, isLatinLetter_of_namedClass htable hc]
          · rw [List.mem_singleton.1 hc]
            rfl
      obtain ⟨w, hw, hclose⟩ := hy.pass (fun _ => next_of_quiet (by decide)) hpass
      rw [← he]
      cases w with
      | nil => cases hw
      | cons c w =>
        cases hw
        exact ⟨w, rfl, ClosesClass.close (Nat.succ_ne_zero n) (.inl hclose)⟩
  rcases x with - | ⟨c, x⟩
  · cases hx
  by_cases hc : c = ':'
  case neg =>
    rw [List.cons_append, readNamedClass?_of_ne hc] at h
    cases h
  case pos =>
    subst hc
    have hx' : (Nest.text d (n + 1)).Closes x := by
      rwa [closes_cons, Nest.next, if_neg (by decide), if_neg (by decide),
        plain_class (Nat.succ_ne_zero n) (by decide) (by decide)] at hx
    rcases x with - | ⟨e, x⟩
    · exact hpart [] false hx' h
    by_cases he : e = '^'
    · subst he
      refine hpart x true ?_ h
      rwa [closes_cons, Nest.next,
        plain_class (Nat.succ_ne_zero n) (by decide) (by decide)] at hx'
    · rw [List.cons_append, List.cons_append, readNamedClass?_colon he] at h
      exact hpart (e :: x) false hx' h

theorem readHyphens_sealed (hf : f.verbose = false) (hn : n ≠ 0) {u : ClassUnion} {fuel : ℕ}
    (hx : ClosesClass d n x) :
    ∃ w, (readHyphens f u fuel (x ++ ')' :: v)).2 = w ++ ')' :: v ∧ ClosesClass d n w ∧
      u.count ≤ (readHyphens f u fuel (x ++ ')' :: v)).1.count := by
  induction fuel generalizing u x with
  | zero => exact ⟨x, rfl, hx, Nat.le_refl _⟩
  | succ fuel ih =>
    rw [readHyphens, skip_of_not_verbose hf]
    cases x with
    | nil => exact absurd hx (not_closesClass_nil hn)
    | cons c x =>
      by_cases hc : c = '-'
      · subst hc
        obtain ⟨w, hw, hmember, hcount⟩ := ih (hx.hyphen hn)
        exact ⟨w, hw, hmember, (Nat.le_succ _).trans hcount⟩
      · rw [List.cons_append]
        split
        · rename_i he
          cases he
          exact absurd rfl hc
        · exact ⟨c :: x, rfl, hx, Nat.le_refl _⟩

/-- What follows the caret of a class. -/
theorem openMembers_sealed (hf : f.verbose = false) (hn : n ≠ 0) {negated : Bool}
    (hx : (Nest.caret d n).Closes x) :
    ∃ w, (openMembers f negated (x ++ ')' :: v)).2.2 = w ++ ')' :: v ∧ ClosesClass d n w := by
  match x with
  | [] => cases hx
  | c :: x =>
    rw [closes_cons, Nest.next] at hx
    by_cases hdash : c = '-'
    · subst hdash
      have hclass : ClosesClass d n ('-' :: x) := .inl hx
      have hmembers : ∃ w, (readHyphens f (ClassUnion.empty.add (.single '-'.toNat) 0)
          ((x ++ ')' :: v).length + 1) (x ++ ')' :: v)).2 = w ++ ')' :: v ∧ ClosesClass d n w ∧ _ :=
        readHyphens_sealed hf hn (hclass.hyphen hn)
      obtain ⟨w, hw, hmember, hcount⟩ := hmembers
      have hread : readHyphens f .empty (('-' :: x ++ ')' :: v).length + 1) ('-' :: x ++ ')' :: v) =
          readHyphens f (ClassUnion.empty.add (.single '-'.toNat) 0) ((x ++ ')' :: v).length + 1)
            (x ++ ')' :: v) := by
        rw [readHyphens, skip_of_not_verbose hf]
        rfl
      refine ⟨w, ?_, hmember⟩
      unfold openMembers
      rw [hread]
      split
      case h_1 hzero _ =>
        rw [hzero] at hcount
        exact absurd hcount (by decide)
      case h_2 => exact hw
    · have hread : readHyphens f .empty ((c :: x ++ ')' :: v).length + 1) (c :: x ++ ')' :: v) =
          (.empty, c :: x ++ ')' :: v) := by
        rw [readHyphens, skip_of_not_verbose hf, List.cons_append]
        split
        · rename_i he
          cases he
          exact absurd rfl hdash
        · rfl
      unfold openMembers
      rw [hread]
      by_cases hclose : c = ']'
      · subst hclose
        exact ⟨x, rfl, .inl hx⟩
      · rw [if_neg hclose] at hx
        refine ⟨c :: x, ?_, .inl hx⟩
        split
        case h_1 he =>
          cases he
          exact absurd rfl hclose
        case h_2 => rfl

/-- What follows an opening bracket. -/
theorem openClass_sealed (hf : f.verbose = false) (hn : n ≠ 0) (hx : (Nest.start d n).Closes x) :
    ∃ w, (openClass f (x ++ ')' :: v)).2.2 = w ++ ')' :: v ∧ ClosesClass d n w := by
  rw [openClass_eq, skip_of_not_verbose hf]
  match x with
  | [] => cases hx
  | c :: x =>
    by_cases hc : c = '^'
    · subst hc
      show ∃ w, (openMembers f true (skip f (x ++ ')' :: v))).2.2 = _ ∧ _
      rw [skip_of_not_verbose hf]
      exact openMembers_sealed hf hn hx
    · have hcaret : (Nest.caret d n).Closes (c :: x) := by
        rwa [closes_cons, Nest.next, if_neg hc] at hx
      rw [List.cons_append]
      split
      · rename_i he
        cases he
        exact absurd rfl hc
      · exact openMembers_sealed hf hn hcaret

/-! ## Classes -/

/-- The number of classes that are open. -/
def ClassFrame.depth : List ClassFrame → ℕ
  | [] => 0
  | .bracket .. :: frames => depth frames + 1
  | .operator .. :: frames => depth frames

namespace ClassReader

variable {r : ClassReader}

/-- Around all that is being read there is a bracket. -/
def Framed (frames : List ClassFrame) : Prop :=
  ∃ fs negated outer, frames = fs ++ [.bracket negated outer]

theorem Framed.depth {frames : List ClassFrame} (h : Framed frames) :
    ClassFrame.depth frames ≠ 0 := by
  obtain ⟨fs, negated, outer, rfl⟩ := h
  induction fs with
  | nil => exact Nat.one_ne_zero
  | cons frame fs ih =>
    cases frame with
    | bracket => exact Nat.succ_ne_zero _
    | operator => exact ih

theorem Framed.cons {frames : List ClassFrame} (h : Framed frames) (frame : ClassFrame) :
    Framed (frame :: frames) := by
  obtain ⟨fs, negated, outer, rfl⟩ := h
  exact ⟨frame :: fs, negated, outer, rfl⟩

theorem Framed.of_cons {frame : ClassFrame} {frames : List ClassFrame} (h : Framed (frame :: frames))
    (hne : frames ≠ []) : Framed frames := by
  obtain ⟨fs, negated, outer, he⟩ := h
  match fs with
  | [] => exact absurd (List.cons.inj he).2 hne
  | f :: fs => exact ⟨fs, negated, outer, (List.cons.inj he).2⟩

/-- An operator in front of the union at hand is no bracket. -/
theorem operand_frames (h : Framed r.frames) :
    Framed (r.operand f).2.2 ∧
      ClassFrame.depth (r.operand f).2.2 = ClassFrame.depth r.frames := by
  unfold operand
  split
  case h_1 op left depth rest hr =>
    rw [hr] at h ⊢
    refine ⟨h.of_cons ?_, rfl⟩
    rintro rfl
    obtain ⟨fs, negated, outer, he⟩ := h
    match fs with
    | [] => cases he
    | f :: fs => simp at he
  case h_2 => exact ⟨h, rfl⟩

/-- Behind a part of a class, a text closes all that is open then. -/
def ClosesRest (d : ℕ) (x : Text) : ClassReader ⊕ CharSet × ℕ → Prop
  | .inl r => Framed r.frames ∧ ClosesClass d (ClassFrame.depth r.frames) x
  | .inr _ => (Nest.text d 0).Closes x

/-- A closing bracket ends the innermost class that is open. -/
theorem close_sealed (hr : Framed r.frames)
    (hx : (Nest.text d (ClassFrame.depth r.frames - 1)).Closes x)
    {result : ClassReader ⊕ CharSet × ℕ} (h : r.close f = .ok result) : ClosesRest d x result := by
  obtain ⟨hframed, hdepth⟩ := operand_frames (f := f) hr
  unfold close at h
  split at h
  case h_2 => cases h
  case h_1 s depth negated outer frames ho =>
    rw [ho] at hframed hdepth
    rw [← hdepth, ClassFrame.depth, Nat.add_sub_cancel] at hx
    obtain ⟨s, -, hs⟩ := map_eq_ok.1 h
    match frames with
    | [] =>
      cases hs
      exact hx
    | frame :: frames =>
      cases hs
      exact ⟨hframed.of_cons (List.cons_ne_nil _ _), .inl hx⟩

/-- A part of a class. -/
theorem step_sealed (hf : f.verbose = false) (hr : Framed r.frames)
    (hx : ClosesClass d (ClassFrame.depth r.frames) x)
    {result : ClassReader ⊕ CharSet × ℕ} (h : r.step f (x ++ ')' :: v) = .ok (result, rest)) :
    ∃ w, rest = w ++ ')' :: v ∧ ClosesRest d w result := by
  have hn := hr.depth
  match x with
  | [] => exact absurd hx (not_closesClass_nil hn)
  | c :: x =>
  rw [step_eq_ok, List.cons_append] at h
  generalize ht : x ++ ')' :: v = t at h
  cases h with
  | named hnamed =>
    subst ht
    obtain ⟨w, hw, hclose⟩ := readNamedClass_sealed hx.open hnamed
    exact ⟨w, hw, hr, .inl hclose⟩
  | bracket =>
    subst ht
    obtain ⟨w, hw, hclose⟩ := openClass_sealed hf (Nat.succ_ne_zero _) hx.open
    exact ⟨w, hw, hr.cons _, hclose⟩
  | close hc => exact ⟨x, ht.symm, close_sealed hr (hx.close hn) hc⟩
  | operator op =>
    obtain ⟨y, rfl⟩ : ∃ y, x = op.mark :: y := by
      match x with
      | [] =>
        have hparen := (List.cons.inj ht).1
        cases op <;> cases hparen
      | e :: y => exact ⟨y, by rw [(List.cons.inj ht).1]⟩
    obtain ⟨hframed, hdepth⟩ := operand_frames (f := f) hr
    refine ⟨y, (List.cons.inj ht).2.symm, hframed.cons _, ?_⟩
    have hcount : ClassFrame.depth (r.operate f op).frames = ClassFrame.depth r.frames := hdepth
    rw [hcount]
    exact (hx.mark hn op).mark hn op
  | member hopen hclose hop hread =>
    subst ht
    have hop' : c = '-' → x.head? ≠ some '-' := by
      intro hc hhead
      obtain ⟨x, rfl⟩ := List.head?_eq_some_iff.1 hhead
      exact hop .difference hc rfl
    obtain ⟨w, hw, hmember⟩ := readRange_sealed hf hn hx hopen hclose hop' hread
    exact ⟨w, hw, hr, hmember⟩

theorem run_sealed (hf : f.verbose = false) (hr : Framed r.frames)
    (hx : ClosesClass d (ClassFrame.depth r.frames) x) {fuel : ℕ} {whole : CharSet × ℕ}
    (h : r.run f fuel (x ++ ')' :: v) = .ok (whole, rest)) :
    ∃ w, rest = w ++ ')' :: v ∧ (Nest.text d 0).Closes w := by
  induction fuel generalizing r x with
  | zero => cases h
  | succ fuel ih =>
    rw [ClassReader.run, skip_of_not_verbose hf] at h
    obtain ⟨⟨result, t⟩, hs, h⟩ := bind_eq_ok.1 h
    obtain ⟨w, rfl, hw⟩ := step_sealed hf hr hx hs
    cases result with
    | inl r' => exact ih hw.1 hw.2 h
    | inr whole' =>
      cases h
      exact ⟨w, rfl, hw⟩

end ClassReader

/-- A class as a whole. -/
theorem readClass_sealed (hf : f.verbose = false) (hx : (Nest.start d 1).Closes x)
    {whole : CharSet × ℕ} (h : readClass f (x ++ ')' :: v) = .ok (whole, rest)) :
    ∃ w, rest = w ++ ')' :: v ∧ (Nest.text d 0).Closes w := by
  obtain ⟨w, hw, hclose⟩ := openClass_sealed (v := v) hf Nat.one_ne_zero hx
  unfold readClass at h
  rcases ho : openClass f (x ++ ')' :: v) with ⟨negated, u, t⟩
  rw [ho] at h hw
  dsimp only at h hw
  rw [hw] at h
  have hframed : ClassReader.Framed [.bracket negated .empty] := ⟨[], negated, .empty, rfl⟩
  exact ClassReader.run_sealed (r := ⟨[.bracket negated .empty], u⟩) hf hframed hclose h

end

end PathRouting.Regex
