/-
  The slots of a compiled pattern.

  * `Node.openings` gives the offset of the parenthesis of each variable in the
    source of a tree.
  * `Source.Counted`: what a source accounts for is what counting finds in its
    text, whatever stands behind it.
  * `compilePattern_slots`: the slots are the variables in order, and the number
    of each is that of the group which its parenthesis opens.
-/
import PathRouting.Proofs.Pattern.Shape
import PathRouting.Proofs.Pattern.Writing
import PathRouting.Proofs.Regex.Numbering
import Mathlib.Data.List.Forall2

namespace PathRouting.Pattern

namespace Node

mutual

/-- The offsets of the parentheses of the variables in the source of a tree. -/
def openings (o : Options) : Node → List ℕ
  | .path _ absolute segments =>
    let separator := (Source.subPattern o.pathSeparator).text
    (openingsOf o separator.length segments).map
      ((if absolute then separator else []).length + ·)
  | .segment _ items => openingsOf o 0 items
  | .alternation _ branches => (openingsOf o "|".toList.length branches).map ("(?:".toList.length + ·)
  | .variable _ _ (some c) => 0 :: (c.openings o).map ("(".toList.length + ·)
  | .variable _ _ none => [0]
  | .wildcard .. | .regexp .. | .text .. => []

/-- The offsets in the sources of several trees with separators of a given length
    between them. -/
def openingsOf (o : Options) (separator : ℕ) : List Node → List ℕ
  | [] => []
  | n :: ns =>
    n.openings o ++
      (openingsOf o separator ns).map ((n.source o).text.length + separator + ·)

end

end Node

/-! ## Counted sources -/

namespace Source

/-- The parenthesis at an offset of a source is counted, and the number of its
    group, by what is counted behind it, is that of the slot. -/
def Opens (s : Source) (slot : Slot) (offset : ℕ) : Prop :=
  ∃ t u, s.text = t ++ '(' :: u ∧ t.length = offset ∧
    ∀ v, Behind (s.text ++ v) ('(' :: u ++ v) ∧ opensGroup (u ++ v) ∧
      slot.index + groupCount (u ++ v) = s.groups + groupCount v

/-- What a source accounts for is counted in its text, with the parentheses of its
    slots at given offsets, whatever stands behind it. -/
structure Counted (s : Source) (offsets : List ℕ) : Prop where
  behind : ∀ v, Behind (s.text ++ v) v
  groups : ∀ v, groupCount (s.text ++ v) = s.groups + groupCount v
  opens : List.Forall₂ s.Opens s.slots offsets

variable {a b s : Source} {os os' : List ℕ}

theorem Opens.append_left {slot : Slot} {n : ℕ} (h : a.Opens slot n) (hb : b.Counted os) :
    (a ++ b).Opens slot n := by
  obtain ⟨t, u, ht, hn, h⟩ := h
  refine ⟨t, u ++ b.text, by rw [text_append, ht, List.append_assoc]; rfl, hn, fun v => ?_⟩
  obtain ⟨h1, h2, h3⟩ := h (b.text ++ v)
  have hg := hb.groups v
  rw [text_append, List.append_assoc, List.append_assoc, groups_append]
  exact ⟨by simpa using h1, h2, by omega⟩

theorem Opens.append_right {slot : Slot} {n : ℕ} (h : b.Opens slot n) (ha : a.Counted os) :
    (a ++ b).Opens { slot with index := a.groups + slot.index } (a.text.length + n) := by
  obtain ⟨t, u, ht, hn, h⟩ := h
  refine ⟨a.text ++ t, u, by rw [text_append, ht, List.append_assoc], by simp [hn], fun v => ?_⟩
  obtain ⟨h1, h2, h3⟩ := h v
  rw [text_append, List.append_assoc, groups_append]
  exact ⟨(ha.behind _).trans h1, h2, by dsimp only; omega⟩

theorem Counted.append (ha : a.Counted os) (hb : b.Counted os') :
    (a ++ b).Counted (os ++ os'.map (a.text.length + ·)) where
  behind v := by
    rw [text_append, List.append_assoc]
    exact (ha.behind _).trans (hb.behind v)
  groups v := by
    rw [text_append, List.append_assoc, ha.groups, hb.groups, groups_append, Nat.add_assoc]
  opens := by
    rw [slots_append]
    refine List.rel_append (ha.opens.imp fun _ _ h => h.append_left hb) ?_
    rw [shift, List.forall₂_map_left_iff, List.forall₂_map_right_iff]
    exact hb.opens.imp fun _ _ h => h.append_right ha

/-- Text that opens no groups. -/
theorem counted_ofText {t : Text} (hb : ∀ v, Behind (t ++ v) v)
    (hg : ∀ v, groupCount (t ++ v) = groupCount v) : (ofText t).Counted [] :=
  ⟨hb, fun v => by rw [ofText, hg, Nat.zero_add], .nil⟩

/-- Text without parentheses and backslashes. -/
theorem counted_of_plain {t : Text} (hb : '\\' ∉ t) (hp : '(' ∉ t) : (ofText t).Counted [] := by
  refine counted_ofText (fun v => .of_append hb v) fun v => ?_
  induction t with
  | nil => rfl
  | cons c t ih =>
    rw [List.mem_cons, not_or] at hb hp
    rw [List.cons_append, groupCount_cons_of_ne (Ne.symm hb.1) (Ne.symm hp.1), ih hb.2 hp.2]

theorem counted_nil : (ofText []).Counted [] :=
  counted_of_plain List.not_mem_nil List.not_mem_nil

theorem counted_close : (ofText ")".toList).Counted [] := counted_of_plain (by decide) (by decide)

/-- A group that does not capture is not counted. -/
theorem groupCount_plain (v : Text) : groupCount ("(?:".toList ++ v) = groupCount v := by
  show groupCount ('(' :: '?' :: ':' :: v) = _
  rw [groupCount_cons (by decide), groupCount_cons_of_ne (by decide) (by decide),
    groupCount_cons_of_ne (by decide) (by decide), opensGroup, Bool.and_false]
  · exact Nat.zero_add _
  all_goals exact fun u hu => absurd (List.cons.inj hu).1 (by decide)

theorem Counted.group (h : s.Counted os) : s.group.Counted (os.map ("(?:".toList.length + ·)) := by
  have hopen : (ofText "(?:".toList).Counted [] := by
    refine counted_ofText (fun v => ?_) groupCount_plain
    exact .of_append (by decide) v
  have := (hopen.append h).append counted_close
  rwa [List.map_nil, List.append_nil, List.nil_append] at this

/-- A source that does not start with a question mark, which would mean something
    behind a parenthesis. -/
def Plain (s : Source) : Prop :=
  s.text.head? ≠ some '?'

instance (s : Source) : Decidable s.Plain :=
  inferInstanceAs (Decidable (_ ≠ _))

theorem Plain.append (ha : a.Plain) (hb : b.Plain) : (a ++ b).Plain := by
  unfold Plain at *
  rw [text_append, List.head?_append]
  cases ht : a.text.head? with
  | none => exact hb
  | some c => rwa [ht] at ha

theorem Counted.capture (h : s.Counted os) (hp : s.Plain) (name : Text) :
    (s.capture name).Counted (0 :: os.map ("(".toList.length + ·)) := by
  have hs := h.append counted_close
  rw [List.map_nil, List.append_nil] at hs
  have ht : (s.capture name).text = '(' :: (s ++ ofText ")".toList).text := rfl
  have hopens : ∀ v, opensGroup ((s ++ ofText ")".toList).text ++ v) := by
    intro v
    have hh : (s ++ ofText ")".toList).Plain := hp.append (by decide)
    unfold Plain at hh
    cases hc : (s ++ ofText ")".toList).text with
    | nil =>
      have : ')' ∈ (s ++ ofText ")".toList).text := by rw [text_append]; simp [ofText]
      rw [hc] at this
      cases this
    | cons c t =>
      rw [hc] at hh
      exact opensGroup_of_ne (fun he => hh (congrArg some he)) _
  have hg : ∀ v, groupCount ((s.capture name).text ++ v) = 1 + s.groups + groupCount v := by
    intro v
    rw [ht, List.cons_append, groupCount_cons (by decide), hopens, hs.groups]
    simp only [groups_append, ofText, decide_true, Bool.and_self, if_true]
    omega
  have hgroups : (s.capture name).groups = 1 + s.groups := rfl
  have hslots : (s.capture name).slots =
      ⟨name, 1⟩ :: s.slots.map fun k => { k with index := 1 + k.index } := by
    simp [Source.capture, slots_append, shift, ofText]
  refine ⟨fun v => .char (by decide) (hs.behind v), fun v => by rw [hg, hgroups], ?_⟩
  rw [hslots]
  refine .cons ⟨[], _, ht, rfl, fun v => ⟨?_, hopens v, ?_⟩⟩ ?_
  · rw [ht]
    exact .refl
  · have := hg v
    rw [ht, List.cons_append, groupCount_cons (by decide), hopens, Bool.and_true,
      if_pos (by decide)] at this
    rw [hgroups]
    exact this
  rw [List.forall₂_map_left_iff, List.forall₂_map_right_iff]
  refine h.opens.imp fun k n hk => ?_
  obtain ⟨t, u, htu, hn, hk⟩ := hk.append_left (b := ofText ")".toList) counted_close
  refine ⟨'(' :: t, u, by rw [ht, htu]; rfl, by simp [hn, Nat.add_comm], fun v => ?_⟩
  obtain ⟨h1, h2, h3⟩ := hk v
  refine ⟨.char (by decide) h1, h2, ?_⟩
  rw [hgroups]
  rw [groups_append] at h3
  simp only [ofText] at h3
  dsimp only
  omega

theorem Counted.subPattern {t : Text} (h : (ofText t).Counted []) :
    (Source.subPattern t).Counted [] := by
  unfold Source.subPattern
  split
  · exact h.group
  · exact h

theorem plain_subPattern {t : Text} (h : (ofText t).Plain) : (Source.subPattern t).Plain := by
  unfold Source.subPattern
  split
  · exact fun h => (nomatch h)
  · exact h

end Source

/-! ## The source of a tree -/

theorem counted_escape (t : Text) : (Source.ofText (Regex.escape t)).Counted [] := by
  refine Source.counted_ofText (fun v => ?_) fun v => ?_
  · induction t with
    | nil => exact .refl
    | cons c t ih =>
      rw [Regex.escape_cons]
      split_ifs with hc
      · exact .escape ih
      · refine .char ?_ ih
        rintro rfl
        exact hc (by decide)
  · induction t with
    | nil => rfl
    | cons c t ih =>
      rw [Regex.escape_cons]
      split_ifs with hc
      · exact (groupCount_escape c _).trans ih
      · refine (groupCount_cons_of_ne ?_ ?_ _).trans ih
        · rintro rfl
          exact hc (by decide)
        · rintro rfl
          exact hc (by decide)

theorem plain_escape (t : Text) : (Source.ofText (Regex.escape t)).Plain :=
  Regex.head?_escape_ne t

/-- No sub-pattern opens groups, nor would it mean something else behind a
    parenthesis. -/
def Options.Counted (o : Options) : Prop :=
  ∀ which, (Source.ofText (o.get which)).Counted [] ∧ (Source.ofText (o.get which)).Plain

theorem Options.counted_default (caseSensitive : Bool) : Options.Counted { caseSensitive } := by
  intro which
  cases caseSensitive <;> cases which <;>
    exact ⟨Source.counted_of_plain (by decide) (by decide), by decide⟩

namespace Node

variable {o : Options}

mutual

theorem source_plain (ho : o.Counted) : ∀ n : Node, (n.source o).Plain
  | .path _ absolute segments => by
    have hsep := Source.plain_subPattern (ho .pathSeparator).2
    have hjoin := sources_plain ho hsep segments
    rw [source]
    cases absolute with
    | true => exact hsep.append hjoin
    | false => exact hjoin
  | .segment _ items => by
    rw [source]
    exact sources_plain ho (by decide) items
  | .alternation _ branches => by
    rw [source]
    exact fun h => absurd (Option.some.inj h) (by decide)
  | .variable _ name (some c) => by
    rw [source]
    exact fun h => absurd (Option.some.inj h) (by decide)
  | .variable _ name none => by
    rw [source]
    exact fun h => absurd (Option.some.inj h) (by decide)
  | .wildcard _ true => by
    rw [source]
    exact Source.plain_subPattern (ho .greedyWildcard).2
  | .wildcard _ false => by
    rw [source]
    exact Source.plain_subPattern (ho .wildcard).2
  | .regexp _ body => by
    rw [source]
    exact fun h => absurd (Option.some.inj h) (by decide)
  | .text _ value => by
    rw [source]
    exact plain_escape value

theorem sources_plain (ho : o.Counted) {separator : Source} (hsep : separator.Plain) :
    ∀ ns : List Node, (Source.join separator (sources o ns)).Plain
  | [] => by
    rw [sources]
    exact fun h => (nomatch h)
  | [n] => by
    rw [sources, sources]
    exact source_plain ho n
  | n :: m :: ns => by
    rw [sources]
    exact ((source_plain ho n).append hsep).append (sources_plain ho hsep (m :: ns))

end

mutual

/-- **Counting.** Counting finds in the source of a tree what it accounts for. -/
theorem source_counted (ho : o.Counted) : ∀ n : Node, n.WellFormed →
    (n.source o).Counted (n.openings o)
  | .path _ absolute segments, h => by
    have hsep := (ho .pathSeparator).1.subPattern
    have hjoin := sources_counted ho hsep segments h
    rw [source, openings]
    cases absolute with
    | true => exact hsep.append hjoin
    | false => exact Source.counted_nil.append hjoin
  | .segment _ items, h => by
    rw [source, openings]
    exact sources_counted ho Source.counted_nil items h
  | .alternation _ branches, h => by
    rw [source, openings]
    exact (sources_counted ho (Source.counted_of_plain (by decide) (by decide)) branches h.2).group
  | .variable _ name (some c), h => by
    rw [source, openings]
    exact (source_counted ho c h).capture (source_plain ho c) name
  | .variable _ name none, _ => by
    rw [source, openings]
    exact (ho .unconstrainedVariable).1.capture (ho .unconstrainedVariable).2 name
  | .wildcard _ true, _ => by
    rw [source, openings]
    exact (ho .greedyWildcard).1.subPattern
  | .wildcard _ false, _ => by
    rw [source, openings]
    exact (ho .wildcard).1.subPattern
  | .regexp _ body, h => by
    rw [source, openings]
    have hb : Source.Counted ⟨body, [], groupCount body⟩ [] :=
      ⟨h.behind, h.groupCount_append, .nil⟩
    exact hb.group
  | .text _ value, _ => by
    rw [source, openings]
    exact counted_escape value

theorem sources_counted (ho : o.Counted) {separator : Source} (hsep : separator.Counted []) :
    ∀ ns : List Node, AllWellFormed ns →
      (Source.join separator (sources o ns)).Counted (openingsOf o separator.text.length ns)
  | [], _ => by
    rw [sources, openingsOf]
    exact Source.counted_nil
  | [n], h => by
    rw [sources, openingsOf, sources, openingsOf, List.map_nil, List.append_nil]
    exact source_counted ho n h.1
  | n :: m :: ns, h => by
    have hn := (source_counted ho n h.1).append hsep
    have := hn.append (sources_counted ho hsep (m :: ns) h.2)
    rw [sources, openingsOf]
    rw [List.map_nil, List.append_nil, Source.text_append, List.length_append] at this
    exact this

end

end Node

/-! ## The names of the slots -/

namespace Source

/-- The names of the slots. -/
def names (s : Source) : List Text :=
  s.slots.map (·.name)

theorem names_append (a b : Source) : (a ++ b).names = a.names ++ b.names := by
  simp [names, slots_append, shift]

theorem names_group (s : Source) : s.group.names = s.names := by
  rw [group, names_append, names_append]
  exact List.append_nil _

theorem names_capture (name : Text) (s : Source) : (capture name s).names = name :: s.names := by
  rw [capture, names_append, names_append]
  exact congrArg _ (List.append_nil _)

theorem names_subPattern (t : Text) : (subPattern t).names = [] := by
  unfold subPattern
  split
  · exact names_group _
  · rfl

end Source

namespace Node

variable {o : Options}

mutual

theorem source_names : ∀ n : Node, (n.source o).names = n.variableNames
  | .path _ absolute segments => by
    have hsep := Source.names_subPattern o.pathSeparator
    rw [source, variableNames, Source.names_append, sources_names hsep]
    cases absolute with
    | true => rw [if_pos rfl, hsep, List.nil_append]
    | false => rfl
  | .segment _ items => by
    rw [source, variableNames]
    exact sources_names rfl items
  | .alternation _ branches => by
    rw [source, variableNames, Source.names_group]
    exact sources_names rfl branches
  | .variable _ name (some c) => by
    rw [source, variableNames, Source.names_capture, source_names c]
  | .variable _ name none => by
    rw [source, variableNames, Source.names_capture]
    rfl
  | .wildcard _ true => by
    rw [source, variableNames, Source.names_subPattern]
  | .wildcard _ false => by
    rw [source, variableNames, Source.names_subPattern]
  | .regexp _ body => by
    rw [source, variableNames, Source.names_group]
    rfl
  | .text _ value => by
    rw [source, variableNames]
    rfl

theorem sources_names {separator : Source} (hsep : separator.names = []) :
    ∀ ns : List Node, (Source.join separator (sources o ns)).names = namesOf ns
  | [] => rfl
  | [n] => by
    rw [sources, sources, namesOf, namesOf, List.append_nil]
    exact source_names n
  | n :: m :: ns => by
    rw [sources, namesOf, ← source_names n, ← sources_names hsep (m :: ns)]
    show (n.source o ++ separator ++ _).names = _
    rw [Source.names_append, Source.names_append, hsep, List.append_nil]

end

end Node

/-! ## Compiled patterns -/

/-- What a compiled tree consists of. -/
theorem compile_eq_ok {root : Node} {o : Options} {m : Matcher} (h : compile root o = .ok m) :
    Regex.compile (!o.caseSensitive) (Matcher.anchored (root.source o)) = .ok m.regex ∧
      m.slots = (root.source o).slots ∧ m.regex.groupCount = (root.source o).groups := by
  rw [compile_eq] at h
  obtain ⟨_, -, h⟩ := bind_eq_ok.1 h
  split at h
  · cases h
  case h_2 r hr =>
    split_ifs at h with hg
    cases h
    exact ⟨hr, rfl, hg⟩

theorem regex_compile_eq_ok {caseInsensitive : Bool} {t : Text} {r : Regex}
    (h : Regex.compile caseInsensitive t = .ok r) :
    r.source = t ∧ Regex.read { caseInsensitive } t = .ok r.expr ∧ r.expr.fits := by
  obtain ⟨e, he, h⟩ := bind_eq_ok.1 h
  split_ifs at h with hf
  cases h
  exact ⟨rfl, he, hf⟩

theorem behind_anchored {s : Source} {u : Text} (h : Behind (s.text ++ ")".toList) u) :
    Behind (Matcher.anchored s) u := by
  rw [Matcher.anchored, List.append_assoc]
  exact .trans (.of_append (by decide) _) h

theorem groupCount_anchored (s : Source) :
    groupCount (Matcher.anchored s) = groupCount (s.text ++ ")".toList) := by
  rw [Matcher.anchored, List.append_assoc]
  exact (groupCount_cons_of_ne (by decide) (by decide) _).trans (Source.groupCount_plain _)

/-- **Slots.** Whatever raw regular expressions a pattern holds, the slots of its
    matcher are its variables in order, and the number of each is the one that
    the reader of regular expressions gives to the group which it opens at the
    parenthesis of that variable. -/
theorem compilePattern_slots {pattern : Text} {caseSensitive : Bool} {m : Matcher}
    (h : compilePattern pattern { caseSensitive } = .ok m) :
    ∃ root, parse pattern = .ok root ∧ m.slots.map (·.name) = root.variableNames ∧
      List.Forall₂ (fun slot offset => Regex.Opens { caseInsensitive := !caseSensitive }
          m.regex.source ("^(?:".toList.length + offset) slot.index)
        m.slots (root.openings { caseSensitive }) := by
  obtain ⟨root, hroot, h⟩ := bind_eq_ok.1 h
  obtain ⟨hr, hslots, hgroups⟩ := compile_eq_ok h
  obtain ⟨hsource, hread, -⟩ := regex_compile_eq_ok hr
  refine ⟨root, hroot, by rw [hslots]; exact Node.source_names root, ?_⟩
  have hc := Node.source_counted (Options.counted_default caseSensitive) root
    (parse_wellFormed hroot)
  rw [hslots, hsource]
  refine hc.opens.imp fun slot offset ⟨t, u, ht, hn, hs⟩ => ?_
  obtain ⟨hb, ho, hi⟩ := hs ")".toList
  have hclose : groupCount ")".toList = 0 := by decide
  have hcount := groupCount_anchored (root.source { caseSensitive })
  rw [hc.groups, hclose, Nat.add_zero] at hcount
  refine Regex.opens_of_read (v := u ++ ")".toList) hread (hgroups.trans hcount.symm)
    (behind_anchored hb) ho ?_ ?_
  · rw [hi, hclose, hcount, Nat.add_zero]
  · simp only [Matcher.anchored, ht, List.length_append, List.length_cons, hn]
    omega

/-- A raw group between two variables is passed over. -/
theorem compilePattern_slots_around_group :
    ∃ m, compilePattern ":a(([0-9]+)-):b".toList { caseSensitive := true } = .ok m ∧
      ∃ root, parse ":a(([0-9]+)-):b".toList = .ok root ∧
        m.slots.map (·.name) = root.variableNames ∧
        List.Forall₂ (fun slot offset => Regex.Opens { caseInsensitive := !true }
            m.regex.source ("^(?:".toList.length + offset) slot.index)
          m.slots (root.openings { caseSensitive := true }) := by
  have hok : (compilePattern ":a(([0-9]+)-):b".toList { caseSensitive := true }).isOk := by
    decide +kernel
  obtain ⟨m, h⟩ := exists_of_isOk hok
  exact ⟨m, h, compilePattern_slots h⟩

end PathRouting.Pattern
