/-
  The texts for which a pattern stands.

  A pattern without alternations and raw regular expressions is a sequence of
  characters and runs. A match takes each run as long as possible, and is over at its
  first success; that it still gets to the end of each text for which the pattern stands
  needs an argument: of two ways through the same sequence, one that starts further on
  and stops earlier crosses the other one, and can go on with it from there.

  * `Node.language` are the texts for which a tree stands.
  * `Moves` are the places to which something leads, in their order. `Exchanges`: where
    two ways cross, either can go on with the other. `Furthest`: the first place is the
    furthest, and `Greedy`: so it is in front of whatever has both properties.
  * `compilePattern_matches_all_iff`: a compiled pattern matches a text as a whole
    exactly if it stands for it.
-/
import PathRouting.Proofs.Pattern.Agreement
import PathRouting.Proofs.Pattern.Anchor
import Mathlib.Computability.Language

namespace PathRouting.Pattern

/-! ## Languages -/

/-- The texts that have none of some characters. -/
def freeOf (stops : Text) : Language Char :=
  {t | ∀ c ∈ t, c ∉ stops}

/-- The spellings of a text: itself, or with other letters that count as the same if
    letter case does not matter. -/
def spellings (caseSensitive : Bool) (value : Text) : Language Char :=
  {t | List.Forall₂ (fun c d => Ways.sameChar caseSensitive c d) value t}

namespace Node

mutual

/-- The texts for which a tree stands. A raw regular expression is given none. -/
def language (caseSensitive : Bool) : Node → Language Char
  | .path _ absolute segments =>
    (if absolute then {['/']} else 1) * languageOf caseSensitive {['/']} segments
  | .segment _ items => languageOf caseSensitive 1 items
  | .alternation _ branches => languageAny caseSensitive branches
  | .variable _ _ (some c) => c.language caseSensitive
  | .variable _ _ none => freeOf "/?#".toList
  | .wildcard _ true => freeOf "?#".toList
  | .wildcard _ false => freeOf "/?#".toList
  | .regexp .. => 0
  | .text _ value => spellings caseSensitive value

/-- The texts for which several trees stand one after the other, with something between
    any two. -/
def languageOf (caseSensitive : Bool) (between : Language Char) : List Node → Language Char
  | [] => 1
  | [n] => n.language caseSensitive
  | n :: m :: ns =>
    n.language caseSensitive * between * languageOf caseSensitive between (m :: ns)

/-- The texts for which some of several trees stands. -/
def languageAny (caseSensitive : Bool) : List Node → Language Char
  | [] => 0
  | [n] => n.language caseSensitive
  | n :: m :: ns => n.language caseSensitive + languageAny caseSensitive (m :: ns)

end

mutual

/-- Whether a tree has no alternations. -/
def altFree : Node → Bool
  | .path _ _ ns | .segment _ ns => allAltFree ns
  | .alternation .. => false
  | .variable _ _ (some n) => n.altFree
  | .variable _ _ none | .wildcard .. | .regexp .. | .text .. => true

/-- Whether several trees have none. -/
def allAltFree : List Node → Bool
  | [] => true
  | n :: ns => n.altFree && allAltFree ns

end

end Node

/-! ## Moves -/

/-- The places in a text to which something leads, in their order. A place is what
    remains of the text. -/
abbrev Moves := Text → List Text

namespace Moves

/-- One after the other. -/
def andThen (f g : Moves) : Moves :=
  fun t => (f t).flatMap g

/-- The places are those behind the texts of a language. -/
def Spans (f : Moves) (L : Language Char) : Prop :=
  ∀ t r, r ∈ f t ↔ ∃ u ∈ L, u ++ r = t

/-- A way that starts further on, and stops earlier, than another one can go on to where
    that one stops. -/
def Exchanges (f : Moves) : Prop :=
  ∀ ⦃t t' : Text⦄, t' <:+ t → ∀ r ∈ f t, ∀ r' ∈ f t', r.length < r'.length → r ∈ f t'

/-- No place is further on than the first one. -/
def Furthest (f : Moves) : Prop :=
  ∀ t, ∀ first ∈ (f t).head?, ∀ r ∈ f t, first.length ≤ r.length

/-- The first place is the furthest, whatever comes behind, if that exchanges ways and
    has its furthest place first. -/
def Greedy (f : Moves) : Prop :=
  ∀ g : Moves, g.Exchanges → g.Furthest → (f.andThen g).Furthest

variable {f g : Moves} {L M : Language Char} {t r : Text}

theorem mem_andThen : r ∈ f.andThen g t ↔ ∃ s ∈ f t, r ∈ g s := List.mem_flatMap

theorem andThen_assoc (f g h : Moves) : (f.andThen g).andThen h = f.andThen (g.andThen h) :=
  funext fun _ => List.flatMap_assoc

theorem Spans.suffix (hf : f.Spans L) (h : r ∈ f t) : r <:+ t := by
  obtain ⟨u, -, hu⟩ := (hf t r).1 h
  exact ⟨u, hu⟩

theorem Spans.andThen (hf : f.Spans L) (hg : g.Spans M) : (f.andThen g).Spans (L * M) := by
  intro t r
  rw [mem_andThen]
  constructor
  · rintro ⟨s, hs, hr⟩
    obtain ⟨u, hu, rfl⟩ := (hf t s).1 hs
    obtain ⟨v, hv, rfl⟩ := (hg s r).1 hr
    exact ⟨u ++ v, Language.append_mem_mul hu hv, List.append_assoc u v r⟩
  · rintro ⟨w, hw, rfl⟩
    obtain ⟨u, hu, v, hv, rfl⟩ := Language.mem_mul.1 hw
    exact ⟨v ++ r, (hf _ _).2 ⟨u, hu, (List.append_assoc u v r).symm⟩, (hg _ _).2 ⟨v, hv, rfl⟩⟩

/-- Two ways through one thing after another: either the later one is ahead in the
    middle, and exchanges with the other in the second part, or it does so before. -/
theorem Exchanges.andThen (hf : f.Spans L) (hfe : f.Exchanges) (hge : g.Exchanges) :
    (f.andThen g).Exchanges := by
  intro t t' ht r hr r' hr' hlt
  obtain ⟨s, hs, hr⟩ := mem_andThen.1 hr
  obtain ⟨s', hs', hr'⟩ := mem_andThen.1 hr'
  rw [mem_andThen]
  by_cases hle : s'.length ≤ s.length
  · have hsuffix : s' <:+ s :=
      List.suffix_of_suffix_length_le ((hf.suffix hs').trans ht) (hf.suffix hs) hle
    exact ⟨s', hs', hge hsuffix r hr r' hr' hlt⟩
  · exact ⟨s, hfe ht s hs s' hs' (by omega), hr⟩

theorem Greedy.andThen (hf : f.Greedy) (hg : g.Greedy) (hgs : g.Spans L) (hge : g.Exchanges) :
    (f.andThen g).Greedy := by
  intro h he hh
  rw [andThen_assoc]
  exact hf _ (.andThen hgs hge he) (hg h he hh)

/-- Behind places from the furthest on, the first place is the furthest. -/
theorem furthest_of_ordered (he : g.Exchanges) (hg : g.Furthest) :
    ∀ {l : List Text}, (l.Pairwise fun r s => r.length ≤ s.length) → (∀ s ∈ l, s <:+ t) →
      ∀ first ∈ (l.flatMap g).head?, ∀ r ∈ l.flatMap g, first.length ≤ r.length
  | [], _, _, first, hfirst, _, _ => nomatch hfirst
  | s :: l, ho, hs, first, hfirst, r, hr => by
    obtain ⟨hso, ho⟩ := List.pairwise_cons.1 ho
    have hl : ∀ s' ∈ l, s' <:+ t := fun s' hs' => hs s' (List.mem_cons_of_mem s hs')
    rw [List.flatMap_cons, List.mem_append] at hr
    rw [List.flatMap_cons] at hfirst
    cases hgs : g s with
    | nil =>
      simp only [hgs, List.not_mem_nil, false_or] at hr
      simp only [hgs, List.nil_append] at hfirst
      exact furthest_of_ordered he hg ho hl first hfirst r hr
    | cons x xs =>
      have hx : first = x := by simpa [hgs, eq_comm] using hfirst
      have hhead : first ∈ (g s).head? := by simp [hgs, hx]
      have hmem : first ∈ g s := List.mem_of_mem_head? hhead
      rcases hr with hr | hr
      · exact hg s first hhead r hr
      · -- further on than the first place, it would be reached from there as well
        by_contra hlt
        obtain ⟨s', hs', hr⟩ := List.mem_flatMap.1 hr
        have hsuffix : s <:+ s' :=
          List.suffix_of_suffix_length_le (hs s (by simp)) (hl s' hs') (hso s' hs')
        have hreach : r ∈ g s := he hsuffix r hr first hmem (by omega)
        exact hlt (hg s first hhead r hreach)

theorem greedy_of_ordered (hs : ∀ t, ∀ s ∈ f t, s <:+ t)
    (ho : ∀ t, (f t).Pairwise fun r s => r.length ≤ s.length) : f.Greedy :=
  fun _ he hg t => furthest_of_ordered he hg (ho t) (hs t)

/-- The places are those behind the texts of a language, ways that cross can be
    exchanged, and the furthest place is the first. -/
structure Straight (f : Moves) (L : Language Char) : Prop where
  spans : f.Spans L
  exchanges : f.Exchanges
  greedy : f.Greedy

theorem Straight.andThen (hf : f.Straight L) (hg : g.Straight M) :
    (f.andThen g).Straight (L * M) :=
  ⟨hf.spans.andThen hg.spans, .andThen hf.spans hf.exchanges hg.exchanges,
    hf.greedy.andThen hg.greedy hg.spans hg.exchanges⟩

/-- Nothing comes behind. -/
theorem Greedy.furthest (hf : f.Greedy) : f.Furthest := by
  have hstay : f.andThen (fun t => [t]) = f := funext fun t => List.flatMap_singleton' (f t)
  rw [← hstay]
  refine hf _ ?_ ?_
  · intro t t' ht r hr r' hr' hlt
    rw [List.mem_singleton.1 hr, List.mem_singleton.1 hr'] at hlt
    exact absurd ht.length_le (by omega)
  · intro t first hfirst r hr
    rw [List.mem_singleton.1 hr, ← Option.mem_some_iff.1 hfirst]

end Moves

/-! ## The moves of a tree -/

/-- The places where ways end. -/
def Ways.moves (f : Ways) : Moves :=
  fun t => (f t).map Way.rest

namespace Ways

variable {f g : Ways} {L M : Language Char}

theorem moves_andThen (f g : Ways) : (f.andThen g).moves = f.moves.andThen g.moves := by
  funext t
  simp [moves, Ways.andThen, Moves.andThen, List.map_flatMap, List.flatMap_map, Function.comp_def]

theorem moves_bind (f : Ways) (name : Text) : (f.bind name).moves = f.moves := by
  funext t
  simp [moves, Ways.bind, Function.comp_def]

theorem moves_orElse (f g : Ways) (t : Text) : (f.orElse g).moves t = f.moves t ++ g.moves t := by
  simp [moves, Ways.orElse]

theorem straight_none : Moves.Straight (moves fun _ => []) 0 :=
  ⟨fun t r => by simp [moves], fun _ _ _ _ h => (nomatch h), fun _ _ _ _ _ h => (nomatch h)⟩

/-- What moves on by a number of characters can be exchanged with nothing. -/
theorem exchanges_of_steps {n : ℕ} (h : ∀ t, ∀ r ∈ f.moves t, r.length + n = t.length) :
    f.moves.Exchanges := by
  intro t t' ht r hr r' hr' hlt
  have := ht.length_le
  have := h t r hr
  have := h t' r' hr'
  omega

theorem straight_stay : stay.moves.Straight 1 where
  spans t r := by simp [moves, stay, eq_comm]
  exchanges := exchanges_of_steps (n := 0) fun t r hr => by simp_all [moves, stay]
  greedy := Moves.greedy_of_ordered (fun t s hs => by simp_all [moves, stay])
    fun _ => List.pairwise_singleton _ _

theorem mem_moves_one {p : Char → Bool} {t r : Text} :
    r ∈ (one p).moves t ↔ ∃ c, p c ∧ c :: r = t := by
  cases t with
  | nil => simp [moves, one]
  | cons c t =>
    rw [moves, one]
    constructor
    · intro h
      split at h
      case isTrue hc => exact ⟨c, hc, by rw [List.mem_singleton.1 h]⟩
      case isFalse => cases h
    · rintro ⟨d, hd, h⟩
      obtain ⟨rfl, rfl⟩ := List.cons.inj h
      simp [hd]

/-- The texts of one character. -/
def oneOf (p : Char → Bool) : Language Char :=
  {u | ∃ c, p c ∧ u = [c]}

theorem straight_one (p : Char → Bool) : (one p).moves.Straight (oneOf p) where
  spans t r := by
    rw [mem_moves_one]
    constructor
    · rintro ⟨c, hc, rfl⟩
      exact ⟨[c], ⟨c, hc, rfl⟩, rfl⟩
    · rintro ⟨_, ⟨c, hc, rfl⟩, rfl⟩
      exact ⟨c, hc, rfl⟩
  exchanges := by
    refine exchanges_of_steps (n := 1) fun t r hr => ?_
    obtain ⟨c, -, rfl⟩ := mem_moves_one.1 hr
    rfl
  greedy := by
    refine Moves.greedy_of_ordered (fun t s hs => ?_) fun t => ?_
    · obtain ⟨c, -, rfl⟩ := mem_moves_one.1 hs
      exact List.suffix_cons c s
    · cases t with
      | nil => exact .nil
      | cons c t => cases h : p c <;> simp [moves, one, h]

theorem straight_slash : slash.moves.Straight {['/']} := by
  have h : oneOf (decide <| '/' = ·) = ({['/']} : Language Char) := by
    ext u
    constructor
    · rintro ⟨c, hc, rfl⟩
      rw [← of_decide_eq_true hc]
      rfl
    · rintro rfl
      exact ⟨'/', rfl, rfl⟩
  rw [← h]
  exact straight_one _

theorem spellings_cons (cs : Bool) (c : Char) (v : Text) :
    spellings cs (c :: v) = oneOf (sameChar cs c) * spellings cs v := by
  ext t
  rw [Language.mem_mul]
  constructor
  · intro h
    obtain ⟨d, u, hd, hu, rfl⟩ := List.forall₂_cons_left_iff.1 h
    exact ⟨[d], ⟨d, hd, rfl⟩, u, hu, rfl⟩
  · rintro ⟨_, ⟨d, hd, rfl⟩, u, hu, rfl⟩
    exact .cons hd hu

theorem straight_text (cs : Bool) (v : Text) : (text cs v).moves.Straight (spellings cs v) := by
  induction v with
  | nil =>
    have h : spellings cs [] = 1 := Language.ext fun t => List.forall₂_nil_left_iff
    rw [h]
    exact straight_stay
  | cons c v ih =>
    rw [text, moves_andThen, spellings_cons]
    exact (straight_one _).andThen ih

/-! ## Runs -/

theorem moves_run_cons (stops : Text) (c : Char) (t : Text) :
    (run stops).moves (c :: t) =
      (if stops.contains c then [] else (run stops).moves t) ++ [c :: t] := by
  by_cases h : c ∈ stops <;> simp [moves, run, h, Function.comp_def]

theorem spans_run (stops : Text) : (run stops).moves.Spans (freeOf stops) := by
  intro t
  induction t with
  | nil =>
    intro r
    simp only [moves, run, List.map_cons, List.map_nil, List.mem_singleton, List.append_eq_nil_iff]
    exact ⟨fun h => ⟨[], fun _ hc => (nomatch hc), rfl, h⟩, fun ⟨_, _, _, h⟩ => h⟩
  | cons c t ih =>
    intro r
    rw [moves_run_cons, List.mem_append, List.mem_singleton]
    constructor
    · rintro (h | rfl)
      · by_cases hc : c ∈ stops
        · simp [hc] at h
        · obtain ⟨u, hu, rfl⟩ := (ih r).1 (by simpa [hc] using h)
          exact ⟨c :: u, List.forall_mem_cons.2 ⟨hc, hu⟩, rfl⟩
      · exact ⟨[], fun _ hc => (nomatch hc), rfl⟩
    · rintro ⟨u, hu, hut⟩
      cases u with
      | nil => exact .inr hut
      | cons d u =>
        obtain ⟨rfl, rfl⟩ := List.cons.inj hut
        obtain ⟨hc, hu⟩ := List.forall_mem_cons.1 hu
        exact .inl (by simpa [hc] using (ih r).2 ⟨u, hu, rfl⟩)

/-- From further on, a run still gets to where it stops. -/
theorem exchanges_run (stops : Text) : (run stops).moves.Exchanges := by
  intro t t' ht r hr r' hr' hlt
  have hle := ((spans_run stops).suffix hr').length_le
  obtain ⟨u, hu, rfl⟩ := (spans_run stops t r).1 hr
  obtain ⟨v, rfl⟩ : r <:+ t' :=
    List.suffix_of_suffix_length_le (List.suffix_append u r) ht (by omega)
  refine (spans_run stops _ r).2 ⟨v, fun c hc => hu c ?_, rfl⟩
  obtain ⟨w, hw⟩ := ht
  rw [← List.append_assoc] at hw
  rw [← List.append_cancel_right hw]
  exact List.mem_append_right w hc

/-- A run is as long as possible first. -/
theorem ordered_run (stops t : Text) :
    ((run stops).moves t).Pairwise fun r s => r.length ≤ s.length := by
  induction t with
  | nil => exact List.pairwise_singleton _ _
  | cons c t ih =>
    rw [moves_run_cons, List.pairwise_append]
    refine ⟨?_, List.pairwise_singleton _ _, fun r hr s hs => ?_⟩
    · split
      · exact .nil
      · exact ih
    · rw [List.mem_singleton.1 hs]
      split at hr
      · cases hr
      · exact Nat.le_succ_of_le ((spans_run stops).suffix hr).length_le

theorem straight_run (stops : Text) : (run stops).moves.Straight (freeOf stops) :=
  ⟨spans_run stops, exchanges_run stops,
    Moves.greedy_of_ordered (fun _ _ => (spans_run stops).suffix) (ordered_run stops)⟩

end Ways

namespace Node

variable {cs : Bool}

mutual

/-- The ways of a tree end behind the texts for which it stands. -/
theorem spans : ∀ n : Node, (n.ways cs).moves.Spans (n.language cs)
  | .path _ absolute segments => by
    rw [ways, language, Ways.moves_andThen]
    cases absolute with
    | true => exact Ways.straight_slash.spans.andThen (spansOf Ways.straight_slash.spans segments)
    | false => exact Ways.straight_stay.spans.andThen (spansOf Ways.straight_slash.spans segments)
  | .segment _ items => spansOf Ways.straight_stay.spans items
  | .alternation _ branches => spansAny branches
  | .variable _ name (some c) => by
    rw [ways, language, Ways.moves_bind]
    exact spans c
  | .variable _ name none => by
    rw [ways, language, Ways.moves_bind]
    exact Ways.spans_run _
  | .wildcard _ true => Ways.spans_run _
  | .wildcard _ false => Ways.spans_run _
  | .regexp .. => Ways.straight_none.spans
  | .text _ value => (Ways.straight_text cs value).spans

theorem spansOf {f : Ways} {L : Language Char} (hf : f.moves.Spans L) :
    ∀ ns : List Node, (waysOf cs f ns).moves.Spans (languageOf cs L ns)
  | [] => Ways.straight_stay.spans
  | [n] => spans n
  | n :: m :: ns => by
    rw [waysOf, languageOf, Ways.moves_andThen, Ways.moves_andThen]
    exact ((spans n).andThen hf).andThen (spansOf hf (m :: ns))

theorem spansAny : ∀ ns : List Node, (waysAny cs ns).moves.Spans (languageAny cs ns)
  | [] => Ways.straight_none.spans
  | [n] => spans n
  | n :: m :: ns => by
    intro t r
    rw [waysAny, languageAny, Ways.moves_orElse, List.mem_append, spans n t r,
      spansAny (m :: ns) t r]
    simp only [Language.mem_add, or_and_right, exists_or]

end

mutual

/-- **Exchange.** Without alternations, ways that cross can be exchanged, and the
    furthest is the first. -/
theorem straight : ∀ n : Node, n.altFree → (n.ways cs).moves.Straight (n.language cs)
  | .path _ absolute segments, h => by
    rw [ways, language, Ways.moves_andThen]
    cases absolute with
    | true => exact Ways.straight_slash.andThen (straightOf Ways.straight_slash segments h)
    | false => exact Ways.straight_stay.andThen (straightOf Ways.straight_slash segments h)
  | .segment _ items, h => straightOf Ways.straight_stay items h
  | .variable _ name (some c), h => by
    rw [ways, language, Ways.moves_bind]
    exact straight c h
  | .variable _ name none, _ => by
    rw [ways, language, Ways.moves_bind]
    exact Ways.straight_run _
  | .wildcard _ true, _ => Ways.straight_run _
  | .wildcard _ false, _ => Ways.straight_run _
  | .regexp .., _ => Ways.straight_none
  | .text _ value, _ => Ways.straight_text cs value

theorem straightOf {f : Ways} {L : Language Char} (hf : f.moves.Straight L) :
    ∀ ns : List Node, allAltFree ns → (waysOf cs f ns).moves.Straight (languageOf cs L ns)
  | [], _ => Ways.straight_stay
  | [n], h => straight n (Bool.and_eq_true_iff.1 h).1
  | n :: m :: ns, h => by
    obtain ⟨hn, hns⟩ := Bool.and_eq_true_iff.1 h
    rw [waysOf, languageOf, Ways.moves_andThen, Ways.moves_andThen]
    exact ((straight n hn).andThen hf).andThen (straightOf hf (m :: ns) hns)

end

mutual

/-- Without alternations, nothing is shared by branches. -/
theorem shares_of_altFree {p : Regex.Expr → Bool} {ci : Bool} :
    ∀ (n : Node) (g : ℕ), n.altFree → n.shares p ci g
  | .path _ _ ns, g, h | .segment _ ns, g, h => allShare_of_altFree ns g h
  | .variable _ _ (some c), g, h => shares_of_altFree c (g + 1) h
  | .variable _ _ none, _, _ | .wildcard .., _, _ | .regexp .., _, _ | .text .., _, _ => rfl

theorem allShare_of_altFree {p : Regex.Expr → Bool} {ci : Bool} :
    ∀ (ns : List Node) (g : ℕ), allAltFree ns → allShare p ci g ns
  | [], _, _ => rfl
  | [n], g, h => shares_of_altFree n g (Bool.and_eq_true_iff.1 h).1
  | n :: m :: ns, g, h => by
    obtain ⟨hn, hns⟩ := Bool.and_eq_true_iff.1 h
    exact Bool.and_eq_true_iff.2 ⟨shares_of_altFree n g hn, allShare_of_altFree (m :: ns) _ hns⟩

end

variable {n : Node} {t : Text}

theorem taken_append_rest (hw : n.WellFormed) (hr : n.rawFree) {w : Way} (h : w ∈ n.ways cs t) :
    w.taken ++ w.rest = t := by
  have harrives := (@lowers cs (fun _ => true) n hw hr).arrives
    (x := Regex.startOf t) rfl 0
  have hfront : List.Forall₂ (fun (w : Way) _ => w.taken ++ w.rest = t ∧ True) (n.ways cs t)
      ((n.written (!cs) 0).ends (Regex.startOf t)) :=
    .flip (harrives.imp fun _ _ h => ⟨h.front.symm, trivial⟩)
  exact ((List.forall₂_and_left _ _).1 hfront).1 w h

/-- The first way takes a text as a whole exactly if the tree stands for it. -/
theorem first_takes_all_iff (ha : n.altFree) :
    (∃ w ∈ (n.ways cs t).head?, w.rest = []) ↔ t ∈ n.language cs := by
  have hstraight : (n.ways cs).moves.Straight (n.language cs) := straight n ha
  have hspans : [] ∈ (n.ways cs).moves t ↔ t ∈ n.language cs := by
    rw [hstraight.spans t []]
    simp
  rw [← hspans]
  constructor
  · rintro ⟨w, hw, hrest⟩
    exact List.mem_map.2 ⟨w, List.mem_of_mem_head? hw, hrest⟩
  · intro h
    obtain ⟨w, hw, -⟩ := List.mem_map.1 h
    have hne : (n.ways cs t) ≠ [] := List.ne_nil_of_mem hw
    obtain ⟨first, hfirst⟩ := Option.isSome_iff_exists.1 (List.isSome_head?.2 hne)
    have hhead : first.rest ∈ ((n.ways cs).moves t).head? := by
      simp [Ways.moves, hfirst]
    refine ⟨first, hfirst, List.eq_nil_of_length_eq_zero ?_⟩
    exact Nat.le_zero.1 (hstraight.greedy.furthest t first.rest hhead [] h)

/-- What finds the first way matches a text as a whole exactly if the tree stands for
    it. -/
theorem matches_all_iff {m : Matcher} (hm : m.Agrees (n.ways cs)) (hw : n.WellFormed)
    (hr : n.rawFree) (ha : n.altFree) (t : Text) :
    (∃ r, m.match? t = some r ∧ r.consumed = Text.utf8Length t) ↔ t ∈ n.language cs := by
  rw [← first_takes_all_iff ha, hm t]
  have hall : ∀ w ∈ (n.ways cs t).head?,
      Text.utf8Length w.taken = Text.utf8Length t ↔ w.rest = [] := by
    intro w h
    have ht := taken_append_rest hw hr (List.mem_of_mem_head? h)
    rw [← ht, Text.utf8Length_append, ← Text.utf8Length_eq_zero]
    omega
  constructor
  · rintro ⟨r, h, hr⟩
    obtain ⟨w, hw, rfl⟩ := Option.map_eq_some_iff.1 h
    exact ⟨w, hw, (hall w hw).1 hr⟩
  · rintro ⟨w, hw, hrest⟩
    exact ⟨w.result, Option.map_eq_some_iff.2 ⟨w, hw, rfl⟩, (hall w hw).2 hrest⟩

end Node

/-- **Whole texts.** A pattern with neither alternations nor raw regular expressions
    compiles, unless it is nested too deeply or too large, and what is compiled matches a
    text as a whole exactly if the pattern stands for it. -/
theorem compilePattern_matches_all_iff {pattern : Text} {root : Node} {cs : Bool}
    (hp : parse pattern = .ok root) (ha : root.altFree) (hr : root.rawFree) :
    (∃ x, (x = .tooDeep ∨ x = .tooLarge) ∧
      Regex.compile (!cs) (Matcher.anchored (root.source { caseSensitive := cs })) = .error x ∧
      compilePattern pattern { caseSensitive := cs } =
        .error (.invalidRegex (Matcher.anchored (root.source { caseSensitive := cs })))) ∨
    ∃ m, compilePattern pattern { caseSensitive := cs } = .ok m ∧
      ∀ t, (∃ r, m.match? t = some r ∧ r.consumed = Text.utf8Length t) ↔
        t ∈ root.language cs := by
  have hw := parse_wellFormed hp
  rw [compilePattern_of_parse hp]
  refine (compile_cases hw hr).imp id fun h => ⟨_, h, fun t => ?_⟩
  have hshares : root.shares Regex.Expr.isFixed (!cs) 0 := Node.shares_of_altFree root 0 ha
  exact Node.matches_all_iff (Node.compiled_agrees hw hr hshares _) hw hr ha t

/-- The first run could take all; a text of the language ends with the last `b`. -/
theorem compilePattern_matches_all_runs :
    ∃ root m, parse "**/:x*b".toList = .ok root ∧ root.altFree ∧ root.rawFree ∧
      compilePattern "**/:x*b".toList { caseSensitive := true } = .ok m ∧
      (∀ t, (∃ r, m.match? t = some r ∧ r.consumed = Text.utf8Length t) ↔
        t ∈ root.language true) ∧
      "a/b/cbb".toList ∈ root.language true ∧ "a/b/cbd".toList ∉ root.language true := by
  have h : ((parse "**/:x*b".toList).toOption.map fun root =>
      (root.altFree, root.rawFree)) = some (true, true) := by
    decide +kernel
  obtain ⟨root, hp, h⟩ := Option.map_eq_some_iff.1 h
  obtain ⟨ha, hr⟩ := Prod.mk.inj h
  have hfound : ((compilePattern "**/:x*b".toList { caseSensitive := true }).toOption.map fun m =>
      ((m.match? "a/b/cbb".toList).map (·.consumed),
        (m.match? "a/b/cbd".toList).map (·.consumed))) = some (some 7, some 6) := by
    decide +kernel
  obtain ⟨m, hm, hfound⟩ := Option.map_eq_some_iff.1 hfound
  have hm := eq_ok_of_toOption hm
  obtain ⟨hall, hpart⟩ := Prod.mk.inj hfound
  rcases @compilePattern_matches_all_iff _ root true (eq_ok_of_toOption hp) ha hr with
    ⟨_, -, -, he⟩ | ⟨m', hm', hiff⟩
  · rw [he] at hm
    cases hm
  · obtain rfl : m = m' := Except.ok.inj (hm.symm.trans hm')
    refine ⟨root, m, eq_ok_of_toOption hp, ha, hr, hm, hiff, ?_, ?_⟩
    · obtain ⟨r, hr, hc⟩ := Option.map_eq_some_iff.1 hall
      exact (hiff _).1 ⟨r, hr, hc⟩
    · rw [← hiff]
      rintro ⟨r, hr, hc⟩
      rw [hr] at hpart
      exact absurd (hc.symm.trans (Option.some.inj hpart)) (by decide)

end PathRouting.Pattern
