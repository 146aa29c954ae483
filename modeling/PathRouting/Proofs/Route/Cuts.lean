/-
  Where paths are cut.

  A container hands on what its pattern leaves over. The length that a match reports
  counts bytes, so a path can be cut there only if a character ends there.

  * `Text.cutUtf8?` cuts a text only where a character ends.
  * `Matcher.match?_part`: a match takes off a first part of the text, and each of its
    values stands in that part.
  * `RouteTree.checked` is resolution that gives up where a path cannot be cut.
  * `Bindings.From`: values that were there before or stand in a text.
  * `resolve_cuts`: resolution never has to give up, and the values that it returns stand
    in the path or were there before.
-/
import PathRouting.Proofs.Bindings
import PathRouting.Proofs.Pattern.Agreement
import PathRouting.Proofs.Regex.Extents
import PathRouting.Proofs.Route.Chain

namespace PathRouting

open Pattern

/-! ## Cutting a text -/

namespace Text

/-- The text behind its first bytes, if a character ends there. -/
def cutUtf8? : ℕ → Text → Option Text
  | 0, t => some t
  | _ + 1, [] => none
  | n + 1, c :: t => if c.utf8Size ≤ n + 1 then cutUtf8? (n + 1 - c.utf8Size) t else none

/-- A text can be cut exactly behind one of its first parts. -/
theorem cutUtf8?_eq_some_iff {n : ℕ} {t rest : Text} :
    cutUtf8? n t = some rest ↔ ∃ taken, t = taken ++ rest ∧ n = utf8Length taken := by
  constructor
  · intro h
    induction t generalizing n with
    | nil =>
      cases n with
      | zero => exact ⟨[], Option.some.inj h, rfl⟩
      | succ n => cases h
    | cons c t ih =>
      cases n with
      | zero => exact ⟨[], Option.some.inj h, rfl⟩
      | succ n =>
        rw [cutUtf8?] at h
        split_ifs at h with hle
        obtain ⟨taken, rfl, hn⟩ := ih h
        exact ⟨c :: taken, rfl, by rw [utf8Length]; omega⟩
  · rintro ⟨taken, rfl, rfl⟩
    induction taken with
    | nil => cases rest <;> rfl
    | cons c taken ih =>
      have hpos := c.utf8Size_pos
      have hsucc : utf8Length (c :: taken) = c.utf8Size + utf8Length taken - 1 + 1 := by
        rw [utf8Length]
        omega
      rw [hsucc, List.cons_append, cutUtf8?, if_pos (by omega)]
      rw [show c.utf8Size + utf8Length taken - 1 + 1 - c.utf8Size = utf8Length taken by omega]
      exact ih

end Text

/-! ## Matches -/

/-- A match takes off a first part of a text, and its values stand in that part. -/
theorem Pattern.Matcher.match?_part {m : Matcher} {t : Text} {r : PatternMatch}
    (h : m.match? t = some r) : ∃ taken rest, t = taken ++ rest ∧
      r.consumed = Text.utf8Length taken ∧ ∀ p ∈ r.bindings.entries, p.2 <:+: taken := by
  obtain ⟨c, hc, rfl⟩ := Option.map_eq_some_iff.1 h
  have htext : c.text = t := (Regex.Captures.advances hc).1
  refine ⟨t.take c.stop, t.drop c.stop, (List.take_append_drop _ _).symm, ?_, fun p hp => ?_⟩
  · rw [Regex.Captures.consumed, htext]
  · rw [bindGroups_eq] at hp
    rcases mem_entries_foldl hp with hp | hp
    · cases hp
    · obtain ⟨x, -, hx⟩ := List.mem_filterMap.1 hp
      obtain ⟨value, hvalue, rfl⟩ := Option.map_eq_some_iff.1 hx
      exact Regex.Captures.group?_infix hc hvalue

/-! ## Resolution with checked cuts -/

namespace RouteTree

variable {R C : Type}

mutual

/-- Resolution that gives up, with no result at all, where a path would have to be cut
    inside of a character or behind its end. -/
def checked (context : C) : RouteTree R C → Text → Bindings → Option (Option (Resolution R))
  | .route p answer, path, b => some ((route p answer).resolve path context b)
  | .container none children, path, b => checkedFirst context children path b
  | .container (some p) children, path, b =>
    match p.match? path with
    | none => some none
    | some m => (Text.cutUtf8? m.consumed path).bind fun rest =>
        checkedFirst context children rest (b.extended m.bindings)
  | .choice condition yes no, path, b =>
    if condition b context then checkedBranch context yes path b
    else checkedBranch context no path b
  | .annotated _ child, path, b => checked context child path b

/-- The first answer of several trees. -/
def checkedFirst (context : C) :
    List (RouteTree R C) → Text → Bindings → Option (Option (Resolution R))
  | [], _, _ => some none
  | t :: ts, path, b => (checked context t path b).bind fun found =>
      match found with
      | some r => some (some r)
      | none => checkedFirst context ts path b

/-- The answer of a branch, if there is one. -/
def checkedBranch (context : C) :
    Option (RouteTree R C) → Text → Bindings → Option (Option (Resolution R))
  | none, _, _ => some none
  | some t, path, b => checked context t path b

end

variable (context : C)

mutual

/-- **Cuts.** Every path is cut where a character ends. -/
theorem checked_eq : ∀ (t : RouteTree R C) (path : Text) (b : Bindings),
    t.checked context path b = some (t.resolve path context b)
  | .route .., _, _ => rfl
  | .container none children, path, b => by
    rw [checked, checkedFirst_eq children, resolve_index]
  | .container (some p) children, path, b => by
    rw [checked, resolve_container]
    cases hm : p.match? path with
    | none => rfl
    | some m =>
      obtain ⟨taken, rest, rfl, hc⟩ := RoutePattern.match?_split hm
      have hcut : Text.cutUtf8? m.consumed (taken ++ rest) = some rest :=
        Text.cutUtf8?_eq_some_iff.2 ⟨taken, rfl, hc⟩
      dsimp only
      rw [hcut, Option.bind_some, checkedFirst_eq children, Option.bind_some, hc,
        Text.dropUtf8_append]
  | .choice condition yes no, path, b => by
    rw [checked, resolve_choice, checkedBranch_eq yes, checkedBranch_eq no]
    split <;> rfl
  | .annotated _ child, path, b => by
    rw [checked, checked_eq child, resolve_annotated]

theorem checkedFirst_eq : ∀ (ts : List (RouteTree R C)) (path : Text) (b : Bindings),
    checkedFirst context ts path b = some (ts.findSome? (·.resolve path context b))
  | [], _, _ => rfl
  | t :: ts, path, b => by
    rw [checkedFirst, checked_eq t, Option.bind_some, List.findSome?_cons]
    cases t.resolve path context b with
    | none => exact checkedFirst_eq ts path b
    | some r => rfl

theorem checkedBranch_eq : ∀ (o : Option (RouteTree R C)) (path : Text) (b : Bindings),
    checkedBranch context o path b = some (o.bind (·.resolve path context b))
  | none, _, _ => rfl
  | some t, path, b => checked_eq t path b

end

end RouteTree

/-! ## The values of a resolution -/

namespace Bindings

variable {b r m : Bindings} {path : Text}

/-- The values of some bindings are those of others or stand in a text. -/
structure From (b : Bindings) (path : Text) (r : Bindings) : Prop where
  values : ∀ n v, r.get? n = some v → b.get? n = some v ∨ v <:+: path
  entries : ∀ p ∈ r.entries, p ∈ b.entries ∨ p.2 <:+: path

theorem From.refl (b : Bindings) (path : Text) : b.From path b :=
  ⟨fun _ _ => .inl, fun _ => .inl⟩

theorem From.insert (h : b.From path r) {v : Text} (hv : v <:+: path) (n : Text) :
    b.From path (r.insert n v) where
  values k w hw := by
    rw [get?_insert] at hw
    split_ifs at hw
    · cases hw
      exact .inr hv
    · exact h.values k w hw
  entries p hp := by
    rcases mem_put hp with rfl | hp
    · exact .inr hv
    · exact h.entries p hp

theorem From.foldl_insert {pairs : List (Text × Text)} (h : b.From path r)
    (hp : ∀ p ∈ pairs, p.2 <:+: path) :
    b.From path (pairs.foldl (fun m p => m.insert p.1 p.2) r) := by
  induction pairs generalizing r with
  | nil => exact h
  | cons p pairs ih =>
    obtain ⟨hfirst, hrest⟩ := List.forall_mem_cons.1 hp
    exact ih (h.insert hfirst p.1) hrest

theorem From.extended (h : b.From path r) (hm : ∀ p ∈ m.entries, p.2 <:+: path) :
    b.From path (r.extended m) :=
  h.foldl_insert hm

end Bindings

namespace RouteTree

variable {R C : Type} {context : C}

/-- What the patterns on a chain bind stands in the path that follows it. -/
theorem from_of_follows {links : List (Link R C)} {parts : List Part} {b₀ b : Bindings}
    {path : Text} (h : Follows context links parts b) (hpath : Part.join parts <:+: path)
    (hb : b₀.From path b) : b₀.From path (Part.extend b parts) := by
  induction h with
  | done => exact hb
  | @pattern p links s m parts b hm _ _ ih =>
    have hrest : Part.join parts <:+: s ++ Part.join parts := (List.suffix_append _ _).isInfix
    obtain ⟨taken, rest, htaken, -, hvalues⟩ := Matcher.match?_part hm
    have htake : taken <:+: s ++ Part.join parts := htaken ▸ (List.prefix_append _ _).isInfix
    exact ih (hrest.trans hpath)
      (hb.extended fun p hp => ((hvalues p hp).trans htake).trans hpath)
  | siblings _ _ ih => exact ih hpath hb
  | condition _ _ ih => exact ih hpath hb

/-- **Cuts and values.** A match takes off a first part of a text, of as many bytes as it
    reports, and its values stand in that part. So resolution never has to cut a path where
    no character ends, however deep the tree, and the value that it returns for a name is
    the one that the name had before or stands in the path. -/
theorem resolve_cuts :
    (∀ (m : Matcher) (t : Text) (r : PatternMatch), m.match? t = some r →
      r.consumed ≤ Text.utf8Length t ∧ ∃ taken rest, t = taken ++ rest ∧
        r.consumed = Text.utf8Length taken ∧ ∀ p ∈ r.bindings.entries, p.2 <:+: taken) ∧
    ∀ (t : RouteTree R C) (path : Text) (context : C) (b : Bindings),
      t.checked context path b = some (t.resolve path context b) ∧
        ∀ r, t.resolve path context b = some r → b.From path r.bindings := by
  refine ⟨fun m t r h => ?_, fun t path context b => ⟨checked_eq context t path b, ?_⟩⟩
  · obtain ⟨taken, rest, rfl, hc, hvalues⟩ := Matcher.match?_part h
    refine ⟨?_, taken, rest, rfl, hc, hvalues⟩
    rw [hc, Text.utf8Length_append]
    exact Nat.le_add_right _ _
  · intro r hr
    obtain ⟨links, answer, parts, -, rfl, hfollows, rfl⟩ := explained_of_resolve context t hr
    exact from_of_follows hfollows (List.infix_refl _) (.refl b _)

/-- The path is cut behind a character of three bytes, and `b` gets another value. -/
theorem resolve_cuts_multibyte :
    ∃ (child nested : RouteTree Unit Unit) (r : Resolution Unit),
      ofPattern "/:b".toList { caseSensitive := true } (fun _ _ => ()) = .ok child ∧
      partialRoute "é:a".toList { caseSensitive := true } [index [child]] = .ok nested ∧
      nested.checked () "é日/x".toList ⟨[(['b'], ['y'])]⟩ = some (some r) ∧
      r.bindings.entries = [(['b'], ['x']), (['a'], ['日'])] ∧
      Bindings.From ⟨[(['b'], ['y'])]⟩ "é日/x".toList r.bindings := by
  have h : ((ofPattern "/:b".toList { caseSensitive := true } fun _ _ => ()).toOption.bind
      fun child => (partialRoute "é:a".toList { caseSensitive := true }
        [index [child]]).toOption.bind fun nested : RouteTree Unit Unit =>
          (nested.resolve "é日/x".toList () ⟨[(['b'], ['y'])]⟩).map (·.bindings.entries)) =
      some [(['b'], ['x']), (['a'], ['日'])] := by
    decide +kernel
  obtain ⟨child, hchild, h⟩ := Option.bind_eq_some_iff.1 h
  obtain ⟨nested, hnested, h⟩ := Option.bind_eq_some_iff.1 h
  obtain ⟨r, hr, hentries⟩ := Option.map_eq_some_iff.1 h
  obtain ⟨-, hcuts⟩ := @resolve_cuts Unit Unit
  obtain ⟨hchecked, hfrom⟩ := hcuts nested "é日/x".toList () ⟨[(['b'], ['y'])]⟩
  exact ⟨child, nested, r, eq_ok_of_toOption hchild, eq_ok_of_toOption hnested,
    hchecked.trans (congrArg some hr), hentries, hfrom r hr⟩

end RouteTree

end PathRouting
