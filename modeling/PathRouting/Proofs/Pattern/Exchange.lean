/-
  Sources of which parts are exchanged.

  * `Node.bodies`: the bodies of the raw regular expressions of a tree.
  * `Source.Exchange`: sources that stand for one another.
  * `Node.source_exchange`: if the sub-patterns of two options may be exchanged, so may the
    sources of a tree under them, as long as each raw regular expression keeps to its
    group.
-/
import PathRouting.Proofs.Pattern.Reading
import PathRouting.Proofs.Regex.SelfContained

namespace PathRouting.Pattern

open Regex Regex.Reader

namespace Node

mutual

/-- The bodies of the raw regular expressions of a tree in order. -/
def bodies : Node → List Text
  | .path _ _ ns | .segment _ ns | .alternation _ ns => bodiesOf ns
  | .variable _ _ (some c) => c.bodies
  | .regexp _ body => [body]
  | .variable _ _ none | .wildcard .. | .text .. => []

/-- Those of several trees. -/
def bodiesOf : List Node → List Text
  | [] => []
  | n :: ns => n.bodies ++ bodiesOf ns

end

end Node

namespace Source

/-- Sources that stand for one another under given flags, and have the same slots. If they
    are read, then `P` holds. -/
structure Exchange (P : Prop) (f : Flags) (a a' : Source) : Prop where
  text : Rewrites P f a.text a'.text
  slots : a.slots = a'.slots
  groups : a.groups = a'.groups

section
variable {P P' : Prop} {f : Flags} {a a' b b' : Source} {t t' : Text}

theorem Exchange.imp (h : Exchange P f a a') (hP : P → P') : Exchange P' f a a' :=
  ⟨h.text.imp hP, h.slots, h.groups⟩

theorem Exchange.ofText (h : Rewrites P f t t') : Exchange P f (.ofText t) (.ofText t') :=
  ⟨h, rfl, rfl⟩

theorem exchange_nil : Exchange True f (.ofText []) (.ofText []) :=
  .ofText rewrites_nil

theorem Exchange.append (h : Exchange P f a a') (h' : Exchange P' f b b') :
    Exchange (P ∧ P') f (a ++ b) (a' ++ b') := by
  refine ⟨h.text.append h'.text, ?_, ?_⟩
  · rw [slots_append, slots_append, h.slots, h.groups, h'.slots]
  · rw [groups_append, groups_append, h.groups, h'.groups]

theorem Exchange.group (h : RewritesInside P f a.text a'.text) (hs : a.slots = a'.slots)
    (hg : a.groups = a'.groups) (hf : f.verbose = false) : Exchange P f a.group a'.group := by
  refine ⟨h.group hf, ?_, ?_⟩
  · show ([] ++ shift 0 a.slots) ++ [] = ([] ++ shift 0 a'.slots) ++ []
    rw [hs]
  · show 0 + a.groups + 0 = 0 + a'.groups + 0
    rw [hg]

theorem Exchange.capture (h : RewritesInside P f a.text a'.text) (hs : a.slots = a'.slots)
    (hg : a.groups = a'.groups) (hf : f.verbose = false) (ha : a.Plain) (ha' : a'.Plain)
    (name : Text) : Exchange P f (a.capture name) (a'.capture name) := by
  refine ⟨h.capture hf ha ha', ?_, ?_⟩
  · show ([⟨name, 1⟩] ++ shift 1 a.slots) ++ [] = ([⟨name, 1⟩] ++ shift 1 a'.slots) ++ []
    rw [hs]
  · show 1 + a.groups + 0 = 1 + a'.groups + 0
    rw [hg]

end

end Source

/-- Options that may be exchanged under given flags: wherever a sub-pattern is spliced in,
    the other one may stand. -/
structure Options.Exchange (f : Flags) (o o' : Options) : Prop where
  pathSeparator : Rewrites True f (Source.subPattern o.pathSeparator).text
    (Source.subPattern o'.pathSeparator).text
  wildcard : Rewrites True f (Source.subPattern o.wildcard).text
    (Source.subPattern o'.wildcard).text
  greedyWildcard : Rewrites True f (Source.subPattern o.greedyWildcard).text
    (Source.subPattern o'.greedyWildcard).text
  unconstrainedVariable : RewritesInside True f o.unconstrainedVariable o'.unconstrainedVariable
  loose : Loose o.unconstrainedVariable
  loose' : Loose o'.unconstrainedVariable

theorem Source.exchange_subPattern {f : Flags} {t t' : Text}
    (h : Rewrites True f (Source.subPattern t).text (Source.subPattern t').text) :
    Source.Exchange True f (.subPattern t) (.subPattern t') := by
  have hslots : ∀ t, (Source.subPattern t).slots = [] := by
    intro t
    unfold subPattern
    split_ifs <;> rfl
  have hgroups : ∀ t, (Source.subPattern t).groups = 0 := by
    intro t
    unfold subPattern
    split_ifs <;> rfl
  exact ⟨h, by rw [hslots, hslots], by rw [hgroups, hgroups]⟩

theorem loose_escapeChar (c : Char) : Loose (if isMeta c then ['\\', c] else [c]) := by
  split_ifs with hc
  · exact loose_cons (by decide)
  · refine loose_cons ⟨?_, ?_⟩ <;> rintro rfl <;> exact hc rfl

/-- Escaped text is read in the same way everywhere. -/
theorem rewrites_escape (ci : Bool) (t : Text) :
    Rewrites True (patternFlags ci) (Regex.escape t) (Regex.escape t) := by
  induction t with
  | nil => exact rewrites_nil
  | cons c t ih =>
    have hchar := rewrites_of_push (loose_escapeChar c) fun _ u hr =>
      runs_char (show _ = patternFlags ci from hr) c u
    rw [escape_cons]
    exact (hchar.append ih).imp fun _ => trivial

namespace Node

variable {ci : Bool} {o o' : Options} {Q : Text → Prop}

mutual

/-- **Exchange.** The source of a tree under options that are exchanged. If it is read,
    then so is each raw regular expression. -/
theorem source_exchange (ho : o.Exchange (patternFlags ci) o') : ∀ n : Node,
    (∀ body ∈ n.bodies, RewritesInside (Q body) (patternFlags ci) body body) →
    Source.Exchange (∀ body ∈ n.bodies, Q body) (patternFlags ci) (n.source o) (n.source o')
  | .path _ absolute segments, h => by
    have hsep := Source.exchange_subPattern ho.pathSeparator
    have hjoin := sources_exchange ho hsep segments h
    rw [source, source]
    cases absolute with
    | true => exact (hsep.append hjoin).imp And.right
    | false => exact (Source.exchange_nil.append hjoin).imp And.right
  | .segment _ items, h => by
    rw [source, source]
    exact sources_exchange ho Source.exchange_nil items h
  | .alternation _ branches, h => by
    have hjoin := sources_exchange ho (.ofText (rewrites_bar rfl)) branches h
    rw [source, source]
    exact .group (hjoin.text.inside rfl) hjoin.slots hjoin.groups rfl
  | .variable _ name (some c), h => by
    have hc := source_exchange ho c h
    rw [source, source]
    exact .capture (hc.text.inside rfl) hc.slots hc.groups rfl hc.text.loose.1 hc.text.loose'.1 name
  | .variable _ name none, _ => by
    have htext : RewritesInside True (patternFlags ci) (Source.ofText o.unconstrainedVariable).text
        (Source.ofText o'.unconstrainedVariable).text := ho.unconstrainedVariable
    rw [source, source]
    exact (Source.Exchange.capture htext rfl rfl rfl ho.loose.1 ho.loose'.1 name).imp
      fun _ _ h => nomatch h
  | .wildcard _ true, _ => by
    rw [source, source]
    exact (Source.exchange_subPattern ho.greedyWildcard).imp fun _ _ h => nomatch h
  | .wildcard _ false, _ => by
    rw [source, source]
    exact (Source.exchange_subPattern ho.wildcard).imp fun _ _ h => nomatch h
  | .regexp _ body, h => by
    rw [source, source]
    refine (Source.Exchange.group (h body (List.mem_singleton_self _)) rfl rfl rfl).imp
      fun hQ b hb => ?_
    rwa [List.mem_singleton.1 hb]
  | .text _ value, _ => by
    rw [source, source]
    exact (Source.Exchange.ofText (rewrites_escape ci value)).imp fun _ _ h => nomatch h

theorem sources_exchange (ho : o.Exchange (patternFlags ci) o') {separator separator' : Source}
    (hsep : Source.Exchange True (patternFlags ci) separator separator') : ∀ ns : List Node,
    (∀ body ∈ bodiesOf ns, RewritesInside (Q body) (patternFlags ci) body body) →
    Source.Exchange (∀ body ∈ bodiesOf ns, Q body) (patternFlags ci)
      (Source.join separator (sources o ns)) (Source.join separator' (sources o' ns))
  | [], _ => Source.exchange_nil.imp fun _ _ h => nomatch h
  | [n], h => by
    rw [bodiesOf, bodiesOf, List.append_nil] at h ⊢
    exact source_exchange ho n h
  | n :: m :: ns, h => by
    have hn := source_exchange ho n fun body hb => h body (List.mem_append_left _ hb)
    have hns := sources_exchange ho hsep (m :: ns) fun body hb => h body (List.mem_append_right _ hb)
    refine ((hn.append hsep).append hns).imp fun ⟨⟨hn, _⟩, hns⟩ body hb => ?_
    exact (List.mem_append.1 hb).elim (hn body) (hns body)

end

end Node

end PathRouting.Pattern
