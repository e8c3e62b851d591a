import Mathlib.Data.List.GetD
import PlanViewer.Proofs.FragmentMatching
import PlanViewer.Proofs.PatternTexts

/-!
# What a node gains with longer candidates

A pattern looks at a node only through questions whether some candidate holds a text
(`Pattern.asked`), and an answer that turns from no to yes never turns a match into a failure, in
either mode. So a node that holds more matches more: candidates may be made longer, changed about,
or added where there was an empty one.

How much more a node has to hold can be told exactly. No list can ask for a text with a comma or a
star in it, and each other text is a list of its own. So a node matches all lists that another one
matches precisely when it holds all texts of that kind that the other one holds
(`CustomNodes.matchesNode_carries_iff`).
-/

namespace PlanViewer

/-! ## Nodes that hold more -/

namespace Candidates

variable {c c' : Candidates}

/-- Every candidate is a part of one of the others. -/
def Within (c c' : Candidates) : Prop :=
  ∀ candidate ∈ c.toList, ∃ other ∈ c'.toList, candidate.toList <:+: other.toList

theorem Within.hold (h : c.Within c') {text : String} (hold : c.Hold text) : c'.Hold text := by
  obtain ⟨candidate, hmem, hpart⟩ := hold
  obtain ⟨other, hother, hwithin⟩ := h candidate hmem
  exact ⟨other, hother, hpart.trans hwithin⟩

/-- Candidates that are made longer, each in its place. -/
theorem within_of_parts (hfirst : c.first.toList <:+: c'.first.toList)
    (hsecond : c.second.toList <:+: c'.second.toList)
    (hthird : c.third.toList <:+: c'.third.toList) : c.Within c' := by
  intro candidate hmem
  simp only [toList, List.mem_cons, List.not_mem_nil, or_false] at hmem
  rcases hmem with rfl | rfl | rfl
  · exact ⟨c'.first, by simp [toList], hfirst⟩
  · exact ⟨c'.second, by simp [toList], hsecond⟩
  · exact ⟨c'.third, by simp [toList], hthird⟩

/-- Candidates that change places. -/
theorem within_of_perm (h : c.toList.Perm c'.toList) : c.Within c' := by
  intro candidate hmem
  exact ⟨candidate, h.mem_iff.mp hmem, List.infix_rfl⟩

/-- Candidates that are added to a list. -/
theorem within_ofList_append (texts more : List String) :
    (ofList texts).Within (ofList (texts ++ more)) := by
  -- a place that was filled keeps its text, and one that was not had the empty one
  have hplace : ∀ i, (texts.getD i "").toList <:+: ((texts ++ more).getD i "").toList := by
    intro i
    by_cases hi : i < texts.length
    · have hsame : (texts ++ more).getD i "" = texts.getD i "" := List.getD_append _ _ _ _ hi
      exact hsame ▸ List.infix_rfl
    · rw [List.getD_eq_default _ _ (by omega)]
      exact List.nil_infix
  exact within_of_parts (hplace 0) (hplace 1) (hplace 2)

end Candidates

/-! ## Outcomes that turn from no to yes -/

section Outcomes

variable {α : Type} {asked : List α} {test test' : α → Bool}

theorem getLastD_map_mono (h : ∀ a ∈ asked, test a = true → test' a = true)
    (hlast : (asked.map test).getLastD false = true) :
    (asked.map test').getLastD false = true := by
  rw [List.getLastD_eq_getLast?, List.getLast?_map] at hlast ⊢
  rcases hget : asked.getLast? with _ | last
  · simp [hget] at hlast
  · rw [hget] at hlast
    exact h last (List.mem_of_getLast? hget) hlast

theorem Pattern.combine_map_mono (h : ∀ a ∈ asked, test a = true → test' a = true)
    {mode : MatchMode} (hmatch : combine mode (asked.map test) = true) :
    combine mode (asked.map test') = true := by
  cases mode with
  | overwrite => exact getLastD_map_mono h hmatch
  | accumulate =>
    simp only [combine, Bool.and_eq_true, List.all_map, List.all_eq_true, List.isEmpty_map]
      at hmatch ⊢
    exact ⟨hmatch.1, fun a ha => h a ha (hmatch.2 a ha)⟩

end Outcomes

/-! ## Patterns and lists -/

namespace Pattern

/-- The texts that a pattern looks for in the candidates. -/
def asked : Pattern → List String
  | .literal text => [text]
  | .wildcard fragments => fragments.filter fun f => decide (f ≠ "")

/-- A node that holds what the pattern looks for, wherever another node holds it, matches when the
other does. -/
theorem matchesNode_mono {p : Pattern} {c c' : Candidates}
    (h : ∀ f ∈ p.asked, c.Hold f → c'.Hold f) {mode : MatchMode}
    (hmatch : p.matchesNode c mode = true) : p.matchesNode c' mode = true := by
  cases p with
  | literal text =>
    rw [matchesNode_literal_iff] at hmatch ⊢
    exact h text (by simp [asked]) hmatch
  | wildcard fragments =>
    refine combine_map_mono ?_ hmatch
    intro f hf hheld
    rw [Candidates.anyContains_iff] at hheld ⊢
    exact h f hf hheld

/-- What a pattern asks for is a part of its text, and has no star. -/
theorem asked_parse {text f : String} (hf : f ∈ (parse text).asked) :
    star ∉ f.toList ∧ f.toList <:+: text.toList := by
  by_cases hstar : star ∈ text.toList
  · rw [parse_of_star hstar] at hf
    obtain ⟨hnot, before, after, htext, -, -⟩ := mem_pieces_iff.mp (List.mem_of_mem_filter hf)
    exact ⟨hnot, before, after, htext.symm⟩
  · rw [parse_of_not_star hstar] at hf
    obtain rfl := List.mem_singleton.mp hf
    exact ⟨hstar, List.infix_rfl⟩

end Pattern

namespace CustomNodes

variable {c c' : Candidates}

theorem matchesNode_mono {nodes : CustomNodes}
    (h : ∀ p ∈ nodes.patterns, ∀ f ∈ p.asked, c.Hold f → c'.Hold f) {mode : MatchMode}
    (hmatch : nodes.matchesNode c mode = true) : nodes.matchesNode c' mode = true := by
  have hpattern : ∀ p ∈ nodes.patterns, p.matchesNode c mode = true →
      p.matchesNode c' mode = true := by
    intro p hp
    exact Pattern.matchesNode_mono (h p hp)
  cases mode with
  | overwrite => exact getLastD_map_mono hpattern hmatch
  | accumulate =>
    simp only [matchesNode, List.any_map, List.any_eq_true] at hmatch ⊢
    obtain ⟨p, hp, hheld⟩ := hmatch
    exact ⟨p, hp, hpattern p hp hheld⟩

/-- **A node that holds more matches more**, whatever the list and the mode. -/
theorem matchesNode_of_within (h : c.Within c') {nodes : CustomNodes} {mode : MatchMode}
    (hmatch : nodes.matchesNode c mode = true) : nodes.matchesNode c' mode = true :=
  matchesNode_mono (fun _ _ _ _ => h.hold) hmatch

/-- The order of the candidates plays no part. -/
theorem matchesNode_of_perm (h : c.toList.Perm c'.toList) (nodes : CustomNodes) (mode : MatchMode) :
    nodes.matchesNode c mode = nodes.matchesNode c' mode := by
  rw [Bool.eq_iff_iff]
  constructor
  · exact matchesNode_of_within (Candidates.within_of_perm h)
  · exact matchesNode_of_within (Candidates.within_of_perm h.symm)

/-- What the patterns of a list ask for has neither a comma nor a star. -/
theorem asked_parse {raw f : String} {p : Pattern} (hp : p ∈ (parse raw).patterns)
    (hf : f ∈ p.asked) : comma ∉ f.toList ∧ Pattern.star ∉ f.toList := by
  have hraw : raw ≠ "" := by
    rintro rfl
    cases hp
  rw [patterns_parse hraw] at hp
  obtain ⟨entry, hentry, rfl⟩ := List.mem_map.mp hp
  obtain ⟨hstar, hpart⟩ := Pattern.asked_parse hf
  exact ⟨fun hcomma => not_mem_of_mem_pieces hentry (hpart.subset hcomma), hstar⟩

/-- **When a node matches all lists that another one matches**: when it holds all texts without
commas and stars that the other one holds. -/
theorem matchesNode_carries_iff :
    (∀ raw mode, (parse raw).matchesNode c mode = true →
      (parse raw).matchesNode c' mode = true) ↔
      ∀ text : String, ',' ∉ text.toList → '*' ∉ text.toList → c.Hold text → c'.Hold text := by
  constructor
  · intro hcarries text hcomma hstar hold
    by_cases hempty : text = ""
    · rw [hempty]
      exact c'.hold_empty
    · -- the text alone is a list that asks for it and for nothing else
      have hlist : ∀ d : Candidates,
          (parse text).matchesNode d .overwrite = true ↔ d.Hold text := by
        intro d
        rw [matchesNode_parse_of_not_comma hempty hcomma, Pattern.parse_of_not_star hstar,
          Pattern.matchesNode_literal_iff]
      rw [← hlist] at hold ⊢
      exact hcarries text .overwrite hold
  · intro hholds raw mode
    apply matchesNode_mono
    intro p hp f hf
    obtain ⟨hcomma, hstar⟩ := asked_parse hp hf
    exact hholds f hcomma hstar

end CustomNodes

end PlanViewer
