import PlanViewer.Proofs.ModeComparison

/-!
# Texts tested as fragments

There are two ways to ask whether a text matches a node. As an entry of a list it is a literal or a
wildcard pattern; a literal may also be equal to a candidate, and the empty one is held by all. As
fragments (`Pattern.matchesFragments`) it is cut at every star, whether or not it has one, and empty
pieces are passed over. The two ask the same of every text but the empty one, which as a literal
matches every node and as fragments none (`Pattern.matchesFragments_eq`).

Since the last entry of a list decides, testing the text after the last comma as fragments tells
what the list says, as long as there is text after it (`CustomNodes.isCustomNode_parse`).
-/

namespace PlanViewer

namespace Pattern

theorem parse_of_star {text : String} (hstar : star ∈ text.toList) :
    parse text = .wildcard (pieces star text) := by
  simp [parse, hstar]

theorem parse_of_not_star {text : String} (hstar : star ∉ text.toList) :
    parse text = .literal text := by
  simp [parse, hstar]

/-- Nothing is tested of the empty text. -/
theorem matchesFragments_empty (c : Candidates) : matchesFragments "" c = false :=
  rfl

/-- A text without a star is one fragment. -/
theorem matchesFragments_of_not_star {text : String} (hstar : star ∉ text.toList) (hne : text ≠ "")
    (c : Candidates) : matchesFragments text c = c.anyContains text := by
  have hkept : [text].filter (fun f => decide (f ≠ "")) = [text] := by simp [hne]
  unfold matchesFragments fragmentsMatch
  rw [pieces_of_not_mem hstar, hkept]
  rfl

/-- The empty literal matches every node. -/
theorem matchesNode_parse_empty (c : Candidates) (mode : MatchMode) :
    (parse "").matchesNode c mode = true :=
  matchesNode_literal_iff.mpr c.hold_empty

/-- **Testing a text as fragments is testing it as a pattern**, unless it is empty. -/
theorem matchesFragments_eq {text : String} (hne : text ≠ "") (c : Candidates) :
    matchesFragments text c = (parse text).matchesNode c .overwrite := by
  by_cases hstar : star ∈ text.toList
  · rw [matchesNode_parse_of_star hstar]
    rfl
  · -- a candidate that is equal to a literal holds it, so looking for equality adds nothing
    rw [matchesFragments_of_not_star hstar hne, parse_of_not_star hstar, Bool.eq_iff_iff,
      matchesNode_literal_iff, Candidates.anyContains_iff]

end Pattern

namespace CustomNodes

theorem afterLast_of_not_mem {separator : Char} {text : String} (h : separator ∉ text.toList) :
    afterLast separator text = text := by
  have hlast := getLast?_pieces separator text
  rw [pieces_of_not_mem h] at hlast
  exact (Option.some.inj hlast).symm

/-- **What a list says, told by fragments**: the text after the last comma is tested, and where
there is none every node is custom. -/
theorem isCustomNode_parse {raw : String} (hraw : raw ≠ "") (c : Candidates) :
    (parse raw).isCustomNode c =
      if afterLast comma raw = "" then true
      else Pattern.matchesFragments (afterLast comma raw) c := by
  show (parse raw).matchesNode c .overwrite = _
  rw [matchesNode_parse_overwrite hraw]
  split
  · next hempty => rw [hempty, Pattern.matchesNode_parse_empty]
  · next hne => rw [Pattern.matchesFragments_eq hne]

/-- The last entry of a list is tested as fragments, whatever stands before it. -/
theorem isCustomNode_append_comma {entry : String} (hne : entry ≠ "")
    (hcomma : comma ∉ entry.toList) (raw : String) (c : Candidates) :
    (parse (raw ++ String.singleton comma ++ entry)).isCustomNode c =
      Pattern.matchesFragments entry c := by
  have hlast : afterLast comma (raw ++ String.singleton comma ++ entry) = entry := by
    rw [afterLast_append_comma, afterLast_of_not_mem hcomma]
  rw [isCustomNode_parse (append_separator_ne_empty _ _ _), hlast, if_neg hne]

/-- A list that ends in a comma makes every node custom. -/
theorem isCustomNode_append_comma_empty (raw : String) (c : Candidates) :
    (parse (raw ++ String.singleton comma)).isCustomNode c = true := by
  have hraw := append_separator_ne_empty raw "" comma
  have hlast := afterLast_append_comma raw ""
  rw [String.append_empty] at hraw hlast
  rw [isCustomNode_parse hraw, hlast]
  rfl

end CustomNodes

namespace Pattern

/-- **Fragments and lists agree.** A text that is not empty and has no comma, with stars or without,
gives the same answer tested as fragments, as a list of one entry, as a pattern, and as the last
entry of a list. The empty text is the one exception: tested as fragments it matches no node, and as
the last entry of a list it matches every node; so exactly for the others do fragments and pattern
agree about all nodes. -/
theorem matchesFragments_exact (text : String) :
    (text ≠ "" → ',' ∉ text.toList → ∀ c,
      matchesFragments text c = (CustomNodes.parse text).isCustomNode c ∧
      (CustomNodes.parse text).isCustomNode c = (parse text).matchesNode c .overwrite ∧
      ∀ raw, (CustomNodes.parse (raw ++ "," ++ text)).isCustomNode c = matchesFragments text c) ∧
    (∀ c, matchesFragments "" c = false ∧
      ∀ raw, (CustomNodes.parse (raw ++ ",")).isCustomNode c = true) ∧
    ((∀ c, matchesFragments text c = (parse text).matchesNode c .overwrite) ↔ text ≠ "") := by
  refine ⟨?_, ?_, ?_, ?_⟩
  · intro hne hcomma c
    have hlist : (CustomNodes.parse text).isCustomNode c = (parse text).matchesNode c .overwrite :=
      CustomNodes.matchesNode_parse_of_not_comma hne hcomma c .overwrite
    refine ⟨?_, hlist, ?_⟩
    · rw [hlist, matchesFragments_eq hne]
    · intro raw
      exact CustomNodes.isCustomNode_append_comma hne hcomma raw c
  · intro c
    exact ⟨matchesFragments_empty c, fun raw => CustomNodes.isCustomNode_append_comma_empty raw c⟩
  · rintro hagree rfl
    have hsame := hagree ⟨"", "", ""⟩
    rw [matchesFragments_empty, matchesNode_parse_empty] at hsame
    cases hsame
  · intro hne c
    exact matchesFragments_eq hne c

/-- `b*zzz` is decided by its last fragment in all four ways of asking. -/
theorem matchesFragments_exact_last_fragment :
    ("b*zzz" ≠ "" ∧ ',' ∉ "b*zzz".toList) ∧
      matchesFragments "b*zzz" ⟨"xay", "zbq", ""⟩ = false ∧
      (CustomNodes.parse "b*zzz").isCustomNode ⟨"xay", "zbq", ""⟩ = false ∧
      (parse "b*zzz").matchesNode ⟨"xay", "zbq", ""⟩ .overwrite = false ∧
      (CustomNodes.parse ("b" ++ "," ++ "b*zzz")).isCustomNode ⟨"xay", "zbq", ""⟩ = false := by
  have hne : "b*zzz" ≠ "" := by decide
  have hcomma : ',' ∉ "b*zzz".toList := by decide
  have hfalse : matchesFragments "b*zzz" ⟨"xay", "zbq", ""⟩ = false := by decide
  obtain ⟨hlist, hpattern, hlast⟩ :=
    (matchesFragments_exact "b*zzz").1 hne hcomma ⟨"xay", "zbq", ""⟩
  rw [hfalse] at hlist hlast
  exact ⟨⟨hne, hcomma⟩, hfalse, hlist.symm, hpattern ▸ hlist.symm, hlast "b"⟩

end Pattern

end PlanViewer
