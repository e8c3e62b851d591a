import PlanViewer.Proofs.AccumulatedPatterns

/-!
# How the two modes compare

Whoever changes the mode wants to know which nodes can change with it. Within a wildcard pattern
accumulate mode asks for more: all fragments have to be held and not just the last one, so a match
there is a match in overwrite mode too. Across the entries of a list it asks for less: any entry may
match and not just the last one. A list on which the first does not matter, since its last entry has
one fragment to test, can only win nodes in accumulate mode; a list on which the second does not
matter, since it has one entry, can only lose them.

When the modes agree about a pattern, whatever the node, can be told from its text: every fragment
has to stand in the last one (`Pattern.matchesNode_agree_iff`).
-/

namespace PlanViewer

/-- A candidate that holds a text holds every part of it. -/
theorem Candidates.Hold.of_isInfix {c : Candidates} {part text : String} (h : c.Hold text)
    (hpart : part.toList <:+: text.toList) : c.Hold part := by
  obtain ⟨candidate, hmem, htext⟩ := h
  exact ⟨candidate, hmem, hpart.trans htext⟩

/-- One candidate alone holds a text that is not empty only within itself. -/
theorem Candidates.isInfix_of_hold_alone {candidate text : String} (hne : text ≠ "")
    (h : Candidates.Hold ⟨candidate, "", ""⟩ text) : text.toList <:+: candidate.toList := by
  obtain ⟨other, hmem, hinfix⟩ := h
  have hempty : ¬ text.toList <:+: "".toList := by
    rw [String.toList_empty, List.infix_nil]
    exact fun hnil => hne (String.toList_eq_nil_iff.mp hnil)
  simp only [Candidates.toList, List.mem_cons, List.not_mem_nil, or_false] at hmem
  rcases hmem with rfl | rfl | rfl
  · exact hinfix
  · exact absurd hinfix hempty
  · exact absurd hinfix hempty

/-! ## Fragments -/

theorem pieces_of_not_mem {separator : Char} {text : String} (h : separator ∉ text.toList) :
    pieces separator text = [text] := by
  rw [pieces, List.splitOn_eq_singleton h, List.map_singleton, String.ofList_toList]

namespace Pattern

/-- The outcomes of all tests in favour include the last one. -/
theorem combine_overwrite_of_accumulate {outcomes : List Bool}
    (h : combine .accumulate outcomes = true) : combine .overwrite outcomes = true := by
  rw [combine, Bool.and_eq_true, Bool.not_eq_true', List.all_eq_true] at h
  obtain ⟨hne, hall⟩ := h
  have hnil : outcomes ≠ [] := by
    rintro rfl
    cases hne
  rw [combine, List.getLastD_eq_getLast?, List.getLast?_eq_some_getLast hnil]
  exact hall _ (List.getLast_mem hnil)

/-- With one test at most there is nothing to combine. -/
theorem combine_eq_of_length_le_one {outcomes : List Bool} (h : outcomes.length ≤ 1) :
    combine .overwrite outcomes = combine .accumulate outcomes := by
  rcases outcomes with _ | ⟨outcome, _ | ⟨next, rest⟩⟩
  · rfl
  · cases outcome <;> rfl
  · simp at h

/-- The fragments of a text that are tested: the pieces between stars that are not empty. -/
def tested (text : String) : List String :=
  (pieces star text).filter fun f => decide (f ≠ "")

theorem mem_tested_iff {f text : String} : f ∈ tested text ↔ IsPiece star f text ∧ f ≠ "" := by
  rw [tested, List.mem_filter, mem_pieces_iff, decide_eq_true_eq]

theorem matchesNode_parse_of_star {text : String} (hstar : star ∈ text.toList) (c : Candidates)
    (mode : MatchMode) :
    (parse text).matchesNode c mode = combine mode ((tested text).map c.anyContains) := by
  rw [parse, if_pos (List.contains_iff_mem.mpr hstar), matchesNode, fragmentsMatch]
  rfl

/-- A literal is tested in the same way in both modes. -/
theorem matchesNode_parse_of_not_star {text : String} (hstar : star ∉ text.toList) (c : Candidates)
    (mode other : MatchMode) :
    (parse text).matchesNode c mode = (parse text).matchesNode c other := by
  rw [parse, if_neg (fun h => hstar (List.contains_iff_mem.mp h)), matchesNode, matchesNode]

/-- **A pattern that matches in accumulate mode matches in overwrite mode.** -/
theorem matchesNode_overwrite_of_accumulate {text : String} {c : Candidates}
    (h : (parse text).matchesNode c .accumulate = true) :
    (parse text).matchesNode c .overwrite = true := by
  by_cases hstar : star ∈ text.toList
  · rw [matchesNode_parse_of_star hstar] at h ⊢
    exact combine_overwrite_of_accumulate h
  · rwa [matchesNode_parse_of_not_star hstar c .overwrite .accumulate]

/-- **The modes agree** about a literal and about a pattern with one fragment to test at most. -/
theorem matchesNode_eq_of_tested {text : String}
    (h : star ∉ text.toList ∨ (tested text).length ≤ 1) (c : Candidates) :
    (parse text).matchesNode c .overwrite = (parse text).matchesNode c .accumulate := by
  by_cases hstar : star ∈ text.toList
  · have hlength : (tested text).length ≤ 1 := h.resolve_left fun hno => hno hstar
    rw [matchesNode_parse_of_star hstar, matchesNode_parse_of_star hstar]
    exact combine_eq_of_length_le_one (by rwa [List.length_map])
  · exact matchesNode_parse_of_not_star hstar c _ _

theorem matchesNode_overwrite_iff_last {text : String} (hstar : star ∈ text.toList)
    {c : Candidates} :
    (parse text).matchesNode c .overwrite = true ↔
      ∃ last ∈ (tested text).getLast?, c.Hold last := by
  rw [matchesNode_parse_of_star hstar, combine, List.getLastD_eq_getLast?, List.getLast?_map]
  rcases (tested text).getLast? with _ | last
  · simp
  · simp [Candidates.anyContains_iff]

/-- **When the modes agree about a pattern, whatever the node**: when every fragment stands in the
last one. Otherwise the last fragment alone tells the modes apart. -/
theorem matchesNode_agree_iff {text : String} :
    (∀ c, (parse text).matchesNode c .overwrite = (parse text).matchesNode c .accumulate) ↔
      ∀ f ∈ tested text, ∀ last ∈ (tested text).getLast?, f.toList <:+: last.toList := by
  by_cases hstar : star ∈ text.toList
  · constructor
    · intro hagree f hf last hlast
      have hover : (parse text).matchesNode ⟨last, "", ""⟩ .overwrite = true :=
        (matchesNode_overwrite_iff_last hstar).mpr
          ⟨last, hlast, last, List.mem_cons_self, List.infix_rfl⟩
      rw [hagree, matchesNode_parse_accumulate_iff] at hover
      obtain ⟨hno, -⟩ | ⟨-, -, hall⟩ := hover
      · exact absurd hstar hno
      · obtain ⟨hpiece, hne⟩ := mem_tested_iff.mp hf
        exact Candidates.isInfix_of_hold_alone hne (hall f hpiece hne)
    · intro hin c
      rw [Bool.eq_iff_iff]
      refine ⟨fun hover => ?_, matchesNode_overwrite_of_accumulate⟩
      obtain ⟨last, hlast, hold⟩ := (matchesNode_overwrite_iff_last hstar).mp hover
      obtain ⟨hpiece, hne⟩ := mem_tested_iff.mp (List.mem_of_getLast? hlast)
      refine matchesNode_parse_accumulate_iff.mpr (Or.inr ⟨hstar, ⟨last, hpiece, hne⟩, ?_⟩)
      intro f hf hfne
      exact hold.of_isInfix (hin f (mem_tested_iff.mpr ⟨hf, hfne⟩) last hlast)
  · refine ⟨fun _ f hf last hlast => ?_, fun _ c => matchesNode_parse_of_not_star hstar c _ _⟩
    -- the only piece of a literal is the literal itself
    have hsingle : ∀ g ∈ tested text, g = text := by
      intro g hg
      rw [tested, pieces_of_not_mem hstar] at hg
      exact List.mem_singleton.mp (List.mem_of_mem_filter hg)
    have hsame : f = last := (hsingle f hf).trans (hsingle last (List.mem_of_getLast? hlast)).symm
    exact hsame ▸ List.infix_rfl

end Pattern

/-! ## Lists -/

namespace CustomNodes

/-- A list whose last entry is not told apart by the modes matches in accumulate mode whenever it
does in overwrite mode. -/
theorem matchesNode_accumulate_of_overwrite {raw : String} (hraw : raw ≠ "") {c : Candidates}
    (hlast : (Pattern.parse (afterLast comma raw)).matchesNode c .overwrite =
      (Pattern.parse (afterLast comma raw)).matchesNode c .accumulate)
    (h : (parse raw).matchesNode c .overwrite = true) :
    (parse raw).matchesNode c .accumulate = true := by
  rw [matchesNode_parse_overwrite hraw, hlast] at h
  rw [matchesNode_parse_accumulate hraw, List.any_eq_true]
  exact ⟨_, List.mem_of_getLast? (getLast?_pieces comma raw), h⟩

/-- A list of one entry is that entry. -/
theorem matchesNode_parse_of_not_comma {raw : String} (hraw : raw ≠ "")
    (hcomma : comma ∉ raw.toList) (c : Candidates) (mode : MatchMode) :
    (parse raw).matchesNode c mode = (Pattern.parse raw).matchesNode c mode := by
  rw [parse, if_neg hraw, pieces_of_not_mem hcomma]
  cases mode with
  | overwrite => rfl
  | accumulate => exact Bool.or_false _

/-- **How the modes compare.** A pattern that matches in accumulate mode matches in overwrite mode.
The modes agree about a literal and about a pattern with at most one fragment that is not empty; and
about every node exactly when each such fragment stands in the last one. So a list that ends in an
entry of the first kind matches in accumulate mode whenever it matches in overwrite mode, and a list
of one entry matches in overwrite mode whenever it matches in accumulate mode. -/
theorem matchesNode_modes_exact (p raw : String) :
    (∀ c, (Pattern.parse p).matchesNode c .accumulate = true →
      (Pattern.parse p).matchesNode c .overwrite = true) ∧
    ('*' ∉ p.toList ∨ (Pattern.tested p).length ≤ 1 →
      ∀ c, (Pattern.parse p).matchesNode c .overwrite =
        (Pattern.parse p).matchesNode c .accumulate) ∧
    ((∀ c, (Pattern.parse p).matchesNode c .overwrite =
        (Pattern.parse p).matchesNode c .accumulate) ↔
      ∀ f ∈ Pattern.tested p, ∀ last ∈ (Pattern.tested p).getLast?,
        f.toList <:+: last.toList) ∧
    (raw ≠ "" →
      '*' ∉ (afterLast ',' raw).toList ∨ (Pattern.tested (afterLast ',' raw)).length ≤ 1 →
      ∀ c, (parse raw).matchesNode c .overwrite = true →
        (parse raw).matchesNode c .accumulate = true) ∧
    (',' ∉ raw.toList → ∀ c, (parse raw).matchesNode c .accumulate = true →
      (parse raw).matchesNode c .overwrite = true) := by
  refine ⟨fun c => Pattern.matchesNode_overwrite_of_accumulate,
    Pattern.matchesNode_eq_of_tested, Pattern.matchesNode_agree_iff, ?_, ?_⟩
  · intro hraw hlast c
    exact matchesNode_accumulate_of_overwrite hraw (Pattern.matchesNode_eq_of_tested hlast c)
  · intro hcomma c h
    by_cases hraw : raw = ""
    · rw [hraw, matchesNode_empty] at h
      cases h
    · rw [matchesNode_parse_of_not_comma hraw hcomma] at h ⊢
      exact Pattern.matchesNode_overwrite_of_accumulate h

/-- `*foo*` has one fragment to test, as the last entry of a list too; and `b*a` is a list of one
entry that matches in both modes. -/
theorem matchesNode_modes_exact_one_fragment :
    ((Pattern.tested "*foo*").length ≤ 1 ∧ "zzz,*foo*" ≠ "" ∧
      (Pattern.tested (afterLast ',' "zzz,*foo*")).length ≤ 1 ∧ ',' ∉ "b*a".toList) ∧
    (Pattern.parse "*foo*").matchesNode ⟨"xfoo", "", ""⟩ .overwrite =
      (Pattern.parse "*foo*").matchesNode ⟨"xfoo", "", ""⟩ .accumulate ∧
    (parse "zzz,*foo*").matchesNode ⟨"xfoo", "", ""⟩ .overwrite = true ∧
    (parse "zzz,*foo*").matchesNode ⟨"xfoo", "", ""⟩ .accumulate = true ∧
    (parse "b*a").matchesNode ⟨"xa", "by", ""⟩ .accumulate = true ∧
    (parse "b*a").matchesNode ⟨"xa", "by", ""⟩ .overwrite = true := by
  obtain ⟨-, hsame, -, hlist, -⟩ := matchesNode_modes_exact "*foo*" "zzz,*foo*"
  obtain ⟨-, -, -, -, hentry⟩ := matchesNode_modes_exact "" "b*a"
  have hover : (parse "zzz,*foo*").matchesNode ⟨"xfoo", "", ""⟩ .overwrite = true := by decide
  have hacc : (parse "b*a").matchesNode ⟨"xa", "by", ""⟩ .accumulate = true := by decide
  have hone : (Pattern.tested "*foo*").length ≤ 1 := by decide
  have hlast : (Pattern.tested (afterLast ',' "zzz,*foo*")).length ≤ 1 := by decide
  exact ⟨⟨hone, by decide, hlast, by decide⟩, hsame (Or.inr hone) _, hover,
    hlist (by decide) (Or.inr hlast) _ hover, hacc, hentry (by decide) _ hacc⟩

/-- With two fragments, or two entries, neither mode implies the other. -/
example :
    ((parse "b*a").matchesNode ⟨"xa", "", ""⟩ .overwrite = true ∧
      (parse "b*a").matchesNode ⟨"xa", "", ""⟩ .accumulate = false) ∧
    (parse "foo,zzz").matchesNode ⟨"foo", "", ""⟩ .overwrite = false ∧
      (parse "foo,zzz").matchesNode ⟨"foo", "", ""⟩ .accumulate = true := by
  decide

end CustomNodes

end PlanViewer
