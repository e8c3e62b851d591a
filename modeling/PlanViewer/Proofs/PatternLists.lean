import PlanViewer.Matching.CustomNodes
import PlanViewer.Proofs.TextParts

/-!
# What a pattern list means

In overwrite mode the last entry of a list decides, and of a wildcard entry its last fragment that
is not empty. So the answer can be told from the end of the list alone: the text after the last
comma, and within it the text after the last star that has something behind it.
-/

namespace PlanViewer

open Text

/-! ## Texts in candidates -/

/-- Whether a text is a part of some candidate. -/
def Candidates.Hold (c : Candidates) (text : String) : Prop :=
  ∃ candidate ∈ c.toList, text.toList <:+: candidate.toList

theorem occursIn_iff_isInfix {part text : List Char} :
    occursIn part text = true ↔ part <:+: text := by
  rw [occursIn_iff]
  constructor
  · rintro ⟨before, after, rfl⟩
    exact ⟨before, after, rfl⟩
  · rintro ⟨before, after, rfl⟩
    exact ⟨before, after, rfl⟩

theorem Candidates.anyContains_iff {c : Candidates} {text : String} :
    c.anyContains text = true ↔ c.Hold text := by
  rw [Candidates.anyContains, List.any_eq_true]
  exact exists_congr fun candidate => and_congr_right fun _ => occursIn_iff_isInfix

theorem Candidates.hold_of_anyEquals {c : Candidates} {text : String}
    (h : c.anyEquals text = true) : c.Hold text := by
  rw [Candidates.anyEquals, List.any_eq_true] at h
  obtain ⟨candidate, hmem, heq⟩ := h
  rw [decide_eq_true_eq] at heq
  subst heq
  exact ⟨candidate, hmem, List.infix_rfl⟩

theorem Candidates.hold_empty (c : Candidates) : c.Hold "" :=
  ⟨c.first, List.mem_cons_self, List.nil_infix⟩

namespace Pattern

theorem matchesNode_literal_iff {text : String} {c : Candidates} {mode : MatchMode} :
    (literal text).matchesNode c mode = true ↔ c.Hold text := by
  rw [matchesNode, Bool.or_eq_true, Candidates.anyContains_iff]
  exact ⟨fun h => h.elim Candidates.hold_of_anyEquals id, Or.inr⟩

end Pattern

/-! ## The end of a text -/

/-- What follows the last separator of a text, and the whole text where there is none. -/
def afterLast (separator : Char) (s : String) : String :=
  String.ofList (s.toList.rtakeWhile fun c => decide (c ≠ separator))

theorem rtakeWhile_append_cons {separator : Char} (before after : List Char) :
    (before ++ separator :: after).rtakeWhile (fun c => decide (c ≠ separator)) =
      after.rtakeWhile fun c => decide (c ≠ separator) := by
  rw [List.rtakeWhile, List.rtakeWhile, List.reverse_append, List.reverse_cons, List.append_assoc,
    List.takeWhile_append]
  split
  · next hall =>
    rw [List.singleton_append, List.takeWhile_cons_of_neg (by simp), List.append_nil,
      (List.takeWhile_prefix _).eq_of_length hall]
  · rfl

theorem rtakeWhile_append_of_mem {separator : Char} (before : List Char) {after : List Char}
    (h : separator ∈ after) :
    (before ++ after).rtakeWhile (fun c => decide (c ≠ separator)) =
      after.rtakeWhile fun c => decide (c ≠ separator) := by
  obtain ⟨xs, ys, rfl⟩ := List.append_of_mem h
  rw [← List.append_assoc, rtakeWhile_append_cons, rtakeWhile_append_cons]

theorem rtakeWhile_append_of_not_mem {separator : Char} (before : List Char) {after : List Char}
    (h : separator ∉ after) :
    (before ++ after).rtakeWhile (fun c => decide (c ≠ separator)) =
      before.rtakeWhile (fun c => decide (c ≠ separator)) ++ after := by
  have hall : ∀ c ∈ after.reverse, decide (c ≠ separator) = true := by
    intro c hc
    rw [decide_eq_true_eq]
    rintro rfl
    exact h (List.mem_reverse.mp hc)
  rw [List.rtakeWhile, List.reverse_append, List.takeWhile_append_of_pos hall,
    List.reverse_append, List.reverse_reverse]
  rfl

theorem rdropWhile_append (test : Char → Bool) (before after : List Char) :
    (before ++ after).rdropWhile test =
      if after.rdropWhile test = [] then before.rdropWhile test
      else before ++ after.rdropWhile test := by
  rw [List.rdropWhile, List.reverse_append, List.dropWhile_append]
  by_cases h : after.reverse.dropWhile test = []
  · rw [if_pos (by rw [h]; rfl), if_pos (by rw [List.rdropWhile, h]; rfl)]
    rfl
  · rw [if_neg (by rwa [List.isEmpty_iff]),
      if_neg (by rwa [List.rdropWhile, List.reverse_eq_nil_iff])]
    rw [List.reverse_append, List.reverse_reverse]
    rfl

theorem getLast?_pieces (separator : Char) (s : String) :
    (pieces separator s).getLast? = some (afterLast separator s) := by
  rw [pieces, List.getLast?_map, getLast?_splitOn]
  rfl

namespace Pattern

/-- A fragment of a wildcard pattern that is not empty, with nothing but stars behind it. -/
def IsLastFragment (fragment text : String) : Prop :=
  fragment ≠ "" ∧ star ∉ fragment.toList ∧
    ∃ before after, text.toList = before ++ fragment.toList ++ after ∧
      (before = [] ∨ before.getLast? = some star) ∧ ∀ c ∈ after, c = star

/-- The last fragment that is not empty, or the empty text where all are: what follows the last
star once the stars at the end are left out. -/
def lastFragment (cs : List Char) : List Char :=
  (cs.rdropWhile fun c => decide (c = star)).rtakeWhile fun c => decide (c ≠ star)

theorem star_not_mem_lastFragment (cs : List Char) : star ∉ lastFragment cs := by
  intro hmem
  simpa using List.mem_rtakeWhile_imp hmem

theorem lastFragment_concat_star (cs : List Char) :
    lastFragment (cs ++ [star]) = lastFragment cs := by
  rw [lastFragment, List.rdropWhile_concat_pos _ _ _ (by simp)]
  rfl

theorem lastFragment_concat {c : Char} (hc : c ≠ star) (cs : List Char) :
    lastFragment (cs ++ [c]) = (cs ++ [c]).rtakeWhile fun c => decide (c ≠ star) := by
  rw [lastFragment, List.rdropWhile_concat_neg _ _ _ (by simpa using hc)]

theorem lastFragment_ne_nil {c : Char} (hc : c ≠ star) (cs : List Char) :
    lastFragment (cs ++ [c]) ≠ [] := by
  rw [lastFragment_concat hc, List.rtakeWhile_concat_pos _ _ _ (by simpa using hc)]
  exact List.concat_ne_nil _ _

/-- What stands before a star plays no part when there is a fragment after it. -/
theorem lastFragment_append_star (before : List Char) {after : List Char}
    (h : ∃ c ∈ after, c ≠ star) : lastFragment (before ++ star :: after) = lastFragment after := by
  have hne : after.rdropWhile (fun c => decide (c = star)) ≠ [] := by
    intro hnil
    obtain ⟨c, hc, hstar⟩ := h
    exact hstar (by simpa using List.rdropWhile_eq_nil_iff.mp hnil c hc)
  rw [lastFragment, ← List.singleton_append, ← List.append_assoc, rdropWhile_append, if_neg hne,
    List.append_assoc, List.singleton_append, rtakeWhile_append_cons]
  rfl

/-- The two descriptions of the last fragment agree. -/
theorem isLastFragment_iff {fragment text : String} :
    IsLastFragment fragment text ↔ fragment ≠ "" ∧ lastFragment text.toList = fragment.toList := by
  constructor
  · rintro ⟨hne, hstar, before, after, htext, hbefore, hafter⟩
    refine ⟨hne, ?_⟩
    have hnil : fragment.toList ≠ [] := fun h => hne (String.toList_inj.mp h)
    have hkeep : fragment.toList.rdropWhile (fun c => decide (c = star)) = fragment.toList := by
      rw [List.rdropWhile_eq_self_iff]
      intro hl hlast
      rw [decide_eq_true_eq] at hlast
      exact hstar (hlast ▸ List.getLast_mem hl)
    -- dropping the stars at the end leaves the text up to the fragment
    have hdrop : text.toList.rdropWhile (fun c => decide (c = star)) =
        before ++ fragment.toList := by
      have hstars : after.rdropWhile (fun c => decide (c = star)) = [] := by
        rw [List.rdropWhile_eq_nil_iff]
        exact fun c hc => by rw [decide_eq_true_eq]; exact hafter c hc
      rw [htext, rdropWhile_append, if_pos hstars, rdropWhile_append, hkeep, if_neg hnil]
    have htake : fragment.toList.rtakeWhile (fun c => decide (c ≠ star)) = fragment.toList := by
      rw [List.rtakeWhile_eq_self_iff]
      intro c hc
      rw [decide_eq_true_eq]
      rintro rfl
      exact hstar hc
    rw [lastFragment, hdrop]
    rcases hbefore with rfl | hbefore
    · exact htake
    · obtain ⟨front, rfl⟩ := List.getLast?_eq_some_iff.mp hbefore
      rw [List.append_assoc, List.singleton_append, rtakeWhile_append_cons, htake]
  · rintro ⟨hne, hfragment⟩
    set body := text.toList.rdropWhile (fun c => decide (c = star)) with hbody
    refine ⟨hne, hfragment ▸ star_not_mem_lastFragment _,
      body.rdropWhile (fun c => decide (c ≠ star)),
      text.toList.rtakeWhile (fun c => decide (c = star)), ?_, ?_, ?_⟩
    · rw [← hfragment, lastFragment, List.rdropWhile_append_rtakeWhile,
        List.rdropWhile_append_rtakeWhile]
    · by_cases hnil : body.rdropWhile (fun c => decide (c ≠ star)) = []
      · exact Or.inl hnil
      · refine Or.inr ?_
        rw [List.getLast?_eq_some_getLast hnil]
        simpa using List.rdropWhile_last_not _ _ hnil
    · intro c hc
      simpa using List.mem_rtakeWhile_imp hc

theorem getLast?_filter_of_getLast? {α : Type} {l : List α} {x : α} (h : l.getLast? = some x)
    {test : α → Bool} (hx : test x = true) : (l.filter test).getLast? = some x := by
  obtain ⟨front, rfl⟩ := List.getLast?_eq_some_iff.mp h
  rw [List.filter_append, List.filter_cons_of_pos hx, List.filter_nil, List.getLast?_concat]

theorem getLast?_filter_splitOn (cs : List Char) :
    ((cs.splitOn star).filter fun piece => decide (piece ≠ [])).getLast? =
      if lastFragment cs = [] then none else some (lastFragment cs) := by
  -- from the end of the text: a star adds an empty piece, any other character the last fragment
  induction cs using List.reverseRecOn with
  | nil => rfl
  | append_singleton cs c ih =>
    by_cases hc : c = star
    · subst hc
      have hsplit : (cs ++ [star]).splitOn star = cs.splitOn star ++ [[]] := by
        rw [List.splitOn_append_cons_self, List.splitOn_nil]
      rw [hsplit, List.filter_append, List.filter_cons_of_neg (by simp), List.filter_nil,
        List.append_nil, ih, lastFragment_concat_star]
    · have hne := lastFragment_ne_nil hc cs
      rw [if_neg hne]
      refine getLast?_filter_of_getLast? ?_ (by rwa [decide_eq_true_eq])
      rw [getLast?_splitOn, lastFragment_concat hc]

theorem getLast?_filter_pieces (text : String) :
    ((pieces star text).filter fun f => decide (f ≠ "")).getLast? =
      if lastFragment text.toList = [] then none
      else some (String.ofList (lastFragment text.toList)) := by
  have hfilter : ((pieces star text).filter fun f => decide (f ≠ "")) =
      ((text.toList.splitOn star).filter fun piece => decide (piece ≠ [])).map String.ofList := by
    rw [pieces, List.filter_map]
    congr 1
    apply List.filter_congr
    intro piece _
    rw [Function.comp_apply, decide_eq_decide, not_iff_not]
    exact String.ofList_eq_empty_iff
  rw [hfilter, List.getLast?_map, getLast?_filter_splitOn]
  split
  · rfl
  · rfl

/-- The last fragment decides about a wildcard pattern. -/
theorem fragmentsMatch_overwrite_iff {text : String} {c : Candidates} :
    fragmentsMatch (pieces star text) c .overwrite = true ↔
      ∃ fragment, IsLastFragment fragment text ∧ c.Hold fragment := by
  rw [fragmentsMatch, combine, List.getLastD_eq_getLast?, List.getLast?_map,
    getLast?_filter_pieces]
  by_cases hnil : lastFragment text.toList = []
  · rw [if_pos hnil]
    constructor
    · intro h
      exact absurd h Bool.false_ne_true
    · rintro ⟨fragment, hlast, _⟩
      obtain ⟨hne, heq⟩ := isLastFragment_iff.mp hlast
      exact absurd (String.toList_eq_nil_iff.mp (heq.symm.trans hnil)) hne
  · rw [if_neg hnil]
    show c.anyContains (String.ofList (lastFragment text.toList)) = true ↔ _
    rw [Candidates.anyContains_iff]
    constructor
    · intro hold
      refine ⟨_, isLastFragment_iff.mpr ⟨?_, String.toList_ofList.symm⟩, hold⟩
      exact fun hempty => hnil (String.ofList_eq_empty_iff.mp hempty)
    · rintro ⟨fragment, hlast, hold⟩
      rw [(isLastFragment_iff.mp hlast).2, String.ofList_toList]
      exact hold

theorem matchesNode_parse_overwrite_iff {text : String} {c : Candidates} :
    (parse text).matchesNode c .overwrite = true ↔
      (star ∉ text.toList ∧ c.Hold text) ∨
        (star ∈ text.toList ∧ ∃ fragment, IsLastFragment fragment text ∧ c.Hold fragment) := by
  by_cases hstar : star ∈ text.toList
  · rw [parse, if_pos (List.contains_iff_mem.mpr hstar), matchesNode,
      fragmentsMatch_overwrite_iff]
    exact ⟨fun h => Or.inr ⟨hstar, h⟩, fun h => h.elim (fun h => absurd hstar h.1) And.right⟩
  · rw [parse, if_neg (fun h => hstar (List.contains_iff_mem.mp h)), matchesNode_literal_iff]
    exact ⟨fun h => Or.inl ⟨hstar, h⟩, fun h => h.elim And.right fun h => absurd h.1 hstar⟩

end Pattern

namespace CustomNodes

/-- The last entry decides about a list. -/
theorem matchesNode_parse_overwrite {raw : String} (hraw : raw ≠ "") (c : Candidates) :
    (parse raw).matchesNode c .overwrite =
      (Pattern.parse (afterLast comma raw)).matchesNode c .overwrite := by
  rw [parse, if_neg hraw, matchesNode, List.map_map]
  simp only [List.getLastD_eq_getLast?, List.getLast?_map, getLast?_pieces]
  rw [Option.map_some, Option.getD_some, Function.comp_apply]

theorem toList_append_separator (before after : String) (separator : Char) :
    (before ++ String.singleton separator ++ after).toList =
      before.toList ++ separator :: after.toList := by
  simp

theorem append_separator_ne_empty (before after : String) (separator : Char) :
    before ++ String.singleton separator ++ after ≠ "" := by
  intro h
  have hnil := congrArg String.toList h
  rw [toList_append_separator] at hnil
  exact List.append_ne_nil_of_right_ne_nil _ (List.cons_ne_nil _ _) hnil

theorem afterLast_append_comma (before after : String) :
    afterLast comma (before ++ String.singleton comma ++ after) = afterLast comma after := by
  rw [afterLast, toList_append_separator, rtakeWhile_append_cons]
  rfl

theorem matchesNode_append_comma (before raw : String) (c : Candidates) :
    (parse (before ++ String.singleton comma ++ raw)).matchesNode c .overwrite =
      (Pattern.parse (afterLast comma raw)).matchesNode c .overwrite := by
  rw [matchesNode_parse_overwrite (append_separator_ne_empty _ _ _), afterLast_append_comma]

/-- A star in the last entry makes it a wildcard pattern, and what stands before the star plays no
part when a fragment follows. -/
theorem matchesNode_append_star_iff (before : String) {raw : String} (hcomma : comma ∉ raw.toList)
    (hraw : ∃ x ∈ raw.toList, x ≠ Pattern.star) {c : Candidates} :
    (parse (before ++ String.singleton Pattern.star ++ raw)).matchesNode c .overwrite = true ↔
      ∃ fragment, Pattern.IsLastFragment fragment raw ∧ c.Hold fragment := by
  have hlast : (afterLast comma (before ++ String.singleton Pattern.star ++ raw)).toList =
      before.toList.rtakeWhile (fun x => decide (x ≠ comma)) ++ Pattern.star :: raw.toList := by
    have hmem : comma ∉ Pattern.star :: raw.toList := by
      rw [List.mem_cons, not_or]
      exact ⟨by decide, hcomma⟩
    rw [afterLast, String.toList_ofList, toList_append_separator,
      rtakeWhile_append_of_not_mem _ hmem]
  have hstar : Pattern.star ∈
      (afterLast comma (before ++ String.singleton Pattern.star ++ raw)).toList := by
    rw [hlast]
    exact List.mem_append_right _ List.mem_cons_self
  have hfragment : ∀ fragment, Pattern.IsLastFragment fragment
      (afterLast comma (before ++ String.singleton Pattern.star ++ raw)) ↔
        Pattern.IsLastFragment fragment raw := by
    intro fragment
    rw [Pattern.isLastFragment_iff, Pattern.isLastFragment_iff, hlast,
      Pattern.lastFragment_append_star _ hraw]
  rw [matchesNode_parse_overwrite (append_separator_ne_empty _ _ _),
    Pattern.matchesNode_parse_overwrite_iff]
  constructor
  · rintro (⟨hno, _⟩ | ⟨_, fragment, hlast, hold⟩)
    · exact absurd hstar hno
    · exact ⟨fragment, (hfragment fragment).mp hlast, hold⟩
  · rintro ⟨fragment, hlast, hold⟩
    exact Or.inr ⟨hstar, fragment, (hfragment fragment).mpr hlast, hold⟩

/-- What stands before a star plays no part when a fragment follows. -/
theorem matchesNode_append_star_congr (before other : String) {raw : String}
    (hraw : ∃ x ∈ raw.toList, x ≠ Pattern.star) (c : Candidates) :
    (parse (before ++ String.singleton Pattern.star ++ raw)).matchesNode c .overwrite =
      (parse (other ++ String.singleton Pattern.star ++ raw)).matchesNode c .overwrite := by
  by_cases hcomma : comma ∈ raw.toList
  · have hlast : ∀ front : String, afterLast comma (front ++ String.singleton Pattern.star ++ raw) =
        afterLast comma raw := by
      intro front
      rw [afterLast, String.toList_append, rtakeWhile_append_of_mem _ hcomma]
      rfl
    rw [matchesNode_parse_overwrite (append_separator_ne_empty _ _ _), hlast,
      matchesNode_parse_overwrite (append_separator_ne_empty _ _ _), hlast]
  · rw [Bool.eq_iff_iff, matchesNode_append_star_iff before hcomma hraw,
      matchesNode_append_star_iff other hcomma hraw]

/-- **What overwrite mode means.** A node is custom by a list that is not empty exactly when the
text after its last comma is a literal that some candidate holds, as it does the empty one, or a
wildcard pattern with a last fragment that some candidate holds. So neither an earlier entry nor an
earlier fragment can change the answer, and without a list there is no custom node. -/
theorem matchesNode_overwrite_exact (raw : String) (c : Candidates) :
    ((parse raw).matchesNode c .overwrite = true ↔
      raw ≠ "" ∧
        (('*' ∉ (afterLast ',' raw).toList ∧ c.Hold (afterLast ',' raw)) ∨
          ('*' ∈ (afterLast ',' raw).toList ∧
            ∃ fragment, Pattern.IsLastFragment fragment (afterLast ',' raw) ∧
              c.Hold fragment))) ∧
      c.Hold "" ∧
      (∀ before other, (parse (before ++ "," ++ raw)).matchesNode c .overwrite =
        (parse (other ++ "," ++ raw)).matchesNode c .overwrite) ∧
      (∀ before other, (∃ x ∈ raw.toList, x ≠ '*') →
        (parse (before ++ "*" ++ raw)).matchesNode c .overwrite =
          (parse (other ++ "*" ++ raw)).matchesNode c .overwrite) ∧
      (ofPreference none).matchesNode c .overwrite = false ∧
      (ofPreference (some "")).matchesNode c .overwrite = false := by
  refine ⟨?_, c.hold_empty, ?_, ?_, rfl, rfl⟩
  · by_cases hraw : raw = ""
    · subst hraw
      exact ⟨fun h => absurd h Bool.false_ne_true, fun h => absurd rfl h.1⟩
    · rw [matchesNode_parse_overwrite hraw, Pattern.matchesNode_parse_overwrite_iff]
      exact ⟨fun h => ⟨hraw, h⟩, And.right⟩
  · intro before other
    exact (matchesNode_append_comma before raw c).trans (matchesNode_append_comma other raw c).symm
  · intro before other hraw
    exact matchesNode_append_star_congr before other hraw c

/-- Of `foo,b*zzz*` the fragment `zzz` decides, and a candidate that holds it is enough. -/
theorem matchesNode_overwrite_exact_trailing_star :
    (∃ x ∈ "zzz*".toList, x ≠ '*') ∧
      (parse ("foo,b" ++ "*" ++ "zzz*")).matchesNode ⟨"foo", "xzzzy", ""⟩ .overwrite =
        (parse ("" ++ "*" ++ "zzz*")).matchesNode ⟨"foo", "xzzzy", ""⟩ .overwrite :=
  ⟨⟨'z', by decide, by decide⟩,
    (matchesNode_overwrite_exact "zzz*" ⟨"foo", "xzzzy", ""⟩).2.2.2.1 "foo,b" ""
      ⟨'z', by decide, by decide⟩⟩

end CustomNodes

end PlanViewer
