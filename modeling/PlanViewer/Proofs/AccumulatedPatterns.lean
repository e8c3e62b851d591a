import PlanViewer.Proofs.PatternLists

/-!
# What a pattern list means when outcomes accumulate

In accumulate mode a list is the disjunction of its entries, and a wildcard entry the conjunction of
its fragments that are not empty, of which there has to be one. Both are told from the text: an
entry is a piece between commas, a fragment a piece between stars. A list of two lists is the
disjunction of the two, so neither the order of entries nor their repetition plays a part. The one
exception to every such law is the empty text, which is no entry but the list without entries.
-/

namespace PlanViewer

open Text

/-! ## Pieces of a text -/

/-- A part of a text that holds no separator, with a separator or an end of the text on either
side. -/
def IsPiece (separator : Char) (piece text : String) : Prop :=
  separator ∉ piece.toList ∧
    ∃ before after, text.toList = before ++ piece.toList ++ after ∧
      (before = [] ∨ before.getLast? = some separator) ∧
      (after = [] ∨ after.head? = some separator)

theorem exists_intercalate_around (separator : Char) (xs : List (List Char)) (piece : List Char)
    (ys : List (List Char)) :
    ∃ before after, [separator].intercalate (xs ++ piece :: ys) = before ++ piece ++ after ∧
      (before = [] ∨ before.getLast? = some separator) ∧
      (after = [] ∨ after.head? = some separator) := by
  induction xs with
  | nil =>
    cases ys with
    | nil => exact ⟨[], [], by simp, Or.inl rfl, Or.inl rfl⟩
    | cons y ys =>
      refine ⟨[], separator :: [separator].intercalate (y :: ys), ?_, Or.inl rfl, Or.inr rfl⟩
      rw [List.nil_append, List.intercalate_cons_cons]
      simp
  | cons x xs ih =>
    obtain ⟨before, after, heq, hbefore, hafter⟩ := ih
    refine ⟨x ++ separator :: before, after, ?_, Or.inr ?_, hafter⟩
    · rw [List.cons_append, List.intercalate_cons_of_ne_nil (by simp), heq]
      simp
    · rcases hbefore with rfl | hlast
      · simp
      · rw [List.getLast?_append, List.getLast?_cons, hlast]
        rfl

theorem mem_splitOn_iff {separator : Char} {cs piece : List Char} :
    piece ∈ cs.splitOn separator ↔
      separator ∉ piece ∧ ∃ before after, cs = before ++ piece ++ after ∧
        (before = [] ∨ before.getLast? = some separator) ∧
        (after = [] ∨ after.head? = some separator) := by
  constructor
  · intro hmem
    refine ⟨not_mem_of_mem_splitOn hmem, ?_⟩
    obtain ⟨xs, ys, hsplit⟩ := List.append_of_mem hmem
    have hjoin : [separator].intercalate (cs.splitOn separator) = cs :=
      List.intercalate_splitOn separator
    rw [← hjoin, hsplit]
    exact exists_intercalate_around separator xs piece ys
  · rintro ⟨hnot, before, after, rfl, hbefore, hafter⟩
    have hfirst : piece ∈ (piece ++ after).splitOn separator := by
      rcases hafter with rfl | hhead
      · rw [List.append_nil, List.splitOn_eq_singleton hnot]
        exact List.mem_singleton_self piece
      · obtain ⟨rest, rfl⟩ := List.head?_eq_some_iff.mp hhead
        rw [List.splitOn_append_cons_self, List.splitOn_eq_singleton hnot]
        exact List.mem_append_left _ (List.mem_singleton_self piece)
    rcases hbefore with rfl | hlast
    · exact hfirst
    · obtain ⟨front, rfl⟩ := List.getLast?_eq_some_iff.mp hlast
      rw [List.append_assoc, List.append_assoc, List.singleton_append,
        List.splitOn_append_cons_self]
      exact List.mem_append_right _ hfirst

/-- What splitting gives is what stands between separators. -/
theorem mem_pieces_iff {separator : Char} {piece text : String} :
    piece ∈ pieces separator text ↔ IsPiece separator piece text := by
  have hmem : piece ∈ pieces separator text ↔ piece.toList ∈ text.toList.splitOn separator := by
    rw [pieces, List.mem_map]
    constructor
    · rintro ⟨cs, hcs, rfl⟩
      rwa [String.toList_ofList]
    · intro hcs
      exact ⟨piece.toList, hcs, String.ofList_toList⟩
  rw [hmem, mem_splitOn_iff]
  rfl

/-! ## Joined texts -/

theorem pieces_append (separator : Char) (a b : String) :
    pieces separator (a ++ String.singleton separator ++ b) =
      pieces separator a ++ pieces separator b := by
  unfold pieces
  rw [CustomNodes.toList_append_separator, List.splitOn_append_cons_self, List.map_append]

/-- The pieces of joined texts are the pieces of the texts. -/
theorem pieces_intercalate (separator : Char) (text : String) (texts : List String) :
    pieces separator ((String.singleton separator).intercalate (text :: texts)) =
      (text :: texts).flatMap (pieces separator) := by
  induction texts generalizing text with
  | nil => simp
  | cons next texts ih =>
    rw [String.intercalate_cons_cons, pieces_append, ih, List.flatMap_cons (x := text)]

/-! ## Wildcard patterns -/

namespace Pattern

/-- Every fragment that is not empty has to be held, and there has to be one. -/
theorem fragmentsMatch_accumulate_iff {fragments : List String} {c : Candidates} :
    fragmentsMatch fragments c .accumulate = true ↔
      (∃ f ∈ fragments, f ≠ "") ∧ ∀ f ∈ fragments, f ≠ "" → c.Hold f := by
  set tested := fragments.filter fun f => decide (f ≠ "") with htested
  have hmem : ∀ f, f ∈ tested ↔ f ∈ fragments ∧ f ≠ "" := by
    intro f
    rw [htested, List.mem_filter, decide_eq_true_eq]
  have hsome : (tested.map c.anyContains).isEmpty = false ↔ ∃ f ∈ fragments, f ≠ "" := by
    rw [List.isEmpty_map, List.isEmpty_eq_false_iff_exists_mem]
    simp [hmem]
  have hall : (tested.map c.anyContains).all id = true ↔ ∀ f ∈ fragments, f ≠ "" → c.Hold f := by
    rw [List.all_map, List.all_eq_true]
    simp [hmem, Candidates.anyContains_iff]
  rw [fragmentsMatch, combine, Bool.and_eq_true, Bool.not_eq_true', hsome, hall]

/-- What a pattern means, told from its text. -/
theorem matchesNode_parse_accumulate_iff {text : String} {c : Candidates} :
    (parse text).matchesNode c .accumulate = true ↔
      (star ∉ text.toList ∧ c.Hold text) ∨
        (star ∈ text.toList ∧ (∃ f, IsPiece star f text ∧ f ≠ "") ∧
          ∀ f, IsPiece star f text → f ≠ "" → c.Hold f) := by
  by_cases hstar : star ∈ text.toList
  · rw [parse, if_pos (List.contains_iff_mem.mpr hstar), matchesNode,
      fragmentsMatch_accumulate_iff]
    simp [hstar, mem_pieces_iff]
  · rw [parse, if_neg (fun h => hstar (List.contains_iff_mem.mp h)), matchesNode_literal_iff]
    simp [hstar]

end Pattern

/-! ## Lists -/

namespace CustomNodes

theorem matchesNode_parse_accumulate {raw : String} (hraw : raw ≠ "") (c : Candidates) :
    (parse raw).matchesNode c .accumulate =
      (pieces comma raw).any fun entry => (Pattern.parse entry).matchesNode c .accumulate := by
  rw [parse, if_neg hraw, matchesNode]
  simp only [List.map_map, List.any_map]
  rfl

theorem matchesNode_empty (c : Candidates) (mode : MatchMode) :
    (parse "").matchesNode c mode = false := by
  cases mode <;> rfl

/-- A list matches when one of its entries does. -/
theorem matchesNode_parse_accumulate_iff {raw : String} {c : Candidates} :
    (parse raw).matchesNode c .accumulate = true ↔
      raw ≠ "" ∧ ∃ entry, IsPiece comma entry raw ∧
        (Pattern.parse entry).matchesNode c .accumulate = true := by
  by_cases hraw : raw = ""
  · subst hraw
    simp [matchesNode_empty]
  · rw [matchesNode_parse_accumulate hraw, List.any_eq_true]
    simp [hraw, mem_pieces_iff]

/-- Of joined lists one has to match, where an empty text among them counts as an empty entry. -/
theorem matchesNode_intercalate_iff {texts : List String} {c : Candidates}
    (hne : (String.singleton comma).intercalate texts ≠ "") :
    (parse ((String.singleton comma).intercalate texts)).matchesNode c .accumulate = true ↔
      ∃ text ∈ texts, ∃ entry ∈ pieces comma text,
        (Pattern.parse entry).matchesNode c .accumulate = true := by
  cases texts with
  | nil => exact absurd rfl hne
  | cons text texts =>
    rw [matchesNode_parse_accumulate hne, pieces_intercalate, List.any_eq_true]
    simp only [List.mem_flatMap]
    tauto

/-- Joined texts that are the same up to order and repetition match alike. -/
theorem matchesNode_intercalate_congr {texts other : List String}
    (hsame : ∀ text, text ∈ texts ↔ text ∈ other)
    (hne : (String.singleton comma).intercalate texts ≠ "")
    (hne' : (String.singleton comma).intercalate other ≠ "") (c : Candidates) :
    (parse ((String.singleton comma).intercalate texts)).matchesNode c .accumulate =
      (parse ((String.singleton comma).intercalate other)).matchesNode c .accumulate := by
  rw [Bool.eq_iff_iff, matchesNode_intercalate_iff hne, matchesNode_intercalate_iff hne']
  simp only [hsame]

/-- Joining gives the empty text only from nothing, or from one empty text. -/
theorem intercalate_eq_empty_iff {texts : List String} :
    (String.singleton comma).intercalate texts = "" ↔ texts = [] ∨ texts = [""] := by
  rcases texts with _ | ⟨text, _ | ⟨next, texts⟩⟩
  · simp
  · simp
  · rw [String.intercalate_cons_cons]
    simp

/-- The order of joined texts plays no part. -/
theorem matchesNode_intercalate_of_perm {texts other : List String} (h : texts.Perm other)
    (c : Candidates) :
    (parse ((String.singleton comma).intercalate texts)).matchesNode c .accumulate =
      (parse ((String.singleton comma).intercalate other)).matchesNode c .accumulate := by
  by_cases hempty : (String.singleton comma).intercalate texts = ""
  · -- nothing, or one empty text, has no other order
    rcases intercalate_eq_empty_iff.mp hempty with rfl | rfl
    · rw [List.nil_perm.mp h]
    · rw [List.singleton_perm.mp h]
  · have hempty' : (String.singleton comma).intercalate other ≠ "" := by
      intro hother
      apply hempty
      rw [intercalate_eq_empty_iff] at hother ⊢
      rcases hother with rfl | rfl
      · exact Or.inl (List.perm_nil.mp h)
      · exact Or.inr (List.perm_singleton.mp h)
    exact matchesNode_intercalate_congr (fun text => h.mem_iff) hempty hempty' c

theorem matchesNode_append_comma_accumulate {a b : String} (ha : a ≠ "") (hb : b ≠ "")
    (c : Candidates) :
    (parse (a ++ String.singleton comma ++ b)).matchesNode c .accumulate =
      ((parse a).matchesNode c .accumulate || (parse b).matchesNode c .accumulate) := by
  rw [matchesNode_parse_accumulate (append_separator_ne_empty _ _ _),
    matchesNode_parse_accumulate ha, matchesNode_parse_accumulate hb, pieces_append,
    List.any_append]

/-- **What accumulate mode means.** A node is custom by a list that is not empty exactly when some
entry between its commas is a literal that some candidate holds, or a wildcard pattern which has
fragments that are not empty and each of whose fragments is held by some candidate. So entries may
change places and be repeated, and two lists joined by a comma match when one of them does. -/
theorem matchesNode_accumulate_exact (raw : String) (c : Candidates) :
    ((parse raw).matchesNode c .accumulate = true ↔
      raw ≠ "" ∧ ∃ entry, IsPiece ',' entry raw ∧
        (('*' ∉ entry.toList ∧ c.Hold entry) ∨
          ('*' ∈ entry.toList ∧ (∃ f, IsPiece '*' f entry ∧ f ≠ "") ∧
            ∀ f, IsPiece '*' f entry → f ≠ "" → c.Hold f))) ∧
      (∀ entries other : List String, entries.Perm other →
        (parse (",".intercalate entries)).matchesNode c .accumulate =
          (parse (",".intercalate other)).matchesNode c .accumulate) ∧
      (∀ entries other : List String, entries ⊆ other → other ⊆ entries →
        ",".intercalate entries ≠ "" → ",".intercalate other ≠ "" →
        (parse (",".intercalate entries)).matchesNode c .accumulate =
          (parse (",".intercalate other)).matchesNode c .accumulate) ∧
      ∀ a b, a ≠ "" → b ≠ "" →
        (parse (a ++ "," ++ b)).matchesNode c .accumulate =
          ((parse a).matchesNode c .accumulate || (parse b).matchesNode c .accumulate) := by
  refine ⟨?_, ?_, ?_, ?_⟩
  · rw [matchesNode_parse_accumulate_iff]
    simp only [Pattern.matchesNode_parse_accumulate_iff]
    rfl
  · intro entries other hperm
    exact matchesNode_intercalate_of_perm hperm c
  · intro entries other hsub hsub' hne hne'
    exact matchesNode_intercalate_congr (fun text => ⟨@hsub text, @hsub' text⟩) hne hne' c
  · intro a b ha hb
    exact matchesNode_append_comma_accumulate ha hb c

/-- `b*a` needs both of its fragments, which two candidates hold here, wherever it stands in the
list and however often. -/
theorem matchesNode_accumulate_exact_two_fragments :
    (["zzz", "b*a"].Perm ["b*a", "zzz"] ∧ ["zzz", "b*a"] ⊆ ["b*a", "zzz", "b*a"] ∧
      ["b*a", "zzz", "b*a"] ⊆ ["zzz", "b*a"] ∧ ",".intercalate ["zzz", "b*a"] ≠ "" ∧
      ",".intercalate ["b*a", "zzz", "b*a"] ≠ "" ∧ "zzz" ≠ "" ∧ "b*a" ≠ "") ∧
    (parse (",".intercalate ["zzz", "b*a"])).matchesNode ⟨"xa", "by", ""⟩ .accumulate =
      (parse (",".intercalate ["b*a", "zzz"])).matchesNode ⟨"xa", "by", ""⟩ .accumulate ∧
    (parse (",".intercalate ["zzz", "b*a"])).matchesNode ⟨"xa", "by", ""⟩ .accumulate =
      (parse (",".intercalate ["b*a", "zzz", "b*a"])).matchesNode ⟨"xa", "by", ""⟩ .accumulate ∧
    (parse ("zzz" ++ "," ++ "b*a")).matchesNode ⟨"xa", "by", ""⟩ .accumulate =
      ((parse "zzz").matchesNode ⟨"xa", "by", ""⟩ .accumulate ||
        (parse "b*a").matchesNode ⟨"xa", "by", ""⟩ .accumulate) ∧
    (parse "zzz,b*a").matchesNode ⟨"xa", "by", ""⟩ .accumulate = true := by
  have hperm : ["zzz", "b*a"].Perm ["b*a", "zzz"] := List.Perm.swap _ _ _
  have hsub : ["zzz", "b*a"] ⊆ ["b*a", "zzz", "b*a"] := by simp
  have hsub' : ["b*a", "zzz", "b*a"] ⊆ ["zzz", "b*a"] := by simp
  have hne : ",".intercalate ["zzz", "b*a"] ≠ "" := by decide
  have hne' : ",".intercalate ["b*a", "zzz", "b*a"] ≠ "" := by decide
  obtain ⟨-, horder, hrepeat, hjoin⟩ :=
    matchesNode_accumulate_exact "zzz,b*a" ⟨"xa", "by", ""⟩
  exact ⟨⟨hperm, hsub, hsub', hne, hne', by decide, by decide⟩, horder _ _ hperm,
    hrepeat _ _ hsub hsub' hne hne', hjoin _ _ (by decide) (by decide), by decide⟩

end CustomNodes

end PlanViewer
