import PlanViewer.Proofs.AccumulatedPatterns

/-!
# Pattern lists and their texts

Writing down what has been read gives the text back: a pattern is its fragments with stars between
them, and a list is the texts of its patterns with commas between them. Nothing is lost or added,
since a text has one piece more than it has separators, and empty pieces are kept. So a list can be
told from its text and the text from its list; the empty text, which is the list without patterns,
is no exception to this.
-/

namespace PlanViewer

open Text

/-! ## The pieces of a text -/

/-- A text has one piece more than it has separators. -/
theorem length_splitOn (separator : Char) (cs : List Char) :
    (cs.splitOn separator).length = cs.count separator + 1 := by
  induction cs with
  | nil => simp
  | cons c cs ih =>
    -- a separator opens a piece, any other character goes to the front of the first one
    rw [List.splitOn_cons_eq_if_modifyHead]
    by_cases hc : c = separator <;> simp [hc, ih]

theorem length_pieces (separator : Char) (s : String) :
    (pieces separator s).length = s.toList.count separator + 1 := by
  rw [pieces, List.length_map, length_splitOn]

theorem not_mem_of_mem_pieces {separator : Char} {piece s : String}
    (h : piece ∈ pieces separator s) : separator ∉ piece.toList :=
  (mem_pieces_iff.mp h).1

/-- Joining the pieces of a text gives the text. -/
theorem intercalate_pieces (separator : Char) (s : String) :
    (String.singleton separator).intercalate (pieces separator s) = s := by
  have hchars : (pieces separator s).map String.toList = s.toList.splitOn separator := by
    simp [pieces]
  rw [← String.toList_inj, String.toList_intercalate, hchars, String.toList_singleton]
  exact List.intercalate_splitOn separator

/-! ## Patterns -/

namespace Pattern

/-- A pattern is a wildcard pattern when its text has a star, and its fragments are the pieces
between stars. -/
theorem parse_eq_wildcard_iff {raw : String} {fragments : List String} :
    parse raw = .wildcard fragments ↔ star ∈ raw.toList ∧ fragments = pieces star raw := by
  rw [parse]
  by_cases hstar : star ∈ raw.toList
  · rw [if_pos (List.contains_iff_mem.mpr hstar)]
    simp [hstar, eq_comm]
  · rw [if_neg fun h => hstar (List.contains_iff_mem.mp h)]
    simp [hstar]

theorem text_parse (raw : String) : (parse raw).text = raw := by
  rw [parse]
  split
  · exact intercalate_pieces star raw
  · rfl

end Pattern

/-! ## Lists -/

namespace CustomNodes

theorem patterns_parse {raw : String} (hraw : raw ≠ "") :
    (parse raw).patterns = (pieces comma raw).map Pattern.parse := by
  rw [parse, if_neg hraw]

/-- The texts of the patterns of a list are the pieces between its commas. -/
theorem map_text_patterns_parse {raw : String} (hraw : raw ≠ "") :
    (parse raw).patterns.map Pattern.text = pieces comma raw := by
  have hid : Pattern.text ∘ Pattern.parse = id := funext Pattern.text_parse
  rw [patterns_parse hraw, List.map_map, hid, List.map_id]

/-- The text that writes a list down gives the text that it was read from. -/
theorem intercalate_text_patterns_parse (raw : String) :
    (String.singleton comma).intercalate ((parse raw).patterns.map Pattern.text) = raw := by
  by_cases hraw : raw = ""
  · subst hraw
    rfl
  · rw [map_text_patterns_parse hraw, intercalate_pieces]

/-- **Lists are read without loss and written back exactly.** A pattern has the text it was read
from; it is a wildcard pattern when there is a star in that text, with one fragment more than there
are stars, none of which has a star. A text that is not empty has one pattern more than it has
commas, none of which has a comma; their texts joined by commas are that text, and reading it again
gives the same list. So no two texts have the same list. -/
theorem parse_text_exact :
    (∀ raw : String, (Pattern.parse raw).text = raw ∧
      ((∃ fragments, Pattern.parse raw = .wildcard fragments) ↔ '*' ∈ raw.toList) ∧
      ∀ fragments, Pattern.parse raw = .wildcard fragments →
        fragments.length = raw.toList.count '*' + 1 ∧ ∀ f ∈ fragments, '*' ∉ f.toList) ∧
    (∀ raw : String, raw ≠ "" →
      (parse raw).patterns.length = raw.toList.count ',' + 1 ∧
      (∀ p ∈ (parse raw).patterns, ',' ∉ p.text.toList) ∧
      ",".intercalate ((parse raw).patterns.map Pattern.text) = raw ∧
      parse (",".intercalate ((parse raw).patterns.map Pattern.text)) = parse raw) ∧
    ∀ raw other : String, raw ≠ other → (parse raw).patterns ≠ (parse other).patterns := by
  refine ⟨?_, ?_, ?_⟩
  · intro raw
    refine ⟨Pattern.text_parse raw, ?_, ?_⟩
    · simp only [Pattern.parse_eq_wildcard_iff]
      exact ⟨fun ⟨_, hstar, _⟩ => hstar, fun hstar => ⟨_, hstar, rfl⟩⟩
    · intro fragments hparse
      obtain ⟨-, rfl⟩ := Pattern.parse_eq_wildcard_iff.mp hparse
      exact ⟨length_pieces _ raw, fun f hf => not_mem_of_mem_pieces hf⟩
  · intro raw hraw
    have hjoin : ",".intercalate ((parse raw).patterns.map Pattern.text) = raw :=
      intercalate_text_patterns_parse raw
    refine ⟨?_, ?_, hjoin, by rw [hjoin]⟩
    · rw [patterns_parse hraw, List.length_map, length_pieces]
      rfl
    · intro p hp
      have htext : p.text ∈ pieces comma raw := by
        rw [← map_text_patterns_parse hraw]
        exact List.mem_map_of_mem hp
      exact not_mem_of_mem_pieces htext
  · intro raw other hne hsame
    apply hne
    rw [← intercalate_text_patterns_parse raw, hsame, intercalate_text_patterns_parse other]

/-- Stars at both ends and in a row, a comma at the start and two in a row: four entries, of which
two are empty. -/
theorem parse_text_exact_empty_entries :
    (",*a**,,b" ≠ "" ∧ ",*a**,,b" ≠ ",*a**,b" ∧
      Pattern.parse "*a**" = .wildcard ["", "a", "", ""]) ∧
    (["", "a", "", ""].length = "*a**".toList.count '*' + 1 ∧
      ∀ f ∈ ["", "a", "", ""], '*' ∉ f.toList) ∧
    (parse ",*a**,,b").patterns.length = ",*a**,,b".toList.count ',' + 1 ∧
    ",".intercalate ((parse ",*a**,,b").patterns.map Pattern.text) = ",*a**,,b" ∧
    (parse ",*a**,,b").patterns ≠ (parse ",*a**,b").patterns := by
  have hne : ",*a**,,b" ≠ "" := by decide
  have hother : ",*a**,,b" ≠ ",*a**,b" := by decide
  have hwild : Pattern.parse "*a**" = .wildcard ["", "a", "", ""] := by decide
  obtain ⟨hpattern, hlist, hdistinct⟩ := parse_text_exact
  obtain ⟨hlength, -, hjoin, -⟩ := hlist _ hne
  exact ⟨⟨hne, hother, hwild⟩, (hpattern _).2.2 _ hwild, hlength, hjoin, hdistinct _ _ hother⟩

end CustomNodes

end PlanViewer
