import Mathlib.Data.List.DropRight
import Mathlib.Data.List.TakeWhile
import PlanViewer.Text.Blank

/-!
# Parts of texts

What trimming and splitting leave of a text. A trimmed text stays as it is when it is trimmed
again, and the pieces between separators hold no separator. The last piece is what follows the last
separator, or the whole text where there is none. A text is cut at the first mark in it, so a part
that holds no mark is found again in front of one.
-/

namespace PlanViewer.Text

/-! ## Trimming -/

theorem trim_cons_of_isBlank {c : Char} (hc : isBlank c = true) (cs : List Char) :
    trim (c :: cs) = trim cs := by
  rw [trim, trimStart, List.dropWhile_cons_of_pos hc]
  rfl

/-- Trimming the end leaves a text that starts with no blank as it starts. -/
theorem trimStart_trimEnd_of_trimStart {cs : List Char} (h : trimStart cs = cs) :
    trimStart (trimEnd cs) = trimEnd cs := by
  rw [trimStart, List.dropWhile_eq_self_iff] at h ⊢
  intro hpos
  have hprefix : trimEnd cs <+: cs := List.rdropWhile_prefix isBlank cs
  have hcs : 0 < cs.length := lt_of_lt_of_le hpos hprefix.length_le
  have hhead : (trimEnd cs)[0] = cs[0] := hprefix.getElem hpos
  rw [hhead]
  exact h hcs

theorem trim_trim (cs : List Char) : trim (trim cs) = trim cs := by
  have hstart : trimStart (trimStart cs) = trimStart cs := List.dropWhile_idempotent isBlank _
  have hend : trimEnd (trimEnd (trimStart cs)) = trimEnd (trimStart cs) :=
    List.rdropWhile_idempotent isBlank _
  show trimEnd (trimStart (trimEnd (trimStart cs))) = trimEnd (trimStart cs)
  rw [trimStart_trimEnd_of_trimStart hstart, hend]

theorem mem_of_mem_trim {c : Char} {cs : List Char} (hc : c ∈ trim cs) : c ∈ cs := by
  have hstart : c ∈ trimStart cs := (List.rdropWhile_prefix isBlank _).subset hc
  exact (List.dropWhile_suffix isBlank).subset hstart

theorem trimStart_cons {c : Char} (hc : isBlank c = false) (cs : List Char) :
    trimStart (c :: cs) = c :: cs := by
  rw [trimStart, List.dropWhile_cons_of_neg (by rw [hc]; exact Bool.false_ne_true)]

theorem trimStart_append {blanks rest : List Char} (hblank : ∀ c ∈ blanks, isBlank c = true)
    (hrest : ∀ c ∈ rest.head?, isBlank c = false) : trimStart (blanks ++ rest) = rest := by
  rw [trimStart, List.dropWhile_append_of_pos hblank]
  cases rest with
  | nil => rfl
  | cons c rest => exact trimStart_cons (hrest c rfl) rest

theorem trim_eq_self {cs : List Char} (h : ∀ c ∈ cs, isBlank c = false) : trim cs = cs := by
  have hstart : trimStart cs = cs := by
    rw [trimStart, List.dropWhile_eq_self_iff]
    intro hpos
    rw [h _ (List.getElem_mem hpos)]
    exact Bool.false_ne_true
  have hend : trimEnd cs = cs := by
    show cs.rdropWhile isBlank = cs
    rw [List.rdropWhile_eq_self_iff]
    intro hne
    rw [h _ (List.getLast_mem hne)]
    exact Bool.false_ne_true
  rw [trim, hstart, hend]

/-! ## Splitting -/

/-- No piece between separators holds a separator. -/
theorem not_mem_of_mem_splitOn {separator : Char} {cs piece : List Char}
    (h : piece ∈ cs.splitOn separator) : separator ∉ piece := by
  induction cs generalizing piece with
  | nil =>
    rw [List.splitOn_nil, List.mem_singleton] at h
    subst h
    exact List.not_mem_nil
  | cons c cs ih =>
    rw [List.splitOn_cons_eq_if_modifyHead] at h
    split at h
    · rcases List.mem_cons.mp h with rfl | h
      · exact List.not_mem_nil
      · exact ih h
    · next hc =>
      -- the character goes to the front of the first piece
      cases hpieces : cs.splitOn separator with
      | nil => exact absurd hpieces (List.splitOn_ne_nil separator cs)
      | cons first rest =>
        rw [hpieces] at h ih
        rcases List.mem_cons.mp h with rfl | h
        · rw [List.mem_cons, not_or]
          exact ⟨fun heq => hc (by simp [heq]), ih List.mem_cons_self⟩
        · exact ih (List.mem_cons_of_mem first h)

/-- The last piece is what follows the last separator. -/
theorem getLast?_splitOn (separator : Char) (cs : List Char) :
    (cs.splitOn separator).getLast? = some (cs.rtakeWhile fun c => decide (c ≠ separator)) := by
  set test : Char → Bool := fun c => decide (c ≠ separator) with htest
  have hparts : cs.rdropWhile test ++ cs.rtakeWhile test = cs :=
    List.rdropWhile_append_rtakeWhile
  have hlast : separator ∉ cs.rtakeWhile test := by
    intro hmem
    simpa [htest] using List.mem_rtakeWhile_imp hmem
  have hsingle : (cs.rtakeWhile test).splitOn separator = [cs.rtakeWhile test] :=
    List.splitOn_eq_singleton hlast
  by_cases hnil : cs.rdropWhile test = []
  · have hall : cs.rtakeWhile test = cs := by simpa [hnil] using hparts
    rw [hall] at hsingle ⊢
    rw [hsingle, List.getLast?_singleton]
  · -- what is not taken ends in a separator
    have hend : (cs.rdropWhile test).getLast hnil = separator := by
      simpa [htest] using List.rdropWhile_last_not test cs hnil
    have hsplit : cs = (cs.rdropWhile test).dropLast ++ separator :: cs.rtakeWhile test := by
      conv_lhs => rw [← hparts, ← List.dropLast_append_getLast hnil, hend]
      rw [List.append_assoc, List.singleton_append]
    have hpieces : cs.splitOn separator =
        (cs.rdropWhile test).dropLast.splitOn separator ++ [cs.rtakeWhile test] := by
      conv_lhs => rw [hsplit, List.splitOn_append_cons_self, hsingle]
    rw [hpieces, List.getLast?_concat]

/-! ## Cutting at the first mark -/

theorem takeWhile_ne_append {mark : Char} {cs : List Char} (h : mark ∉ cs) (rest : List Char) :
    ((cs ++ mark :: rest).takeWhile fun c => decide (c ≠ mark)) = cs := by
  have htest : ∀ c ∈ cs, decide (c ≠ mark) = true :=
    fun c hc => decide_eq_true (ne_of_mem_of_not_mem hc h)
  rw [List.takeWhile_append_of_pos htest]
  simp

theorem dropWhile_ne_append {mark : Char} {cs : List Char} (h : mark ∉ cs) (rest : List Char) :
    ((cs ++ mark :: rest).dropWhile fun c => decide (c ≠ mark)) = mark :: rest := by
  have htest : ∀ c ∈ cs, decide (c ≠ mark) = true :=
    fun c hc => decide_eq_true (ne_of_mem_of_not_mem hc h)
  rw [List.dropWhile_append_of_pos htest]
  simp

end PlanViewer.Text
