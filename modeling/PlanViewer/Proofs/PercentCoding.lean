import PlanViewer.Proofs.Digits
import PlanViewer.Text.Percent

/-!
# Percent coding loses nothing

A written form is read back to the text it was written for, whatever text follows it: a token takes
exactly its own digits, and a plain character takes only itself. The two codings stack. Characters
go to 16-bit units and back, and units go to plain characters or tokens and back, so the statement
about texts is the one about units between two statements about 16-bit text.
-/

namespace PlanViewer.Text

/-! ## 16-bit units -/

namespace Units16

theorem encode_append (as bs : List Char) : encode (as ++ bs) = encode as ++ encode bs := by
  rw [encode, List.flatMap_append]
  rfl

/-- A unit that opens no pair is a character of its own, whatever follows. -/
theorem decode_cons_of_not_isHigh {u : UInt16} (hu : isHigh u = false) (us : List UInt16) :
    decode (u :: us) = decodeUnit u :: decode us := by
  cases us with
  | nil => rfl
  | cons v us =>
    rw [decode, hu]
    rfl

/-- Code points leave out the range of the surrogates. -/
theorem toNat_not_surrogate (c : Char) : c.toNat < 0xD800 ∨ 0xDFFF < c.toNat ∧ c.toNat < 0x110000 :=
  c.valid

theorem toNat_charOfNat {n : Nat} (hn : n.isValidChar) : (Char.ofNat n).toNat = n := by
  rw [Char.ofNat, dif_pos hn]
  rfl

theorem toNat_ofNat_of_lt {n : Nat} (hn : n < 0x10000) : (UInt16.ofNat n).toNat = n := by
  rw [UInt16.toNat_ofNat']
  omega

/-- The units of one character are read back, whatever units follow them. -/
theorem decode_encodeChar_append (c : Char) (us : List UInt16) :
    decode (encodeChar c ++ us) = c :: decode us := by
  have hc := toNat_not_surrogate c
  rw [encodeChar]
  split
  · next hsmall =>
    have hnat : (UInt16.ofNat c.toNat).toNat = c.toNat := toNat_ofNat_of_lt hsmall
    have hhigh : isHigh (UInt16.ofNat c.toNat) = false := by
      rw [isHigh, hnat, Bool.and_eq_false_iff, decide_eq_false_iff_not, decide_eq_false_iff_not]
      omega
    have hlow : isLow (UInt16.ofNat c.toNat) = false := by
      rw [isLow, hnat, Bool.and_eq_false_iff, decide_eq_false_iff_not, decide_eq_false_iff_not]
      omega
    have hunit : decodeUnit (UInt16.ofNat c.toNat) = c := by
      rw [decodeUnit, hhigh, hlow, hnat, Char.ofNat_toNat]
      rfl
    rw [List.singleton_append, decode_cons_of_not_isHigh hhigh, hunit]
  · next hlarge =>
    -- beyond the first plane the two halves carry ten bits each
    have hh : (UInt16.ofNat (0xD800 + (c.toNat - 0x10000) / 0x400)).toNat =
        0xD800 + (c.toNat - 0x10000) / 0x400 := toNat_ofNat_of_lt (by omega)
    have hl : (UInt16.ofNat (0xDC00 + (c.toNat - 0x10000) % 0x400)).toNat =
        0xDC00 + (c.toNat - 0x10000) % 0x400 := toNat_ofNat_of_lt (by omega)
    have hhigh : isHigh (UInt16.ofNat (0xD800 + (c.toNat - 0x10000) / 0x400)) = true := by
      rw [isHigh, hh, Bool.and_eq_true, decide_eq_true_eq, decide_eq_true_eq]
      omega
    have hlow : isLow (UInt16.ofNat (0xDC00 + (c.toNat - 0x10000) % 0x400)) = true := by
      rw [isLow, hl, Bool.and_eq_true, decide_eq_true_eq, decide_eq_true_eq]
      omega
    have hpoint : 0x10000 + (0xD800 + (c.toNat - 0x10000) / 0x400 - 0xD800) * 0x400 +
        (0xDC00 + (c.toNat - 0x10000) % 0x400 - 0xDC00) = c.toNat := by
      omega
    simp only [List.cons_append, List.nil_append, decode, hhigh, hlow, Bool.and_self, if_true]
    rw [decodePair, hh, hl, hpoint, Char.ofNat_toNat]

/-- The units of a text are read back, whatever units follow them: a text never ends in half a
pair. -/
theorem decode_encode_append (cs : List Char) (us : List UInt16) :
    decode (encode cs ++ us) = cs ++ decode us := by
  induction cs with
  | nil => rfl
  | cons c cs ih =>
    have hcons : encode (c :: cs) = encodeChar c ++ encode cs := rfl
    rw [hcons, List.append_assoc, decode_encodeChar_append, ih, List.cons_append]

/-- ASCII text has one unit a character. -/
theorem encode_of_ascii {cs : List Char} (h : ∀ c ∈ cs, c.toNat < 0x80) :
    encode cs = cs.map fun c => UInt16.ofNat c.toNat := by
  induction cs with
  | nil => rfl
  | cons c cs ih =>
    have hc : c.toNat < 0x80 := h c List.mem_cons_self
    have hcons : encode (c :: cs) = encodeChar c ++ encode cs := rfl
    rw [hcons, encodeChar, if_pos (by omega), ih fun d hd => h d (List.mem_cons_of_mem c hd)]
    rfl

end Units16

/-! ## Plain characters and tokens -/

namespace Percent

theorem isPlain_iff {c : Char} : isPlain c = true ↔ c.isAlphanum = true ∨ c ∈ marks := by
  rw [isPlain, Bool.or_eq_true, List.contains_iff_mem]

theorem toNat_lt_of_isAlphanum {c : Char} (hc : c.isAlphanum = true) : c.toNat < 0x80 := by
  have hclass : (c.isUpper || c.isLower || c.isDigit) = true := hc
  rw [Bool.or_eq_true, Bool.or_eq_true] at hclass
  rcases hclass with (hupper | hlower) | hdigit
  · have hrange : 'A'.val ≤ c.val ∧ c.val ≤ 'Z'.val := of_decide_eq_true hupper
    exact Nat.lt_of_le_of_lt (UInt32.le_iff_toNat_le.mp hrange.2) (by decide)
  · have hrange : decide (c.val ≤ 'z'.val) = true := (Bool.and_eq_true_iff.mp hlower).2
    exact Nat.lt_of_le_of_lt (UInt32.le_iff_toNat_le.mp (of_decide_eq_true hrange)) (by decide)
  · have hrange : decide (c.val ≤ '9'.val) = true := (Bool.and_eq_true_iff.mp hdigit).2
    exact Nat.lt_of_le_of_lt (UInt32.le_iff_toNat_le.mp (of_decide_eq_true hrange)) (by decide)

theorem toNat_lt_of_isPlain {c : Char} (hc : isPlain c = true) : c.toNat < 0x80 := by
  rcases isPlain_iff.mp hc with hc | hc
  · exact toNat_lt_of_isAlphanum hc
  · simp only [marks, List.mem_cons, List.not_mem_nil, or_false] at hc
    rcases hc with rfl | rfl | rfl | rfl | rfl | rfl | rfl <;> decide

theorem isPlain_upperDigit : ∀ d, d < 16 → isPlain (Hex.upperDigit d) = true := by
  decide

theorem upperDigit_ne_u : ∀ d, d < 16 → Hex.upperDigit d ≠ 'u' := by
  decide

/-- A written unit consists of plain characters and percent signs. -/
theorem mem_encodeUnit {u : UInt16} {c : Char} (hc : c ∈ encodeUnit u) :
    isPlain c = true ∨ c = '%' := by
  have hdigit : ∀ width, c ∈ Hex.write Hex.upperDigit width u.toNat → isPlain c = true := by
    intro width hc
    obtain ⟨d, hd, rfl⟩ := Hex.mem_write hc
    exact isPlain_upperDigit d hd
  rw [encodeUnit] at hc
  split at hc
  · next hplain =>
    rw [List.mem_singleton] at hc
    subst hc
    exact Or.inl hplain.2
  · split at hc
    · rcases List.mem_cons.mp hc with rfl | hc
      · exact Or.inr rfl
      · exact Or.inl (hdigit 2 hc)
    · rcases List.mem_cons.mp hc with rfl | hc
      · exact Or.inr rfl
      · rcases List.mem_cons.mp hc with rfl | hc
        · exact Or.inl (by decide)
        · exact Or.inl (hdigit 4 hc)

/-- A written text consists of plain characters and percent signs. -/
theorem mem_encode {cs : List Char} {c : Char} (hc : c ∈ encode cs) :
    isPlain c = true ∨ c = '%' := by
  obtain ⟨u, _, hu⟩ := List.mem_flatMap.mp hc
  exact mem_encodeUnit hu

theorem toNat_lt_of_mem_encodeUnit {u : UInt16} {c : Char} (hc : c ∈ encodeUnit u) :
    c.toNat < 0x80 := by
  rcases mem_encodeUnit hc with hc | rfl
  · exact toNat_lt_of_isPlain hc
  · decide

/-! ## Reading a written unit back -/

/-- The units of digits, as they stand in a token. -/
def digitUnits (width n : Nat) : List UInt16 :=
  (Hex.write Hex.upperDigit width n).map fun c => UInt16.ofNat c.toNat

@[simp]
theorem length_digitUnits (width n : Nat) : (digitUnits width n).length = width := by
  rw [digitUnits, List.length_map, Hex.length_write]

theorem toNat_digitUnits (width n : Nat) :
    (digitUnits width n).map UInt16.toNat = (Hex.write Hex.upperDigit width n).map Char.toNat := by
  rw [digitUnits, List.map_map]
  apply List.map_congr_left
  intro c hc
  obtain ⟨d, hd, rfl⟩ := Hex.mem_write hc
  have hlt := toNat_lt_of_isPlain (isPlain_upperDigit d hd)
  exact Units16.toNat_ofNat_of_lt (by omega)

theorem digits?_digitUnits {width n : Nat} (hn : n < 16 ^ width) (rest : List UInt16) :
    digits? width (digitUnits width n ++ rest) = some n := by
  have htake : (digitUnits width n ++ rest).take width = digitUnits width n :=
    List.take_left' (length_digitUnits width n)
  rw [digits?, if_pos (by simp), htake, toNat_digitUnits,
    Hex.read?_write Hex.isReadable_upperDigit width n 0 hn, Nat.zero_mul, Nat.zero_add]

/-- No written digit is the letter that announces a wide token, so a narrow token is not taken for
a wide one. -/
theorem head?_digitUnits (n : Nat) (rest : List UInt16) :
    (digitUnits 2 n ++ rest).head? ≠ some wide := by
  have hlen := length_digitUnits 2 n
  cases hunits : digitUnits 2 n with
  | nil => simp [hunits] at hlen
  | cons u units =>
    rw [List.cons_append, List.head?_cons]
    intro hwide
    have hmem : u ∈ digitUnits 2 n := by simp [hunits]
    obtain ⟨c, hc, hcu⟩ := List.mem_map.mp hmem
    obtain ⟨d, hd, rfl⟩ := Hex.mem_write hc
    have hu : u = wide := Option.some.inj hwide
    have hnat : (Hex.upperDigit d).toNat = 0x75 := by
      have hlt := toNat_lt_of_isPlain (isPlain_upperDigit d hd)
      rw [← Units16.toNat_ofNat_of_lt (n := (Hex.upperDigit d).toNat) (by omega), hcu, hu]
      rfl
    exact upperDigit_ne_u d hd (by rw [← Char.ofNat_toNat (Hex.upperDigit d), hnat])

theorem token?_narrow {n : Nat} (hn : n < 0x100) (rest : List UInt16) :
    token? (digitUnits 2 n ++ rest) = some (UInt16.ofNat n, 2) := by
  rw [token?, if_neg (head?_digitUnits n rest), digits?_digitUnits (by omega)]
  rfl

theorem token?_wide {n : Nat} (hn : n < 0x10000) (rest : List UInt16) :
    token? (wide :: (digitUnits 4 n ++ rest)) = some (UInt16.ofNat n, 5) := by
  rw [token?, if_pos (by rfl), List.drop_one, List.tail_cons, digits?_digitUnits (by omega)]
  rfl

/-- Units that belong to a token are passed over. -/
theorem decodeFrom_length (xs rest : List UInt16) :
    decodeFrom xs.length (xs ++ rest) = decodeUnits rest := by
  induction xs with
  | nil => rfl
  | cons x xs ih =>
    rw [List.length_cons, List.cons_append, decodeFrom, ih]

theorem decodeUnits_token (units : List UInt16) {rest : List UInt16} {code : UInt16}
    (h : token? (units ++ rest) = some (code, units.length)) :
    decodeUnits (percent :: (units ++ rest)) = code :: decodeUnits rest := by
  rw [decodeUnits, decodeFrom, if_pos rfl, h]
  show code :: decodeFrom units.length (units ++ rest) = code :: decodeUnits rest
  rw [decodeFrom_length]

theorem decodeUnits_of_ne {u : UInt16} (hu : u ≠ percent) (rest : List UInt16) :
    decodeUnits (u :: rest) = u :: decodeUnits rest := by
  rw [decodeUnits, decodeFrom, if_neg hu]
  rfl

/-- **One written unit is read back**, whatever units follow it. -/
theorem decodeUnits_encodeUnit_append (u : UInt16) (rest : List UInt16) :
    decodeUnits (Units16.encode (encodeUnit u) ++ rest) = u :: decodeUnits rest := by
  have hu : u.toNat < 0x10000 := u.toNat_lt
  have hself : UInt16.ofNat u.toNat = u := UInt16.ofNat_toNat
  rw [Units16.encode_of_ascii fun c hc => toNat_lt_of_mem_encodeUnit hc, encodeUnit]
  split
  · next hplain =>
    have hnat : (Char.ofNat u.toNat).toNat = u.toNat :=
      Units16.toNat_charOfNat (Or.inl (by omega))
    have hne : u ≠ percent := by
      rintro rfl
      exact absurd hplain.2 (by decide)
    simp only [List.map_cons, List.map_nil, hnat, hself, List.singleton_append]
    exact decodeUnits_of_ne hne rest
  · split
    · next hnarrow =>
      have htoken := token?_narrow hnarrow rest
      rw [hself] at htoken
      exact decodeUnits_token (digitUnits 2 u.toNat) (by rw [htoken, length_digitUnits])
    · have htoken := token?_wide hu rest
      rw [hself] at htoken
      exact decodeUnits_token (wide :: digitUnits 4 u.toNat)
        (by rw [List.cons_append, htoken, List.length_cons, length_digitUnits])

theorem decodeUnits_flatMap_append (us rest : List UInt16) :
    decodeUnits (Units16.encode (us.flatMap encodeUnit) ++ rest) = us ++ decodeUnits rest := by
  induction us with
  | nil => rfl
  | cons u us ih =>
    rw [List.flatMap_cons, Units16.encode_append, List.append_assoc,
      decodeUnits_encodeUnit_append, ih, List.cons_append]

/-- A written text is read back, whatever text follows it. -/
theorem decode_encode_append (as bs : List Char) : decode (encode as ++ bs) = as ++ decode bs := by
  rw [decode, Units16.encode_append, encode, decodeUnits_flatMap_append,
    Units16.decode_encode_append]
  rfl

theorem decode_encode (cs : List Char) : decode (encode cs) = cs := by
  have h := decode_encode_append cs []
  rw [List.append_nil] at h
  rw [h]
  exact List.append_nil cs

/-- **Cookie values survive their coding.** A written value is read back in front of any text, and
on its own in particular, and it is written with letters, digits and eight marks only. -/
theorem unescape_escape_append (a b : String) :
    unescape (escape a ++ b) = a ++ unescape b ∧ unescape (escape a) = a ∧
      (escape a).toList.all fun c => c.isAlphanum || "@*_+-./%".toList.contains c := by
  refine ⟨?_, ?_, ?_⟩
  · rw [unescape, String.toList_append, escape, String.toList_ofList, decode_encode_append,
      String.ofList_append, String.ofList_toList]
    rfl
  · rw [unescape, escape, String.toList_ofList, decode_encode, String.ofList_toList]
  · rw [escape, String.toList_ofList, List.all_eq_true]
    intro c hc
    rw [Bool.or_eq_true, List.contains_iff_mem]
    rcases mem_encode hc with hc | rfl
    · exact (isPlain_iff.mp hc).imp_right fun hmark => List.mem_append_left ['%'] hmark
    · exact Or.inr (by decide)

end Percent

end PlanViewer.Text
