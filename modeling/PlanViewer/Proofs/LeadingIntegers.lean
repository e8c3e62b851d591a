import Mathlib.Data.List.Basic
import PlanViewer.Proofs.Digits

/-!
# Numbers that texts begin with

A text opens with white space, a sign and digits, each of which may be missing and is as long as it
can be (`Text.Decimal.Opens`). The integer that the text begins with is told by the sign and the
digits of its opening alone. However many digits there are, they stand for an integer exactly when
they are worth one of 64 bits, before the sign is applied.

The same integer is found by bytes: the first byte tells a sign and the first bytes that are digits
are counted, and the text is cut there (`Text.Decimal.leadingByBytes?`). A cut could fall into a
character or beyond the end of the text, but a byte that is a sign or a digit is always a whole
character, so none does.
-/

namespace PlanViewer.Text

/-! ## Bytes -/

/-- The bytes of a text. -/
def bytes (cs : List Char) : List UInt8 :=
  cs.flatMap String.utf8EncodeChar

/-- Cuts a text after so many bytes. There is no such cut within a character, nor beyond the end. -/
def cut? : Nat → List Char → Option (List Char × List Char)
  | n, [] => if n = 0 then some ([], []) else none
  | n, c :: cs =>
    if n = 0 then some ([], c :: cs)
    else if c.utf8Size ≤ n then (cut? (n - c.utf8Size) cs).map fun parts => (c :: parts.1, parts.2)
    else none

theorem bytes_cons (c : Char) (cs : List Char) :
    bytes (c :: cs) = String.utf8EncodeChar c ++ bytes cs :=
  List.flatMap_cons

theorem length_bytes_cons (c : Char) (cs : List Char) :
    (bytes (c :: cs)).length = c.utf8Size + (bytes cs).length := by
  rw [bytes_cons, List.length_append, String.length_utf8EncodeChar]

theorem bytes_eq_nil_iff {cs : List Char} : bytes cs = [] ↔ cs = [] := by
  cases cs with
  | nil => exact iff_of_true rfl rfl
  | cons c cs => simp [bytes_cons, String.utf8EncodeChar_ne_nil]

/-- A text can be cut where its characters end. -/
theorem cut?_append (front rest : List Char) :
    cut? (bytes front).length (front ++ rest) = some (front, rest) := by
  induction front with
  | nil => cases rest <;> rfl
  | cons c front ih =>
    have hpos := c.utf8Size_pos
    rw [List.cons_append, cut?, length_bytes_cons, if_neg (by omega), if_pos (by omega),
      Nat.add_sub_cancel_left, ih]
    rfl

/-- A character of one byte is that byte, and the others start with a byte beyond them. -/
theorem utf8EncodeChar_cases (c : Char) :
    (∃ b, String.utf8EncodeChar c = [b] ∧ b.toNat = c.toNat) ∨
      0x80 ≤ c.toNat ∧ ∃ b tail, String.utf8EncodeChar c = b :: tail ∧ 0x80 ≤ b.toNat := by
  have hval : c.val.toNat = c.toNat := rfl
  unfold String.utf8EncodeChar
  dsimp only
  rw [hval]
  split
  · refine Or.inl ⟨_, rfl, ?_⟩
    rw [UInt8.toNat_ofNat']
    omega
  · refine Or.inr ⟨by omega, ?_⟩
    split
    · refine ⟨_, _, rfl, ?_⟩
      rw [UInt8.toNat_ofNat']
      omega
    · split
      · refine ⟨_, _, rfl, ?_⟩
        rw [UInt8.toNat_ofNat']
        omega
      · refine ⟨_, _, rfl, ?_⟩
        rw [UInt8.toNat_ofNat']
        omega

/-- **A text can be cut where one of its characters ends**, and nowhere else. -/
theorem cut?_eq_some_iff {n : Nat} {cs front rest : List Char} :
    cut? n cs = some (front, rest) ↔ cs = front ++ rest ∧ (bytes front).length = n := by
  constructor
  · intro h
    induction cs generalizing n front with
    | nil =>
      unfold cut? at h
      split at h
      · next hzero =>
        cases h
        exact ⟨rfl, hzero.symm⟩
      · cases h
    | cons c cs ih =>
      unfold cut? at h
      split at h
      · next hzero =>
        cases h
        exact ⟨rfl, hzero.symm⟩
      · split at h
        · rw [Option.map_eq_some_iff] at h
          obtain ⟨parts, hcut, hparts⟩ := h
          cases hparts
          obtain ⟨rfl, hlength⟩ := ih hcut
          refine ⟨rfl, ?_⟩
          rw [length_bytes_cons]
          omega
        · cases h
  · rintro ⟨rfl, rfl⟩
    exact cut?_append front rest

namespace Decimal

/-- Whether a byte is an ASCII digit. -/
def isDigitByte (b : UInt8) : Bool :=
  decide (0x30 ≤ b.toNat) && decide (b.toNat ≤ 0x39)

/-- An optional sign in front of a number, told by its byte and cut off after it. -/
def cutSign? (text : List Char) : Option (Bool × List Char) :=
  if (bytes text).head? = some 0x2D then (cut? 1 text).map fun parts => (true, parts.2)
  else if (bytes text).head? = some 0x2B then (cut? 1 text).map fun parts => (false, parts.2)
  else some (false, text)

/-- The integer that a text begins with, read by bytes. There is no answer where the text cannot be
cut. -/
def leadingByBytes? (s : String) : Option (Option Int64) :=
  (cutSign? (trimStart s.toList)).bind fun (negative, rest) =>
    let count := ((bytes rest).takeWhile isDigitByte).length
    if count = 0 then some none
    else (cut? count rest).map fun parts =>
      (readInt64 (String.ofList parts.1)).toOption.map fun n => if negative then -n else n

/-- A text starts with the byte of a sign exactly when its first character is that sign. -/
theorem head?_bytes_cons_eq_iff {c sign : Char} {b : UInt8} (hsign : b.toNat = sign.toNat)
    (hb : b.toNat < 0x80) (cs : List Char) :
    (bytes (c :: cs)).head? = some b ↔ c = sign := by
  rw [bytes_cons]
  rcases utf8EncodeChar_cases c with ⟨first, hbytes, hfirst⟩ | ⟨hc, first, tail, hbytes, hfirst⟩
  · rw [hbytes, List.singleton_append, List.head?_cons, Option.some.injEq, ← UInt8.toNat_inj,
      hfirst, hsign, Char.toNat_inj]
  · rw [hbytes, List.cons_append, List.head?_cons, Option.some.injEq]
    refine iff_of_false ?_ ?_
    · rintro rfl
      omega
    · rintro rfl
      omega

/-- The bytes that are digits are those of the characters that are. -/
theorem takeWhile_isDigitByte (cs : List Char) :
    (bytes cs).takeWhile isDigitByte = bytes (cs.takeWhile isDigit) := by
  induction cs with
  | nil => rfl
  | cons c cs ih =>
    rcases utf8EncodeChar_cases c with ⟨b, hbytes, hb⟩ | ⟨hc, b, tail, hbytes, hb⟩
    · have hdigit : isDigitByte b = isDigit c := by rw [isDigitByte, isDigit, hb]
      rw [bytes_cons, hbytes, List.singleton_append, List.takeWhile_cons, List.takeWhile_cons,
        hdigit]
      split
      · rw [ih, bytes_cons, hbytes, List.singleton_append]
      · rfl
    · -- a longer character is no digit, and neither is the byte it starts with
      have hbyte : isDigitByte b = false := by
        rw [isDigitByte, Bool.and_eq_false_iff, decide_eq_false_iff_not, decide_eq_false_iff_not]
        omega
      have hchar : isDigit c = false := by
        rw [isDigit, Bool.and_eq_false_iff, decide_eq_false_iff_not, decide_eq_false_iff_not]
        omega
      rw [bytes_cons, hbytes, List.cons_append, List.takeWhile_cons, List.takeWhile_cons, hbyte,
        hchar]
      rfl

/-- A sign can be cut off. -/
theorem cutSign?_eq (text : List Char) : cutSign? text = some (splitSign text) := by
  cases text with
  | nil => rfl
  | cons c cs =>
    have hminus : (bytes (c :: cs)).head? = some 0x2D ↔ c = '-' :=
      head?_bytes_cons_eq_iff rfl (by decide) cs
    have hplus : (bytes (c :: cs)).head? = some 0x2B ↔ c = '+' :=
      head?_bytes_cons_eq_iff rfl (by decide) cs
    unfold cutSign?
    by_cases hc : c = '-'
    · have hcut : cut? 1 ('-' :: cs) = some (['-'], cs) := cut?_eq_some_iff.2 ⟨rfl, rfl⟩
      rw [if_pos (hminus.2 hc), hc, hcut]
      rfl
    · by_cases hc' : c = '+'
      · have hcut : cut? 1 ('+' :: cs) = some (['+'], cs) := cut?_eq_some_iff.2 ⟨rfl, rfl⟩
        rw [if_neg (mt hminus.1 hc), if_pos (hplus.2 hc'), hc', hcut]
        rfl
      · rw [if_neg (mt hminus.1 hc), if_neg (mt hplus.1 hc'), splitSign_of_ne hc hc']

/-- **Reading by bytes cuts no character** and finds the integer that the text begins with. -/
theorem leadingByBytes?_eq (s : String) : leadingByBytes? s = some (leadingInt? s) := by
  unfold leadingByBytes? leadingInt?
  rw [cutSign?_eq, Option.bind_some]
  obtain ⟨negative, rest⟩ := splitSign (trimStart s.toList)
  have hcut : cut? (bytes (rest.takeWhile isDigit)).length rest =
      some (rest.takeWhile isDigit, rest.dropWhile isDigit) :=
    cut?_eq_some_iff.2 ⟨List.takeWhile_append_dropWhile.symm, rfl⟩
  dsimp only
  rw [takeWhile_isDigitByte]
  by_cases hds : rest.takeWhile isDigit = []
  · rw [if_pos hds, if_pos (List.length_eq_zero_iff.2 (bytes_eq_nil_iff.2 hds))]
  · have hcount : (bytes (rest.takeWhile isDigit)).length ≠ 0 := by
      rw [Ne, List.length_eq_zero_iff, bytes_eq_nil_iff]
      exact hds
    rw [if_neg hds, if_neg hcount, hcut]
    rfl

/-! ## Openings -/

/-- How a text opens: with white space, with one sign or none, and with digits. Each part goes as
far as it can, and the rest follows. -/
structure Opens (text blanks sign ds rest : List Char) : Prop where
  whole : text = blanks ++ (sign ++ (ds ++ rest))
  blank : ∀ c ∈ blanks, isBlank c = true
  afterBlanks : ∀ c ∈ (sign ++ (ds ++ rest)).head?, isBlank c = false
  isSign : sign = [] ∨ sign = ['+'] ∨ sign = ['-']
  afterSign : sign = [] → ∀ c ∈ (ds ++ rest).head?, c ≠ '-' ∧ c ≠ '+'
  digit : ∀ c ∈ ds, isDigit c = true
  afterDigits : ∀ c ∈ rest.head?, isDigit c = false

/-- The longest run of some characters at the front of a text. -/
theorem exists_run (p : Char → Bool) (cs : List Char) :
    ∃ front rest, cs = front ++ rest ∧ (∀ c ∈ front, p c = true) ∧
      ∀ c ∈ rest.head?, p c = false := by
  refine ⟨cs.takeWhile p, cs.dropWhile p, List.takeWhile_append_dropWhile.symm,
    List.all_eq_true.1 List.all_takeWhile, ?_⟩
  intro c hc
  have hnot := List.head?_dropWhile_not p cs
  rw [Option.mem_def] at hc
  rw [hc] at hnot
  exact hnot

theorem exists_sign (cs : List Char) :
    ∃ sign rest, cs = sign ++ rest ∧ (sign = [] ∨ sign = ['+'] ∨ sign = ['-']) ∧
      (sign = [] → ∀ c ∈ rest.head?, c ≠ '-' ∧ c ≠ '+') := by
  rcases cs with _ | ⟨c, cs⟩
  · refine ⟨[], [], rfl, Or.inl rfl, fun _ c hc => ?_⟩
    cases hc
  · by_cases hminus : c = '-'
    · subst hminus
      exact ⟨['-'], cs, rfl, Or.inr (Or.inr rfl), fun h => absurd h (List.cons_ne_nil _ _)⟩
    · by_cases hplus : c = '+'
      · subst hplus
        exact ⟨['+'], cs, rfl, Or.inr (Or.inl rfl), fun h => absurd h (List.cons_ne_nil _ _)⟩
      · refine ⟨[], c :: cs, rfl, Or.inl rfl, fun _ d hd => ?_⟩
        cases hd
        exact ⟨hminus, hplus⟩

/-- **Every text has an opening.** -/
theorem exists_opens (text : List Char) :
    ∃ blanks sign ds rest, Opens text blanks sign ds rest := by
  obtain ⟨blanks, unblanked, hblanks, hblank, hafterBlanks⟩ := exists_run isBlank text
  obtain ⟨sign, unsigned, hsign, hisSign, hafterSign⟩ := exists_sign unblanked
  obtain ⟨ds, rest, hds, hdigit, hafterDigits⟩ := exists_run isDigit unsigned
  subst hds hsign hblanks
  exact ⟨blanks, sign, ds, rest, rfl, hblank, hafterBlanks, hisSign, hafterSign, hdigit,
    hafterDigits⟩

namespace Opens

variable {raw : String} {text blanks sign ds rest : List Char}

theorem splitSign (h : Opens text blanks sign ds rest) :
    splitSign (trimStart text) = (decide (sign = ['-']), ds ++ rest) := by
  rw [h.whole, trimStart_append h.blank h.afterBlanks]
  rcases h.isSign with rfl | rfl | rfl
  · have hafter := h.afterSign rfl
    rw [List.nil_append]
    cases hcs : ds ++ rest with
    | nil => rfl
    | cons c cs =>
      obtain ⟨hminus, hplus⟩ := hafter c (by rw [hcs]; rfl)
      exact splitSign_of_ne hminus hplus cs
  · rfl
  · rfl

/-- The sign and the digits of the opening tell the integer. -/
theorem leadingInt?_eq (h : Opens raw.toList blanks sign ds rest) :
    leadingInt? raw =
      if ds = [] then none
      else if value ds ≤ Int64.maxValue.toInt.toNat then
        some (Int64.ofInt (if sign = ['-'] then -Int.ofNat (value ds) else Int.ofNat (value ds)))
      else none := by
  rw [Decimal.leadingInt?_eq h.splitSign, takeWhile_isDigit h.digit h.afterDigits]
  simp only [decide_eq_true_eq]

/-- Digits stand for an integer exactly when they are worth one. Its negative is one too. -/
theorem leadingInt?_eq_some_iff (h : Opens raw.toList blanks sign ds rest) (n : Int64) :
    leadingInt? raw = some n ↔
      ds ≠ [] ∧ value ds ≤ 2 ^ 63 - 1 ∧
        n.toInt = if sign = ['-'] then -(value ds : Int) else (value ds : Int) := by
  have hmost : Int64.maxValue.toInt.toNat = 2 ^ 63 - 1 := rfl
  rw [h.leadingInt?_eq, hmost]
  by_cases hds : ds = []
  · simp [hds]
  · by_cases hle : value ds ≤ 2 ^ 63 - 1
    · have hexact : (Int64.ofInt
          (if sign = ['-'] then -Int.ofNat (value ds) else Int.ofNat (value ds))).toInt =
            if sign = ['-'] then -(value ds : Int) else (value ds : Int) := by
        rw [Int.ofNat_eq_natCast]
        apply Int64.toInt_ofInt_of_le
        · split <;> omega
        · split <;> omega
      rw [if_neg hds, if_pos hle, Option.some.injEq, ← Int64.toInt_inj, hexact]
      exact ⟨fun heq => ⟨hds, hle, heq.symm⟩, fun hall => hall.2.2.symm⟩
    · rw [if_neg hds, if_neg hle]
      exact iff_of_false (Option.some_ne_none n).symm fun hall => hle hall.2.1

theorem leadingInt?_eq_none_iff (h : Opens raw.toList blanks sign ds rest) :
    leadingInt? raw = none ↔ ds = [] ∨ 2 ^ 63 - 1 < value ds := by
  have hmost : Int64.maxValue.toInt.toNat = 2 ^ 63 - 1 := rfl
  rw [h.leadingInt?_eq, hmost]
  split
  · next hds => exact iff_of_true rfl (Or.inl hds)
  · next hds =>
    split
    · next hle =>
      refine iff_of_false (Option.some_ne_none _) ?_
      rintro (hnil | hgt)
      · exact hds hnil
      · omega
    · next hgt => exact iff_of_true rfl (Or.inr (by omega))

/-- After digits the rest of an opening is any text that does not go on with a digit. -/
theorem replace (h : Opens text blanks sign ds rest) (hds : ds ≠ []) {other : List Char}
    (hother : ∀ c ∈ other.head?, isDigit c = false) :
    Opens (blanks ++ (sign ++ (ds ++ other))) blanks sign ds other where
  whole := rfl
  blank := h.blank
  afterBlanks := by
    have hafter := h.afterBlanks
    rw [← List.append_assoc, List.head?_append_of_ne_nil _ (by simp [hds])] at hafter ⊢
    exact hafter
  isSign := h.isSign
  afterSign := by
    have hafter := h.afterSign
    rw [List.head?_append_of_ne_nil _ hds] at hafter ⊢
    exact hafter
  digit := h.digit
  afterDigits := hother

end Opens

/-- **The integer that a text begins with.** Every text has an opening, and whichever opening it is,
the text begins with an integer exactly when there are digits in it that are worth one of 64 bits.
Then the integer is their value, or its negative after a minus sign. What follows the digits does
not matter. Reading by bytes comes to the same, and each of its cuts is between characters. -/
theorem leadingInt?_exact (raw : String) :
    (∃ blanks sign ds rest, Opens raw.toList blanks sign ds rest) ∧
    (∀ blanks sign ds rest, Opens raw.toList blanks sign ds rest →
      (∀ n : Int64, leadingInt? raw = some n ↔
        ds ≠ [] ∧ value ds ≤ 2 ^ 63 - 1 ∧
          n.toInt = if sign = ['-'] then -(value ds : Int) else (value ds : Int)) ∧
      (leadingInt? raw = none ↔ ds = [] ∨ 2 ^ 63 - 1 < value ds) ∧
      ∀ other, ds ≠ [] → (∀ c ∈ other.head?, isDigit c = false) →
        leadingInt? (String.ofList (blanks ++ (sign ++ (ds ++ other)))) = leadingInt? raw) ∧
    leadingByBytes? raw = some (leadingInt? raw) := by
  refine ⟨exists_opens raw.toList, ?_, leadingByBytes?_eq raw⟩
  intro blanks sign ds rest h
  refine ⟨h.leadingInt?_eq_some_iff, h.leadingInt?_eq_none_iff, ?_⟩
  intro other hds hother
  -- the same sign and digits open the other text
  have hreplaced : Opens (String.ofList (blanks ++ (sign ++ (ds ++ other)))).toList
      blanks sign ds other := by
    rw [String.toList_ofList]
    exact h.replace hds hother
  rw [hreplaced.leadingInt?_eq, h.leadingInt?_eq]

/-- A wide space, a minus sign, zeros in front, and right after the digits one of another script.
And the digits of the least 64-bit integer, which are worth too much without the sign. -/
theorem leadingInt?_exact_other_script :
    Opens "\u3000-007٣".toList ['\u3000'] ['-'] ['0', '0', '7'] ['٣'] ∧
    leadingInt? "\u3000-007٣" = some (-7) ∧
    leadingByBytes? "\u3000-007٣" = some (some (-7)) ∧
    Opens "-9223372036854775808".toList [] ['-'] "9223372036854775808".toList [] ∧
    leadingInt? "-9223372036854775808" = none := by
  have hopens : Opens "\u3000-007٣".toList ['\u3000'] ['-'] ['0', '0', '7'] ['٣'] := by
    refine ⟨rfl, List.all_eq_true.1 rfl, ?_, Or.inr (Or.inr rfl), ?_, List.all_eq_true.1 rfl, ?_⟩
    · rintro c ⟨⟩
      rfl
    · rintro ⟨⟩
    · rintro c ⟨⟩
      rfl
  have hleast : Opens "-9223372036854775808".toList [] ['-'] "9223372036854775808".toList [] := by
    refine ⟨rfl, List.all_eq_true.1 rfl, ?_, Or.inr (Or.inr rfl), ?_, List.all_eq_true.1 rfl, ?_⟩
    · rintro c ⟨⟩
      rfl
    · rintro ⟨⟩
    · rintro c ⟨⟩
  obtain ⟨-, hread, hbytes⟩ := leadingInt?_exact "\u3000-007٣"
  have hseven : leadingInt? "\u3000-007٣" = some (-7) :=
    ((hread _ _ _ _ hopens).1 (-7)).2 (by decide)
  refine ⟨hopens, hseven, by rw [hbytes, hseven], hleast, ?_⟩
  exact ((leadingInt?_exact "-9223372036854775808").2.1 _ _ _ _ hleast).2.1.2 (by decide)

end Decimal

end PlanViewer.Text
