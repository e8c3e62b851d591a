import PlanViewer.Proofs.PercentCoding

/-!
# Tokens are decoded wherever they stand

A token is `%` and two hexadecimal digits, or `%u` and four. Decoding looks ahead from a percent
sign, and what it finds there is a token or nothing (`Percent.token?_eq_some_iff`). No token holds a
second percent sign, so whatever stands before a percent sign is decoded without it, also where it
is the start of a token that was broken off (`Percent.decodeUnits_append_percent`). That is how the
decoder finds its step again after `%%41` or `%u%41`.

A text stays as it is only if there is no token in it. Decoding makes units fewer with every token,
and turning units to characters leaves their number as it is, even where half a pair is replaced.
-/

namespace PlanViewer.Text

/-! ## Hexadecimal digits -/

namespace Hex

/-- The digits, in lower and in upper case, with their values. -/
def table : List (Char × Nat) :=
  "0123456789abcdef".toList.zipIdx ++ "ABCDEF".toList.zipIdx 10

/-- A hexadecimal digit in either case. -/
structure Digit where
  char : Char
  value : Nat
  listed : (char, value) ∈ table

/-- What a run of digits is worth. -/
def worth (ds : List Digit) : Nat :=
  ds.foldl (fun n d => n * 16 + d.value) 0

theorem table_spec : ∀ entry ∈ table,
    value? entry.1.toNat = some entry.2 ∧ entry.1.toNat < 0x80 ∧ entry.1 ≠ 'u' := by
  decide

theorem value?_digit (d : Digit) : value? d.char.toNat = some d.value :=
  (table_spec _ d.listed).1

theorem Digit.toNat_char_lt (d : Digit) : d.char.toNat < 0x80 :=
  (table_spec _ d.listed).2.1

theorem Digit.char_ne_u (d : Digit) : d.char ≠ 'u' :=
  (table_spec _ d.listed).2.2

theorem lt_of_value? {code v : Nat} (h : value? code = some v) : code < 0x67 := by
  unfold value? at h
  split at h
  · omega
  · split at h
    · omega
    · split at h
      · omega
      · cases h

theorem listed_of_value? : ∀ code, code < 0x67 → ∀ v, v ∈ value? code →
    (Char.ofNat code, v) ∈ table ∧ (Char.ofNat code).toNat = code := by
  decide

/-- A code point with a value is the one of a digit. -/
theorem exists_digit {code v : Nat} (h : value? code = some v) :
    ∃ d : Digit, d.char.toNat = code ∧ d.value = v := by
  obtain ⟨hlisted, hcode⟩ := listed_of_value? code (lt_of_value? h) v h
  exact ⟨⟨_, v, hlisted⟩, hcode, rfl⟩

/-- Reading a run of digits gives their worth. -/
theorem read?_eq_some_iff {acc n : Nat} {codes : List Nat} :
    read? acc codes = some n ↔ ∃ ds : List Digit, codes = ds.map (fun d => d.char.toNat) ∧
      n = ds.foldl (fun n d => n * 16 + d.value) acc := by
  induction codes generalizing acc with
  | nil =>
    constructor
    · intro h
      exact ⟨[], rfl, (Option.some.inj h).symm⟩
    · rintro ⟨ds, hds, rfl⟩
      rw [List.map_eq_nil_iff.1 hds.symm]
      rfl
  | cons code codes ih =>
    rw [read?, Option.bind_eq_some_iff]
    constructor
    · rintro ⟨v, hv, hrest⟩
      obtain ⟨d, rfl, rfl⟩ := exists_digit hv
      obtain ⟨ds, rfl, rfl⟩ := ih.1 hrest
      exact ⟨d :: ds, rfl, rfl⟩
    · rintro ⟨ds, hds, rfl⟩
      obtain ⟨d, ds, rfl, rfl, rfl⟩ := List.map_eq_cons_iff.1 hds.symm
      exact ⟨d.value, value?_digit d, ih.2 ⟨ds, rfl, rfl⟩⟩

/-- Every digit adds four bits. -/
theorem read?_lt {acc n : Nat} {codes : List Nat} (h : read? acc codes = some n) :
    n < (acc + 1) * 16 ^ codes.length := by
  induction codes generalizing acc with
  | nil =>
    have hn : acc = n := Option.some.inj h
    simp [hn]
  | cons code codes ih =>
    obtain ⟨v, hv, hrest⟩ := Option.bind_eq_some_iff.1 h
    have hstep : acc * 16 + v + 1 ≤ (acc + 1) * 16 := by
      have hlt := value?_lt hv
      omega
    calc n < (acc * 16 + v + 1) * 16 ^ codes.length := ih hrest
      _ ≤ (acc + 1) * 16 * 16 ^ codes.length := Nat.mul_le_mul_right _ hstep
      _ = (acc + 1) * 16 ^ (code :: codes).length := by
        rw [List.length_cons, pow_succ]
        ring

/-- Four digits stay within 16 bits, and so does every start of them. -/
theorem read?_lt_of_length_le {n : Nat} {codes : List Nat} (hlen : codes.length ≤ 4)
    (h : read? 0 codes = some n) : n < 0x10000 := by
  have hlt := read?_lt h
  have hpow : 16 ^ codes.length ≤ 16 ^ 4 := Nat.pow_le_pow_right (by omega) hlen
  omega

end Hex

/-! ## 16-bit units -/

namespace Units16

theorem decode_encode (cs : List Char) : decode (encode cs) = cs := by
  have h := decode_encode_append cs []
  rw [List.append_nil] at h
  rw [h]
  exact List.append_nil cs

/-- A unit that closes no pair starts a character, whatever stands before it. -/
theorem decode_append_cons_of_not_isLow {u : UInt16} (hu : isLow u = false)
    (as bs : List UInt16) : decode (as ++ u :: bs) = decode as ++ decode (u :: bs) := by
  induction as using decode.induct with
  | case1 => rfl
  | case2 v =>
    -- the unit before cannot form a pair with this one
    show decode (v :: u :: bs) = decodeUnit v :: decode (u :: bs)
    rw [decode, hu, Bool.and_false]
    rfl
  | case3 v w rest hpair ih =>
    simp only [List.cons_append, decode, hpair, if_true, ih]
  | case4 v w rest hpair ih =>
    simp only [List.cons_append, decode, hpair] at ih ⊢
    rw [ih]
    rfl

theorem isHigh_iff {u : UInt16} : isHigh u = true ↔ 0xD800 ≤ u.toNat ∧ u.toNat < 0xDC00 := by
  rw [isHigh, Bool.and_eq_true, decide_eq_true_eq, decide_eq_true_eq]

theorem isLow_iff {u : UInt16} : isLow u = true ↔ 0xDC00 ≤ u.toNat ∧ u.toNat < 0xE000 := by
  rw [isLow, Bool.and_eq_true, decide_eq_true_eq, decide_eq_true_eq]

theorem length_encodeChar_decodeUnit (u : UInt16) : (encodeChar (decodeUnit u)).length = 1 := by
  have hu : u.toNat < 0x10000 := u.toNat_lt
  have hsmall : (decodeUnit u).toNat < 0x10000 := by
    rw [decodeUnit]
    split
    · decide
    · next hpair =>
      rw [Bool.or_eq_true, isHigh_iff, isLow_iff] at hpair
      rw [toNat_charOfNat]
      · exact hu
      · show u.toNat < 0xD800 ∨ 0xDFFF < u.toNat ∧ u.toNat < 0x110000
        omega
  rw [encodeChar, if_pos hsmall]
  rfl

theorem length_encodeChar_decodePair {high low : UInt16}
    (h : (isHigh high && isLow low) = true) :
    (encodeChar (decodePair high low)).length = 2 := by
  rw [Bool.and_eq_true, isHigh_iff, isLow_iff] at h
  have hlarge : ¬ (decodePair high low).toNat < 0x10000 := by
    rw [decodePair, toNat_charOfNat]
    · omega
    · show _ ∨ 0xDFFF < _ ∧ _ < 0x110000
      omega
  rw [encodeChar, if_neg hlarge]
  rfl

/-- **Reading units keeps their number**: a unit without its partner is replaced by a character of
one unit. -/
theorem length_encode_decode (us : List UInt16) : (encode (decode us)).length = us.length := by
  have hcons : ∀ c cs, encode (c :: cs) = encodeChar c ++ encode cs := fun _ _ => rfl
  induction us using decode.induct with
  | case1 => rfl
  | case2 u => rw [decode, hcons, List.length_append, length_encodeChar_decodeUnit]; rfl
  | case3 u v rest hpair ih =>
    rw [decode, if_pos hpair, hcons, List.length_append, length_encodeChar_decodePair hpair, ih]
    simp only [List.length_cons]
    omega
  | case4 u v rest hpair ih =>
    rw [decode, if_neg hpair, hcons, List.length_append, length_encodeChar_decodeUnit, ih]
    simp only [List.length_cons]
    omega

end Units16

/-! ## Tokens -/

namespace Percent

/-- A percent sign with two digits, or with the letter `u` and four digits. -/
structure Token where
  isWide : Bool
  digits : List Hex.Digit
  length_digits : digits.length = if isWide then 4 else 2

namespace Token

/-- The characters of a token. -/
def text (t : Token) : List Char :=
  '%' :: ((if t.isWide then ['u'] else []) ++ t.digits.map Hex.Digit.char)

/-- The units of a token. -/
def units (t : Token) : List UInt16 :=
  Units16.encode t.text

/-- The unit that a token stands for. -/
def code (t : Token) : UInt16 :=
  UInt16.ofNat (Hex.worth t.digits)

theorem length_digits_le (t : Token) : t.digits.length ≤ 4 := by
  rw [t.length_digits]
  split <;> omega

/-- No bit of the digits is lost. -/
theorem toNat_code (t : Token) : t.code.toNat = Hex.worth t.digits := by
  have hread : Hex.read? 0 (t.digits.map fun d => d.char.toNat) = some (Hex.worth t.digits) :=
    Hex.read?_eq_some_iff.2 ⟨t.digits, rfl, rfl⟩
  refine Units16.toNat_ofNat_of_lt (Hex.read?_lt_of_length_le ?_ hread)
  rw [List.length_map]
  exact t.length_digits_le

/-- The unit of a digit. -/
def digitUnit (d : Hex.Digit) : UInt16 :=
  UInt16.ofNat d.char.toNat

theorem toNat_digitUnit (d : Hex.Digit) : (digitUnit d).toNat = d.char.toNat :=
  Units16.toNat_ofNat_of_lt (by have := d.toNat_char_lt; omega)

theorem digitUnit_ne_wide (d : Hex.Digit) : digitUnit d ≠ wide := by
  intro heq
  have hcode := toNat_digitUnit d
  rw [heq] at hcode
  refine d.char_ne_u ?_
  rw [← Char.ofNat_toNat d.char, ← hcode]
  rfl

theorem units_eq (t : Token) :
    t.units = percent :: ((if t.isWide then [wide] else []) ++ t.digits.map digitUnit) := by
  have hascii : ∀ c ∈ t.text, c.toNat < 0x80 := by
    intro c hc
    rw [text, List.mem_cons, List.mem_append, List.mem_map] at hc
    rcases hc with rfl | hc | ⟨d, -, rfl⟩
    · decide
    · split at hc
      · rw [List.mem_singleton.1 hc]
        decide
      · exact absurd hc List.not_mem_nil
    · exact d.toNat_char_lt
  rw [units, Units16.encode_of_ascii hascii, text, List.map_cons, List.map_append, List.map_map]
  cases t.isWide <;> rfl

theorem length_units (t : Token) : t.units.length = if t.isWide then 6 else 3 := by
  have hlen := t.length_digits
  rw [units_eq, List.length_cons, List.length_append, List.length_map, hlen]
  cases t.isWide <;> rfl

end Token

/-! ## What decoding finds behind a percent sign -/

open Token

theorem digits?_eq_some_iff {width n : Nat} {us : List UInt16} :
    digits? width us = some n ↔ ∃ (ds : List Hex.Digit) (rest : List UInt16),
      ds.length = width ∧ us = ds.map digitUnit ++ rest ∧ n = Hex.worth ds := by
  have hcodes : ∀ ds : List Hex.Digit,
      (ds.map digitUnit).map UInt16.toNat = ds.map fun d => d.char.toNat := by
    intro ds
    rw [List.map_map]
    exact List.map_congr_left fun d _ => toNat_digitUnit d
  rw [digits?]
  constructor
  · intro h
    split at h
    · next hlen =>
      obtain ⟨ds, hds, rfl⟩ := Hex.read?_eq_some_iff.1 h
      rw [← hcodes] at hds
      have htake : us.take width = ds.map digitUnit :=
        (List.map_inj_right fun _ _ => UInt16.toNat_inj.1).1 hds
      have hwidth := congrArg List.length htake
      rw [List.length_take_of_le hlen, List.length_map] at hwidth
      refine ⟨ds, us.drop width, hwidth.symm, ?_, rfl⟩
      rw [← htake, List.take_append_drop]
    · cases h
  · rintro ⟨ds, rest, rfl, rfl, rfl⟩
    have htake : (ds.map digitUnit ++ rest).take ds.length = ds.map digitUnit :=
      List.take_left' (List.length_map _)
    rw [if_pos (by simp), htake, hcodes]
    exact Hex.read?_eq_some_iff.2 ⟨ds, rfl, rfl⟩

/-- **The look-ahead finds the tokens and nothing else.** -/
theorem token?_eq_some_iff {us : List UInt16} {code : UInt16} {width : Nat} :
    token? us = some (code, width) ↔ ∃ (t : Token) (rest : List UInt16),
      percent :: us = t.units ++ rest ∧ code = t.code ∧ t.units.length = width + 1 := by
  rw [token?]
  constructor
  · intro h
    split at h
    · next hwide =>
      obtain ⟨us, rfl⟩ := List.head?_eq_some_iff.1 hwide
      obtain ⟨n, hn, hpair⟩ := Option.map_eq_some_iff.1 h
      obtain ⟨ds, rest, hlen, hus, rfl⟩ := digits?_eq_some_iff.1 hn
      rw [List.drop_one, List.tail_cons] at hus
      cases hpair
      refine ⟨⟨true, ds, hlen⟩, rest, ?_, rfl, length_units _⟩
      rw [units_eq, hus]
      rfl
    · obtain ⟨n, hn, hpair⟩ := Option.map_eq_some_iff.1 h
      obtain ⟨ds, rest, hlen, hus, rfl⟩ := digits?_eq_some_iff.1 hn
      cases hpair
      refine ⟨⟨false, ds, hlen⟩, rest, ?_, rfl, length_units _⟩
      rw [units_eq, hus]
      rfl
  · rintro ⟨⟨isWide, ds, hlen⟩, rest, hus, rfl, hwidth⟩
    rw [length_units] at hwidth
    rw [units_eq, List.cons_append, List.cons.injEq] at hus
    obtain ⟨-, rfl⟩ := hus
    cases isWide with
    | true =>
      obtain rfl : width = 5 := by simpa using hwidth.symm
      have hread : digits? 4 (ds.map digitUnit ++ rest) = some (Hex.worth ds) :=
        digits?_eq_some_iff.2 ⟨ds, rest, hlen, rfl, rfl⟩
      rw [if_pos (by rfl)]
      exact congrArg (Option.map _) hread
    | false =>
      obtain rfl : width = 2 := by simpa using hwidth.symm
      have hread : digits? 2 (ds.map digitUnit ++ rest) = some (Hex.worth ds) :=
        digits?_eq_some_iff.2 ⟨ds, rest, hlen, rfl, rfl⟩
      -- the first digit is not taken for the letter of a wide token
      have hhead : (ds.map digitUnit ++ rest).head? ≠ some wide := by
        cases ds with
        | nil => cases hlen
        | cons d ds => exact fun heq => digitUnit_ne_wide d (Option.some.inj heq)
      refine (if_neg hhead).trans ?_
      exact congrArg (Option.map _) hread

/-! ## Decoding finds its step again -/

theorem Token.digitUnit_ne_percent (d : Hex.Digit) : digitUnit d ≠ percent := by
  intro heq
  have hvalue := Hex.value?_digit d
  rw [← toNat_digitUnit, heq] at hvalue
  cases hvalue

/-- The percent sign of a token is its first unit and no other. -/
theorem Token.exists_units_eq (t : Token) : ∃ us, t.units = percent :: us ∧ percent ∉ us := by
  refine ⟨_, t.units_eq, ?_⟩
  rw [List.mem_append, List.mem_map]
  rintro (hmem | ⟨d, -, heq⟩)
  · split at hmem
    · exact absurd (List.mem_singleton.1 hmem) (by decide)
    · exact absurd hmem List.not_mem_nil
  · exact digitUnit_ne_percent d heq

/-- A token that is found before a percent sign ends before it. -/
theorem token?_append_percent (as bs : List UInt16) :
    token? (as ++ percent :: bs) = token? as := by
  refine Option.ext ?_
  rintro ⟨code, width⟩
  rw [token?_eq_some_iff, token?_eq_some_iff]
  refine exists_congr fun t => ?_
  obtain ⟨us, hunits, hnone⟩ := t.exists_units_eq
  rw [hunits]
  constructor
  · rintro ⟨rest, heq, hcode⟩
    rw [List.cons_append, List.cons.injEq] at heq
    rcases List.append_eq_append_iff.1 heq.2 with ⟨more, rfl, hmore⟩ | ⟨more, rfl, -⟩
    · -- the units would go on with the percent sign, if they went on at all
      cases more with
      | nil => exact ⟨[], by simp, hcode⟩
      | cons u more =>
        rw [List.cons_append, List.cons.injEq] at hmore
        exact absurd (by simp [← hmore.1]) hnone
    · exact ⟨more, rfl, hcode⟩
  · rintro ⟨rest, heq, hcode⟩
    refine ⟨rest ++ percent :: bs, ?_, hcode⟩
    rw [← List.cons_append, heq, List.append_assoc]

theorem width_le_of_token? {us : List UInt16} {code : UInt16} {width : Nat}
    (h : token? us = some (code, width)) : width ≤ us.length := by
  obtain ⟨t, rest, heq, -, hwidth⟩ := token?_eq_some_iff.1 h
  have hlen := congrArg List.length heq
  rw [List.length_cons, List.length_append, hwidth] at hlen
  omega

theorem decodeFrom_append_percent {skip : Nat} {as : List UInt16} (h : skip ≤ as.length)
    (bs : List UInt16) :
    decodeFrom skip (as ++ percent :: bs) = decodeFrom skip as ++ decodeUnits (percent :: bs) := by
  induction as generalizing skip with
  | nil =>
    obtain rfl : skip = 0 := Nat.le_zero.1 h
    rfl
  | cons a as ih =>
    cases skip with
    | succ skip => exact ih (Nat.le_of_succ_le_succ h)
    | zero =>
      rw [List.cons_append, decodeFrom, decodeFrom, token?_append_percent]
      split
      · split
        · next htoken => rw [ih (width_le_of_token? htoken), List.cons_append]
        · rw [ih (Nat.zero_le _), List.cons_append]
      · rw [ih (Nat.zero_le _), List.cons_append]

/-- **Decoding starts anew at every percent sign**, whatever stands before it. -/
theorem decodeUnits_append_percent (as bs : List UInt16) :
    decodeUnits (as ++ percent :: bs) = decodeUnits as ++ decodeUnits (percent :: bs) :=
  decodeFrom_append_percent (Nat.zero_le _) bs

theorem decodeUnits_units_append (t : Token) (rest : List UInt16) :
    decodeUnits (t.units ++ rest) = t.code :: decodeUnits rest := by
  obtain ⟨us, hunits, -⟩ := t.exists_units_eq
  rw [hunits, List.cons_append]
  refine decodeUnits_token us (token?_eq_some_iff.2 ⟨t, rest, ?_, rfl, ?_⟩)
  · rw [hunits, List.cons_append]
  · rw [hunits, List.length_cons]

theorem decodeUnits_append_units_append (as bs : List UInt16) (t : Token) :
    decodeUnits (as ++ t.units ++ bs) = decodeUnits as ++ [t.code] ++ decodeUnits bs := by
  obtain ⟨us, hunits, -⟩ := t.exists_units_eq
  have hdecode := decodeUnits_units_append t bs
  rw [hunits, List.cons_append] at hdecode
  rw [List.append_assoc, hunits, List.cons_append, decodeUnits_append_percent, hdecode,
    List.append_assoc, List.singleton_append]

/-! ## What decoding leaves as it is -/

theorem decodeUnits_eq_self {us : List UInt16} (h : ∀ t : Token, ¬ t.units <:+: us) :
    decodeUnits us = us := by
  induction us with
  | nil => rfl
  | cons u us ih =>
    have hrest : decodeFrom 0 us = us := ih fun t ht => h t (ht.trans (List.suffix_cons u us).isInfix)
    rw [decodeUnits, decodeFrom]
    split
    · next hu =>
      have hnone : token? us = none := by
        rcases htoken : token? us with _ | ⟨code, width⟩
        · rfl
        · obtain ⟨t, rest, heq, -⟩ := token?_eq_some_iff.1 htoken
          refine absurd ?_ (h t)
          rw [hu, heq]
          exact (List.prefix_append t.units rest).isInfix
      rw [hnone, hrest]
    · rw [hrest]

theorem length_decodeFrom_le (skip : Nat) (us : List UInt16) :
    (decodeFrom skip us).length ≤ us.length := by
  induction us generalizing skip with
  | nil => rw [decodeFrom]
  | cons u us ih =>
    cases skip with
    | succ skip => exact Nat.le_succ_of_le (ih skip)
    | zero =>
      rw [decodeFrom]
      split
      · split
        · next width _ => exact Nat.succ_le_succ (ih width)
        · exact Nat.succ_le_succ (ih 0)
      · exact Nat.succ_le_succ (ih 0)

/-- Every token makes a text shorter. -/
theorem length_decodeUnits_lt {us : List UInt16} {t : Token} (h : t.units <:+: us) :
    (decodeUnits us).length < us.length := by
  obtain ⟨as, bs, rfl⟩ := h
  have hunits : 3 ≤ t.units.length := by
    rw [t.length_units]
    split <;> omega
  have has := length_decodeFrom_le 0 as
  have hbs := length_decodeFrom_le 0 bs
  rw [decodeUnits_append_units_append]
  simp only [List.length_append, List.length_singleton, decodeUnits]
  omega

/-- A token stands in a text exactly if its units stand among the units of the text. -/
theorem units_infix_encode_iff {t : Token} {cs : List Char} :
    t.units <:+: Units16.encode cs ↔ t.text <:+: cs := by
  constructor
  · rintro ⟨as, bs, heq⟩
    obtain ⟨us, hunits, -⟩ := t.exists_units_eq
    refine ⟨Units16.decode as, Units16.decode bs, ?_⟩
    -- a percent sign is no half of a pair, so the characters before it can be told apart
    have hcs : Units16.decode (as ++ (t.units ++ bs)) = cs := by
      rw [← List.append_assoc, heq, Units16.decode_encode]
    have htext : Units16.decode (t.units ++ bs) = t.text ++ Units16.decode bs :=
      Units16.decode_encode_append t.text bs
    rw [hunits, List.cons_append,
      Units16.decode_append_cons_of_not_isLow (by decide : Units16.isLow percent = false),
      ← List.cons_append, ← hunits, htext, ← List.append_assoc] at hcs
    exact hcs
  · rintro ⟨as, bs, rfl⟩
    rw [Units16.encode_append, Units16.encode_append]
    exact ⟨_, _, rfl⟩

/-- **Decoding leaves a text as it is exactly if no token stands in it.** -/
theorem decode_eq_self_iff {cs : List Char} :
    decode cs = cs ↔ ∀ t : Token, ¬ t.text <:+: cs := by
  constructor
  · intro heq t ht
    have hshorter := length_decodeUnits_lt (units_infix_encode_iff.2 ht)
    have hlength := Units16.length_encode_decode (decodeUnits (Units16.encode cs))
    rw [← decode, heq] at hlength
    omega
  · intro hnone
    have hself : decodeUnits (Units16.encode cs) = Units16.encode cs :=
      decodeUnits_eq_self fun t ht => hnone t (units_infix_encode_iff.1 ht)
    rw [decode, hself, Units16.decode_encode]

/-- **Every token is decoded wherever it stands, and nothing else is touched.** Among any units a
token becomes the one unit that its digits are worth, and what stands before and behind it is
decoded as if it stood alone; units without a token stay as they are. Digits are added up within 16
bits. A text is what it stands for exactly if no token stands in it. -/
theorem unescape_tokens_exact :
    (∀ (as bs : List UInt16) (t : Token),
      decodeUnits (as ++ t.units ++ bs) = decodeUnits as ++ [t.code] ++ decodeUnits bs) ∧
    (∀ us : List UInt16, (∀ t : Token, ¬ t.units <:+: us) → decodeUnits us = us) ∧
    (∀ t : Token, t.code.toNat = Hex.worth t.digits) ∧
    (∀ (us : List UInt16) (n : Nat), us.length ≤ 4 →
      Hex.read? 0 (us.map UInt16.toNat) = some n → n < 0x10000) ∧
    ∀ s : String, unescape s = s ↔ ∀ t : Token, ¬ t.text <:+: s.toList := by
  refine ⟨decodeUnits_append_units_append, fun _ => decodeUnits_eq_self, Token.toNat_code, ?_, ?_⟩
  · intro us n hlen hread
    exact Hex.read?_lt_of_length_le (by rwa [List.length_map]) hread
  · intro s
    rw [← decode_eq_self_iff, unescape]
    constructor
    · intro heq
      have hlist := congrArg String.toList heq
      rwa [String.toList_ofList] at hlist
    · intro heq
      rw [heq, String.ofList_toList]

example : unescape "%%41%u%41%4%u0042%u12" = "%A%uA%4B%u12" := by decide

/-- Two tokens that are broken off are left as they are, and the greatest code has 16 bits. -/
theorem unescape_tokens_exact_broken_off :
    let broken := Units16.encode "%u12%4".toList
    let digits := Units16.encode "fFFf".toList
    ((∀ t : Token, ¬ t.units <:+: broken) ∧ digits.length ≤ 4 ∧
      Hex.read? 0 (digits.map UInt16.toNat) = some 0xFFFF) ∧
    decodeUnits broken = broken ∧ 0xFFFF < 0x10000 := by
  intro broken digits
  obtain ⟨-, hself, -, hbits, htext⟩ := unescape_tokens_exact
  have hfree : ∀ t : Token, ¬ t.units <:+: broken := fun t ht =>
    (htext "%u12%4").1 (by decide) t (units_infix_encode_iff.1 ht)
  have hread : Hex.read? 0 (digits.map UInt16.toNat) = some 0xFFFF := by decide
  exact ⟨⟨hfree, by decide, hread⟩, hself broken hfree, hbits digits _ (by decide) hread⟩

end Percent

end PlanViewer.Text
