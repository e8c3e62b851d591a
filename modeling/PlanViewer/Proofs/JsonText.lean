import PlanViewer.Json.Record
import PlanViewer.Json.Writer
import PlanViewer.Proofs.Digits

/-!
# Written JSON is read back

Strings and laid-out objects are read back to what they were written from. A string ends at its own
closing quote, whatever follows it. The members of an object are read one after the other, so the
statement about objects is about runs: when the value of each member is read and leaves what
follows, the whole object is read and leaves what follows it.
-/

namespace PlanViewer.Json

open Text

/-! ## White space -/

theorem skipSpace_cons {c : Char} (hc : isSpace c = false) (cs : List Char) :
    skipSpace (c :: cs) = c :: cs := by
  rw [skipSpace, List.dropWhile_cons_of_neg (by rw [hc]; exact Bool.false_ne_true)]

theorem skipSpace_cons_of_isSpace {c : Char} (hc : isSpace c = true) (cs : List Char) :
    skipSpace (c :: cs) = skipSpace cs := by
  rw [skipSpace, List.dropWhile_cons_of_pos hc]
  rfl

theorem skipSpace_lineBreak (depth : Nat) (cs : List Char) :
    skipSpace (lineBreak depth ++ cs) = skipSpace cs := by
  have hall : ∀ c ∈ lineBreak depth, isSpace c = true := by
    intro c hc
    rcases List.mem_cons.mp hc with rfl | hc
    · decide
    · rw [List.eq_of_mem_replicate hc]
      decide
  rw [skipSpace, List.dropWhile_append_of_pos hall]
  rfl

/-! ## Strings -/

theorem utf8Size_lowerDigit : ∀ d, d < 16 → (Hex.lowerDigit d).utf8Size = 1 := by
  decide

theorem foldl_utf8Size {cs : List Char} (h : ∀ c ∈ cs, c.utf8Size = 1) (n : Nat) :
    cs.foldl (fun n c => n + c.utf8Size) n = n + cs.length := by
  induction cs generalizing n with
  | nil => rfl
  | cons c cs ih =>
    rw [List.foldl_cons, h c List.mem_cons_self, ih fun d hd => h d (List.mem_cons_of_mem c hd),
      List.length_cons]
    omega

theorem readHex4_write {n : Nat} (hn : n < 0x10000) (rest : List Char) :
    readHex4 (Hex.write Hex.lowerDigit 4 n ++ rest) = .ok n := by
  have htake : (Hex.write Hex.lowerDigit 4 n ++ rest).take 4 = Hex.write Hex.lowerDigit 4 n :=
    List.take_left' (Hex.length_write _ 4 n)
  have hsize : ∀ c ∈ Hex.write Hex.lowerDigit 4 n, c.utf8Size = 1 := by
    intro c hc
    obtain ⟨d, hd, rfl⟩ := Hex.mem_write hc
    exact utf8Size_lowerDigit d hd
  rw [readHex4, htake, foldl_utf8Size hsize, Hex.length_write, if_neg (by omega),
    Hex.read?_write Hex.isReadable_lowerDigit 4 n 0 hn, Nat.zero_mul, Nat.zero_add]

/-- Characters that belong to an escape are passed over. -/
theorem readStringFrom_length (cs rest : List Char) :
    readStringFrom cs.length (cs ++ rest) = readStringFrom 0 rest := by
  induction cs with
  | nil => rfl
  | cons c cs ih => rw [List.length_cons, List.cons_append, readStringFrom, ih]

/-- A string that goes on after a character which has been read. -/
def withChar (c : Char) (r : Except Problem (List Char × List Char)) :
    Except Problem (List Char × List Char) :=
  r.bind fun (chars, rest) => .ok (c :: chars, rest)

theorem readStringFrom_escape (escape : List Char) {tail : List Char} {c : Char}
    (h : readEscape (escape ++ tail) = .ok (c, escape.length)) :
    readStringFrom 0 ('\\' :: (escape ++ tail)) = withChar c (readStringFrom 0 tail) := by
  rw [readStringFrom, if_neg (by decide), if_pos rfl, h]
  show withChar c (readStringFrom escape.length (escape ++ tail)) = _
  rw [readStringFrom_length]

theorem readEscape_code {n : Nat} (hn : n < 0xD800) (tail : List Char) :
    readEscape ('u' :: Hex.write Hex.lowerDigit 4 n ++ tail) = .ok (Char.ofNat n, 5) := by
  have hlow : isLowCode n = false := by
    rw [isLowCode, Bool.and_eq_false_iff, decide_eq_false_iff_not]
    exact Or.inl (by omega)
  have hhigh : isHighCode n = false := by
    rw [isHighCode, Bool.and_eq_false_iff, decide_eq_false_iff_not]
    exact Or.inl (by omega)
  rw [List.cons_append, readEscape, readHex4_write (by omega)]
  show (if isLowCode n = true then _ else _) = _
  rw [hlow, hhigh]
  rfl

/-- A character that is written as it is stands for itself. -/
theorem readStringFrom_plain {c : Char} (hquote : c ≠ '"') (hslash : c ≠ '\\')
    (hcontrol : ¬ c.toNat < 0x20) (tail : List Char) :
    readStringFrom 0 (c :: tail) = withChar c (readStringFrom 0 tail) := by
  have hc : isControl c = false := by
    rw [isControl, decide_eq_false_iff_not]
    exact hcontrol
  rw [readStringFrom, if_neg hquote, if_neg hslash, hc]
  rfl

/-- **One written character is read back**, whatever follows it. -/
theorem readStringFrom_writeChar (c : Char) (tail : List Char) :
    readStringFrom 0 (writeChar c ++ tail) = withChar c (readStringFrom 0 tail) := by
  unfold writeChar
  split
  · exact readStringFrom_escape ['"'] rfl
  · exact readStringFrom_escape ['\\'] rfl
  · exact readStringFrom_escape ['b'] rfl
  · exact readStringFrom_escape ['t'] rfl
  · exact readStringFrom_escape ['n'] rfl
  · exact readStringFrom_escape ['f'] rfl
  · exact readStringFrom_escape ['r'] rfl
  · next hquote hslash _ _ _ _ _ =>
    split
    · next hcontrol =>
      have hcode := readEscape_code (show c.toNat < 0xD800 by omega) tail
      rw [Char.ofNat_toNat] at hcode
      exact readStringFrom_escape ('u' :: Hex.write Hex.lowerDigit 4 c.toNat)
        (by rw [hcode, List.length_cons, Hex.length_write])
    · next hcontrol => exact readStringFrom_plain hquote hslash hcontrol tail

theorem readStringFrom_flatMap_writeChar (cs rest : List Char) :
    readStringFrom 0 (cs.flatMap writeChar ++ '"' :: rest) = .ok (cs, rest) := by
  induction cs with
  | nil => rfl
  | cons c cs ih =>
    rw [List.flatMap_cons, List.append_assoc, readStringFrom_writeChar, ih]
    rfl

theorem readString_flatMap_writeChar (text : String) (rest : List Char) :
    readString (text.toList.flatMap writeChar ++ '"' :: rest) = .ok (text, rest) := by
  rw [readString, readStringFrom_flatMap_writeChar]
  show Except.ok (String.ofList text.toList, rest) = _
  rw [String.ofList_toList]

theorem writeString_append (text : String) (rest : List Char) :
    writeString text ++ rest = '"' :: (text.toList.flatMap writeChar ++ '"' :: rest) := by
  simp [writeString]

/-- A written string is read back after a blank, whatever follows it. -/
theorem stringValue_writeString (text : String) (rest : List Char) :
    stringValue (' ' :: (writeString text ++ rest)) = .ok (text, rest) := by
  rw [stringValue, skipSpace_cons_of_isSpace (by decide), writeString_append,
    skipSpace_cons (by decide)]
  exact readString_flatMap_writeChar text rest

/-! ## Members of a laid-out object -/

/-- A member as it stands in a laid-out object. -/
def memberText (member : String × List Char) : List Char :=
  writeString member.1 ++ ':' :: ' ' :: member.2

/-- What follows the first member of a laid-out object: the other members, each after a comma and a
line break, and the closing bracket. -/
def membersTail (depth : Nat) (members : List (String × List Char)) : List Char :=
  members.flatMap (fun member => ',' :: (lineBreak (depth + 1) ++ memberText member)) ++
    (lineBreak depth ++ ['\x7d'])

theorem joined_cons (between text : List Char) (texts : List (List Char)) :
    joined between (text :: texts) = text ++ texts.flatMap fun t => between ++ t := by
  induction texts generalizing text with
  | nil => simp [joined]
  | cons t texts ih =>
    rw [joined, ih, List.flatMap_cons]
    · simp
    · exact List.cons_ne_nil t texts

theorem writeLaidOut_cons (depth : Nat) (member : String × List Char)
    (members : List (String × List Char)) :
    writeLaidOut depth (member :: members) =
      '\x7b' :: (lineBreak (depth + 1) ++ (memberText member ++ membersTail depth members)) := by
  show '\x7b' :: lineBreak (depth + 1) ++
    joined (',' :: lineBreak (depth + 1)) ((member :: members).map memberText) ++
      lineBreak depth ++ ['\x7d'] = _
  rw [List.map_cons, joined_cons, List.flatMap_map, membersTail]
  simp only [List.cons_append, List.append_assoc]

theorem readMember_named (depth : Nat) (name : String) (rest : List Char) :
    readMember true (lineBreak depth ++ (writeString name ++ rest)) = .ok (.named name rest) := by
  rw [readMember, skipSpace_lineBreak, writeString_append, skipSpace_cons (by decide)]
  show (readString (name.toList.flatMap writeChar ++ '"' :: rest)).map _ = _
  rw [readString_flatMap_writeChar]
  rfl

theorem readMember_comma (depth : Nat) (name : String) (rest : List Char) :
    readMember false (',' :: (lineBreak depth ++ (writeString name ++ rest))) =
      .ok (.named name rest) := by
  rw [readMember, skipSpace_cons (by decide)]
  dsimp only
  rw [if_neg (by decide), if_neg (by decide), if_pos rfl, skipSpace_lineBreak, writeString_append,
    skipSpace_cons (by decide)]
  show (readString (name.toList.flatMap writeChar ++ '"' :: rest)).map _ = _
  rw [readString_flatMap_writeChar]
  rfl

theorem readMember_done (first : Bool) (depth : Nat) (rest : List Char) :
    readMember first (lineBreak depth ++ '\x7d' :: rest) = .ok (.done rest) := by
  rw [readMember, skipSpace_lineBreak, skipSpace_cons (by decide)]
  rfl

/-! ## Runs over the members -/

/-- Whether a text goes on as it does after a value of a laid-out object. -/
def FollowsValue (rest : List Char) : Prop :=
  rest.head? = some ',' ∨ rest.head? = some '\n'

/-- The steps over the members of an object go through one after the other, each of them leaving
what follows its value. -/
inductive MembersRead {σ : Type}
    (step : σ → String → List Char → Except Problem (σ × List Char)) :
    σ → List (String × List Char) → σ → Prop
  | nil (s : σ) : MembersRead step s [] s
  | cons {s next last : σ} {name : String} {value : List Char}
      {members : List (String × List Char)} :
      (∀ rest, FollowsValue rest →
        step s name (':' :: ' ' :: (value ++ rest)) = .ok (next, rest)) →
      MembersRead step next members last →
      MembersRead step s ((name, value) :: members) last

section

variable {σ α : Type} {step : σ → String → List Char → Except Problem (σ × List Char)}

theorem membersTail_nil_append (depth : Nat) (rest : List Char) :
    membersTail depth [] ++ rest = lineBreak depth ++ '\x7d' :: rest := by
  simp [membersTail]

theorem membersTail_cons_append (depth : Nat) (name : String) (value : List Char)
    (members : List (String × List Char)) (rest : List Char) :
    membersTail depth ((name, value) :: members) ++ rest =
      ',' :: (lineBreak (depth + 1) ++ (writeString name ++
        ':' :: ' ' :: (value ++ (membersTail depth members ++ rest)))) := by
  simp [membersTail, memberText]

theorem followsValue_membersTail (depth : Nat) (members : List (String × List Char))
    (rest : List Char) : FollowsValue (membersTail depth members ++ rest) := by
  cases members with
  | nil => exact Or.inr rfl
  | cons member members => exact Or.inl rfl

/-- The run over the members after the first one. -/
theorem readMembers_membersTail {s last : σ} {members : List (String × List Char)}
    (h : MembersRead step s members last) {fuel : Nat} (hfuel : members.length < fuel)
    (depth : Nat) (rest : List Char) :
    readMembers step fuel false s (membersTail depth members ++ rest) = .ok (last, rest) := by
  -- on the run, not on the members alone: each member takes its step and one unit of fuel
  induction h generalizing fuel with
  | nil s =>
    obtain ⟨fuel, rfl⟩ : ∃ n, fuel = n + 1 := ⟨fuel - 1, by omega⟩
    rw [membersTail_nil_append, readMembers, readMember_done]
    rfl
  | @cons s next last name value members hstep _ ih =>
    obtain ⟨fuel, rfl⟩ : ∃ n, fuel = n + 1 := ⟨fuel - 1, by omega⟩
    have hrest : members.length < fuel := by
      rw [List.length_cons] at hfuel
      omega
    rw [membersTail_cons_append, readMembers, readMember_comma]
    show (step s name (':' :: ' ' :: (value ++ (membersTail depth members ++ rest)))).bind _ = _
    rw [hstep _ (followsValue_membersTail depth members rest)]
    exact ih hrest

theorem length_le_membersTail (depth : Nat) (members : List (String × List Char)) :
    members.length ≤ (membersTail depth members).length := by
  induction members with
  | nil => exact Nat.zero_le _
  | cons member members ih =>
    obtain ⟨name, value⟩ := member
    have h := congrArg List.length (membersTail_cons_append depth name value members [])
    simp only [List.length_append, List.length_cons, List.length_nil] at h ⊢
    omega

/-- **A laid-out object is read from its opening bracket to its closing one**, and the length of
its text is fuel enough. -/
theorem readMembers_writeLaidOut {s last : σ} {members : List (String × List Char)}
    (h : MembersRead step s members last) (depth : Nat) (rest : List Char) :
    ∃ body, writeLaidOut depth members ++ rest = '\x7b' :: body ∧
      readMembers step (body.length + 1) true s body = .ok (last, rest) := by
  cases h with
  | nil => exact ⟨'\x7d' :: rest, rfl, rfl⟩
  | @cons s next last name value members hstep hmembers =>
    refine ⟨lineBreak (depth + 1) ++ (writeString name ++
      ':' :: ' ' :: (value ++ (membersTail depth members ++ rest))), ?_, ?_⟩
    · rw [writeLaidOut_cons, memberText]
      simp
    · have hlength := length_le_membersTail depth members
      rw [readMembers, readMember_named]
      show (step s name (':' :: ' ' :: (value ++ (membersTail depth members ++ rest)))).bind _ = _
      rw [hstep _ (followsValue_membersTail depth members rest)]
      refine readMembers_membersTail hmembers ?_ depth rest
      simp only [List.length_append, List.length_cons]
      omega

theorem colon_append (rest : List Char) : colon (':' :: rest) = .ok rest := by
  rw [colon, skipSpace_cons (by decide)]
  rfl

theorem fieldValue_colon (read : List Char → Except Problem (α × List Char))
    (rest : List Char) : fieldValue none read (':' :: rest) = read rest := by
  rw [fieldValue, colon_append]
  rfl

/-- A record is read from its laid-out object, after a blank. -/
theorem recordValue_writeLaidOut {start last : σ} {members : List (String × List Char)}
    (h : MembersRead step start members last) {finish : σ → Except Problem α} {a : α}
    (hfinish : finish last = .ok a) (elements : List Char → Except Problem (α × List Char))
    (depth : Nat) (rest : List Char) :
    recordValue start step finish elements (' ' :: (writeLaidOut depth members ++ rest)) =
      .ok (a, rest) := by
  obtain ⟨body, htext, hread⟩ := readMembers_writeLaidOut h depth rest
  rw [recordValue, skipSpace_cons_of_isSpace (by decide), htext, skipSpace_cons (by decide)]
  show (readMembers step (body.length + 1) true start body).bind _ = _
  rw [hread]
  show (finish last).map _ = _
  rw [hfinish]
  rfl

/-- The step over a member of a map. -/
def mapStep (insert : σ → String → α → σ) (read : List Char → Except Problem (α × List Char))
    (s : σ) (name : String) (cs : List Char) : Except Problem (σ × List Char) :=
  ((colon cs).bind read).map fun (a, rest) => (insert s name a, rest)

theorem mapStep_colon {insert : σ → String → α → σ}
    {read : List Char → Except Problem (α × List Char)} {cs rest : List Char} {a : α}
    (h : read cs = .ok (a, rest)) (s : σ) (name : String) :
    mapStep insert read s name (':' :: cs) = .ok (insert s name a, rest) := by
  rw [mapStep, colon_append]
  show (read cs).map _ = _
  rw [h]
  rfl

/-- A map is read from its laid-out object. -/
theorem mapValue_writeLaidOut {start last : σ} {insert : σ → String → α → σ}
    {read : List Char → Except Problem (α × List Char)} {members : List (String × List Char)}
    (h : MembersRead (mapStep insert read) start members last) (depth : Nat) (rest : List Char) :
    mapValue start insert read (writeLaidOut depth members ++ rest) = .ok (last, rest) := by
  obtain ⟨body, htext, hread⟩ := readMembers_writeLaidOut h depth rest
  rw [mapValue, htext, skipSpace_cons (by decide)]
  exact hread

/-- A text with nothing but one value in it. -/
theorem document_ofList {read : List Char → Except Problem (α × List Char)} {a : α}
    {cs : List Char} (h : read cs = .ok (a, [])) : document read (String.ofList cs) = .ok a := by
  rw [document, String.toList_ofList, h]
  rfl

end

end PlanViewer.Json
