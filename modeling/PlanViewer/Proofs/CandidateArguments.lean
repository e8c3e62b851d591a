import PlanViewer.CommandLine.Invocation
import PlanViewer.Proofs.CandidateOrder

/-!
# Candidates on the command line

A command line that asks for a match may be given further candidates at its end. They are texts that
introduce no argument, or any texts once there has been a lone `--`. This module says what comes of
them: whatever was found before is found again, the candidates are those from before and the further
ones after them; only when too many stand in a row the last of them is refused
(`Invocation.read_append`).

The argument is about the reader as a state machine. One text leaves the places that are left and
the meaning of later texts as they are, unless it is the lone `--` (`Reader.Steady.take_cases`), and
an argument that waits for its value is never settled without one. So a reader that could stop
after some texts stands either among candidates, which the further ones join, or behind an argument
that is complete, and then the further ones come as a new group.
-/

namespace PlanViewer

/-! ## Rows of checks -/

section Checks

variable {ε ε' α β : Type}

/-- A row of checks is passed when each of them is. -/
theorem bind_eq_ok_iff {x : Except ε α} {f : α → Except ε β} {b : β} :
    x >>= f = .ok b ↔ ∃ a, x = .ok a ∧ f a = .ok b := by
  cases x with
  | error e => exact ⟨fun h => (by cases h), fun ⟨_, h, _⟩ => (by cases h)⟩
  | ok a => exact ⟨fun h => ⟨a, rfl, h⟩, fun ⟨_, h, hf⟩ => (by cases h; exact hf)⟩

theorem mapError_eq_ok_iff {x : Except ε α} {f : ε → ε'} {a : α} :
    x.mapError f = .ok a ↔ x = .ok a := by
  cases x with
  | error e => exact ⟨fun h => (by cases h), fun h => (by cases h)⟩
  | ok b => exact ⟨fun h => (by cases h; rfl), fun h => (by cases h; rfl)⟩

end Checks

namespace CommandLine

/-- A text that introduces no argument: it has no dash in front, or nothing behind it. -/
def IsValue (text : String) : Prop :=
  ∀ c cs, text.toList ≠ '-' :: c :: cs

namespace Reader

variable {r r' : Reader} {a : Argument} {text : String} {texts more : List String}

/-! ## Reading on -/

theorem check_eq_ok (h : r.check a texts = .ok r') :
    texts ≠ [] ∧ ∃ values, r' = r.note a values := by
  unfold check at h
  split at h
  · cases h
  · next last hlast =>
    have hne : texts ≠ [] := List.ne_nil_of_mem (List.mem_of_getLast? hlast)
    refine ⟨hne, ?_⟩
    split at h
    · cases h
    · obtain ⟨_, -, h⟩ := bind_eq_ok_iff.mp h
      obtain ⟨values, -, h⟩ := bind_eq_ok_iff.mp h
      cases h
      exact ⟨values, rfl⟩

theorem settle_cases (h : r.settle = .ok r') :
    r'.pending = none ∧ r'.places = r.places ∧ r'.plain = r.plain := by
  unfold settle at h
  split at h
  · next hnone =>
    cases h
    exact ⟨hnone, rfl, rfl⟩
  · obtain ⟨-, values, rfl⟩ := check_eq_ok h
    exact ⟨rfl, rfl, rfl⟩

/-- What reading on leaves as it is: the places, and whether every text is a value. An argument that
waits for its value has none. -/
structure Follows (r r' : Reader) : Prop where
  places : r'.places = r.places
  plain : r'.plain = r.plain
  awaits : ∀ p ∈ r'.pending, p.awaits = true → p.texts = []

theorem Follows.note (h : r.Follows r') (a : Argument) (values : List Value) :
    r.Follows (r'.note a values) :=
  ⟨h.places, h.plain, h.awaits⟩

theorem Follows.trans {r'' : Reader} (h : r.Follows r') (h' : r'.Follows r'') : r.Follows r'' :=
  ⟨h'.places.trans h.places, h'.plain.trans h.plain, h'.awaits⟩

theorem follows_of_settle (h : r.settle = .ok r') : r.Follows r' := by
  obtain ⟨hpending, hplaces, hplain⟩ := settle_cases h
  exact ⟨hplaces, hplain, by simp [hpending]⟩

theorem follows_of_takeFlag (h : r.takeFlag a = .ok r') : r.Follows r' := by
  unfold takeFlag at h
  split at h
  · cases h
  · next settled hsettle =>
    split at h
    · cases h
    · cases h
    · rw [mapError_eq_ok_iff] at h
      rcases hrepeat : settled.refuseRepeat a with e | u
      · rw [hrepeat] at h
        cases h
      · rw [hrepeat] at h
        cases h
        exact (follows_of_settle hsettle).note a []

theorem follows_of_takeLetters {cs : List Char} (hr : r.Follows r)
    (h : r.takeLetters cs = .ok r') : r.Follows r' := by
  induction cs generalizing r with
  | nil =>
    cases h
    exact hr
  | cons c cs ih =>
    unfold takeLetters at h
    split at h
    · cases h
    · obtain ⟨next, hflag, h⟩ := bind_eq_ok_iff.mp h
      have hnext := follows_of_takeFlag hflag
      exact hnext.trans (ih ⟨rfl, rfl, hnext.awaits⟩ h)

theorem follows_of_takeWord {cs : List Char} (h : r.takeWord cs = .ok r') : r.Follows r' := by
  unfold takeWord at h
  dsimp only at h
  split at h
  · cases h
  · split at h
    · split at h
      · cases h
      · exact follows_of_takeFlag h
    · rw [mapError_eq_ok_iff] at h
      obtain ⟨settled, hsettle, h⟩ := bind_eq_ok_iff.mp h
      have hsettled := follows_of_settle hsettle
      split at h
      · obtain ⟨-, values, rfl⟩ := check_eq_ok h
        exact hsettled.note _ values
      · cases h
        exact ⟨hsettled.places, hsettled.plain, by simp⟩

/-- A reader that passes no place: it has none, or only that of the candidates. An argument that
waits for its value has none. -/
structure Steady (r : Reader) : Prop where
  places : r.places = [] ∨ r.places = [.candidates]
  awaits : ∀ p ∈ r.pending, p.awaits = true → p.texts = []

theorem Steady.of_follows (hr : r.Steady) (h : r.Follows r') : r'.Steady :=
  ⟨by rw [h.places]; exact hr.places, h.awaits⟩

theorem Steady.follows_of_takeValue (hr : r.Steady) (h : r.takeValue text = .ok r') :
    r.Follows r' := by
  unfold takeValue at h
  split at h
  · cases h
    exact ⟨rfl, rfl, by simp⟩
  · unfold takeAtPlace at h
    rcases hr.places with hplaces | hplaces
    · rw [hplaces] at h
      cases h
    · rw [hplaces] at h
      dsimp only at h
      split at h
      · cases h
        exact ⟨hplaces.symm, rfl, by simp⟩
      · obtain ⟨settled, hsettle, h⟩ := bind_eq_ok_iff.mp h
        cases h
        have hsettled := follows_of_settle hsettle
        exact ⟨hsettled.places, hsettled.plain, by simp⟩

/-- **What one text does to a reader**: it is read on, or from here on every text is a value. -/
theorem Steady.take_cases (hr : r.Steady) (h : r.take text = .ok r') :
    (r.Follows r' ∧ (text = "--" → r.plain = true)) ∨ r' = { r with plain := true } := by
  have hvalue : (r.takeValue text).mapError Stop.usage = .ok r' → r.Follows r' :=
    fun h => hr.follows_of_takeValue (mapError_eq_ok_iff.mp h)
  unfold take at h
  dsimp only at h
  split at h
  · next hplain => exact Or.inl ⟨hvalue h, fun _ => hplain⟩
  · split at h
    · cases h
      exact Or.inr rfl
    · next cs hcs htext =>
      refine Or.inl ⟨follows_of_takeWord h, ?_⟩
      rintro rfl
      exact absurd (by simpa using htext.symm) hcs
    · next c cs _ hc htext =>
      refine Or.inl ⟨?_, ?_⟩
      · split at h
        · exact hvalue h
        · exact follows_of_takeLetters ⟨rfl, rfl, hr.awaits⟩ h
      · rintro rfl
        have hdashes : ['-', '-'] = '-' :: c :: cs := htext
        exact absurd (List.cons.inj (List.cons.inj hdashes).2).1.symm hc
    · next hdashes _ _ =>
      refine Or.inl ⟨hvalue h, ?_⟩
      rintro rfl
      exact absurd rfl hdashes

theorem Steady.of_take (hr : r.Steady) (h : r.take text = .ok r') :
    r'.Steady ∧ r'.places = r.places := by
  rcases hr.take_cases h with ⟨hfollows, -⟩ | rfl
  · exact ⟨hr.of_follows hfollows, hfollows.places⟩
  · exact ⟨⟨hr.places, hr.awaits⟩, rfl⟩

theorem Steady.plain_of_take (hr : r.Steady) (h : r.take text = .ok r')
    (hplain : r.plain = true ∨ text = "--") : r'.plain = true := by
  rcases hr.take_cases h with ⟨hfollows, hdashes⟩ | rfl
  · exact hfollows.plain.trans (hplain.elim id hdashes)
  · rfl

/-! ## Further candidates -/

theorem take_of_isValue (h : r.plain = true ∨ IsValue text) :
    r.take text = (r.takeValue text).mapError Stop.usage := by
  unfold take
  dsimp only
  split
  · rfl
  · next hplain =>
    have hvalue := h.resolve_left hplain
    split
    · next htext => exact absurd htext (hvalue _ _)
    · next htext => exact absurd htext (hvalue _ _)
    · next htext => exact absurd htext (hvalue _ _)
    · rfl

theorem takeValue_of_not_awaits (h : r.awaits = false) : r.takeValue text = r.takeAtPlace text := by
  have hnone : r.pending.filter (fun p => p.awaits && !r.plain) = none := by
    unfold awaits at h
    cases hpending : r.pending with
    | none => rfl
    | some p =>
      rw [hpending] at h
      simp [Option.filter, h]
  rw [takeValue, hnone]

theorem values_note (r : Reader) (a b : Argument) (values : List Value) :
    (r.note a values).values b = r.values b ++ if b = a then values else [] := by
  by_cases hab : b = a
  · simp [Reader.values, note, hab]
  · simp [Reader.values, note, hab, Ne.symm hab]

theorem has_note (r : Reader) (a : Argument) (values : List Value) :
    (r.note a values).has a = true := by
  simp [has, note]

theorem texts_of_values (h : r'.values a = r.values a ++ more.map Value.text) :
    r'.texts a = r.texts a ++ more := by
  simp [Reader.texts, h, List.filterMap_append, List.filterMap_map]

/-- Candidates are taken as they are, up to three in a row. -/
theorem check_candidates (r : Reader) (hne : texts ≠ []) :
    r.check .candidates texts =
      if 3 < texts.length then .error (.surplusValue (texts.getLast hne) Argument.candidates.label)
      else .ok (r.note .candidates (texts.map Value.text)) := by
  have hrepeat : r.refuseRepeat .candidates = .ok () := by
    simp [refuseRepeat, Argument.isRepeatable]
  have hread : texts.mapM (Argument.read .candidates) = .ok (texts.map Value.text) :=
    List.mapM_pure
  unfold check
  rw [List.getLast?_eq_some_getLast hne]
  show (if 3 < texts.length then _ else _) = _
  split
  · rfl
  · rw [hrepeat, hread]
    rfl

/-- A reader that is at candidates, with those that came without a break. -/
def collecting (r : Reader) (texts : List String) : Reader :=
  { r with pending := some ⟨.candidates, texts, false⟩ }

/-- A candidate after candidates is collected with them. -/
theorem takeAtPlace_candidates (hplaces : r.places = [.candidates]) {p : Pending}
    (hpending : r.pending = some p) (hp : p.argument = .candidates) :
    r.takeAtPlace text = .ok (r.collecting (p.texts ++ [text])) := by
  unfold takeAtPlace collecting
  rw [hplaces, hpending]
  simp [Option.filter, hp, Argument.isRepeatable]

/-- A candidate after anything else settles what came before it. -/
theorem takeAtPlace_other (hplaces : r.places = [.candidates])
    (hother : ∀ p ∈ r.pending, p.argument ≠ .candidates) (hsettle : r.settle = .ok r') :
    r.takeAtPlace text = .ok (r'.collecting [text]) := by
  have hnone : r.pending.filter (fun p => Argument.candidates.isRepeatable &&
      decide (p.argument = .candidates)) = none := by
    rw [Option.filter_eq_none_iff]
    intro p hp
    simp [hother p hp]
  unfold takeAtPlace
  rw [hplaces]
  dsimp only
  rw [hnone, hsettle]
  rfl

/-- Candidates that follow candidates are collected with them. -/
theorem takeAll_collecting (hplaces : r.places = [.candidates])
    (hmore : r.plain = true ∨ ∀ t ∈ more, IsValue t) (texts : List String) :
    (r.collecting texts).takeAll more =
      (r.collecting (texts ++ more)).settle.mapError Stop.usage := by
  induction more generalizing texts with
  | nil =>
    rw [List.append_nil]
    rfl
  | cons text more ih =>
    have hvalue : (r.collecting texts).plain = true ∨ IsValue text :=
      hmore.imp_right fun h => h text List.mem_cons_self
    have hplace : (r.collecting texts).takeAtPlace text =
        .ok (r.collecting (texts ++ [text])) :=
      takeAtPlace_candidates (r := r.collecting texts) hplaces rfl rfl
    rw [takeAll, take_of_isValue hvalue, takeValue_of_not_awaits rfl, hplace]
    show (r.collecting (texts ++ [text])).takeAll more = _
    rw [ih (hmore.imp_right fun h t ht => h t (List.mem_cons_of_mem _ ht)), List.append_assoc,
      List.singleton_append]

theorem Steady.not_awaits (hr : r.Steady) (hsettle : r.settle = .ok r') : r.awaits = false := by
  unfold Reader.awaits
  cases hpending : r.pending with
  | none => rfl
  | some p =>
    show p.awaits = false
    by_contra hawaits
    rw [settle, hpending] at hsettle
    obtain ⟨hne, -⟩ := check_eq_ok hsettle
    exact hne (hr.awaits p hpending (by simpa using hawaits))

/-- The first further candidate joins those that are still collected, if there are such. -/
theorem Steady.take_candidate (hr : r.Steady) (hplaces : r.places = [.candidates])
    (hsettle : r.settle = .ok r') (hvalue : r.plain = true ∨ IsValue text) :
    ∃ base : Reader, ∃ texts : List String,
      r.take text = .ok (base.collecting (texts ++ [text])) ∧
      base.places = [.candidates] ∧ base.plain = r.plain ∧
      ∀ a, r'.values a =
        base.values a ++ if a = .candidates then texts.map Value.text else [] := by
  rw [take_of_isValue hvalue, takeValue_of_not_awaits (hr.not_awaits hsettle)]
  by_cases hcandidates : ∃ p ∈ r.pending, p.argument = .candidates
  · obtain ⟨p, hpending, hp⟩ := hcandidates
    refine ⟨r, p.texts, ?_, hplaces, rfl, ?_⟩
    · rw [takeAtPlace_candidates hplaces hpending hp]
      rfl
    · rw [settle, hpending] at hsettle
      dsimp only at hsettle
      rw [hp] at hsettle
      rw [check_candidates _ (check_eq_ok hsettle).1] at hsettle
      split at hsettle
      · cases hsettle
      · cases hsettle
        exact fun a => values_note _ _ a _
  · have hother : ∀ p ∈ r.pending, p.argument ≠ .candidates :=
      fun p hp hcandidate => hcandidates ⟨p, hp, hcandidate⟩
    obtain ⟨-, hsame, hplain⟩ := settle_cases hsettle
    refine ⟨r', [], ?_, hsame.trans hplaces, hplain, ?_⟩
    · rw [takeAtPlace_other hplaces hother hsettle]
      rfl
    · simp

/-- What comes of further candidates: they are added to those that were found, or there are too many
in a row. -/
inductive Added (found : Reader) (more : List String) : Except Stop Reader → Prop
  | added {r : Reader} :
      (∀ a, r.values a = found.values a ++ if a = .candidates then more.map Value.text else []) →
      (found.has .candidates = true ∨ more ≠ [] → r.has .candidates = true) →
      Added found more (.ok r)
  | surplus (text : String) :
      3 < (found.texts .candidates).length + more.length →
      Added found more (.error (.usage (.surplusValue text Argument.candidates.label)))

theorem Steady.added_of_settle (hr : r.Steady) (hplaces : r.places = [.candidates])
    (hsettle : r.settle = .ok r') (hmore : r.plain = true ∨ ∀ t ∈ more, IsValue t) :
    Added r' more (r.takeAll more) := by
  cases more with
  | nil =>
    rw [takeAll, hsettle]
    exact .added (by simp) (by simp)
  | cons text more =>
    obtain ⟨base, texts, htake, hbase, hplain, hvalues⟩ :=
      hr.take_candidate hplaces hsettle (hmore.imp_right fun h => h text List.mem_cons_self)
    have hlater : base.plain = true ∨ ∀ t ∈ more, IsValue t := by
      rw [hplain]
      exact hmore.imp_right fun h t ht => h t (List.mem_cons_of_mem _ ht)
    have hne : texts ++ [text] ++ more ≠ [] := by simp
    rw [takeAll, htake]
    show Added r' (text :: more) ((base.collecting (texts ++ [text])).takeAll more)
    rw [takeAll_collecting hbase hlater]
    show Added r' _ ((check { base with pending := none } .candidates _).mapError Stop.usage)
    rw [check_candidates _ hne]
    split
    · next hlong =>
      have htexts : r'.texts .candidates = base.texts .candidates ++ texts :=
        texts_of_values (hvalues .candidates)
      simp only [List.length_append, List.length_singleton] at hlong
      refine .surplus _ ?_
      rw [htexts, List.length_append, List.length_cons]
      omega
    · refine .added ?_ fun _ => has_note _ _ _
      intro a
      rw [values_note, hvalues]
      show base.values a ++ _ = _
      by_cases ha : a = .candidates
      · simp [ha]
      · simp [ha]

/-- **Further candidates at the end** of texts that have been read. -/
theorem Steady.takeAll_append (hr : r.Steady) (hplaces : r.places = [.candidates])
    (h : r.takeAll texts = .ok r')
    (hmore : r.plain = true ∨ "--" ∈ texts ∨ ∀ t ∈ more, IsValue t) :
    Added r' more (r.takeAll (texts ++ more)) := by
  induction texts generalizing r with
  | nil =>
    rw [takeAll, mapError_eq_ok_iff] at h
    exact hr.added_of_settle hplaces h (by simpa using hmore)
  | cons text texts ih =>
    obtain ⟨next, htake, hrest⟩ := bind_eq_ok_iff.mp h
    obtain ⟨hnext, hsame⟩ := hr.of_take htake
    rw [List.cons_append, takeAll, htake]
    refine ih hnext (hsame.trans hplaces) hrest ?_
    rcases hmore with hplain | hdashes | hvalues
    · exact Or.inl (hr.plain_of_take htake (Or.inl hplain))
    · rcases List.mem_cons.mp hdashes with hdash | hdashes
      · exact Or.inl (hr.plain_of_take htake (Or.inr hdash.symm))
      · exact Or.inr (Or.inl hdashes)
    · exact Or.inr (Or.inr hvalues)

/-! ## Requests for a match -/

variable {c : Candidates} {mode : Option MatchMode}

/-- Only the command for matching asks for a match. -/
theorem verb_of_request? {verb : Verb} (h : r.request? verb = some (.matchNode c mode)) :
    verb = .matchNode := by
  cases verb with
  | matchNode => rfl
  | settings =>
    simp only [request?] at h
    split at h
    · cases h
    · cases h
    · cases h
  | _ => simp [request?, Option.bind_eq_some_iff] at h

theorem request_eq_ok_iff {verb : Verb} :
    r.request verb = .ok (.matchNode c mode) ↔
      verb = .matchNode ∧ r.has .candidates = true ∧
        c = Candidates.ofList (r.texts .candidates) ∧ mode = r.mode? .mode := by
  have hrequest : r.request verb = .ok (.matchNode c mode) ↔
      r.request? verb = some (.matchNode c mode) := by
    unfold Reader.request
    cases r.request? verb with
    | none => simp
    | some found => simp
  rw [hrequest]
  constructor
  · intro h
    obtain rfl := verb_of_request? h
    simp only [request?] at h
    split at h
    · next hhas =>
      cases h
      exact ⟨rfl, hhas, rfl, rfl⟩
    · cases h
  · rintro ⟨rfl, hhas, rfl, rfl⟩
    simp [request?, hhas]

end Reader

namespace Invocation

variable {r : Reader} {texts more : List String} {folder : Option String} {c : Candidates}
  {mode : Option MatchMode}

/-- What comes of a command line that asks for a match when it is given further candidates: the same
request with these after those from before, or a refusal, if there are more than three. -/
inductive Extended (folder : Option String) (c : Candidates) (mode : Option MatchMode)
    (more : List String) : Except Stop Invocation → Prop
  | added (found : List String) :
      c = .ofList found →
      Extended folder c mode more (.ok ⟨folder, .matchNode (.ofList (found ++ more)) mode⟩)
  | surplus (found : List String) (text : String) :
      c = .ofList found → 3 < found.length + more.length →
      Extended folder c mode more
        (.error (.usage (.surplusValue text Argument.candidates.label)))

theorem readVerb_append {verb : Verb}
    (h : readVerb r verb texts = .ok ⟨folder, .matchNode c mode⟩)
    (hmore : "--" ∈ texts ∨ ∀ t ∈ more, IsValue t) :
    Extended folder c mode more (readVerb r verb (texts ++ more)) := by
  obtain ⟨found, htake, h⟩ := bind_eq_ok_iff.mp h
  obtain ⟨request, hrequest, h⟩ := bind_eq_ok_iff.mp h
  obtain ⟨before, hbefore, h⟩ := bind_eq_ok_iff.mp h
  cases h
  obtain ⟨rfl, hhas, rfl, rfl⟩ := Reader.request_eq_ok_iff.mp hrequest
  have hadded := Reader.Steady.takeAll_append (r := .ofVerb .matchNode)
    ⟨Or.inr rfl, by simp [Reader.ofVerb]⟩ rfl htake (Or.inr hmore)
  unfold readVerb
  cases hafter : (Reader.ofVerb .matchNode).takeAll (texts ++ more) with
  | error stop =>
    rw [hafter] at hadded
    cases hadded with
    | surplus text hlong => exact .surplus _ text rfl hlong
  | ok after =>
    rw [hafter] at hadded
    cases hadded with
    | added hvalues hkept =>
      have htexts : after.texts .candidates = found.texts .candidates ++ more :=
        Reader.texts_of_values (hvalues .candidates)
      have hother : ∀ a, a ≠ .candidates → after.values a = found.values a := by
        intro a ha
        rw [hvalues, if_neg ha, List.append_nil]
      have hmode : found.mode? .mode = after.mode? .mode := by
        rw [Reader.mode?, Reader.mode?, hother _ (by decide)]
      have hfolder : found.text? .folder = after.text? .folder := by
        rw [Reader.text?, Reader.text?, Reader.texts, Reader.texts, hother _ (by decide)]
      have hagain : after.request .matchNode =
          .ok (.matchNode (.ofList (found.texts .candidates ++ more)) (found.mode? .mode)) :=
        Reader.request_eq_ok_iff.mpr ⟨rfl, hkept (Or.inl hhas), by rw [htexts], hmode⟩
      show Extended _ _ _ _ (after.request .matchNode >>= _)
      rw [hagain]
      show Extended _ _ _ _ (r.settle.mapError Stop.usage >>= _)
      rw [hbefore, hfolder]
      exact .added _ rfl

/-- Where every text is a value no command can be named any more. -/
theorem not_matchNode_of_plain (hplain : r.plain = true) (hplaces : r.places = []) :
    readFrom r texts ≠ .ok ⟨folder, .matchNode c mode⟩ := by
  intro h
  cases texts with
  | nil =>
    obtain ⟨_, -, h⟩ := bind_eq_ok_iff.mp h
    cases h
  | cons text texts =>
    have htake : r.take text = .error (.usage (r.misplaced text)) := by
      have hnone : r.pending.filter (fun p => p.awaits && !r.plain) = none := by
        cases r.pending <;> simp [Option.filter, hplain]
      rw [Reader.take_of_isValue (Or.inl hplain), Reader.takeValue, hnone, Reader.takeAtPlace,
        hplaces]
      rfl
    simp only [readFrom, hplain, Bool.true_or, if_true, Bool.not_true, Bool.false_and,
      Bool.false_eq_true, if_false, htake] at h
    cases h

theorem readFrom_append (hr : r.Steady) (hplaces : r.places = [])
    (h : readFrom r texts = .ok ⟨folder, .matchNode c mode⟩)
    (hmore : "--" ∈ texts ∨ ∀ t ∈ more, IsValue t) :
    Extended folder c mode more (readFrom r (texts ++ more)) := by
  induction texts generalizing r with
  | nil =>
    obtain ⟨_, -, h⟩ := bind_eq_ok_iff.mp h
    cases h
  | cons text texts ih =>
    rw [readFrom] at h
    rw [List.cons_append, readFrom]
    split at h
    · next verb hverb =>
      refine readVerb_append h (hmore.imp_left fun hdashes => ?_)
      refine (List.mem_cons.mp hdashes).resolve_left ?_
      rintro rfl
      split at hverb
      · cases hverb
      · cases hverb
    · split at h
      · cases h
      · next hhelp =>
        obtain ⟨next, htake, hrest⟩ := bind_eq_ok_iff.mp h
        obtain ⟨hnext, hsame⟩ := hr.of_take htake
        rw [if_neg hhelp, htake]
        refine ih hnext (hsame.trans hplaces) hrest (hmore.imp_left fun hdashes => ?_)
        refine (List.mem_cons.mp hdashes).resolve_left fun hdash => ?_
        exact not_matchNode_of_plain (hr.plain_of_take htake (Or.inr hdash.symm))
          (hsame.trans hplaces) hrest

/-- Up to three candidates after the word for matching, and nothing else. -/
theorem read_candidates (hne : texts ≠ []) (hlength : texts.length ≤ 3)
    (hvalues : ∀ t ∈ texts, IsValue t) :
    read ("match" :: texts) = .ok ⟨none, .matchNode (.ofList texts) none⟩ := by
  have hadded := Reader.Steady.added_of_settle (r := .ofVerb .matchNode)
    ⟨Or.inr rfl, by simp [Reader.ofVerb]⟩ rfl rfl (Or.inr hvalues)
  show readVerb .start .matchNode texts = _
  unfold readVerb
  cases hafter : (Reader.ofVerb .matchNode).takeAll texts with
  | error stop =>
    rw [hafter] at hadded
    cases hadded with
    | surplus text hlong =>
      have hnone : (Reader.ofVerb .matchNode).texts .candidates = [] := rfl
      rw [hnone, List.length_nil] at hlong
      omega
  | ok after =>
    rw [hafter] at hadded
    cases hadded with
    | added hafter hkept =>
      have htexts : after.texts .candidates = texts := Reader.texts_of_values (hafter .candidates)
      have hmode : after.values .mode = [] := hafter .mode
      have hfolder : after.text? .folder = none := by
        have hvalues : after.values .folder = [] := hafter .folder
        simp [Reader.text?, Reader.texts, hvalues]
      have hrequest : after.request .matchNode = .ok (.matchNode (.ofList texts) none) :=
        Reader.request_eq_ok_iff.mpr
          ⟨rfl, hkept (Or.inr hne), by rw [htexts], by simp [Reader.mode?, hmode]⟩
      show (after.request .matchNode >>= _) = _
      rw [hrequest]
      show Except.ok (Invocation.mk (after.text? .folder <|> Reader.start.text? .folder) _) = _
      rw [hfolder]
      rfl

/-- **Further candidates at the end of a command line.** -/
theorem read_append (h : read texts = .ok ⟨folder, .matchNode c mode⟩)
    (hmore : "--" ∈ texts ∨ ∀ t ∈ more, IsValue t) :
    Extended folder c mode more (read (texts ++ more)) :=
  readFrom_append ⟨Or.inl rfl, by simp [Reader.start]⟩ rfl h hmore

end Invocation

end CommandLine

end PlanViewer
