import Mathlib.Data.List.Basic
import Mathlib.Data.List.Forall2
import PlanViewer.Proofs.CookieHeader

/-!
# A header is looked up from its start

The entries of a header are added to a jar one after another, and an entry is passed over when the
jar has its name already. So a name is held as soon as it has been seen, in the order in which names
are seen first (`CookieJar.FirstSeen`), and what is found under a name comes from the first entry of
that name. Names are compared as they are held, that is without blanks around them, and an entry
without `=` stands under the empty name.
-/

namespace PlanViewer.CookieJar

open Text

/-! ## What an entry says -/

/-- The name of an entry and its value as it is written: the name is trimmed and the value is not.
An entry without `=` is all value, under the empty name. -/
inductive Says : List Char → String → List Char → Prop
  | named {before : List Char} (raw : List Char) :
      '=' ∉ before → Says (before ++ '=' :: raw) (String.ofList (trim before)) raw
  | bare {entry : List Char} : '=' ∉ entry → Says entry "" entry

/-- An entry says one thing. -/
theorem says_iff {entry raw : List Char} {name : String} :
    Says entry name raw ↔ splitEntry entry = (name.toList, raw) := by
  constructor
  · rintro (⟨raw, hbefore⟩ | hentry)
    · rw [splitEntry_append hbefore, String.toList_ofList]
    · exact splitEntry_of_not_mem hentry
  · intro h
    have hname : String.ofList (splitEntry entry).1 = name := by rw [h, String.ofList_toList]
    have hraw : (splitEntry entry).2 = raw := by rw [h]
    subst hname hraw
    by_cases hmem : '=' ∈ entry
    · obtain ⟨before, raw, rfl, hbefore⟩ := List.eq_append_cons_of_mem hmem
      rw [splitEntry_append hbefore]
      exact .named raw hbefore
    · rw [splitEntry_of_not_mem hmem]
      exact .bare hmem

theorem Says.cookieOf_eq {entry raw : List Char} {name : String} (h : Says entry name raw) :
    cookieOf entry = ⟨name, Percent.unescape (String.ofList raw), .latest⟩ := by
  rw [CookieJar.cookieOf_eq, says_iff.1 h, String.ofList_toList, Percent.unescape,
    String.toList_ofList]

theorem says_name_cookieOf (entry : List Char) : ∃ raw, Says entry (cookieOf entry).name raw := by
  refine ⟨(splitEntry entry).2, says_iff.2 ?_⟩
  rw [CookieJar.cookieOf_eq, String.toList_ofList]

theorem exists_says_iff {entry : List Char} {name : String} :
    (∃ raw, Says entry name raw) ↔ (cookieOf entry).name = name := by
  constructor
  · rintro ⟨raw, h⟩
    rw [h.cookieOf_eq]
  · rintro rfl
    exact says_name_cookieOf entry

/-! ## Names in the order of their first appearance -/

/-- The second list holds the names of the first one, each once, in the order in which they are
seen first. -/
structure FirstSeen (seen held : List String) : Prop where
  mem_iff : ∀ name, name ∈ held ↔ name ∈ seen
  ordered : held.Pairwise fun a b => seen.idxOf a < seen.idxOf b

theorem FirstSeen.nil : FirstSeen [] [] :=
  ⟨fun _ => Iff.rfl, .nil⟩

/-- **One entry.** It is passed over if its name has been seen, and goes to the end otherwise. -/
theorem FirstSeen.addNew {seen : List String} {cookies : List Preference}
    (h : FirstSeen seen (cookies.map Preference.name)) (c : Preference) :
    FirstSeen (seen ++ [c.name]) ((addNew cookies c).map Preference.name) := by
  have hsame : (cookies.map Preference.name).Pairwise fun a b =>
      (seen ++ [c.name]).idxOf a < (seen ++ [c.name]).idxOf b := by
    refine h.ordered.imp_of_mem ?_
    intro a b ha hb hlt
    rwa [List.idxOf_append_of_mem ((h.mem_iff a).1 ha),
      List.idxOf_append_of_mem ((h.mem_iff b).1 hb)]
  rw [CookieJar.addNew]
  split
  · next hany =>
    obtain ⟨d, hd, hname⟩ := List.any_eq_true.1 hany
    have hheld : c.name ∈ cookies.map Preference.name :=
      List.mem_map.2 ⟨d, hd, of_decide_eq_true hname⟩
    refine ⟨fun name => ?_, hsame⟩
    rw [h.mem_iff, List.mem_append, List.mem_singleton]
    constructor
    · exact Or.inl
    · rintro (hname | rfl)
      · exact hname
      · exact (h.mem_iff _).1 hheld
  · next hany =>
    have hnew : c.name ∉ seen := by
      rw [← h.mem_iff, List.mem_map]
      rintro ⟨d, hd, hname⟩
      exact hany (List.any_eq_true.2 ⟨d, hd, decide_eq_true hname⟩)
    rw [List.map_append, List.map_singleton]
    refine ⟨fun name => ?_, List.pairwise_append.2 ⟨hsame, List.pairwise_singleton _ _, ?_⟩⟩
    · rw [List.mem_append, List.mem_append, h.mem_iff]
    · -- what has been seen stands before the end, where the new name is
      intro a ha b hb
      rw [List.mem_singleton.1 hb, List.idxOf_append_of_notMem hnew,
        List.idxOf_append_of_mem ((h.mem_iff a).1 ha)]
      exact Nat.lt_of_lt_of_le (List.idxOf_lt_length_of_mem ((h.mem_iff a).1 ha))
        (Nat.le_add_right _ _)

/-- **All entries.** -/
theorem FirstSeen.foldl_addNew {seen : List String} {cookies : List Preference}
    (h : FirstSeen seen (cookies.map Preference.name)) (cs : List Preference) :
    FirstSeen (seen ++ cs.map Preference.name)
      ((cs.foldl CookieJar.addNew cookies).map Preference.name) := by
  induction cs generalizing seen cookies with
  | nil =>
    rw [List.map_nil, List.append_nil]
    exact h
  | cons c cs ih =>
    have hrest := ih (h.addNew c)
    rwa [List.append_assoc, List.singleton_append] at hrest

/-! ## What is found under a name -/

theorem find?_addNew (cookies : List Preference) (c : Preference) (name : String) :
    ((addNew cookies c).find? fun d => decide (d.name = name)) =
      (cookies ++ [c]).find? fun d => decide (d.name = name) := by
  rw [addNew]
  split
  · next hany =>
    -- a cookie of the name of the new one is found before it
    obtain ⟨d, hd, hname⟩ := List.any_eq_true.1 hany
    rw [List.find?_append]
    by_cases hc : c.name = name
    · have hfound : (cookies.find? fun d => decide (d.name = name)).isSome = true := by
        rw [List.find?_isSome]
        exact ⟨d, hd, decide_eq_true ((of_decide_eq_true hname).trans hc)⟩
      rw [Option.or_of_isSome hfound]
    · rw [List.find?_singleton, if_neg (by simpa using hc), Option.or_none]
  · rfl

/-- The first of all cookies of a name is found, whether later ones have been added or not. -/
theorem find?_foldl_addNew (cs cookies : List Preference) (name : String) :
    ((cs.foldl addNew cookies).find? fun d => decide (d.name = name)) =
      (cookies ++ cs).find? fun d => decide (d.name = name) := by
  induction cs generalizing cookies with
  | nil => rw [List.append_nil]; rfl
  | cons c cs ih =>
    have hassoc : cookies ++ c :: cs = cookies ++ [c] ++ cs := by
      rw [List.append_assoc, List.singleton_append]
    rw [List.foldl_cons, ih, hassoc, List.find?_append, List.find?_append, find?_addNew]

/-- Before the end of time, every cookie of a header can be read. -/
theorem get?_parse {now : Instant} (hnow : now < .latest) (header name : String) :
    (parse header).get? now name =
      ((parse header).cookies.find? fun c => decide (c.name = name)).map Preference.value := by
  rw [get?]
  conv_rhs => rw [← filter_isLive_parse hnow header, List.find?_filter]
  congr 2
  funext c
  rw [Bool.decide_and, Bool.decide_eq_true, Bool.decide_eq_true, Bool.and_comm]

/-- The value under a name is the one of the first entry of that name. -/
theorem get?_parse_eq_find? {header : String} (hheader : header ≠ "") {now : Instant}
    (hnow : now < .latest) (name : String) :
    (parse header).get? now name =
      ((header.toList.splitOn ';').find? fun e => decide ((cookieOf e).name = name)).map
        fun e => (cookieOf e).value := by
  rw [get?_parse hnow, parse, if_neg hheader, find?_foldl_addNew, List.nil_append,
    List.find?_map, Option.map_map]
  rfl

/-- **The first entry of a name counts.** For a header that is not empty, the value under a name is
the one that the first entry of that name says, decoded, and there is none exactly if no entry has
the name. The jar holds the names of the entries, each once, in the order in which they are seen
first. -/
theorem parse_lookup_exact {header : String} (hheader : header ≠ "") {now : Instant}
    (hnow : now < .latest) :
    (∀ name value, (parse header).get? now name = some value ↔
      ∃ earlier entry later raw, header.toList.splitOn ';' = earlier ++ entry :: later ∧
        (∀ e ∈ earlier, ∀ r, ¬ Says e name r) ∧ Says entry name raw ∧
        value = Percent.unescape (String.ofList raw)) ∧
    (∀ name, (parse header).get? now name = none ↔
      ∀ entry ∈ header.toList.splitOn ';', ∀ raw, ¬ Says entry name raw) ∧
    ∃ names : List String,
      List.Forall₂ (fun entry name => ∃ raw, Says entry name raw) (header.toList.splitOn ';') names ∧
      FirstSeen names ((parse header).cookies.map Preference.name) := by
  refine ⟨?_, ?_, ?_⟩
  · intro name value
    rw [get?_parse_eq_find? hheader hnow, Option.map_eq_some_iff]
    constructor
    · rintro ⟨entry, hfind, rfl⟩
      obtain ⟨hname, earlier, later, hsplit, hearlier⟩ := List.find?_eq_some_iff_append.1 hfind
      obtain ⟨raw, hread⟩ := exists_says_iff.2 (of_decide_eq_true hname)
      refine ⟨earlier, entry, later, raw, hsplit, ?_, hread, by rw [hread.cookieOf_eq]⟩
      intro e he r hr
      simpa [exists_says_iff.1 ⟨r, hr⟩] using hearlier e he
    · rintro ⟨earlier, entry, later, raw, hsplit, hearlier, hread, rfl⟩
      refine ⟨entry, List.find?_eq_some_iff_append.2 ⟨?_, earlier, later, hsplit, ?_⟩, ?_⟩
      · exact decide_eq_true (exists_says_iff.1 ⟨raw, hread⟩)
      · intro e he
        have hother : (cookieOf e).name ≠ name := fun hname =>
          (exists_says_iff.2 hname).elim (hearlier e he)
        rw [decide_eq_false hother]
        rfl
      · rw [hread.cookieOf_eq]
  · intro name
    rw [get?_parse_eq_find? hheader hnow, Option.map_eq_none_iff, List.find?_eq_none]
    refine forall₂_congr fun entry _ => ?_
    rw [decide_eq_true_eq, ← exists_says_iff, not_exists]
  · refine ⟨(header.toList.splitOn ';').map fun e => (cookieOf e).name, ?_, ?_⟩
    · rw [List.forall₂_map_right_iff, List.forall₂_same]
      exact fun e _ => says_name_cookieOf e
    · have hstart : FirstSeen [] (([] : List Preference).map Preference.name) := .nil
      have hall := hstart.foldl_addNew ((header.toList.splitOn ';').map cookieOf)
      rw [List.nil_append, List.map_map] at hall
      rw [parse, if_neg hheader]
      exact hall

/-- A name that stands twice, once with a blank behind it, beside an entry without `=`, whose text is
no name. -/
theorem parse_lookup_exact_repeated_name :
    let header := "flag; a=%31;a =2"
    (header ≠ "" ∧ Instant.earliest < .latest) ∧
      (parse header).get? .earliest "a" = some "1" ∧
      (parse header).get? .earliest "flag" = none := by
  intro header
  have hheader : header ≠ "" := by decide
  have hnow : Instant.earliest < .latest := by decide
  obtain ⟨hsome, hnone, -⟩ := parse_lookup_exact hheader hnow
  have hother : ∀ entry ∈ header.toList.splitOn ';', (cookieOf entry).name ≠ "flag" := by decide
  have hflag : ∀ r, ¬ Says "flag".toList "a" r := fun r hr =>
    absurd (exists_says_iff.1 ⟨r, hr⟩) (by decide)
  have hfirst : Says " a=%31".toList "a" "%31".toList := says_iff.2 (by decide)
  refine ⟨⟨hheader, hnow⟩, (hsome "a" "1").2 ?_, (hnone "flag").2 ?_⟩
  · refine ⟨["flag".toList], " a=%31".toList, ["a =2".toList], "%31".toList, by decide, ?_, hfirst,
      by decide⟩
    intro e he
    rw [List.mem_singleton.1 he]
    exact hflag
  · intro entry hentry raw hread
    exact hother entry hentry (exists_says_iff.1 ⟨raw, hread⟩)

end PlanViewer.CookieJar
