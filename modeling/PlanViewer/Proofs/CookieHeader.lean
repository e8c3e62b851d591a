import PlanViewer.Proofs.PercentCoding
import PlanViewer.Proofs.PreferenceLists
import PlanViewer.Proofs.TextParts

/-!
# A header holds the live cookies of its jar

The header of a jar is read back to the live cookies of the jar, in their order. Two facts carry
this. A jar never holds a name twice, so that no entry is passed over as a repetition; and the
names in it are trimmed and hold neither of the marks of the format, so that every entry is split
where it was put together. The values cannot be in the way, since a written value holds no mark.
-/

namespace PlanViewer.CookieJar

open Text

/-! ## Names are held once -/

theorem mem_of_mem_addNew {cookies : List Preference} {c x : Preference}
    (hx : x ∈ addNew cookies c) : x ∈ cookies ∨ x = c := by
  rw [addNew] at hx
  split at hx
  · exact Or.inl hx
  · rw [List.mem_append, List.mem_singleton] at hx
    exact hx

theorem namesDistinct_addNew {cookies : List Preference} (h : NamesDistinct cookies)
    (c : Preference) : NamesDistinct (addNew cookies c) := by
  rw [addNew]
  split
  · exact h
  · next hnew =>
    rw [NamesDistinct, List.map_append, List.nodup_append]
    refine ⟨h, List.nodup_singleton _, ?_⟩
    intro name hname other hother heq
    obtain ⟨d, hd, rfl⟩ := List.mem_map.mp hname
    rw [List.map_singleton, List.mem_singleton] at hother
    refine hnew (List.any_eq_true.mpr ⟨d, hd, ?_⟩)
    rw [decide_eq_true_eq, heq, hother]

theorem namesDistinct_foldl_addNew (cs : List Preference) {cookies : List Preference}
    (h : NamesDistinct cookies) : NamesDistinct (cs.foldl addNew cookies) := by
  induction cs generalizing cookies with
  | nil => exact h
  | cons c cs ih => exact ih (namesDistinct_addNew h c)

theorem mem_foldl_addNew {cs cookies : List Preference} {x : Preference}
    (hx : x ∈ cs.foldl addNew cookies) : x ∈ cookies ∨ x ∈ cs := by
  induction cs generalizing cookies with
  | nil => exact Or.inl hx
  | cons c cs ih =>
    rcases ih hx with hx | hx
    · rcases mem_of_mem_addNew hx with hx | rfl
      · exact Or.inl hx
      · exact Or.inr List.mem_cons_self
    · exact Or.inr (List.mem_cons_of_mem c hx)

/-- Cookies whose names are new all the way are all added, in their order. -/
theorem foldl_addNew_of_namesDistinct (cs : List Preference) {cookies : List Preference}
    (h : NamesDistinct (cookies ++ cs)) : cs.foldl addNew cookies = cookies ++ cs := by
  induction cs generalizing cookies with
  | nil => rw [List.append_nil]; rfl
  | cons c cs ih =>
    have hnew : (cookies.any fun d => decide (d.name = c.name)) = false := by
      rw [List.any_eq_false]
      intro d hd
      rw [decide_eq_true_eq]
      rw [NamesDistinct, List.map_append, List.nodup_append] at h
      exact h.2.2 _ (List.mem_map_of_mem hd) _ (List.mem_map_of_mem List.mem_cons_self)
    have hadd : addNew cookies c = cookies ++ [c] := by
      rw [addNew, hnew]
      rfl
    have hassoc : cookies ++ [c] ++ cs = cookies ++ c :: cs := by
      rw [List.append_assoc, List.singleton_append]
    rw [List.foldl_cons, hadd, ih (by rw [hassoc]; exact h), hassoc]

theorem mem_replaceOrAdd {cookies : List Preference} {c x : Preference}
    (hx : x ∈ replaceOrAdd cookies c) : x = c ∨ x ∈ cookies := by
  induction cookies with
  | nil => exact Or.inl (List.mem_singleton.mp hx)
  | cons d rest ih =>
    rw [replaceOrAdd] at hx
    split at hx
    · rcases List.mem_cons.mp hx with rfl | hx
      · exact Or.inl rfl
      · exact Or.inr (List.mem_cons_of_mem d hx)
    · rcases List.mem_cons.mp hx with rfl | hx
      · exact Or.inr List.mem_cons_self
      · exact (ih hx).imp_right (List.mem_cons_of_mem d)

theorem namesDistinct_replaceOrAdd {cookies : List Preference} (h : NamesDistinct cookies)
    (c : Preference) : NamesDistinct (replaceOrAdd cookies c) := by
  induction cookies with
  | nil => exact List.nodup_singleton _
  | cons d rest ih =>
    rw [NamesDistinct, List.map_cons, List.nodup_cons] at h
    rw [replaceOrAdd]
    split
    · next hname =>
      rw [NamesDistinct, List.map_cons, List.nodup_cons, ← hname]
      exact h
    · next hname =>
      rw [NamesDistinct, List.map_cons, List.nodup_cons]
      refine ⟨?_, ih h.2⟩
      intro hmem
      obtain ⟨x, hx, hxd⟩ := List.mem_map.mp hmem
      rcases mem_replaceOrAdd hx with rfl | hx
      · exact hname hxd.symm
      · exact h.1 (List.mem_map.mpr ⟨x, hx, hxd⟩)

theorem namesDistinct_parse (header : String) : NamesDistinct (parse header).cookies := by
  rw [parse]
  split
  · exact List.nodup_nil
  · exact namesDistinct_foldl_addNew _ List.nodup_nil

/-! ## Names that a header can carry -/

/-- A name that is read back from a header as it is written there. -/
structure IsHeaderName (name : String) : Prop where
  trimmed : Text.trimmed name = name
  no_semicolon : ';' ∉ name.toList
  no_equals : '=' ∉ name.toList

theorem IsHeaderName.trim_toList {name : String} (h : IsHeaderName name) :
    trim name.toList = name.toList := by
  have htrim := congrArg String.toList h.trimmed
  rwa [Text.trimmed, String.toList_ofList] at htrim

theorem cookieOf_eq (entry : List Char) :
    cookieOf entry = ⟨String.ofList (splitEntry entry).1,
      String.ofList (Percent.decode (splitEntry entry).2), .latest⟩ := rfl

theorem splitEntry_of_mem {entry : List Char} (h : '=' ∈ entry) :
    splitEntry entry = (trim (entry.takeWhile fun c => decide (c ≠ '=')),
      (entry.dropWhile fun c => decide (c ≠ '=')).drop 1) := by
  rw [splitEntry, if_pos (List.contains_iff_mem.mpr h)]

theorem splitEntry_of_not_mem {entry : List Char} (h : '=' ∉ entry) :
    splitEntry entry = ([], entry) := by
  rw [splitEntry, if_neg (fun hmem => h (List.contains_iff_mem.mp hmem))]

/-- The name of an entry is fit for a header, whatever the entry. -/
theorem isHeaderName_cookieOf {entry : List Char} (h : ';' ∉ entry) :
    IsHeaderName (cookieOf entry).name := by
  rw [cookieOf_eq]
  by_cases heq : '=' ∈ entry
  · rw [splitEntry_of_mem heq]
    refine ⟨?_, ?_, ?_⟩
    · rw [Text.trimmed, String.toList_ofList, trim_trim]
    · rw [String.toList_ofList]
      intro hmem
      exact h ((List.takeWhile_prefix _).subset (mem_of_mem_trim hmem))
    · rw [String.toList_ofList]
      intro hmem
      simpa using List.mem_takeWhile_imp (mem_of_mem_trim hmem)
  · rw [splitEntry_of_not_mem heq]
    exact ⟨rfl, List.not_mem_nil, List.not_mem_nil⟩

/-- The cookies of a parsed header are the cookies of its entries. -/
theorem mem_parse {header : String} {c : Preference} (hc : c ∈ (parse header).cookies) :
    ∃ entry, ';' ∉ entry ∧ c = cookieOf entry := by
  rw [parse] at hc
  split at hc
  · exact absurd hc List.not_mem_nil
  · rcases mem_foldl_addNew hc with hc | hc
    · exact absurd hc List.not_mem_nil
    · obtain ⟨entry, hentry, rfl⟩ := List.mem_map.mp hc
      exact ⟨entry, not_mem_of_mem_splitOn hentry, rfl⟩

theorem isHeaderName_of_mem_parse {header : String} {c : Preference}
    (hc : c ∈ (parse header).cookies) : IsHeaderName c.name := by
  obtain ⟨entry, hentry, rfl⟩ := mem_parse hc
  exact isHeaderName_cookieOf hentry

theorem expires_of_mem_parse {header : String} {c : Preference}
    (hc : c ∈ (parse header).cookies) : c.expires = .latest := by
  obtain ⟨entry, _, rfl⟩ := mem_parse hc
  rfl

/-! ## Written entries -/

/-- The entry of a cookie in a header. -/
def writtenEntry (c : Preference) : List Char :=
  c.name.toList ++ '=' :: Percent.encode c.value.toList

/-- A cookie as a header gives it back: nothing there says when it expires. -/
def withoutExpiry (c : Preference) : Preference :=
  { c with expires := .latest }

/-- A written value holds no mark of the format. -/
theorem not_mem_encode {mark : Char} (hplain : Percent.isPlain mark = false) (hne : mark ≠ '%')
    (cs : List Char) : mark ∉ Percent.encode cs := by
  intro hmem
  rcases Percent.mem_encode hmem with h | h
  · rw [hplain] at h
    exact absurd h Bool.false_ne_true
  · exact hne h

theorem not_mem_writtenEntry {c : Preference} (hc : IsHeaderName c.name) :
    ';' ∉ writtenEntry c := by
  rw [writtenEntry, List.mem_append, List.mem_cons, not_or, not_or]
  exact ⟨hc.no_semicolon, by decide, not_mem_encode (by decide) (by decide) _⟩

/-- A written entry is cut at the end of its name. -/
theorem splitEntry_append {name value : List Char} (hname : '=' ∉ name) :
    splitEntry (name ++ '=' :: value) = (trim name, value) := by
  rw [splitEntry_of_mem (by simp), takeWhile_ne_append hname, dropWhile_ne_append hname,
    List.drop_one, List.tail_cons]

theorem cookieOf_writtenEntry {c : Preference} (hc : IsHeaderName c.name) :
    cookieOf (writtenEntry c) = withoutExpiry c := by
  rw [cookieOf_eq, writtenEntry, splitEntry_append hc.no_equals, hc.trim_toList,
    Percent.decode_encode, String.ofList_toList, String.ofList_toList]
  rfl

/-- The blank behind a semicolon does not belong to the name. -/
theorem cookieOf_blank_writtenEntry {c : Preference} (hc : IsHeaderName c.name) :
    cookieOf (' ' :: writtenEntry c) = withoutExpiry c := by
  have hname : '=' ∉ ' ' :: c.name.toList := by
    rw [List.mem_cons, not_or]
    exact ⟨by decide, hc.no_equals⟩
  rw [cookieOf_eq, writtenEntry, ← List.cons_append, splitEntry_append hname,
    trim_cons_of_isBlank (by decide), hc.trim_toList, Percent.decode_encode,
    String.ofList_toList, String.ofList_toList]
  rfl

/-! ## Whole headers -/

theorem toList_header (jar : CookieJar) (now : Instant) :
    (jar.header now).toList =
      [';', ' '].intercalate ((jar.cookies.filter fun c => c.isLive now).map writtenEntry) := by
  rw [header, String.toList_intercalate, List.map_map]
  congr 1
  apply List.map_congr_left
  intro c _
  simp [writtenEntry, Percent.escape]

/-- The blank behind each semicolon may be counted to the entry that follows. -/
theorem intercalate_semicolon_blank (entry : List Char) (entries : List (List Char)) :
    [';', ' '].intercalate (entry :: entries) =
      [';'].intercalate (entry :: entries.map fun e => ' ' :: e) := by
  induction entries generalizing entry with
  | nil => rfl
  | cons e entries ih =>
    rw [List.intercalate_cons_cons, ih, List.map_cons, List.intercalate_cons_cons,
      List.intercalate_cons_cons_left]
    simp

theorem splitOn_header {entry : List Char} {entries : List (List Char)} (h : ';' ∉ entry)
    (hs : ∀ e ∈ entries, ';' ∉ e) :
    ([';', ' '].intercalate (entry :: entries)).splitOn ';' =
      entry :: entries.map fun e => ' ' :: e := by
  rw [intercalate_semicolon_blank]
  refine List.splitOn_intercalate ';' ?_ (List.cons_ne_nil _ _)
  intro piece hpiece
  rcases List.mem_cons.mp hpiece with rfl | hpiece
  · exact h
  · obtain ⟨e, he, rfl⟩ := List.mem_map.mp hpiece
    rw [List.mem_cons, not_or]
    exact ⟨by decide, hs e he⟩

/-- Written entries of distinct names fit for a header are read back in their order. -/
theorem parse_ofList_intercalate {cookies : List Preference} (hdistinct : NamesDistinct cookies)
    (hnames : ∀ c ∈ cookies, IsHeaderName c.name) :
    (parse (String.ofList ([';', ' '].intercalate (cookies.map writtenEntry)))).cookies =
      cookies.map withoutExpiry := by
  cases cookies with
  | nil => rfl
  | cons c cs =>
    have hc : IsHeaderName c.name := hnames c List.mem_cons_self
    have hcs : ∀ d ∈ cs, IsHeaderName d.name := fun d hd => hnames d (List.mem_cons_of_mem c hd)
    -- the first entry has a `=` at least, so the header is not the empty one
    have hne : String.ofList ([';', ' '].intercalate ((c :: cs).map writtenEntry)) ≠ "" := by
      intro hempty
      have hnil := congrArg String.toList hempty
      rw [String.toList_ofList, List.map_cons, intercalate_semicolon_blank] at hnil
      cases cs <;> simp [writtenEntry] at hnil
    have hread : (writtenEntry c :: (cs.map writtenEntry).map fun e => ' ' :: e).map cookieOf =
        (c :: cs).map withoutExpiry := by
      rw [List.map_cons, List.map_map, List.map_map, List.map_cons]
      refine congrArg₂ List.cons (cookieOf_writtenEntry hc) ?_
      apply List.map_congr_left
      intro d hd
      exact cookieOf_blank_writtenEntry (hcs d hd)
    have hsplit : ([';', ' '].intercalate ((c :: cs).map writtenEntry)).splitOn ';' =
        writtenEntry c :: (cs.map writtenEntry).map fun e => ' ' :: e := by
      refine splitOn_header (not_mem_writtenEntry hc) ?_
      intro e he
      obtain ⟨d, hd, rfl⟩ := List.mem_map.mp he
      exact not_mem_writtenEntry (hcs d hd)
    have hsame : NamesDistinct ((c :: cs).map withoutExpiry) := by
      rw [NamesDistinct, List.map_map]
      exact hdistinct
    rw [parse, if_neg hne, String.toList_ofList, hsplit, hread]
    exact foldl_addNew_of_namesDistinct _ hsame

/-! ## Jars that are reached -/

/-- The jars that a page reaches: it starts without cookies or from a header, keeps values under
names that a header can carry, and removes values under any names. -/
inductive Reachable : CookieJar → Prop
  | empty : Reachable empty
  | parse (header : String) : Reachable (parse header)
  | set {jar : CookieJar} (now : Instant) {name : String} (value : String) (days : Int64) :
      Reachable jar → IsHeaderName name → Reachable (jar.set now name value days)
  | delete {jar : CookieJar} (name : String) : Reachable jar → Reachable (jar.delete name)

theorem Reachable.namesDistinct {jar : CookieJar} (h : Reachable jar) :
    NamesDistinct jar.cookies := by
  induction h with
  | empty => exact List.nodup_nil
  | parse header => exact namesDistinct_parse header
  | set now value days _ _ ih => exact namesDistinct_replaceOrAdd ih _
  | delete name _ ih => exact ih.filter _

theorem Reachable.isHeaderName {jar : CookieJar} (h : Reachable jar) :
    ∀ c ∈ jar.cookies, IsHeaderName c.name := by
  induction h with
  | empty => exact fun c hc => absurd hc List.not_mem_nil
  | parse header => exact fun c hc => isHeaderName_of_mem_parse hc
  | set now value days _ hname ih =>
    intro c hc
    rcases mem_replaceOrAdd hc with rfl | hc
    · exact hname
    · exact ih c hc
  | delete name _ ih => exact fun c hc => ih c (List.mem_of_mem_filter hc)

/-- The header of a reachable jar is read back to its live cookies. -/
theorem cookies_parse_header {jar : CookieJar} (h : Reachable jar) (now : Instant) :
    (parse (jar.header now)).cookies =
      (jar.cookies.filter fun c => c.isLive now).map withoutExpiry := by
  have hnames : ∀ c ∈ jar.cookies.filter fun c => c.isLive now, IsHeaderName c.name :=
    fun c hc => h.isHeaderName c (List.mem_of_mem_filter hc)
  rw [← String.ofList_toList (s := jar.header now), toList_header]
  exact parse_ofList_intercalate (h.namesDistinct.filter _) hnames

/-- Cookies from a header lose nothing without their expiry. -/
theorem map_withoutExpiry_parse (header : String) :
    ((parse header).cookies.map fun c => { c with expires := .latest }) =
      (parse header).cookies := by
  conv_rhs => rw [← List.map_id (parse header).cookies]
  apply List.map_congr_left
  intro c hc
  rw [← expires_of_mem_parse hc]
  rfl

/-- Cookies from a header are live until the end of time. -/
theorem filter_isLive_parse {now : Instant} (hnow : now < .latest) (header : String) :
    ((parse header).cookies.filter fun c => c.isLive now) = (parse header).cookies := by
  rw [List.filter_eq_self]
  intro c hc
  rw [Preference.isLive_iff, expires_of_mem_parse hc]
  exact hnow

/-- **The header of a jar holds its live cookies.** Read back, the header of any reachable jar gives
the live cookies of the jar: their names and values, in their order, each once. For a jar that was
read from a header these are all its cookies, before the end of time. -/
theorem parse_header_reachable (now : Instant) :
    (∀ jar, Reachable jar →
      (parse (jar.header now)).cookies =
        (jar.cookies.filter fun c => c.isLive now).map fun c => { c with expires := .latest }) ∧
      (now < .latest →
        ∀ text, (parse ((parse text).header now)).cookies = (parse text).cookies) := by
  refine ⟨?_, ?_⟩
  · intro jar hjar
    exact cookies_parse_header hjar now
  · intro hnow text
    rw [cookies_parse_header (.parse text), filter_isLive_parse hnow]
    exact map_withoutExpiry_parse text

/-- A jar from a header with a repeated name, an entry without `=` and a broken escape, in which a
value with both marks is then kept. -/
theorem parse_header_reachable_repeated_name :
    (Instant.earliest < .latest ∧
      Reachable ((parse "a=1; a=2; flag; b=%zz").set .earliest "c" "x;=" 1)) ∧
    (parse (((parse "a=1; a=2; flag; b=%zz").set .earliest "c" "x;=" 1).header .earliest)).cookies =
      (((parse "a=1; a=2; flag; b=%zz").set .earliest "c" "x;=" 1).cookies.filter
        fun c => c.isLive .earliest).map (fun c => { c with expires := .latest }) ∧
    (parse ((parse "a=1; a=2; flag; b=%zz").header .earliest)).cookies =
      (parse "a=1; a=2; flag; b=%zz").cookies := by
  have hnow : Instant.earliest < .latest := by decide
  have hname : IsHeaderName "c" := ⟨by decide, by decide, by decide⟩
  have hjar : Reachable ((parse "a=1; a=2; flag; b=%zz").set .earliest "c" "x;=" 1) :=
    .set .earliest "x;=" 1 (.parse _) hname
  obtain ⟨hheader, htwice⟩ := parse_header_reachable .earliest
  exact ⟨⟨hnow, hjar⟩, hheader _ hjar, htwice hnow _⟩

end PlanViewer.CookieJar
