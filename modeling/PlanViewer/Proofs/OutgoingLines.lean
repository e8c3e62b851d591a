import Mathlib.Logic.Function.Basic
import PlanViewer.Proofs.CookieHeader

/-!
# The lines for the browser are a log

Every change of a jar queues one line, and the lines are handed out in pieces, whenever the page
asks for them. What has been handed out and what still waits make up one log, with a line for each
change in the order of changes (`CookieJar.flatMap_handedOut_append_waiting`). The log can be read:
a line that sets a cookie is never taken for one that drops a cookie, and it gives back the name and
the value it was written for. So whoever replays the log holds what the jar holds, expired or not.
-/

namespace PlanViewer.CookieJar

open Text

/-! ## Runs of calls -/

/-- What a page asks of its jar. -/
inductive PageCall where
  | set (now : Instant) (name value : String) (days : Int64)
  | delete (name : String)
  | get (now : Instant) (name : String)
  | list (now : Instant)
  | header (now : Instant)
  | takeOutgoing

/-- What a jar answers. -/
inductive PageAnswer where
  | done
  | value (value : Option String)
  | entries (l : List Preference)
  | header (text : String)
  /-- The texts of the lines that have been taken. -/
  | lines (texts : List String)

/-- The answer of a jar, and the jar after the call. -/
def ask (jar : CookieJar) : PageCall → PageAnswer × CookieJar
  | .set now name value days => (.done, jar.set now name value days)
  | .delete name => (.done, jar.delete name)
  | .get now name => (.value (jar.get? now name), jar)
  | .list now => (.entries (jar.list now), jar)
  | .header now => (.header (jar.header now), jar)
  | .takeOutgoing => (.lines (jar.takeOutgoing.1.map CookieLine.text), jar.takeOutgoing.2)

/-- The answers of a jar to calls, and the jar after them. -/
def run (jar : CookieJar) : List PageCall → List PageAnswer × CookieJar
  | [] => ([], jar)
  | call :: calls =>
    ((jar.ask call).1 :: ((jar.ask call).2.run calls).1, ((jar.ask call).2.run calls).2)

/-- The lines that an answer hands out. -/
def PageAnswer.handedOut : PageAnswer → List String
  | .lines texts => texts
  | _ => []

/-- The line that a call queues: one for each change, and none for other calls. -/
def PageCall.line? : PageCall → Option CookieLine
  | .set now name value days => some (.assign name value (now.expiry days))
  | .delete name => some (.remove name)
  | _ => none

/-- The name that a call changes the cookie of. -/
def PageCall.target? : PageCall → Option String
  | .set _ name _ _ => some name
  | .delete name => some name
  | _ => none

/-- The texts of the lines that wait to be taken. -/
def waiting (jar : CookieJar) : List String :=
  jar.outgoing.map CookieLine.text

/-! ## One line for each change -/

/-- **One call.** What it hands out and what waits after it is what waited before and the line of
the call. -/
theorem handedOut_append_waiting (jar : CookieJar) (call : PageCall) :
    (jar.ask call).1.handedOut ++ (jar.ask call).2.waiting =
      jar.waiting ++ (call.line?.map CookieLine.text).toList := by
  cases call with
  | set now name value days =>
    show (jar.outgoing ++ [_]).map CookieLine.text = _
    rw [List.map_append]
    rfl
  | delete name =>
    show (jar.outgoing ++ [_]).map CookieLine.text = _
    rw [List.map_append]
    rfl
  | get now name => exact (List.append_nil _).symm
  | list now => exact (List.append_nil _).symm
  | header now => exact (List.append_nil _).symm
  | takeOutgoing => rfl

/-- **Whole runs.** -/
theorem flatMap_handedOut_append_waiting (jar : CookieJar) (calls : List PageCall) :
    (jar.run calls).1.flatMap PageAnswer.handedOut ++ (jar.run calls).2.waiting =
      jar.waiting ++ (calls.filterMap PageCall.line?).map CookieLine.text := by
  induction calls generalizing jar with
  | nil => simp [run]
  | cons call calls ih =>
    -- the lines of the first call end up in front, whether they are handed out or wait
    have hcall := handedOut_append_waiting jar call
    rw [run, List.flatMap_cons, List.append_assoc, ih, ← List.append_assoc, hcall,
      List.filterMap_cons]
    cases call.line? with
    | none => simp
    | some line => simp

/-! ## Reading a line -/

/-- Whether a line drops a cookie. -/
def dropsCookie (line : String) : Bool :=
  ("=; " ++ CookieLine.removal).toList.isSuffixOf line.toList

/-- The name in a line: what stands before its first `=`. -/
def nameIn (line : String) : String :=
  String.ofList (line.toList.takeWhile fun c => decide (c ≠ '='))

/-- The value in a line: what stands between its first `=` and the `;` after it, decoded. -/
def valueIn (line : String) : String :=
  let behind := (line.toList.dropWhile fun c => decide (c ≠ '=')).drop 1
  Percent.unescape (String.ofList (behind.takeWhile fun c => decide (c ≠ ';')))

/-- What a browser holds after a line, given what it held before. -/
def replay (held : String → Option String) (line : String) : String → Option String :=
  Function.update held (nameIn line) (if dropsCookie line then none else some (valueIn line))

theorem toList_text_assign (name value : String) (expires : Instant) :
    (CookieLine.assign name value expires).text.toList =
      name.toList ++ '=' :: (Percent.encode value.toList ++
        ';' :: (" expires=" ++ CookieDate.text expires).toList) := by
  simp [CookieLine.text, Percent.escape]

theorem toList_text_remove (name : String) :
    (CookieLine.remove name).text.toList = name.toList ++ ("=; " ++ CookieLine.removal).toList := by
  simp [CookieLine.text]

theorem nameIn_text_assign {name : String} (h : '=' ∉ name.toList) (value : String)
    (expires : Instant) : nameIn (CookieLine.assign name value expires).text = name := by
  rw [nameIn, toList_text_assign, takeWhile_ne_append h, String.ofList_toList]

theorem nameIn_text_remove {name : String} (h : '=' ∉ name.toList) :
    nameIn (CookieLine.remove name).text = name := by
  have hsplit : ("=; " ++ CookieLine.removal).toList =
      '=' :: ("; " ++ CookieLine.removal).toList := by
    simp
  rw [nameIn, toList_text_remove, hsplit, takeWhile_ne_append h, String.ofList_toList]

/-- A written value ends at the `;` behind it, since it holds none itself. -/
theorem valueIn_text_assign {name : String} (h : '=' ∉ name.toList) (value : String)
    (expires : Instant) : valueIn (CookieLine.assign name value expires).text = value := by
  have hvalue : ';' ∉ Percent.encode value.toList := not_mem_encode (by decide) (by decide) _
  rw [valueIn, toList_text_assign, dropWhile_ne_append h, List.drop_one, List.tail_cons,
    takeWhile_ne_append hvalue, Percent.unescape, String.toList_ofList, Percent.decode_encode,
    String.ofList_toList]

theorem dropsCookie_text_remove (name : String) :
    dropsCookie (CookieLine.remove name).text = true := by
  rw [dropsCookie, List.isSuffixOf_iff_suffix, toList_text_remove]
  exact List.suffix_append _ _

/-- A line that sets a cookie ends with the time zone of its date, and a line that drops one with a
semicolon. -/
theorem dropsCookie_text_assign (name value : String) (expires : Instant) :
    dropsCookie (CookieLine.assign name value expires).text = false := by
  rw [Bool.eq_false_iff]
  intro hdrops
  rw [dropsCookie, List.isSuffixOf_iff_suffix] at hdrops
  -- the last characters differ, whatever stands before them
  obtain ⟨front, hfront⟩ := hdrops
  obtain ⟨date, hdate⟩ : ∃ date, CookieDate.text expires = date ++ " GMT" := ⟨_, rfl⟩
  obtain ⟨body, hbody⟩ :
      ∃ body, (CookieLine.assign name value expires).text = body ++ " GMT" := by
    rw [CookieLine.text, hdate, ← String.append_assoc]
    exact ⟨_, rfl⟩
  have hlast := congrArg List.getLast? hfront
  rw [hbody] at hlast
  simp [CookieLine.removal] at hlast

/-! ## What a jar holds -/

/-- The value of the cookie of a name, expired or not. -/
def held (jar : CookieJar) (name : String) : Option String :=
  (jar.cookies.find? fun c => decide (c.name = name)).map Preference.value

theorem held_set (jar : CookieJar) (now : Instant) (name value : String) (days : Int64) :
    (jar.set now name value days).held = Function.update jar.held name (some value) := by
  funext other
  rw [held, set, find?_replaceOrAdd, Function.update_apply]
  by_cases h : name = other
  · subst h
    simp [Preference.keptFor]
  · simp [Preference.keptFor, h, Ne.symm h, held]

theorem held_delete (jar : CookieJar) (name : String) :
    (jar.delete name).held = Function.update jar.held name none := by
  funext other
  rw [held, delete, find?_filter_name_ne, Function.update_apply]
  by_cases h : name = other
  · subst h
    simp
  · simp [h, Ne.symm h, held]

/-- **One call.** Its line, replayed, makes of what the jar held what it holds after the call. -/
theorem held_ask (jar : CookieJar) {call : PageCall}
    (hname : ∀ name, call.target? = some name → '=' ∉ name.toList) :
    (jar.ask call).2.held = (call.line?.map CookieLine.text).toList.foldl replay jar.held := by
  cases call with
  | set now name value days =>
    have h := hname name rfl
    simp only [ask, PageCall.line?, Option.map_some, Option.toList_some, List.foldl_cons,
      List.foldl_nil]
    rw [held_set, replay, nameIn_text_assign h, valueIn_text_assign h, dropsCookie_text_assign,
      if_neg Bool.false_ne_true]
  | delete name =>
    simp only [ask, PageCall.line?, Option.map_some, Option.toList_some, List.foldl_cons,
      List.foldl_nil]
    rw [held_delete, replay, nameIn_text_remove (hname name rfl), dropsCookie_text_remove,
      if_pos rfl]
  | get now name => rfl
  | list now => rfl
  | header now => rfl
  | takeOutgoing => rfl

/-- **Whole runs.** -/
theorem held_run (jar : CookieJar) {calls : List PageCall}
    (hnames : ∀ call ∈ calls, ∀ name, call.target? = some name → '=' ∉ name.toList) :
    (jar.run calls).2.held =
      ((calls.filterMap PageCall.line?).map CookieLine.text).foldl replay jar.held := by
  induction calls generalizing jar with
  | nil => rfl
  | cons call calls ih =>
    have hcall := held_ask jar (hnames call List.mem_cons_self)
    have hcalls := ih (jar.ask call).2 fun c hc => hnames c (List.mem_cons_of_mem call hc)
    rw [run, hcalls, hcall, List.filterMap_cons]
    cases call.line? <;> rfl

theorem namesDistinct_ask {jar : CookieJar} (h : NamesDistinct jar.cookies) (call : PageCall) :
    NamesDistinct (jar.ask call).2.cookies := by
  cases call with
  | set now name value days => exact namesDistinct_replaceOrAdd h _
  | delete name => exact h.filter _
  | get now name => exact h
  | list now => exact h
  | header now => exact h
  | takeOutgoing => exact h

theorem namesDistinct_run {jar : CookieJar} (h : NamesDistinct jar.cookies)
    (calls : List PageCall) : NamesDistinct (jar.run calls).2.cookies := by
  induction calls generalizing jar with
  | nil => exact h
  | cons call calls ih => exact ih (namesDistinct_ask h call)

/-- Where no name stands twice, all cookies are held under their names, and nothing else is. -/
theorem held_eq_some_iff {jar : CookieJar} (h : NamesDistinct jar.cookies) {name value : String} :
    jar.held name = some value ↔ ∃ c ∈ jar.cookies, c.name = name ∧ c.value = value := by
  rw [held, Option.map_eq_some_iff]
  simp only [h.find?_eq_some_iff, and_assoc]

/-! ## The log -/

/-- A page starts without cookies or from a header. -/
def IsStart (jar : CookieJar) : Prop :=
  jar = empty ∨ ∃ header, jar = parse header

theorem IsStart.waiting_eq_nil {jar : CookieJar} (h : jar.IsStart) : jar.waiting = [] := by
  rcases h with rfl | ⟨header, rfl⟩
  · rfl
  · rw [waiting, parse]
    split <;> rfl

theorem IsStart.namesDistinct {jar : CookieJar} (h : jar.IsStart) : NamesDistinct jar.cookies := by
  rcases h with rfl | ⟨header, rfl⟩
  · exact List.nodup_nil
  · exact namesDistinct_parse header

/-- **The lines for the browser are a log that can be replayed.** In any run of calls from a start,
the lines that have been taken and then those that wait are one line for each change, in the order
of the changes. If no name that is changed holds a `=`, then replaying them over the values that the
jar held at the start gives the values it holds at the end: the value of every cookie in it, and
nothing under any other name. No line that sets a cookie reads as one that drops a cookie. -/
theorem replay_outgoing_exact {start : CookieJar} (hstart : start.IsStart) {calls : List PageCall}
    (hnames : ∀ call ∈ calls, ∀ name, call.target? = some name → '=' ∉ name.toList) :
    (start.run calls).1.flatMap PageAnswer.handedOut ++ (start.run calls).2.waiting =
        (calls.filterMap PageCall.line?).map CookieLine.text ∧
      (∀ name value, start.held name = some value ↔
        ∃ c ∈ start.cookies, c.name = name ∧ c.value = value) ∧
      (∀ name value,
        ((start.run calls).1.flatMap PageAnswer.handedOut ++
            (start.run calls).2.waiting).foldl replay start.held name = some value ↔
          ∃ c ∈ (start.run calls).2.cookies, c.name = name ∧ c.value = value) ∧
      ∀ name value expires, dropsCookie (CookieLine.assign name value expires).text = false := by
  have hlog := flatMap_handedOut_append_waiting start calls
  rw [hstart.waiting_eq_nil, List.nil_append] at hlog
  refine ⟨hlog, ?_, ?_, dropsCookie_text_assign⟩
  · exact fun name value => held_eq_some_iff hstart.namesDistinct
  · intro name value
    rw [hlog, ← held_run start hnames]
    exact held_eq_some_iff (namesDistinct_run hstart.namesDistinct calls)

/-- A value that looks like the end of a line that drops a cookie, an empty value, and lines that
are taken between two changes of one name. -/
theorem replay_outgoing_exact_taken_between :
    let start := parse "a=1; b=2"
    let calls : List PageCall :=
      [.set .earliest "a" ("=; " ++ CookieLine.removal) 1, .takeOutgoing, .delete "a",
        .set .earliest "b" "" (-1)]
    (start.IsStart ∧ ∀ call ∈ calls, ∀ name, call.target? = some name → '=' ∉ name.toList) ∧
      (start.run calls).1.flatMap PageAnswer.handedOut ++ (start.run calls).2.waiting =
        (calls.filterMap PageCall.line?).map CookieLine.text ∧
      ((start.run calls).1.flatMap PageAnswer.handedOut ++
          (start.run calls).2.waiting).foldl replay start.held "b" = some "" := by
  intro start calls
  have hstart : start.IsStart := Or.inr ⟨_, rfl⟩
  have hnames : ∀ call ∈ calls, ∀ name, call.target? = some name → '=' ∉ name.toList := by
    simp [calls, PageCall.target?]
  obtain ⟨hlog, _, hheld, _⟩ := replay_outgoing_exact hstart hnames
  exact ⟨⟨hstart, hnames⟩, hlog, (hheld "b" "").mpr (by decide)⟩

end PlanViewer.CookieJar
