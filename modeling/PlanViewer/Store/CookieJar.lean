import PlanViewer.Preference
import PlanViewer.Text.Blank
import PlanViewer.Text.Percent
import PlanViewer.Time.CookieDate

/-!
# Preferences in cookies

A page exchanges two kinds of text with the browser. The header holds all cookies, `a=b; c=d`. An
assignment line sets one cookie, with its expiry, or makes the browser drop it. A jar is read from
a header and collects the lines that are to be handed to the browser.

Values are percent coded in both. A header carries no expiry, so cookies read from one do not
expire. Of several entries of one name in a header the first counts, and an entry without `=` has
the empty name.
-/

namespace PlanViewer

/-- A line that is handed to the browser. -/
inductive CookieLine where
  /-- Sets a cookie. -/
  | assign (name value : String) (expires : Instant)
  /-- Drops a cookie. -/
  | remove (name : String)
  deriving DecidableEq

namespace CookieLine

/-- The attribute that makes the browser drop a cookie. -/
def removal : String := "expires=Thu, 01-Jan-70 00:00:01 GMT;"

/-- The text of a line. -/
def text : CookieLine → String
  | .assign name value expires =>
    name ++ "=" ++ Text.Percent.escape value ++ "; expires=" ++ CookieDate.text expires
  | .remove name => name ++ "=; " ++ removal

end CookieLine

/-- Cookies in the order of their first appearance, and the lines for the browser that have not
been taken yet, the oldest first. -/
structure CookieJar where
  cookies : List Preference
  outgoing : List CookieLine
  deriving DecidableEq

namespace CookieJar

/-- The jar without cookies. -/
def empty : CookieJar := ⟨[], []⟩

/-! ## Headers -/

/-- The name of a header entry, and its value as it is written. -/
def splitEntry (entry : List Char) : List Char × List Char :=
  if entry.contains '=' then
    (Text.trim (entry.takeWhile fun c => decide (c ≠ '=')),
     (entry.dropWhile fun c => decide (c ≠ '=')).drop 1)
  else ([], entry)

/-- The cookie of a header entry. -/
def cookieOf (entry : List Char) : Preference :=
  let (name, written) := splitEntry entry
  ⟨String.ofList name, String.ofList (Text.Percent.decode written), .latest⟩

/-- Adds a cookie at the end, unless there is one of its name. -/
def addNew (cookies : List Preference) (c : Preference) : List Preference :=
  if cookies.any fun d => decide (d.name = c.name) then cookies else cookies ++ [c]

/-- The jar of a header. -/
def parse (header : String) : CookieJar :=
  if header = "" then empty
  else ⟨((header.toList.splitOn ';').map cookieOf).foldl addNew [], []⟩

/-- The header of the cookies that can be read. -/
def header (jar : CookieJar) (now : Instant) : String :=
  String.intercalate "; " ((jar.cookies.filter fun c => c.isLive now).map fun c =>
    c.name ++ "=" ++ Text.Percent.escape c.value)

/-! ## Cookies -/

/-- The value under a name, if it can be read. -/
def get? (jar : CookieJar) (now : Instant) (name : String) : Option String :=
  (jar.cookies.find? fun c => decide (c.name = name) && c.isLive now).map Preference.value

/-- Puts a cookie in the place of the one of its name, or at the end. -/
def replaceOrAdd (cookies : List Preference) (c : Preference) : List Preference :=
  match cookies with
  | [] => [c]
  | d :: rest => if d.name = c.name then c :: rest else d :: replaceOrAdd rest c

/-- Keeps a value for so many days. -/
def set (jar : CookieJar) (now : Instant) (name value : String) (days : Int64) : CookieJar :=
  let cookie := Preference.keptFor now name value days
  { cookies := replaceOrAdd jar.cookies cookie
    outgoing := jar.outgoing ++ [.assign name value cookie.expires] }

/-- Removes a value. The browser is told even when the jar has none. -/
def delete (jar : CookieJar) (name : String) : CookieJar :=
  { cookies := jar.cookies.filter fun c => decide (c.name ≠ name)
    outgoing := jar.outgoing ++ [.remove name] }

/-- The values that can be read, in order of names. -/
def list (jar : CookieJar) (now : Instant) : List Preference :=
  (jar.cookies.filter fun c => c.isLive now).mergeSort fun a b => decide (a.name ≤ b.name)

/-- The lines for the browser, and the jar without them. -/
def takeOutgoing (jar : CookieJar) : List CookieLine × CookieJar :=
  (jar.outgoing, { jar with outgoing := [] })

end CookieJar

end PlanViewer
