import PlanViewer.Text.Extending
import PlanViewer.Text.Unprintable

/-!
# Quoted text

A text in quotes that shows every character: quotes and backslashes are escaped, four controls
have an escape of their own, and what cannot be seen by itself is written as its code point in
braces. An apostrophe is written as it is.
-/

namespace PlanViewer.Text.Quoted

/-- The escape of a character by its code point. -/
def codeEscape (c : Char) : List Char :=
  ['\\', 'u', '\x7b'] ++ Nat.toDigits 16 c.toNat ++ ['\x7d']

/-- How a character is written between the quotes. -/
def encodeChar (c : Char) : List Char :=
  if c = '\x00' then ['\\', '0']
  else if c = '\t' then ['\\', 't']
  else if c = '\r' then ['\\', 'r']
  else if c = '\n' then ['\\', 'n']
  else if c = '\\' then ['\\', '\\']
  else if c = '"' then ['\\', '"']
  else if isExtending c || isUnprintable c then codeEscape c
  else [c]

/-- A text in quotes. -/
def encode (s : String) : String :=
  String.ofList ('"' :: s.toList.flatMap encodeChar ++ ['"'])

end PlanViewer.Text.Quoted
