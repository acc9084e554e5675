import ConfigVars.Text.Printable

/-!
# Quoted text

A text stands in quotes (`quoted`) where it is part of a list, a map or a name of a pattern.  The
quotes are single ones unless the text has a single quote and no double quote (`quoteMark`).
Inside, a backslash, the quote itself, tab, line feed and carriage return have a short escape, and
a character that is not printable stands as its code point in hexadecimal digits (`escaped`).
-/

namespace ConfigVars.Text

/-- The hexadecimal digits of a number, filled up with zeros to a width. -/
def hexDigits (width n : Nat) : List Char :=
  let digits := Nat.toDigits 16 n
  List.replicate (width - digits.length) '0' ++ digits

/-- The single quote. -/
def singleQuote : Char := '\x27'

/-- The double quote. -/
def doubleQuote : Char := '\x22'

/-- How a character is written between quotes. -/
def escaped (quote c : Char) : List Char :=
  if c = '\\' || c = quote then ['\\', c]
  else if c = '\t' then ['\\', 't']
  else if c = '\n' then ['\\', 'n']
  else if c = '\r' then ['\\', 'r']
  else if isPrintable c then [c]
  else if c.toNat < 0x100 then '\\' :: 'x' :: hexDigits 2 c.toNat
  else if c.toNat < 0x10000 then '\\' :: 'u' :: hexDigits 4 c.toNat
  else '\\' :: 'U' :: hexDigits 8 c.toNat

/-- The quote that a text is written in. -/
def quoteMark (cs : List Char) : Char :=
  if cs.contains singleQuote && !cs.contains doubleQuote then doubleQuote else singleQuote

/-- A text in quotes. -/
def quoted (s : String) : String :=
  let quote := quoteMark s.toList
  String.ofList (quote :: s.toList.flatMap (escaped quote) ++ [quote])

end ConfigVars.Text
