/-
# Quoted texts

A quoted text stands between two quotes on one line and shows only printable
characters. It uses the single quote, unless the text has single quotes and no
double ones. The quote in use and the backslash are preceded by a backslash, line
feed, carriage return and tab have letters of their own, and any other character
that is not printable is shown by its code point in two, four or eight
hexadecimal digits.
-/

import Stencil.Text.Printable

namespace Stencil.Text

/-- The lower-case hexadecimal digit of a number below sixteen. -/
def hexDigit (d : Nat) : Char :=
  if d < 10 then Char.ofNat (48 + d) else Char.ofNat (87 + d)

/-- The last `width` hexadecimal digits of a number, the most significant first. -/
def hexDigits : Nat → Nat → List Char
  | 0, _ => []
  | width + 1, n => hexDigits width (n / 16) ++ [hexDigit (n % 16)]

/-- The single quote. -/
def singleQuote : Char := '\x27'

/-- The double quote. -/
def doubleQuote : Char := '\x22'

/-- The quote in which a text is shown: double only where that avoids an escape. -/
def quoteFor (cs : List Char) : Char :=
  if cs.contains singleQuote && !cs.contains doubleQuote then doubleQuote else singleQuote

/-- A character shown by its code point. -/
def codePointEscape (c : Char) : List Char :=
  if c.toNat < 0x100 then '\\' :: 'x' :: hexDigits 2 c.toNat
  else if c.toNat < 0x10000 then '\\' :: 'u' :: hexDigits 4 c.toNat
  else '\\' :: 'U' :: hexDigits 8 c.toNat

/-- A character as it stands between the given quotes. -/
def quoteChar (quote c : Char) : List Char :=
  if c = quote || c = '\\' then ['\\', c]
  else if c = '\n' then ['\\', 'n']
  else if c = '\r' then ['\\', 'r']
  else if c = '\t' then ['\\', 't']
  else if isPrintable c then [c]
  else codePointEscape c

/-- The characters of a quoted text, quotes included. -/
def quoteChars (cs : List Char) : List Char :=
  let quote := quoteFor cs
  quote :: (cs.flatMap (quoteChar quote) ++ [quote])

/-- The text in quotes. -/
def quoted (s : String) : String :=
  String.ofList (quoteChars s.toList)

end Stencil.Text
