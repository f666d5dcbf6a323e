import QuoteProver.Text.Printable

/-!
# Quoted text

`quoteString` and `quoteChar` write a text or a character between quotation marks, with a
backslash in front of the mark and of itself, with `\n`, `\r`, `\t` and `\0` for those four
characters, and with `\u` and the hexadecimal number in braces for what `isPrintable` refuses.
-/

namespace QuoteProver.Text

/-- The lower case hexadecimal digit of a number below sixteen. -/
def hexDigit (n : Nat) : Char :=
  if n < 10 then Char.ofNat (48 + n) else Char.ofNat (87 + n)

/-- The hexadecimal numeral of a number, without leading zeros. -/
def hexNumeral (n : Nat) : List Char := (Nat.toDigits 16 n)

/-- A character inside quotation marks; those in `marks` get a backslash. -/
def quoteInside (marks : List Char) (c : Char) : List Char :=
  if c ∈ marks || c = '\\' then ['\\', c]
  else if c = '\n' then ['\\', 'n']
  else if c = '\r' then ['\\', 'r']
  else if c = '\t' then ['\\', 't']
  else if c = '\x00' then ['\\', '0']
  else if isPrintable c then [c]
  else ['\\', 'u', '\x7b'] ++ hexNumeral c.toNat ++ ['\x7d']

/-- A text in double quotation marks. -/
def quoteString (text : String) : String :=
  String.ofList ('"' :: text.toList.flatMap (quoteInside ['"']) ++ ['"'])

/-- A file name in double quotation marks, where single ones get a backslash too. -/
def quotePath (path : String) : String :=
  String.ofList ('"' :: path.toList.flatMap (quoteInside ['"', '\'']) ++ ['"'])

/-- A character in single quotation marks. -/
def quoteChar (c : Char) : String :=
  String.ofList ('\'' :: quoteInside ['\''] c ++ ['\''])

end QuoteProver.Text
