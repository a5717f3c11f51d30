import FactLayout.Text.Printable

/-
  Text in quotation marks, for diagnostics.

  Quotation marks, backslashes and the common control
  characters have two-character escapes; every other
  character that is not printable is written by its number.

  Key definitions include:
    * `Quoted.encodeChar`
    * `Quoted.encode`
-/

------------------------------------------------------------
-- Quoting
------------------------------------------------------------

namespace FactLayout

namespace Quoted

/- A character by its number, in hexadecimal. -/
def byNumber (c : Char) : List Char :=
  ['\\', 'u', '{'] ++ Nat.toDigits 16 c.toNat ++ ['}']

/- A character between quotation marks. -/
def encodeChar (c : Char) : List Char :=
  if c = '"' then ['\\', '"']
  else if c = '\\' then ['\\', '\\']
  else if c = '\n' then ['\\', 'n']
  else if c = '\r' then ['\\', 'r']
  else if c = '\t' then ['\\', 't']
  else if c = '\x00' then ['\\', '0']
  else if Printable.holds c then [c]
  else byNumber c

/- Text with its quotation marks. -/
def encode (text : String) : String :=
  String.ofList
    ('"' :: text.toList.flatMap encodeChar ++ ['"'])

end Quoted

end FactLayout
