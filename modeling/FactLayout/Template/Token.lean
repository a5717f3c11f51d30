import FactLayout.Template.Directive

/-
  The lexical units of a template.

  Every token knows the template text it stands for.

  Key definitions include:
    * `Token`
    * `Token.source`
    * `echo`
-/

------------------------------------------------------------
-- Tokens
------------------------------------------------------------

namespace FactLayout

/-
  A template is made of runs of literal text, doubled
  opening braces, empty placeholders and placeholders with
  a body.  A placeholder is closed unless the template ends
  before its closing brace.
-/
inductive Token where
| literal (text : List Char)
| brace
| empty (closed : Bool)
| placeholder (body : List Char) (closed : Bool)
deriving DecidableEq, Repr

/- Write a placeholder as it stands in the template. -/
def echo
    (body : List Char)
    (closed : Bool) : List Char :=
  '{' :: body ++ if closed then ['}'] else []

namespace Token

/- The template text that a token was read from. -/
def source : Token → List Char
| literal text => text
| brace => ['{', '{']
| empty closed => echo [] closed
| placeholder body closed => echo body closed

end Token

end FactLayout
