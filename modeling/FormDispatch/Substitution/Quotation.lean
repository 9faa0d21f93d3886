/-
# Quotation

Whether a place in a text lies inside a quoted string, and which quote opened it. Outside, either
quote opens a string; inside, the same quote closes it, and a backslash takes the next character out
of consideration. `quoteBefore` is the quote around the place after the given characters.

Specification, section E9.
-/

namespace FormDispatch
namespace Substitution

/-- Where a place lies. -/
inductive Quotation where
  /-- outside of all strings -/
  | outside
  /-- inside a string opened by the quote; after a backslash `escaped` holds -/
  | inside (quote : Char) (escaped : Bool)
deriving DecidableEq

namespace Quotation

/-- Where the place after a character lies. -/
def after : Quotation → Char → Quotation
  | outside, c => if c = '"' ∨ c = '\'' then inside c false else outside
  | inside quote true, _ => inside quote false
  | inside quote false, c =>
    if c = '\\' then inside quote true
    else if c = quote then outside
    else inside quote false

/-- Where the place after some characters lies. -/
def afterAll (q : Quotation) (s : List Char) : Quotation :=
  s.foldl after q

/-- The quote around a place. -/
def quote? : Quotation → Option Char
  | outside => none
  | inside quote _ => some quote

/-- Characters are passed in two parts as in one. -/
theorem afterAll_append (q : Quotation) (s t : List Char) :
    q.afterAll (s ++ t) = (q.afterAll s).afterAll t :=
  List.foldl_append

end Quotation

/-- The quote around the place after some characters of a text. -/
def quoteBefore (s : List Char) : Option Char :=
  (Quotation.outside.afterAll s).quote?

example : quoteBefore ['a', '"', '\\', '"', '\''] = some '"' := by decide

end Substitution
end FormDispatch
