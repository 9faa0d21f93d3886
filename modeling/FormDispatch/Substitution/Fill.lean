/-
# Filled texts

Putting the values of bindings into a text. The bindings are first replaced by markers; then the
markers are taken from left to right, each for the next binding, and replaced by the binding's value
as the quotation at its place demands. A value that has been put in is not looked at again. The
parameter of a binding is the first whose trimmed key is the binding's expression.

Specification, sections 4.5 and E9.
-/

import FormDispatch.Problem
import FormDispatch.Substitution.Piece
import FormDispatch.Substitution.Quotation
import FormDispatch.Substitution.Value

namespace FormDispatch
namespace Substitution

/-- A value given for a binding. -/
structure Param where
  key : String
  value : Option String
deriving DecidableEq

/-- A binding that has been replaced by a value. -/
structure BoundParameter where
  binding : String
  value : Option String
  kind : ValueKind
deriving DecidableEq

/-- The parameter of a binding. -/
def paramOf? (params : List Param) (binding : String) : Option Param :=
  params.find? fun p => Text.trimmed p.key == binding

/-- What stands before the first marker, and what after it. -/
def aroundMarker? (s : List Char) : Option (List Char × List Char) :=
  if marker.isPrefixOf s then some ([], s.drop marker.length)
  else
    match s with
    | [] => none
    | c :: r => (aroundMarker? r).map fun (before, after) => (c :: before, after)

/-- A text with the values of the bindings in place of its markers, one each from left to right.
`place` tells where the text starts. -/
def fillFrom (params : List Param) (place : Quotation) (text : List Char) :
    (bindings : List String) → Except Problem (List Char × List BoundParameter)
  | [] => .ok (text, [])
  | binding :: others =>
    match aroundMarker? text, paramOf? params binding with
    | some (before, after), some param =>
      let here := place.afterAll before
      let (chars, kind) := rendered param.value here.quote?
      match fillFrom params (here.afterAll marker) after others with
      | .ok (rest, bound) =>
        .ok (before ++ chars ++ rest, ⟨binding, param.value, kind⟩ :: bound)
      | .error e => .error e
    | _, _ => .error (.unboundBinding binding)

/-- A text with the values of the bindings in place of its markers. -/
def fill (text : String) (bindings : List String) (params : List Param) :
    Except Problem (String × List BoundParameter) :=
  (fillFrom params .outside text.toList bindings).map fun (s, bound) => (String.ofList s, bound)

/-- A text with the values of its bindings in their place. -/
def filled (text : String) (params : List Param) :
    Except Problem (String × List BoundParameter) :=
  match bindings text.toList with
  | [] => .ok (text, [])
  | found => fill (String.ofList (marked text.toList)) found params

end Substitution
end FormDispatch
