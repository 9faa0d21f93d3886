/-
# Values of bindings

A value is a text, or missing. What kind of value it spells is found by reading it as standard JSON;
a text that is no JSON is a string. Where a value stands decides how it is written: inside quotes
its characters are escaped, so that they stay inside; on its own a value that spells JSON stands for
itself and any other is written as a quoted string. A missing value is nothing inside quotes and
null on its own.

Specification, section E9.
-/

import FormDispatch.Document.Reader
import FormDispatch.Document.Writer
import FormDispatch.Text.Blank

namespace FormDispatch
namespace Substitution

/-- The kinds of values. -/
inductive ValueKind where
  | string
  | integer
  | float
  | boolean
  | null
  | object
  | array
deriving DecidableEq

/-- The name of a kind. -/
def ValueKind.name : ValueKind → String
  | string => "STRING"
  | integer => "INTEGER"
  | float => "FLOAT"
  | boolean => "BOOLEAN"
  | null => "NULL"
  | object => "JSON_OBJECT"
  | array => "ARRAY"

/-- The kind of a document. -/
def ValueKind.ofDocument : Document → ValueKind
  | .null => null
  | .bool _ => boolean
  | .int _ => integer
  | .float _ => float
  | .str _ => string
  | .arr _ => array
  | .obj _ => object

/-- The document that a value spells, if it does. -/
def spelled? (value : List Char) : Option Document :=
  (Document.readStandard value).toOption

/-- The kind of a value: that of the document it spells, else a string. -/
def kindOf (value : List Char) : ValueKind :=
  match spelled? value with
  | some d => .ofDocument d
  | none => .string

/-- A character of a value inside quotes: escaped for double quotes, and the single quote as well
where that is the quote. -/
def insideChar (quote c : Char) : List Char :=
  if quote = '\'' ∧ c = '\'' then ['\\', '\''] else Document.escaped true c

/-- A value inside quotes. -/
def insideQuotes (quote : Char) (value : List Char) : List Char :=
  value.flatMap (insideChar quote)

/-- A value on its own. -/
def bare (value : List Char) : List Char :=
  if (spelled? value).isSome then Text.trim value else Document.quotedText true value

/-- How a value is written at a place, and its kind. -/
def rendered (value : Option String) (quote : Option Char) : List Char × ValueKind :=
  match value with
  | none => (if quote.isSome then [] else ['n', 'u', 'l', 'l'], .null)
  | some value =>
    let value := value.toList
    match quote with
    | some quote => (insideQuotes quote value, kindOf value)
    | none => (bare value, kindOf value)

end Substitution
end FormDispatch
