/-
# Told documents

The text of a value where it names something. An integer of more than `Numeral.longestNumeral`
digits has no text, and neither has a value that holds one.
-/

import FormDispatch.Problem

namespace FormDispatch
namespace Document

mutual

/-- No integer in a value is too long for a text. -/
def isTellable : Document → Bool
  | int n => (Numeral.text? n).isSome
  | arr items => areTellable items
  | obj members => holdTellable members
  | _ => true

/-- No integer in the items is too long for a text. -/
def areTellable : List Document → Bool
  | [] => true
  | item :: rest => isTellable item && areTellable rest

/-- No integer in the values of members is too long for a text. -/
def holdTellable : List (String × Document) → Bool
  | [] => true
  | (_, value) :: rest => isTellable value && holdTellable rest

end

/-- The text of a value, or the defect that an integer in it is too long. -/
def told (d : Document) : Except Defect String :=
  if d.isTellable then .ok d.displayed else .error .integerTooLong

theorem told_of_isTellable {d : Document} (h : d.isTellable = true) : d.told = .ok d.displayed := by
  simp [told, h]

end Document
end FormDispatch
