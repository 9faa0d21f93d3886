/-
# Documents

The values that forms, commands, request bodies and answers are made of: null, booleans, integers
of unlimited size, floating-point numbers, texts, arrays, and objects whose members keep their
order. Integers and floating-point numbers are different kinds even where their values agree.

Equality of documents is decided here by recursion over both; a document counts as *absent* when
it is null, false, zero, or empty.
-/

import FormDispatch.Entries
import FormDispatch.Number.Binary64

namespace FormDispatch

/-- A value. -/
inductive Document where
  | null
  | bool (value : Bool)
  | int (value : Int)
  | float (value : Binary64)
  | str (value : String)
  | arr (items : List Document)
  | obj (members : List (String × Document))
deriving Inhabited

/-- Members of an object, in order. -/
abbrev Members := Entries Document

namespace Document

mutual

/-- Equality of documents is decided part by part. -/
def decideEq : (a b : Document) → Decidable (a = b)
  | null, null => isTrue rfl
  | bool a, bool b => if h : a = b then isTrue (h ▸ rfl) else isFalse fun e => h (bool.inj e)
  | int a, int b => if h : a = b then isTrue (h ▸ rfl) else isFalse fun e => h (int.inj e)
  | float a, float b => if h : a = b then isTrue (h ▸ rfl) else isFalse fun e => h (float.inj e)
  | str a, str b => if h : a = b then isTrue (h ▸ rfl) else isFalse fun e => h (str.inj e)
  | arr a, arr b =>
    match decideEqItems a b with
    | isTrue h => isTrue (h ▸ rfl)
    | isFalse h => isFalse fun e => h (arr.inj e)
  | obj a, obj b =>
    match decideEqMembers a b with
    | isTrue h => isTrue (h ▸ rfl)
    | isFalse h => isFalse fun e => h (obj.inj e)
  | null, bool _ | null, int _ | null, float _ | null, str _ | null, arr _ | null, obj _
  | bool _, null | bool _, int _ | bool _, float _ | bool _, str _ | bool _, arr _ | bool _, obj _
  | int _, null | int _, bool _ | int _, float _ | int _, str _ | int _, arr _ | int _, obj _
  | float _, null | float _, bool _ | float _, int _ | float _, str _ | float _, arr _
  | float _, obj _
  | str _, null | str _, bool _ | str _, int _ | str _, float _ | str _, arr _ | str _, obj _
  | arr _, null | arr _, bool _ | arr _, int _ | arr _, float _ | arr _, str _ | arr _, obj _
  | obj _, null | obj _, bool _ | obj _, int _ | obj _, float _ | obj _, str _ | obj _, arr _ =>
    isFalse nofun

/-- Equality of items is decided item by item. -/
def decideEqItems : (a b : List Document) → Decidable (a = b)
  | [], [] => isTrue rfl
  | [], _ :: _ => isFalse nofun
  | _ :: _, [] => isFalse nofun
  | a :: r, b :: s =>
    match decideEq a b with
    | isFalse h => isFalse fun e => h (List.cons.inj e).1
    | isTrue h =>
      match decideEqItems r s with
      | isFalse h' => isFalse fun e => h' (List.cons.inj e).2
      | isTrue h' => isTrue (h ▸ h' ▸ rfl)

/-- Equality of members is decided member by member. -/
def decideEqMembers : (a b : List (String × Document)) → Decidable (a = b)
  | [], [] => isTrue rfl
  | [], _ :: _ => isFalse nofun
  | _ :: _, [] => isFalse nofun
  | (k, a) :: r, (l, b) :: s =>
    if hk : k = l then
      match decideEq a b with
      | isFalse h => isFalse fun e => h (Prod.mk.inj (List.cons.inj e).1).2
      | isTrue h =>
        match decideEqMembers r s with
        | isFalse h' => isFalse fun e => h' (List.cons.inj e).2
        | isTrue h' => isTrue (hk ▸ h ▸ h' ▸ rfl)
    else isFalse fun e => hk (Prod.mk.inj (List.cons.inj e).1).1

end

instance : DecidableEq Document := decideEq

/-- Null stands in for a value that is not there. -/
def ofOption : Option Document → Document
  | some v => v
  | none => null

/-- A text that may be missing. -/
def ofText? : Option String → Document
  | some s => str s
  | none => null

/-- Null, false, zero and everything empty count as absent. -/
def isAbsent : Document → Bool
  | null => true
  | bool b => !b
  | int n => n == 0
  | float x => x.isZero
  | str s => s.isEmpty
  | arr items => items.isEmpty
  | obj members => members.isEmpty

/-- The members of an object, none for other values. -/
def members : Document → Members
  | obj m => m
  | _ => []

/-- An object. -/
def isObject : Document → Bool
  | obj _ => true
  | _ => false

/-- A member of an object, null when there is none. -/
def member (d : Document) (key : String) : Document :=
  ofOption (d.members.get? key)

/-- The members of the object under a key, none when there is no such object. -/
def nested (d : Document) (key : String) : Members :=
  (d.member key).members

/-- The items of the array under a key, none when there is no such array. -/
def nestedItems (d : Document) (key : String) : List Document :=
  match d.member key with
  | arr items => items
  | _ => []

example : (obj [("a", arr [int 1, null])] = obj [("a", arr [int 1, null])]) := by decide

example : obj [("a", arr [int 1])] ≠ obj [("a", arr [float Binary64.one])] := by decide

end Document
end FormDispatch
