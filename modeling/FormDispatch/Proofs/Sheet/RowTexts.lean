/-
# Rows and their texts

The rows of an operation come as JSON text or decoded, an object or an array of objects. Decoded
rows are kept as their text. That text has no blanks at its ends, so nothing is trimmed from it
(`holdsText_of_written`), and it is read as the rows that it was written from (`rowOf_written_eq`,
`rowsOf_written_eq`).
-/

import FormDispatch.Proofs.Document.RoundTrip
import FormDispatch.Proofs.Form
import FormDispatch.Sheet.Row

namespace FormDispatch
namespace Sheet

/-- What a field may hold for rows that are decoded: an object, or an array of objects. -/
inductive RowValue : (field : String) → Document → Prop
  | object (row : Members) : RowValue "rowObject" (.obj row)
  | objects (rows : List Members) : RowValue "rowObjects" (.arr (rows.map .obj))

/-- The text of rows begins and ends with a bracket or a brace. -/
theorem ends_of_rowValue {field : String} {d : Document} (h : RowValue field d)
    (layout : Document.Layout) :
    ∃ first middle last, d.chars layout 0 = first :: (middle ++ [last]) ∧
      Text.isBlank first = false ∧ Text.isBlank last = false := by
  cases h with
  | object row =>
    rcases row with _ | ⟨⟨key, value⟩, rest⟩
    · exact ⟨'\x7b', [], '\x7d', rfl, by decide, by decide⟩
    · refine ⟨'\x7b', layout.lead 1 ++ Document.quotedText layout.ascii key.toList ++
        ':' :: (layout.afterColon ++ value.chars layout 1 ++
          Document.memberChars layout 1 rest ++ layout.lead 0), '\x7d', ?_, by decide, by decide⟩
      simp [Document.chars]
  | objects rows =>
    rcases rows with _ | ⟨row, rest⟩
    · exact ⟨'[', [], ']', rfl, by decide, by decide⟩
    · exact ⟨'[', _, ']', rfl, by decide, by decide⟩

/-- **A field holds the text of rows as it is.** -/
theorem holdsText_of_written {form : Members} {field other : String} {d : Document}
    (hd : RowValue field d)
    (h : Form.lookup form other = some (.str (d.written .inline))) :
    Form.HoldsText form other (d.written .inline) := by
  obtain ⟨first, middle, last, hchars, hfirst, hlast⟩ := ends_of_rowValue hd .inline
  refine ⟨_, h, ?_, ?_⟩
  · rw [Text.isBlankText, Document.written, String.toList_ofList, hchars, List.all_cons, hfirst,
      Bool.false_and]
  · rw [Text.trimmed, Document.written, String.toList_ofList, hchars,
      Text.trim_of_ends hfirst hlast]

/-- A field with decoded rows is read as it is. -/
theorem any?_of_rowValue {form : Members} {field other : String} {d : Document}
    (hd : RowValue field d) (h : Form.lookup form other = some d) :
    Form.any? form other = some d := by
  cases hd <;> simp only [Form.any?, Form.usable, h, Option.map_some, Form.asAny]

/-! ### Reading back -/

theorem written_ne_empty (d : Document) (layout : Document.Layout) :
    (d.written layout).isEmpty = false := by
  obtain ⟨c, r, hchars, -⟩ := Document.chars_start layout 0 d
  rw [Document.written, hchars]
  simp

/-- The text of a document that is read back is that of its rows. -/
theorem jsonOf_written {d : Document} (field : String)
    (h : Document.read (d.chars .inline 0) = .ok d) : jsonOf field (d.written .inline) = .ok d := by
  rw [jsonOf, Document.written, String.toList_ofList, h]

/-- **The text of an object is read as the object.** -/
theorem rowOf_written_eq {row : Members}
    (h : Document.read ((Document.obj row).chars .inline 0) = .ok (.obj row)) :
    rowOf (some ((Document.obj row).written .inline)) = .ok row := by
  rw [rowOf, written_ne_empty, jsonOf_written _ h]
  rfl

theorem objects?_map_obj (rows : List Members) : objects? (rows.map .obj) = some rows := by
  induction rows with
  | nil => rfl
  | cons row rows ih => rw [List.map_cons, objects?, ih, Option.map_some]

/-- **The text of objects is read as the objects,** if there are any. -/
theorem rowsOf_written_eq {rows : List Members} (hrows : rows ≠ [])
    (h : Document.read ((Document.arr (rows.map .obj)).chars .inline 0) =
      .ok (.arr (rows.map .obj))) :
    rowsOf (some ((Document.arr (rows.map .obj)).written .inline)) = .ok rows := by
  obtain ⟨row, rest, rfl⟩ := List.exists_cons_of_ne_nil hrows
  simp only [rowsOf, written_ne_empty, jsonOf_written _ h, objects?_map_obj, bind, Except.bind]
  rfl

end Sheet
end FormDispatch
