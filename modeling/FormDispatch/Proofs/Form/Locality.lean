/-
# Fields as places in a form

`put` writes a form where `lookup` reads it, and nowhere else. Neither sees the other's choice
between a whole name and a path, so the two choices have to agree: `put_acts_locally` says that they
do for every form, whatever stands on the way.

Which fields a write can disturb is read off the paths alone. A whole name is never the beginning of
a longer path, since no part of a path holds a point (`parts_of_mem_parts`). For two fields to lie
apart it is therefore enough that neither path begins the other (`areApart_iff`).
-/

import FormDispatch.Proofs.Form

namespace FormDispatch
namespace Form

/-- A part of a path is a field without points. -/
theorem parts_of_mem_parts {field part : String} (h : part ∈ parts field) :
    parts part = [part] := by
  obtain ⟨piece, hpiece, rfl⟩ := List.mem_map.mp h
  have hpoint : '.' ∉ piece := Text.not_mem_of_mem_splitAt '.' field.toList piece hpiece
  rw [parts, String.toList_ofList, Text.splitAt_of_not_mem hpoint, List.map_singleton]

/-- A field that is the first part of another's path begins that path. -/
theorem parts_isPrefix_of_head? {field other : String} (h : (parts other).head? = some field) :
    parts field <+: parts other := by
  obtain ⟨rest, hrest⟩ := List.head?_eq_some_iff.mp h
  rw [parts_of_mem_parts (hrest ▸ List.mem_cons_self), hrest]
  exact ⟨rest, rfl⟩

/-- Two fields lie apart where neither path begins the other. -/
theorem areApart_iff {field other : String} :
    AreApart field other ↔ ¬parts field <+: parts other ∧ ¬parts other <+: parts field := by
  refine ⟨fun h => h.2.2.2, fun ⟨h, h'⟩ => ⟨?_, ?_, ?_, h, h'⟩⟩
  · rintro rfl
    exact h List.prefix_rfl
  · exact fun hhead => h' (parts_isPrefix_of_head? hhead)
  · exact fun hhead => h (parts_isPrefix_of_head? hhead)

/-- A field is read from what its look-up finds. -/
theorem get_congr {form other : Members} {field : String}
    (h : lookup form field = lookup other field) (type : FieldType) (default : Document) :
    get form field type default = get other field type default := by
  simp only [get, usable, h]

/-- **A write reaches its field and no other.** After a value is put in a field, the look-up of the
field finds that value; and a field whose path neither begins the written one nor goes on from it is
read as before, as every type and with every default, whether the reading gives a value or refuses
one. -/
theorem put_acts_locally (form : Members) (field : String) (value : Document) :
    lookup (put form field value) field = some value ∧
      ∀ other, ¬parts field <+: parts other → ¬parts other <+: parts field →
        ∀ type default, get (put form field value) other type default =
          get form other type default := by
  refine ⟨lookup_put_self form field value, fun other h h' type default => ?_⟩
  exact get_congr (lookup_put_of_areApart form (areApart_iff.mpr ⟨h, h'⟩) value) type default

/-- A number becomes a form on the way to an empty part, and the field beside it stays in sight
under its whole name. -/
theorem put_acts_locally_on_empty_part :
    ¬parts "a..b" <+: parts "a.c" ∧ ¬parts "a.c" <+: parts "a..b" ∧
      get (put [("a", .int 5), ("a.c", .str " 7 ")] "a..b" (.bool true)) "a.c" .integer .null =
        .ok (.int 7) := by
  have hparts : ¬parts "a..b" <+: parts "a.c" ∧ ¬parts "a.c" <+: parts "a..b" := by decide
  refine ⟨hparts.1, hparts.2, ?_⟩
  rw [(put_acts_locally _ _ _).2 "a.c" hparts.1 hparts.2]
  rfl

end Form
end FormDispatch
