/-
# The keys of columns

The key of a column depends on the texts of the header up to it and on nothing behind it, so fewer
columns have the first of the keys that more of them have (`rowKeys_take`). A header without the
blank cells at its end, each text trimmed, gives the same keys as the header as it came
(`rowKeys_headerCells`); the columns behind that end have their letters for keys.
-/

import FormDispatch.Proofs.Text.Blank
import FormDispatch.Sheet.Row

namespace FormDispatch
namespace Sheet

/-! ### Letters -/

/-- Letters of a column, or none at all. -/
def AreLetters (s : List Char) : Prop :=
  ∀ c ∈ s, c.isUpper = true

/-- Columns are named by letters. -/
theorem areLetters_columnName (index : Int) : AreLetters (columnName index).toList := by
  have digit : ∀ d ∈ List.range 26, (letter d).isUpper = true := by decide
  have within : ∀ fuel n, AreLetters (lettersWithin fuel n) := by
    intro fuel
    induction fuel with
    | zero => exact fun n => nofun
    | succ fuel ih =>
      intro n
      cases n with
      | zero => exact nofun
      | succ n =>
        intro c hc
        rw [lettersWithin, List.mem_append, List.mem_singleton] at hc
        obtain hc | rfl := hc
        · exact ih _ c hc
        · exact digit _ (List.mem_range.2 (Nat.mod_lt n (by decide)))
  rw [columnName, String.toList_ofList]
  exact within _ _

/-- No column has the key of the row index for its name. -/
theorem columnName_ne_rowIndexKey (index : Int) : columnName index ≠ rowIndexKey := by
  intro h
  have hletters := areLetters_columnName index
  rw [h] at hletters
  exact absurd (hletters 'r' (by decide)) (by decide)

/-! ### Keys and texts -/

/-- Keys go by the trimmed texts of the header alone. -/
theorem keysFrom_congr {header other : List String} {index : Nat} {seen : List String} {count : Nat}
    (h : ∀ i, Text.trimmed (header.getD i "") = Text.trimmed (other.getD i "")) :
    keysFrom header index seen count = keysFrom other index seen count := by
  have hkey : ∀ seen i, keyFor seen i (header.getD i "") = keyFor seen i (other.getD i "") := by
    intro seen i
    rw [keyFor, keyFor, h i]
  induction count generalizing index seen with
  | zero => rfl
  | succ count ih => rw [keysFrom, keysFrom, hkey, ih]

/-- Fewer columns have the first of the keys. -/
theorem keysFrom_take (header : List String) (index : Nat) (seen : List String) {count more : Nat}
    (h : count ≤ more) :
    (keysFrom header index seen more).take count = keysFrom header index seen count := by
  induction count generalizing index seen more with
  | zero => rfl
  | succ count ih =>
    obtain ⟨more, rfl⟩ : ∃ n, more = n + 1 := ⟨more - 1, by omega⟩
    rw [keysFrom, keysFrom, List.take_succ_cons, ih _ _ (by omega)]

/-- **Fewer columns have the first of the keys that more have.** -/
theorem rowKeys_take (header : List String) {count more : Nat} (h : count ≤ more) :
    (rowKeys header more).take count = rowKeys header count :=
  keysFrom_take header 0 [] h

/-- Every key is one for the text of its header cell. -/
theorem getElem?_keysFrom (header : List String) (index : Nat) (seen : List String)
    {count i : Nat} (h : i < count) :
    ∃ before, (keysFrom header index seen count)[i]? =
      some (keyFor before (index + i) (header.getD (index + i) "")) := by
  induction i generalizing index seen count with
  | zero =>
    obtain ⟨count, rfl⟩ : ∃ n, count = n + 1 := ⟨count - 1, by omega⟩
    exact ⟨seen, rfl⟩
  | succ i ih =>
    obtain ⟨count, rfl⟩ : ∃ n, count = n + 1 := ⟨count - 1, by omega⟩
    rw [keysFrom, List.getElem?_cons_succ, ← Nat.add_assoc, Nat.add_right_comm]
    exact ih _ _ (by omega)

/-- A column without a text in the header has its letters for a key. -/
theorem getElem?_rowKeys_of_blank {header : List String} {count i : Nat} (h : i < count)
    (hblank : Text.trimmed (header.getD i "") = "") :
    (rowKeys header count)[i]? = some (columnName i) := by
  obtain ⟨before, hkey⟩ := getElem?_keysFrom header 0 [] h
  rw [Nat.zero_add] at hkey
  rw [rowKeys, hkey, keyFor, hblank]
  rfl

/-! ### The header of a sheet -/

/-- Only empty texts are left out at the end. -/
theorem exists_emptyTail (cells : List String) :
    ∃ tail, cells = withoutEmptyTail cells ++ tail ∧ ∀ cell ∈ tail, cell = "" := by
  refine ⟨(cells.reverse.takeWhile String.isEmpty).reverse, ?_, fun cell hcell => ?_⟩
  · rw [withoutEmptyTail, ← List.reverse_append, List.takeWhile_append_dropWhile,
      List.reverse_reverse]
  · have hempty := List.all_eq_true.1 List.all_takeWhile _ (List.mem_reverse.1 hcell)
    exact String.isEmpty_iff.1 hempty

/-- Empty texts at the end are as good as none. -/
theorem getD_withoutEmptyTail (cells : List String) (i : Nat) :
    (withoutEmptyTail cells).getD i "" = cells.getD i "" := by
  obtain ⟨tail, hcells, htail⟩ := exists_emptyTail cells
  have hempty : ∀ j, tail.getD j "" = "" := by
    intro j
    rw [List.getD_eq_getElem?_getD]
    cases hj : tail[j]? with
    | none => rfl
    | some cell => exact htail cell (List.mem_of_getElem? hj)
  have hback : (withoutEmptyTail cells ++ tail).getD i "" = (withoutEmptyTail cells).getD i "" := by
    rcases Nat.lt_or_ge i (withoutEmptyTail cells).length with hi | hi
    · rw [List.getD_eq_getElem?_getD, List.getElem?_append_left hi, ← List.getD_eq_getElem?_getD]
    · have hbehind : (withoutEmptyTail cells)[i]? = none := List.getElem?_eq_none hi
      rw [List.getD_eq_getElem?_getD, List.getElem?_append_right hi, ← List.getD_eq_getElem?_getD,
        hempty, List.getD_eq_getElem?_getD, hbehind, Option.getD_none]
  rw [← hback, ← hcells]

/-- A header without its blank end is no longer. -/
theorem length_headerCells_le (cells : List Document) :
    (headerCells cells).length ≤ cells.length := by
  obtain ⟨tail, hcells, -⟩ := exists_emptyTail (cells.map fun d => Text.trimmed d.displayed)
  have hlength := congrArg List.length hcells
  rw [List.length_map, List.length_append] at hlength
  rw [headerCells]
  omega

/-- The texts of a header are trimmed. -/
theorem trimmed_headerCells (cells : List Document) (i : Nat) :
    Text.trimmed ((headerCells cells).getD i "") =
      Text.trimmed ((cells.map Document.displayed).getD i "") := by
  have htwice : ∀ s, Text.trimmed (Text.trimmed s) = Text.trimmed s := by
    intro s
    simp [Text.trimmed, Text.trim_trim]
  rw [headerCells, getD_withoutEmptyTail, List.getD_eq_getElem?_getD, List.getD_eq_getElem?_getD,
    List.getElem?_map, List.getElem?_map]
  cases cells[i]? with
  | none => rfl
  | some d => exact htwice _

/-- **A header without its blank end gives the same keys.** -/
theorem rowKeys_headerCells (cells : List Document) (count : Nat) :
    rowKeys (headerCells cells) count = rowKeys (cells.map Document.displayed) count :=
  keysFrom_congr (trimmed_headerCells cells)

end Sheet
end FormDispatch
