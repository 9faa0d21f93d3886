/-
# Headers whose columns have distinct keys

A column whose text is blank, or is the key of a column before, is given an invented key. An
invented key is never one that was invented before: its letters are those of its own column. But
nothing keeps it from being the text of a column before, and this is the one way in which two
columns come to have the same key (`rowKeys_nodup_iff`).

Distinct keys are what objects of rows need. A fetched object keeps every cell of its row just when
the keys are distinct and none of them is that of the row index (`keepsCells_iff`); a value that is
written under one key goes to one column just when they are distinct (`writesOneCell_iff`).
-/

import FormDispatch.Proofs.Sheet.WriteBack

namespace FormDispatch
namespace Sheet

/-- The trimmed text that a header has for a column, empty where it has none. -/
def columnText (header : List String) (i : Nat) : String :=
  Text.trimmed (header.getD i "")

/-- The key that is invented for a column when its text cannot be the key. -/
def inventedKey (header : List String) (i : Nat) : String :=
  if columnText header i = "" then columnName i else columnText header i ++ "_" ++ columnName i

/-- A text is the key of a column before the one with the given index. -/
inductive IsTaken (header : List String) : Nat → String → Prop
  /-- the text of a column, which is its key or that of one before it -/
  | text {i j : Nat} (hj : j < i) (hne : columnText header j ≠ "") :
      IsTaken header i (columnText header j)
  | blank {i j : Nat} (hj : j < i) (hblank : columnText header j = "") :
      IsTaken header i (columnName j)
  | again {i j : Nat} (hj : j < i) (hne : columnText header j ≠ "")
      (taken : IsTaken header j (columnText header j)) :
      IsTaken header i (columnText header j ++ "_" ++ columnName j)

/-- The text of a column cannot be its key: it is blank, or the key of a column before. -/
def IsRenamed (header : List String) (i : Nat) : Prop :=
  columnText header i = "" ∨ IsTaken header i (columnText header i)

/-- A column has an invented key, and that is the text of a column before. -/
def Clashes (header : List String) (i : Nat) : Prop :=
  IsRenamed header i ∧ ∃ j < i, columnText header j = inventedKey header i

/-! ### Invented keys -/

/-- Columns have names of their own. -/
theorem columnName_inj {i j : Nat} (h : columnName i = columnName j) : i = j := by
  have hletters : letters (i + 1) = letters (j + 1) := String.ofList_injective h
  have hvalue := congrArg value hletters
  rw [value_letters, value_letters] at hvalue
  omega

theorem columnName_ne_empty (i : Nat) : columnName i ≠ "" := by
  intro h
  have hletters : letters (i + 1) = [] := String.ofList_injective h
  have hvalue := congrArg value hletters
  rw [value_letters] at hvalue
  cases hvalue

/-- The names of columns hold no underscore. -/
theorem underscore_not_mem_columnName (i : Nat) : '_' ∉ (columnName i).toList :=
  fun h => absurd (areLetters_columnName i _ h) (by decide)

/-- What stands behind the last underscore of a text is told by the text. -/
theorem eq_of_append_underscore {a b s t : List Char} (hs : '_' ∉ s) (ht : '_' ∉ t)
    (h : a ++ '_' :: s = b ++ '_' :: t) : s = t := by
  have behind : ∀ {a s : List Char}, '_' ∉ s →
      (a ++ '_' :: s).reverse.takeWhile (· != '_') = s.reverse := by
    intro a s hs
    have hall : ∀ c ∈ s.reverse, (c != '_') = true := by
      intro c hc
      exact bne_iff_ne.2 fun e => hs (e ▸ List.mem_reverse.1 hc)
    rw [List.reverse_append, List.reverse_cons, List.append_assoc,
      List.takeWhile_append_of_pos hall]
    simp
  rw [← List.reverse_inj, ← behind (a := a) hs, h, behind ht]

variable {header : List String}

theorem inventedKey_ne_empty (i : Nat) : inventedKey header i ≠ "" := by
  unfold inventedKey
  split
  · exact columnName_ne_empty i
  · simp [String.append_eq_empty_iff]

/-- No key is invented that is the name of another column. -/
theorem inventedKey_ne_columnName {i j : Nat} (hij : j < i) :
    inventedKey header i ≠ columnName j := by
  unfold inventedKey
  split
  · exact fun h => absurd (columnName_inj h) (by omega)
  · intro h
    refine underscore_not_mem_columnName j ?_
    rw [← h]
    simp

/-- No key is invented that has the name of another column added. -/
theorem inventedKey_ne_append {i j : Nat} (hij : j < i) (s : String) :
    inventedKey header i ≠ s ++ "_" ++ columnName j := by
  unfold inventedKey
  split
  · intro h
    refine underscore_not_mem_columnName i ?_
    rw [h]
    simp
  · intro h
    have hlist := congrArg String.toList h
    simp only [String.toList_append, List.append_assoc] at hlist
    have hname : columnName i = columnName j :=
      String.toList_inj.1 (eq_of_append_underscore (underscore_not_mem_columnName i)
        (underscore_not_mem_columnName j) hlist)
    exact absurd (columnName_inj hname) (by omega)

/-- **An invented key is taken just when it is the text of a column before.** -/
theorem isTaken_inventedKey {i : Nat} :
    IsTaken header i (inventedKey header i) ↔
      ∃ j < i, columnText header j = inventedKey header i := by
  constructor
  · intro h
    generalize hkey : inventedKey header i = key at h
    cases h with
    | @text _ j hj _ => exact ⟨j, hj, rfl⟩
    | blank hj _ => exact absurd hkey (inventedKey_ne_columnName hj)
    | again hj _ _ => exact absurd hkey (inventedKey_ne_append hj _)
  · rintro ⟨j, hj, htext⟩
    rw [← htext]
    exact .text hj (htext ▸ inventedKey_ne_empty i)

/-! ### The keys of a header -/

/-- One more column has one more key, by the keys before it. -/
theorem keysFrom_succ (header : List String) (index : Nat) (seen : List String) (count : Nat) :
    keysFrom header index seen (count + 1) =
      keysFrom header index seen count ++
        [keyFor ((keysFrom header index seen count).reverse ++ seen) (index + count)
          (header.getD (index + count) "")] := by
  induction count generalizing index seen with
  | zero => rfl
  | succ count ih =>
    have hstep : ∀ count, keysFrom header index seen (count + 1) =
        keyFor seen index (header.getD index "") ::
          keysFrom header (index + 1) (keyFor seen index (header.getD index "") :: seen) count :=
      fun _ => rfl
    rw [hstep, ih, hstep, List.cons_append, List.reverse_cons, List.append_assoc,
      List.singleton_append, Nat.add_right_comm index 1 count, Nat.add_assoc index count 1]

/-- The keys of one more column: its text, or an invented key where that is blank or one of the keys
before. -/
theorem rowKeys_succ (header : List String) (i : Nat) :
    rowKeys header (i + 1) = rowKeys header i ++
      [if columnText header i = "" ∨ columnText header i ∈ rowKeys header i then
        inventedKey header i else columnText header i] := by
  have hkey : ∀ seen, keyFor seen i (header.getD i "") =
      if columnText header i = "" ∨ columnText header i ∈ seen then inventedKey header i
      else columnText header i := by
    intro seen
    rw [keyFor, ← columnText, inventedKey]
    by_cases hblank : columnText header i = "" <;> simp [hblank]
  rw [rowKeys, keysFrom_succ, Nat.zero_add, hkey, List.append_nil]
  simp only [List.mem_reverse]
  rfl

theorem IsTaken.mono {i k : Nat} {s : String} (h : IsTaken header i s) (hik : i ≤ k) :
    IsTaken header k s := by
  cases h with
  | text hj hne => exact .text (by omega) hne
  | blank hj hblank => exact .blank (by omega) hblank
  | again hj hne taken => exact .again (by omega) hne taken

/-- What is taken after a column is what was taken before it, and its key. -/
theorem isTaken_succ {i : Nat} {s : String} :
    IsTaken header (i + 1) s ↔ IsTaken header i s ∨ IsRenamed header i ∧ s = inventedKey header i ∨
      ¬IsRenamed header i ∧ s = columnText header i := by
  constructor
  · intro h
    cases h with
    | @text _ j hj hne =>
      rcases Nat.lt_succ_iff_lt_or_eq.1 hj with hlt | rfl
      · exact .inl (.text hlt hne)
      · by_cases hrenamed : IsRenamed header j
        · exact .inl (hrenamed.resolve_left hne)
        · exact .inr (.inr ⟨hrenamed, rfl⟩)
    | @blank _ j hj hblank =>
      rcases Nat.lt_succ_iff_lt_or_eq.1 hj with hlt | rfl
      · exact .inl (.blank hlt hblank)
      · exact .inr (.inl ⟨.inl hblank, by rw [inventedKey, if_pos hblank]⟩)
    | @again _ j hj hne taken =>
      rcases Nat.lt_succ_iff_lt_or_eq.1 hj with hlt | rfl
      · exact .inl (.again hlt hne taken)
      · exact .inr (.inl ⟨.inr taken, by rw [inventedKey, if_neg hne]⟩)
  · rintro (h | ⟨hrenamed, rfl⟩ | ⟨hfree, rfl⟩)
    · exact h.mono (Nat.le_succ i)
    · by_cases hblank : columnText header i = ""
      · rw [inventedKey, if_pos hblank]
        exact .blank (Nat.lt_succ_self i) hblank
      · rw [inventedKey, if_neg hblank]
        exact .again (Nat.lt_succ_self i) hblank (hrenamed.resolve_left hblank)
    · exact .text (Nat.lt_succ_self i) fun hblank => hfree (.inl hblank)

/-- **The keys of the columns before are the texts that are taken.** -/
theorem mem_rowKeys {i : Nat} {s : String} : s ∈ rowKeys header i ↔ IsTaken header i s := by
  induction i generalizing s with
  | zero =>
    refine iff_of_false List.not_mem_nil fun h => ?_
    cases h <;> next hj => cases hj
  | succ i ih =>
    rw [rowKeys_succ, List.mem_append, List.mem_singleton, isTaken_succ, IsRenamed, ih]
    refine or_congr_right ?_
    split <;> next hrenamed =>
      rw [ih] at hrenamed
      simp [hrenamed]

/-- **Keys are distinct just when none that is invented is the text of a column before.** -/
theorem rowKeys_nodup_iff {width : Nat} :
    (rowKeys header width).Nodup ↔ ∀ i < width, ¬Clashes header i := by
  induction width with
  | zero => exact iff_of_true List.nodup_nil nofun
  | succ i ih =>
    have hkey : (if columnText header i = "" ∨ columnText header i ∈ rowKeys header i then
        inventedKey header i else columnText header i) ∈ rowKeys header i ↔ Clashes header i := by
      rw [Clashes, IsRenamed, ← mem_rowKeys]
      split
      · next hrenamed => rw [and_iff_right hrenamed, mem_rowKeys, isTaken_inventedKey]
      · next hfree => exact iff_of_false (fun h => hfree (.inr h)) fun h => hfree h.1
    rw [rowKeys_succ, List.nodup_append, Nat.forall_lt_succ_right, ← ih, ← hkey]
    simp [List.forall_mem_ne']

/-! ### Objects of rows -/

variable {keys : List String}

/-- Under the key of every column, the object of a row has the cell of that column. -/
def KeepsCells (keys : List String) : Prop :=
  ∀ (index : Int) (row : List Document) (i : Nat) (key : String), keys[i]? = some key →
    (rowObjectOf keys index row).get? key = some (row.getD i (.str ""))

/-- A value that is written under the key of a column goes to one column, and all others are left as
they are. -/
def WritesOneCell (keys : List String) : Prop :=
  ∀ key ∈ keys, ∀ d : Document, cellText d ≠ .null →
    ∃! i : Nat, ∃ cell, (rowValues keys [(key, d)] .null)[i]? = some cell ∧ cell ≠ .null

theorem nodup_of_unique
    (h : ∀ (i j : Nat) (key : String), keys[i]? = some key → keys[j]? = some key → i = j) :
    keys.Nodup := by
  refine List.pairwise_iff_getElem.2 fun i j hi hj hij hsame => ?_
  have heq := h i j keys[i] (List.getElem?_eq_getElem hi) (hsame ▸ List.getElem?_eq_getElem hj)
  omega

/-- **The object of a row keeps every cell just when keys are distinct and none is that of the row
index.** -/
theorem keepsCells_iff : KeepsCells keys ↔ keys.Nodup ∧ rowIndexKey ∉ keys := by
  constructor
  · intro h
    constructor
    · -- cells that tell their columns apart
      have hcell : ∀ (i : Nat) (key : String), keys[i]? = some key →
          (rowObjectOf keys 0 ((List.range keys.length).map fun n : Nat => .int n)).get? key =
            some (.int i) := by
        intro i key hi
        have hlt := (List.getElem?_eq_some_iff.1 hi).1
        rw [h 0 _ i key hi]
        simp [hlt]
      refine nodup_of_unique fun i j key hi hj => ?_
      have hsame := (hcell i key hi).symm.trans (hcell j key hj)
      simpa using hsame
    · intro hmem
      obtain ⟨i, hi⟩ := List.mem_iff_getElem?.1 hmem
      have hcell := h 0 [] i rowIndexKey hi
      rw [rowObjectOf, Entries.get?_put_self] at hcell
      simp at hcell
  · rintro ⟨hkeys, hindex⟩ index row i key hi
    have hne : key ≠ rowIndexKey := fun e => hindex (e ▸ List.mem_of_getElem? hi)
    rw [get?_rowObjectOf hkeys hi, if_neg hne]

/-- **A value goes to one column just when keys are distinct.** -/
theorem writesOneCell_iff : WritesOneCell keys ↔ keys.Nodup := by
  have hcell : ∀ {key : String} {d : Document}, cellText d ≠ .null → ∀ i : Nat,
      (∃ cell, (rowValues keys [(key, d)] .null)[i]? = some cell ∧ cell ≠ .null) ↔
        keys[i]? = some key := by
    intro key d hd i
    rw [rowValues, List.getElem?_map]
    cases hi : keys[i]? with
    | none => simp
    | some other =>
      by_cases hkey : key = other
      · simp [Entries.get?, hkey, hd]
      · simp [Entries.get?, hkey, Ne.symm hkey]
  constructor
  · intro h
    refine nodup_of_unique fun i j key hi hj => ?_
    have htrue : cellText (.bool true) ≠ .null := by simp [cellText]
    obtain ⟨k, -, unique⟩ := h key (List.mem_of_getElem? hi) (.bool true) htrue
    rw [unique i ((hcell htrue i).2 hi), unique j ((hcell htrue j).2 hj)]
  · intro hkeys key hmem d hd
    obtain ⟨i, hi⟩ := List.mem_iff_getElem?.1 hmem
    refine ⟨i, (hcell hd i).2 hi, fun j hj => ?_⟩
    have hlt := (List.getElem?_eq_some_iff.1 hi).1
    exact ((List.getElem?_inj hlt hkeys).1 (hi.trans ((hcell hd j).1 hj).symm)).symm

/-- **Which headers give every column a key of its own.** There is always one key for each column.
The keys are distinct just when no invented key is the text of a column before; then, and only then,
a value written under a key goes to one column, and a fetched object keeps every cell of its row
unless one of the keys is that of the row index. -/
theorem rowKeys_distinct_iff (header : List String) (width : Nat) :
    (rowKeys header width).length = width ∧
      ((rowKeys header width).Nodup ↔ ∀ i < width, ¬Clashes header i) ∧
      (WritesOneCell (rowKeys header width) ↔ ∀ i < width, ¬Clashes header i) ∧
      (KeepsCells (rowKeys header width) ↔
        (∀ i < width, ¬Clashes header i) ∧ ¬IsTaken header width rowIndexKey) := by
  refine ⟨length_rowKeys header width, rowKeys_nodup_iff, ?_, ?_⟩
  · rw [writesOneCell_iff, rowKeys_nodup_iff]
  · rw [keepsCells_iff, rowKeys_nodup_iff, mem_rowKeys]

/-- The letters of the second column are the text of the first. -/
example : Clashes ["B", ""] 1 :=
  ⟨.inl (by decide), 0, by decide, by decide⟩

end Sheet
end FormDispatch
