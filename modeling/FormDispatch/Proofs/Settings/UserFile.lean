/-
# Settings that are kept when the file is written

A line that is written for an entry is read back as an entry of the same name, with the value as it
is read once more (`line_read`): without the blanks at its ends, and then without the quotes.
Every entry that is read has a name that can be written and a value in one line
(`writable_of_mem_entries`), so all entries of a file are found again after it is written
(`get?_entries_written`).

A value that was read has no quotes at its ends, but blanks that stood inside quotes may be there;
they are lost, since values are written without quotes. `merged_iff` says that changes are merged
and nothing else is touched exactly when no value that is kept has a blank at an end.
-/

import Mathlib.Logic.Function.Iterate
import FormDispatch.Proofs.Entries
import FormDispatch.Proofs.Text.Blank
import FormDispatch.Proofs.Text.Lines
import FormDispatch.Proofs.Text.Trimming
import FormDispatch.Settings.UserFile

namespace FormDispatch
namespace UserFile

open Text

/-- A value as it is read from the line it is written in. -/
def reread (value : String) : String :=
  String.ofList (trimOf isQuote (trim value.toList))

/-- A name that can stand before the equals sign of a line. -/
structure IsName (name : List Char) : Prop where
  nonempty : name ≠ []
  unbroken : Unbroken name
  bare : Bare isBlank name
  noEquals : '=' ∉ name
  noHash : name.head? ≠ some '#'

/-- An identifier is a name: it has no blank, no equals sign and no hash. -/
theorem IsName.of_identifier {name : List Char} (hne : name ≠ [])
    (h : ∀ c ∈ name, isBlank c = false ∧ c ≠ '=' ∧ c ≠ '#') : IsName name where
  nonempty := hne
  unbroken c hc := by
    rw [Bool.eq_false_iff]
    intro hbreak
    exact Bool.noConfusion ((isBlank_of_isLineBreak hbreak).symm.trans (h c hc).1)
  bare := ⟨fun c hc => (h c (List.mem_of_head? hc)).1,
    fun c hc => (h c (List.mem_of_getLast? hc)).1⟩
  noEquals hmem := (h _ hmem).2.1 rfl
  noHash hhash := (h _ (List.mem_of_head? hhash)).2.2 rfl

/-- An entry that can be written in a line. -/
structure Writable (e : String × String) : Prop where
  name : IsName e.1.toList
  unbroken : Unbroken e.2.toList

/-- What is written for an entry is in one line. -/
theorem Writable.unbroken_line {e : String × String} (h : Writable e) :
    Unbroken (e.1.toList ++ '=' :: e.2.toList) := by
  intro c hc
  rcases List.mem_append.mp hc with hc | hc
  · exact h.name.unbroken c hc
  · rcases List.mem_cons.mp hc with rfl | hc
    · decide
    · exact h.unbroken c hc

section Line

variable {name value : List Char}

/-- The line of an entry is trimmed at the end of its value only. -/
theorem trim_line (h : IsName name) (value : List Char) :
    trim (name ++ '=' :: value) = name ++ '=' :: trimBack value := by
  obtain ⟨c, r, rfl⟩ := List.exists_cons_of_ne_nil h.nonempty
  rw [trim, List.cons_append, trimFront_cons (h.bare.front c rfl), ← List.cons_append,
    trimBack_append_cons (by decide)]

/-- The name stands before the equals sign. -/
theorem takeWhile_line (h : IsName name) (value : List Char) :
    (name ++ '=' :: value).takeWhile (· != '=') = name := by
  have hname : ∀ c ∈ name, (c != '=') = true := fun c hc => by
    simpa using fun e : c = '=' => h.noEquals (e ▸ hc)
  rw [List.takeWhile_append_of_pos hname, List.takeWhile_cons_of_neg (by decide), List.append_nil]

/-- **A line is read as the entry it was written for**, with its value read once more. -/
theorem line_read (h : IsName name) (value : List Char) :
    entryOf? (name ++ '=' :: value) = some (String.ofList name, reread (String.ofList value)) := by
  have hhash : ((name ++ '=' :: trimBack value).head? == some '#') = false := by
    rw [List.head?_append_of_ne_nil _ h.nonempty, beq_eq_false_iff_ne]
    exact h.noHash
  have hname : trim name = name := trimOf_eq_self_iff.mpr h.bare
  have hempty : name.isEmpty = false := by simpa using h.nonempty
  simp only [entryOf?, trim_line h, takeWhile_line h, List.drop_left, hname, hhash, hempty,
    Bool.or_self, trim_trimBack, reread, String.toList_ofList, Bool.false_eq_true, if_false]

/-- What stands before the equals sign of a trimmed line starts as the line does. -/
theorem head?_trim_before {line : List Char}
    (hne : trim ((trim line).takeWhile (· != '=')) ≠ []) :
    (trim ((trim line).takeWhile (· != '='))).head? = (trim line).head? := by
  have hbefore : (trim line).takeWhile (· != '=') ≠ [] := fun hnil => hne (by rw [hnil]; rfl)
  obtain ⟨rest, hrest⟩ := List.takeWhile_prefix (l := trim line) (· != '=')
  have hsame : ((trim line).takeWhile (· != '=')).head? = (trim line).head? := by
    conv_rhs => rw [← hrest, List.head?_append_of_ne_nil _ hbefore]
  rw [← hsame]
  refine head?_trimOf (fun c hc => ?_) hne
  exact (bare_trimOf isBlank line).front c (hsame ▸ hc)

/-- What stands before the equals sign of a line is a name, unless the line is a comment. -/
theorem isName_trim_before {line : List Char} (hline : Unbroken line)
    (hhash : (trim line).head? ≠ some '#')
    (hne : trim ((trim line).takeWhile (· != '=')) ≠ []) :
    IsName (trim ((trim line).takeWhile (· != '='))) := by
  have hbefore : ((trim line).takeWhile (· != '=')).Sublist (trim line) :=
    (List.takeWhile_prefix _).sublist
  have hsub : (trim ((trim line).takeWhile (· != '='))).Sublist
      ((trim line).takeWhile (· != '=')) := trimOf_sublist isBlank _
  exact {
    nonempty := hne
    unbroken := hline.of_sublist (hsub.trans (hbefore.trans (trimOf_sublist isBlank line)))
    bare := bare_trimOf isBlank _
    noEquals := fun hmem => by simpa using List.mem_takeWhile_imp (hsub.subset hmem)
    noHash := head?_trim_before hne ▸ hhash }

/-- An entry that is read can be written, and its value has no quotes at its ends. -/
theorem writable_of_line {line : List Char} {e : String × String} (hline : Unbroken line)
    (h : entryOf? line = some e) : Writable e ∧ Bare isQuote e.2.toList := by
  simp only [entryOf?] at h
  split at h
  · cases h
  · next value hvalue =>
    split at h
    · cases h
    · next hentry =>
      simp only [Bool.or_eq_true, beq_iff_eq, List.isEmpty_iff, not_or] at hentry
      obtain rfl := Option.some_inj.mp h
      have hrest : value.Sublist (trim line) :=
        (List.sublist_cons_self _ _).trans (hvalue ▸ List.drop_sublist _ _)
      have hkept : (trimOf isQuote (trim value)).Sublist line :=
        ((trimOf_sublist _ _).trans (trimOf_sublist isBlank _)).trans
          (hrest.trans (trimOf_sublist isBlank line))
      refine ⟨⟨?_, ?_⟩, ?_⟩
      · rw [String.toList_ofList]
        exact isName_trim_before hline hentry.1 hentry.2
      · rw [String.toList_ofList]
        exact hline.of_sublist hkept
      · rw [String.toList_ofList]
        exact bare_trimOf isQuote _

end Line

/-- An entry that is found in a file can be written, and its value has no quotes at its ends. -/
theorem writable_of_mem_entries {text : String} {e : String × String} (h : e ∈ entries text) :
    Writable e ∧ Bare isQuote e.2.toList := by
  have hfound := (Entries.get?_eq_some (Entries.nodup_keys_ofPairs _)).mpr h
  obtain ⟨line, hline, hentry⟩ := List.mem_filterMap.mp (Entries.mem_of_get?_ofPairs hfound)
  exact writable_of_line (unbroken_of_mem_lines hline) hentry

/-- The lines of a file that is written. -/
theorem lines_written {m : Entries String} (h : ∀ e ∈ m, Writable e) :
    lines (written m).toList = "# formbridge user settings".toList ::
      (m.mergeSort fun a b => a.1 ≤ b.1).map fun e => e.1.toList ++ '=' :: e.2.toList := by
  have hunbroken : ∀ s ∈ "# formbridge user settings".toList ::
      (m.mergeSort fun a b => a.1 ≤ b.1).map fun e => e.1.toList ++ '=' :: e.2.toList,
      Unbroken s := by
    refine List.forall_mem_cons.mpr ⟨by simp [Unbroken, isLineBreak], fun s hs => ?_⟩
    obtain ⟨e, he, rfl⟩ := List.mem_map.mp hs
    exact (h e (List.mem_mergeSort.mp he)).unbroken_line
  rw [← lines_flatMap hunbroken]
  congr 1
  simp [written, firstLine, line, List.flatMap_map, String.toList_join]

/-- **Every entry of a file that is written is found in it**, with its value read once more. -/
theorem get?_entries_written {m : Entries String} (h : ∀ e ∈ m, Writable e)
    (hdistinct : m.keys.Nodup) (key : String) :
    (entries (written m)).get? key = (m.get? key).map reread := by
  let sorted : Entries String := m.mergeSort fun a b => a.1 ≤ b.1
  have hperm : sorted.Perm m := List.mergeSort_perm _ _
  have hread : ((sorted.map fun e => e.1.toList ++ '=' :: e.2.toList).filterMap entryOf?) =
      sorted.map fun e => (e.1, reread e.2) := by
    rw [List.filterMap_map, ← List.filterMap_eq_map]
    refine List.filterMap_congr fun e he => ?_
    simp [line_read (h e (hperm.mem_iff.mp he)).name]
  have hkeys : (sorted.map fun e => (e.1, reread e.2)).map Prod.fst = sorted.keys := by
    simp [Entries.keys]
  have hnodup : sorted.keys.Nodup := (hperm.map Prod.fst).nodup_iff.mpr hdistinct
  have hsame : entries (written m) = sorted.map fun e => (e.1, reread e.2) := by
    rw [entries, lines_written h, List.filterMap_cons_none (by decide), hread,
      Entries.ofPairs_of_nodup (hkeys ▸ hnodup)]
  rw [hsame, Entries.get?_map, Entries.get?_perm hnodup hperm]

section Changes

variable {m : Entries String} {changes : Entries (Option String)} {key : String}

/-- The value that a key is to have, if the changes tell one. -/
def told (changes : Entries (Option String)) (key : String) : Option String :=
  (changes.get? key).join

/-- An entry that can be written, with a value that has neither blanks nor quotes at its ends. -/
structure Settled (e : String × String) : Prop extends Writable e where
  blank : Bare isBlank e.2.toList
  quote : Bare isQuote e.2.toList

/-- Changes under distinct names, to values that are read as they are written. -/
structure Allowed (changes : Entries (Option String)) : Prop where
  distinct : changes.keys.Nodup
  settled : ∀ key value, (key, some value) ∈ changes → Settled (key, value)

/-- What can be written stays so when allowed changes are made. -/
theorem writable_changed (hm : ∀ e ∈ m, Writable e)
    (h : ∀ key value, (key, some value) ∈ changes → Writable (key, value)) :
    ∀ e ∈ changed m changes, Writable e := by
  induction changes generalizing m with
  | nil => exact hm
  | cons change rest ih =>
    obtain ⟨key, value | value⟩ := change
    · exact ih hm fun k v hmem => h k v (List.mem_cons_of_mem _ hmem)
    · refine ih (fun e he => ?_) fun k v hmem => h k v (List.mem_cons_of_mem _ hmem)
      rcases Entries.eq_or_mem_of_mem_put he with rfl | he
      · exact h key value List.mem_cons_self
      · exact hm e he

/-- Keys stay distinct when changes are made. -/
theorem nodup_keys_changed (hm : m.keys.Nodup) (changes : Entries (Option String)) :
    (changed m changes).keys.Nodup := by
  induction changes generalizing m with
  | nil => exact hm
  | cons change rest ih =>
    obtain ⟨key, value | value⟩ := change
    · exact ih hm
    · exact ih (Entries.nodup_keys_put hm)

theorem told_cons_self (key : String) (value : Option String) (rest : Entries (Option String)) :
    told ((key, value) :: rest) key = value := by
  simp [told, Entries.get?]

theorem told_cons_of_ne {name : String} (h : name ≠ key) (value : Option String)
    (rest : Entries (Option String)) : told ((name, value) :: rest) key = told rest key := by
  simp [told, Entries.get?, h]

/-- Changes tell nothing under a name that none of them has. -/
theorem told_of_not_mem (h : key ∉ changes.keys) : told changes key = none := by
  cases hget : changes.get? key with
  | none => simp [told, hget]
  | some value => exact absurd (List.mem_map_of_mem (Entries.mem_of_get? hget)) h

/-- Changes are found where they tell a value, and elsewhere what was there before. -/
theorem get?_changed (h : changes.keys.Nodup) (m : Entries String) (key : String) :
    (changed m changes).get? key = (told changes key).or (m.get? key) := by
  induction changes generalizing m with
  | nil => rfl
  | cons change rest ih =>
    obtain ⟨name, value⟩ := change
    obtain ⟨hname, hrest⟩ := List.nodup_cons.mp h
    have hnothing : (changed m ((name, none) :: rest)).get? key =
        (told rest key).or (m.get? key) := ih hrest m
    have hput : ∀ v, (changed m ((name, some v) :: rest)).get? key =
        (told rest key).or ((m.put name v).get? key) := fun v => ih hrest (m.put name v)
    by_cases hkey : name = key
    · subst hkey
      rw [told_cons_self]
      cases value with
      | none => rw [hnothing, told_of_not_mem hname]
      | some value =>
        rw [hput, told_of_not_mem hname, Entries.get?_put_self]
        rfl
    · rw [told_cons_of_ne hkey]
      cases value with
      | none => exact hnothing
      | some value => rw [hput, Entries.get?_put_of_ne m value hkey]

end Changes

/-- A value is read as it was exactly when it has neither blanks nor quotes at its ends. -/
theorem reread_eq_self_iff {value : String} :
    reread value = value ↔ Bare isBlank value.toList ∧ Bare isQuote value.toList := by
  constructor
  · intro h
    have hsame : trimOf isQuote (trim value.toList) = value.toList := by
      rw [← String.toList_ofList (l := trimOf isQuote _)]
      exact congrArg String.toList h
    have hquote := trimOf_sublist isQuote (trim value.toList)
    rw [hsame] at hquote
    have hblank : trim value.toList = value.toList :=
      (trimOf_sublist isBlank value.toList).antisymm hquote
    rw [hblank] at hsame
    exact ⟨trimOf_eq_self_iff.mp hblank, trimOf_eq_self_iff.mp hsame⟩
  · rintro ⟨hblank, hquote⟩
    rw [reread, trim_eq_trimOf, trimOf_eq_self_iff.mpr hblank, trimOf_eq_self_iff.mpr hquote,
      String.ofList_toList]

section Update

variable {changes : Entries (Option String)} {file : Option String}

/-- What is read of a file; of a file that is missing, nothing. -/
def read (file : Option String) : Entries String :=
  entries (file.getD "")

/-- A file written with no changes. -/
def rewritten (file : Option String) : Option String :=
  some (updated file [])

/-- **After an update, changes are read as they were told, and all else is read once more.** -/
theorem get?_read_updated (h : Allowed changes) (file : Option String) (key : String) :
    (read (some (updated file changes))).get? key =
      (told changes key).or (((read file).get? key).map reread) := by
  have hread : ∀ e ∈ read file, Writable e := fun e he => (writable_of_mem_entries he).1
  have hwritable := writable_changed hread fun name value hmem =>
    (h.settled name value hmem).toWritable
  have hdistinct : (changed (read file) changes).keys.Nodup :=
    nodup_keys_changed (Entries.nodup_keys_ofPairs _) changes
  have hwritten : (read (some (updated file changes))).get? key =
      ((changed (read file) changes).get? key).map reread :=
    get?_entries_written hwritable hdistinct key
  rw [hwritten, get?_changed h.distinct]
  cases htold : told changes key with
  | none => rfl
  | some value =>
    have hmem : (key, some value) ∈ changes :=
      Entries.mem_of_get? (Option.join_eq_some_iff.mp htold)
    have hsettled := h.settled key value hmem
    have hsame : reread value = value :=
      reread_eq_self_iff.mpr ⟨hsettled.blank, hsettled.quote⟩
    simp [hsame]

/-- A value that is read of a file is read once more as it is exactly when it has no blanks at its
ends. -/
theorem reread_of_read {key value : String} (h : (read file).get? key = some value) :
    reread value = value ↔ Bare isBlank value.toList := by
  have hquote := (writable_of_mem_entries (Entries.mem_of_get? h)).2
  rw [reread_eq_self_iff, and_iff_left hquote]

theorem allowed_nil : Allowed [] :=
  ⟨List.nodup_nil, nofun⟩

/-- Writing a file without changes, any number of times, reads every value again each time. -/
theorem get?_read_rewritten (n : Nat) (file : Option String) (key : String) :
    (read (rewritten^[n] file)).get? key = ((read file).get? key).map reread^[n] := by
  induction n generalizing file with
  | zero => exact Option.map_id_fun'.symm ▸ rfl
  | succ n ih =>
    rw [Function.iterate_succ_apply, ih, rewritten, get?_read_updated allowed_nil]
    simp [told, Entries.get?, Function.iterate_succ]

/-- **What an update leaves alone exactly.** Changes are read as told and every other value is read
once more, so the entries are those before with the changes over them exactly when no value that is
kept has a blank at an end; and writing the file without changes, any number of times, never changes
what is read exactly when no value in it has one. -/
theorem merged_iff (h : Allowed changes) (file : Option String) :
    (∀ key, (read (some (updated file changes))).get? key =
      (told changes key).or (((read file).get? key).map reread)) ∧
    ((∀ key, (read (some (updated file changes))).get? key =
        (told changes key).or ((read file).get? key)) ↔
      ∀ key value, (read file).get? key = some value → told changes key = none →
        Bare isBlank value.toList) ∧
    ((∀ n key, (read (rewritten^[n] file)).get? key = (read file).get? key) ↔
      ∀ key value, (read file).get? key = some value → Bare isBlank value.toList) := by
  refine ⟨get?_read_updated h file, ⟨fun hsame key value hvalue hnone => ?_, fun hkept key => ?_⟩,
    ⟨fun hsame key value hvalue => ?_, fun hkept n key => ?_⟩⟩
  · have hkey := hsame key
    rw [get?_read_updated h, hnone, hvalue] at hkey
    exact (reread_of_read hvalue).mp (Option.some_inj.mp hkey)
  · rw [get?_read_updated h]
    cases hnone : told changes key with
    | some value => rfl
    | none =>
      cases hvalue : (read file).get? key with
      | none => rfl
      | some value =>
        exact congrArg some ((reread_of_read hvalue).mpr (hkept key value hvalue hnone))
  · have hkey := hsame 1 key
    rw [get?_read_rewritten, hvalue] at hkey
    exact (reread_of_read hvalue).mp (Option.some_inj.mp hkey)
  · rw [get?_read_rewritten]
    cases hvalue : (read file).get? key with
    | none => rfl
    | some value =>
      have hfixed : reread value = value := (reread_of_read hvalue).mpr (hkept key value hvalue)
      exact congrArg some (Function.iterate_fixed hfixed n)

/-- Of a value in quotes that enclose blanks, the blanks are lost as soon as another is changed. -/
theorem merged_iff_quoted :
    Allowed [("B", some "y")] ∧ (read (some "A=\" x \"\n")).get? "A" = some " x " ∧
      (read (some (updated (some "A=\" x \"\n") [("B", some "y")]))).get? "A" = some "x" := by
  have hallowed : Allowed [("B", some "y")] := by
    refine ⟨by decide, fun key value hmem => ?_⟩
    obtain ⟨rfl, rfl⟩ : key = "B" ∧ value = "y" := by simpa using hmem
    have hname : IsName "B".toList := .of_identifier (by decide) (by simp [isBlank])
    have hvalue : Unbroken "y".toList := by simp [Unbroken, isLineBreak]
    exact ⟨⟨hname, hvalue⟩, ⟨by simp [isBlank], by simp [isBlank]⟩,
      ⟨by simp [isQuote], by simp [isQuote]⟩⟩
  refine ⟨hallowed, by decide, ?_⟩
  rw [(merged_iff hallowed _).1]
  decide

end Update
end UserFile
end FormDispatch
