/-
# Integers in forms

A field that is asked for as an integer gives the integer that it holds (`HoldsInteger`): one that
stands there as a value, or one that is spelled by a text, with any sign, any leading zeros, digits
of any script and blanks around. A field that holds nothing gives the default, and any other value
is refused with a mismatch that names the field (`integer?_cases`).

The integers of a configuration are read in this way, each with its own default
(`givesInteger_of_mem`), and an integer field that is refused is among the mismatches of its form.
-/

import FormDispatch.Proofs.Query.Calls
import FormDispatch.Proofs.Sheet.Mismatches

namespace FormDispatch
namespace Form

open Query (Blanks IntegerText Sign)
open Sheet (textDigits)

/-- A field holds an integer: as a value, or as the text of one. -/
def HoldsInteger (form : Members) (field : String) (n : Int) : Prop :=
  lookup form field = some (.int n) ∨
    ∃ s, lookup form field = some (.str s) ∧ IntegerText n s.toList

/-! ### Spelled integers -/

/-- An integer is spelled by its sign, zeros and its digits, with blanks around. -/
theorem integerText_spelled {n : Int} {negative : Bool} {sign w w' : List Char}
    (hsign : Sign negative sign) (hn : Numeral.withSign negative n.natAbs = n) (zeros : Nat)
    (hw : Blanks w) (hw' : Blanks w') :
    IntegerText n (w ++ (sign ++ (List.replicate zeros '0' ++ Numeral.digits n.natAbs) ++ w')) := by
  have hdigits : ∀ c ∈ List.replicate zeros '0' ++ Numeral.digits n.natAbs,
      Text.isDecimalDigit c = true := by
    refine List.forall_mem_append.mpr ⟨fun c hc => ?_, fun c hc => ?_⟩
    · rw [List.eq_of_mem_replicate hc]
      decide
    · exact Text.isDecimalDigit_of_isDigit (Numeral.isDigit_of_mem_digits hc)
  have hne : List.replicate zeros '0' ++ Numeral.digits n.natAbs ≠ [] :=
    List.append_ne_nil_of_right_ne_nil _ (Numeral.digits_ne_nil _)
  have htext := IntegerText.digits hw hsign hne hdigits hw'
  rwa [Numeral.ofDigits_zeros_append, Numeral.ofDigits_digits, hn] at htext

/-- The text of an integer is not blank. -/
theorem not_isBlankText_of_integerText {n : Int} {s : String} (h : IntegerText n s.toList) :
    Text.isBlankText s = false := by
  obtain ⟨negative, digits, hsigned, -⟩ := Query.integerText_iff.mp h
  rw [Bool.eq_false_iff]
  intro hblank
  rw [(Text.trim_nil_iff _).mpr hblank] at hsigned
  cases hsigned

/-! ### Fields that are read as integers -/

variable {form : Members} {field : String}

/-- A value that is refused as an integer is told to be none, unless it is a numeral that is too
long. -/
theorem asInteger_eq_error {d : Document} {e : FieldError} (h : asInteger field d = .error e) :
    (∃ actual, e = .mismatch (mismatch field "integer" actual)) ∨
      ∃ digits, e = .numeralTooLong digits := by
  unfold asInteger at h
  split at h
  · cases h
  · split at h
    · cases h
      exact .inl ⟨_, rfl⟩
    · split at h
      · cases h
      · cases h
        exact .inr ⟨_, rfl⟩
  · cases h
    exact .inl ⟨_, rfl⟩

/-- What is read as an integer is one, or the text of one. -/
theorem holdsInteger_of_asInteger {d : Document} {n : Int} (hd : lookup form field = some d)
    (h : asInteger field d = .ok n) : HoldsInteger form field n := by
  unfold asInteger at h
  split at h
  · cases h
    exact .inl hd
  · split at h
    · cases h
    · next hsigned =>
      split at h
      · next hread =>
        cases h
        have hn := (Numeral.readSigned_eq_ok.mp hread).2
        exact .inr ⟨_, hd, Query.integerText_iff.mpr ⟨_, _, hsigned, hn⟩⟩
      · cases h
  · cases h

/-- An integer that a field holds is read, unless its text has too many digits. -/
theorem integer?_of_holdsInteger (hshort : (textDigits form field).length ≤ Numeral.longestNumeral)
    {n : Int} (h : HoldsInteger form field n) : integer? form field = .ok (some n) := by
  obtain hd | ⟨s, hs, htext⟩ := h
  · rw [integer?, usable_of_lookup hd (by simp) (by simp)]
    rfl
  · have husable := usable_eq_str.mpr ⟨hs, not_isBlankText_of_integerText htext⟩
    obtain ⟨negative, digits, hsigned, hn⟩ := Query.integerText_iff.mp htext
    have hlong := Sheet.integer?_ne_numeralTooLong hshort digits.length
    have hinteger : integer? form field = (asInteger field (.str s)).map some := by
      rw [integer?, husable]
    rw [hinteger, asInteger, hsigned] at hlong ⊢
    rcases Nat.lt_or_ge Numeral.longestNumeral digits.length with hmany | hfew
    · have hread : Numeral.readSigned (negative, digits) = .error digits.length :=
        Numeral.readSigned_eq_error.mpr ⟨rfl, hmany⟩
      simp [hread, Except.map] at hlong
    · have hread : Numeral.readSigned (negative, digits) = .ok n :=
        Numeral.readSigned_eq_ok.mpr ⟨hfew, hn⟩
      simp [hread, Except.map]

/-- **What becomes of a field that is asked for as an integer.** It holds nothing, or an integer
that is read, or it is refused. -/
theorem integer?_cases (hshort : (textDigits form field).length ≤ Numeral.longestNumeral) :
    (HoldsNothing form field ∧ integer? form field = .ok none) ∨
      (∃ n, HoldsInteger form field n ∧ integer? form field = .ok (some n)) ∨
      ∃ actual, integer? form field = .error (.mismatch (mismatch field "integer" actual)) := by
  cases husable : usable form field with
  | none => exact .inl ⟨usable_eq_none_iff.mp husable, by rw [integer?, husable]⟩
  | some d =>
    have hinteger : integer? form field = (asInteger field d).map some := by
      rw [integer?, husable]
    cases hd : asInteger field d with
    | ok n =>
      have hn := holdsInteger_of_asInteger (lookup_of_usable husable) hd
      exact .inr (.inl ⟨n, hn, integer?_of_holdsInteger hshort hn⟩)
    | error e =>
      rw [hd] at hinteger
      obtain ⟨actual, rfl⟩ | ⟨digits, rfl⟩ := asInteger_eq_error hd
      · exact .inr (.inr ⟨actual, hinteger⟩)
      · exact absurd hinteger (Sheet.integer?_ne_numeralTooLong hshort digits)

/-- What a field asked for as an integer gives: the integer that it holds, with any default; the
default, if it holds nothing; and for anything else a problem that names the field. -/
structure GivesItsInteger (form : Members) (field : String) : Prop where
  exact : ∀ n, get form field .integer .null = .ok (.int n) ↔ HoldsInteger form field n
  held : ∀ n default, HoldsInteger form field n → get form field .integer default = .ok (.int n)
  nothing : ∀ default, HoldsNothing form field → get form field .integer default = .ok default
  other : ∀ default, ¬HoldsNothing form field → (∀ n, ¬HoldsInteger form field n) →
    ∃ e actual, get form field .integer default = .error e ∧
      e.failure = .problem (.ofMismatch field "integer" (some actual))

/-- **A field of no more digits than are converted gives its integer.** -/
theorem givesItsInteger (hshort : (textDigits form field).length ≤ Numeral.longestNumeral) :
    GivesItsInteger form field := by
  have held : ∀ n default, HoldsInteger form field n →
      get form field .integer default = .ok (.int n) := fun n default h => by
    rw [Sheet.get_integer, integer?_of_holdsInteger hshort h]
    rfl
  refine ⟨fun n => ⟨fun h => ?_, held n .null⟩, held, fun default h => ?_,
    fun default hsome hnone => ?_⟩
  · rw [Sheet.get_integer] at h
    obtain ⟨-, hread⟩ | ⟨m, hm, hread⟩ | ⟨actual, hread⟩ := integer?_cases hshort <;>
      rw [hread] at h <;> cases h
    exact hm
  · rw [get, h.usable_eq]
  · obtain ⟨hnothing, -⟩ | ⟨n, hn, -⟩ | ⟨actual, hread⟩ := integer?_cases hshort
    · exact absurd hnothing hsome
    · exact absurd hn (hnone n)
    · exact ⟨_, actual, by rw [Sheet.get_integer, hread]; rfl, rfl⟩

end Form

namespace Sheet

open Form (HoldsInteger HoldsNothing)
open Query (Blanks Sign)

/-! ### Integers of configurations -/

/-- The integers of a configuration: the field of each, its default, and the value. -/
def Config.integers (config : Config) : List (String × Option Int × Option Int) := [
  ("tableHeaderIndex", some 1, some config.headerRow), ("rowIndex", none, config.rowIndex),
  ("rowOffset", some 0, some config.rowOffset), ("rowLimit", none, config.rowLimit)]

/-- The fields of the integers. -/
def integerFields : List String :=
  ["tableHeaderIndex", "rowIndex", "rowOffset", "rowLimit"]

/-- What a field gives to a configuration: the integer that it holds, or the default. -/
inductive GivesInteger (form : Members) (field : String) (default : Option Int) :
    Option Int → Prop
  | held {n : Int} (h : HoldsInteger form field n) : GivesInteger form field default (some n)
  | nothing (h : HoldsNothing form field) : GivesInteger form field default default

theorem isInteger_of_mem {field : String} (h : field ∈ integerFields) :
    (field, Declared.typed .integer) ∈ scalarFields := by
  revert field
  decide

section Reading

variable {form : Members} (hshort : HasShortNumerals form) {field : String}
  (hfield : field ∈ integerFields)

include hshort hfield

/-- An integer field is well typed just when it holds nothing or an integer. -/
theorem isWellTyped_integer_iff : isWellTyped form (field, .typed .integer) = true ↔
    HoldsNothing form field ∨ ∃ n, HoldsInteger form field n := by
  have hgives := Form.givesItsInteger (hshort _ (isInteger_of_mem hfield) rfl)
  rw [isWellTyped, accepts]
  by_cases hnothing : HoldsNothing form field
  · rw [hgives.nothing _ hnothing]
    exact iff_of_true rfl (.inl hnothing)
  · by_cases hheld : ∃ n, HoldsInteger form field n
    · obtain ⟨n, hn⟩ := hheld
      rw [hgives.held n _ hn]
      exact iff_of_true rfl (.inr ⟨n, hn⟩)
    · obtain ⟨e, actual, hget, -⟩ := hgives.other .null hnothing (not_exists.mp hheld)
      rw [hget]
      exact iff_of_false Bool.false_ne_true (not_or.mpr ⟨hnothing, hheld⟩)

/-- What is kept of a well-typed integer field is what it gives. -/
theorem givesInteger_valueOf (hwell : isWellTyped form (field, .typed .integer) = true)
    (default : Option Int) :
    GivesInteger form field default ((valueOf (Form.integer? form field)).or default) := by
  obtain ⟨hnothing, hread⟩ | ⟨n, hn, hread⟩ | ⟨actual, hread⟩ :=
    Form.integer?_cases (hshort _ (isInteger_of_mem hfield) rfl)
  · rw [hread]
    exact .nothing hnothing
  · rw [hread]
    exact .held hn
  · rw [isWellTyped, accepts, get_integer, hread] at hwell
    cases hwell

/-- The mismatch of an ill-typed integer field is among those of its form. -/
theorem mismatch_mem_mismatches (hsome : ¬HoldsNothing form field)
    (hnone : ∀ n, ¬HoldsInteger form field n) :
    ∃ actual, Form.mismatch field "integer" actual ∈ mismatches form := by
  have hread := isInteger_of_mem hfield
  obtain ⟨hnothing, -⟩ | ⟨n, hn, -⟩ | ⟨actual, hrefused⟩ :=
    Form.integer?_cases (hshort _ hread rfl)
  · exact absurd hnothing hsome
  · exact absurd hn (hnone n)
  · refine ⟨actual, List.mem_filterMap.mpr ⟨(field, .typed .integer), ?_, ?_⟩⟩
    · exact List.mem_append_left _ (List.mem_append_left _ hread)
    · rw [mismatchOf, get_integer, hrefused]
      rfl

end Reading

/-- The integers of a configuration of well-typed fields are what the fields give. -/
theorem givesInteger_of_mem {form : Members} (hshort : HasShortNumerals form)
    (hwell : ∀ read ∈ fieldsRead form, isWellTyped form read = true) :
    ∀ i ∈ (configOf form).integers, GivesInteger form i.1 i.2.1 i.2.2 := by
  have hgives : ∀ field ∈ integerFields, ∀ default,
      GivesInteger form field default ((valueOf (Form.integer? form field)).or default) :=
    fun field hfield default => givesInteger_valueOf hshort hfield
      (hwell _ (List.mem_append_left _ (List.mem_append_left _ (isInteger_of_mem hfield)))) default
  have hdefault : ∀ (given : Option Int) (n : Int), some (given.getD n) = given.or (some n) := by
    rintro (_ | _) _ <;> rfl
  simp only [Config.integers, List.forall_mem_cons, List.not_mem_nil, false_imp_iff, implies_true,
    and_true, configOf, hdefault]
  refine ⟨hgives _ (by decide) _, ?_, hgives _ (by decide) _, ?_⟩
  · simpa only [Option.or_none] using hgives "rowIndex" (by decide) none
  · simpa only [Option.or_none] using hgives "rowLimit" (by decide) none

/-- What the integers of a configuration are. There is a configuration where all fields are well
typed, which an integer field is when it holds nothing or an integer; its integers are what the
fields give; and an integer field that holds anything else is told of. -/
structure DecodesIntegers (form : Members) : Prop where
  wellTyped : ∀ field ∈ integerFields, isWellTyped form (field, .typed .integer) = true ↔
    HoldsNothing form field ∨ ∃ n, HoldsInteger form field n
  decoded : rowsAreTold form = true → (∀ read ∈ fieldsRead form, isWellTyped form read = true) →
    ∃ config, Config.ofForm form = .ok config
  integers : ∀ config, Config.ofForm form = .ok config →
    ∀ i ∈ config.integers, GivesInteger form i.1 i.2.1 i.2.2
  refused : rowsAreTold form = true → ∀ field ∈ integerFields, ¬HoldsNothing form field →
    (∀ n, ¬HoldsInteger form field n) →
      ∃ first others actual, Config.ofForm form = .error (.problem (.wrongType first others)) ∧
        Form.mismatch field "integer" actual ∈ first :: others

/-- **The integers of a configuration are those of its fields.** -/
theorem decodesIntegers {form : Members} (hshort : HasShortNumerals form) :
    DecodesIntegers form where
  wellTyped _ hfield := isWellTyped_integer_iff hshort hfield
  decoded htold hwell := by
    rw [ofForm_eq hshort htold, (mismatches_eq_nil_iff hshort).mpr hwell]
    exact ⟨_, rfl⟩
  integers config hconfig := by
    cases htold : rowsAreTold form with
    | false =>
      rw [ofForm_of_untold hshort htold] at hconfig
      cases hconfig
    | true =>
      rw [ofForm_eq hshort htold] at hconfig
      split at hconfig
      · next hnone =>
        cases hconfig
        exact givesInteger_of_mem hshort ((mismatches_eq_nil_iff hshort).mp hnone)
      · cases hconfig
  refused htold field hfield hsome hnone := by
    obtain ⟨actual, hmem⟩ := mismatch_mem_mismatches hshort hfield hsome hnone
    rw [ofForm_eq hshort htold]
    cases hfound : mismatches form with
    | nil =>
      rw [hfound] at hmem
      cases hmem
    | cons first others => exact ⟨first, others, actual, rfl, hfound ▸ hmem⟩

/-- **Fields are read as exactly the integers that they hold.** A field that is no text of too many
digits gives the integer that it holds, the default if it holds nothing, and else a problem that
names it. An integer is held in every spelling: with a sign, zeros in front, and blanks around. The
integers of a configuration are read in the same way. -/
theorem integers_read_exactly (form : Members) :
    (∀ field, (textDigits form field).length ≤ Numeral.longestNumeral →
      Form.GivesItsInteger form field) ∧
    (∀ (field : String) (n : Int) (negative : Bool) (sign w w' : List Char) (zeros : Nat),
      Sign negative sign → Numeral.withSign negative n.natAbs = n → Blanks w → Blanks w' →
        Form.lookup form field = some (.str (String.ofList
          (w ++ (sign ++ (List.replicate zeros '0' ++ Numeral.digits n.natAbs) ++ w')))) →
        HoldsInteger form field n) ∧
    (HasShortNumerals form → DecodesIntegers form) := by
  refine ⟨fun field => Form.givesItsInteger, fun field n negative sign w w' zeros hsign hn hw hw'
    hlookup => .inr ⟨_, hlookup, ?_⟩, decodesIntegers⟩
  rw [String.toList_ofList]
  exact Form.integerText_spelled hsign hn zeros hw hw'

/-- A form whose integers are spelled with a sign and a wide blank, with digits of another script,
and not at all. -/
def spelledIntegers : Members := [
  ("rowIndex", .str "\u3000+007\t"), ("tableHeaderIndex", .str "٣"), ("rowLimit", .str " "),
  ("rowOffset", .int (-2))]

/-- The row index is read as seven, and the configuration has the integers of its fields. -/
theorem integers_read_exactly_spelled :
    Form.get spelledIntegers "rowIndex" .integer .null = .ok (.int 7) ∧
      HasShortNumerals spelledIntegers ∧
        ∃ config, Config.ofForm spelledIntegers = .ok config ∧
          ∀ i ∈ config.integers, GivesInteger spelledIntegers i.1 i.2.1 i.2.2 := by
  obtain ⟨hfields, hspelled, hconfig⟩ := integers_read_exactly spelledIntegers
  have hshort : HasShortNumerals spelledIntegers := by decide
  have hseven : HoldsInteger spelledIntegers "rowIndex" 7 :=
    hspelled "rowIndex" 7 false ['+'] ['\u3000'] ['\t'] 2 .plus rfl
      (List.all_eq_true.mp (by decide)) (List.all_eq_true.mp (by decide)) (by decide)
  obtain ⟨config, hdecoded⟩ := (hconfig hshort).decoded (by decide) (by decide)
  exact ⟨(hfields "rowIndex" (by decide)).held 7 .null hseven, hshort, config, hdecoded,
    (hconfig hshort).integers config hdecoded⟩

end Sheet
end FormDispatch
