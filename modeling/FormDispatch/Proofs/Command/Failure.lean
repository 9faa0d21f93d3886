/-
# Failures of commands

A form that names no command there is has one problem. Any other failure on the way from a form to
the document of its command is a failure of what the form holds: a problem of another kind, or a
defect of length, where the numeral of an integer has too many digits to be read or an integer has
too many to be told. `failsByContent_ofForm` shows it of reading the command and
`failsByContent_document` of rendering it, over all kinds of commands.
-/

import FormDispatch.Command.Document
import FormDispatch.Proofs.Query.Failure
import FormDispatch.Proofs.Text.Blank

namespace FormDispatch

/-- A defect of length: a numeral or an integer with too many digits. -/
def Defect.IsOfLength (d : Defect) : Prop :=
  d = .integerTooLong ∨ ∃ n, d = .numeralTooLong n ∧ Numeral.longestNumeral < n

/-- A failure of what a form holds: a problem, but not that there is no such operation, or a defect
of length. -/
def Failure.IsOfContent : Failure → Prop
  | .problem p => ∀ key known, p ≠ .unknownOperation key known
  | .defect d => d.IsOfLength

/-- A result that is only missed by failures of what a form holds. -/
def FailsByContent {α : Type} (x : Except Failure α) : Prop :=
  ∀ e, x = .error e → e.IsOfContent

namespace FailsByContent

variable {α β : Type}

theorem ok (a : α) : FailsByContent (.ok a : Except Failure α) := nofun

theorem error {e : Failure} (h : e.IsOfContent) :
    FailsByContent (.error e : Except Failure α) := by
  intro e' he
  cases he
  exact h

theorem problem {p : Problem} (h : ∀ key known, p ≠ .unknownOperation key known) :
    FailsByContent (.error (.problem p) : Except Failure α) :=
  error h

theorem map {x : Except Failure α} (h : FailsByContent x) (f : α → β) : FailsByContent (x.map f) :=
  fun e he => h e (Result.map_eq_error.mp he)

theorem bind {x : Except Failure α} (h : FailsByContent x) {f : α → Except Failure β}
    (hf : ∀ a, FailsByContent (f a)) : FailsByContent (x >>= f) := by
  intro e he
  obtain hx | ⟨a, -, ha⟩ := Result.bind_eq_error.mp he
  · exact h e hx
  · exact hf a e ha

end FailsByContent

open FailsByContent

/-! ### Query texts -/

namespace Query

theorem failsByContent_value (field text : String) : FailsByContent (value field text) := by
  unfold value
  split
  · exact ok _
  · next e he =>
    cases e with
    | flaw what left => exact problem nofun
    | numeralTooLong n => exact error (.inr ⟨n, rfl, failsOnLength_read _ n he⟩)

theorem failsByContent_document (field text : String) : FailsByContent (document field text) := by
  refine (failsByContent_value field text).bind fun _ => ?_
  split
  · exact ok _
  · exact problem nofun

end Query

namespace Command

/-! ### Fields -/

theorem failsByContent_text? (form : Members) (field : String) :
    FailsByContent (text? form field) := by
  intro e he
  obtain ⟨cause, hcause, rfl⟩ := Result.mapError_eq_error.mp he
  unfold Form.text? at hcause
  split at hcause
  · cases hcause
  · have herror := Result.map_eq_error.mp hcause
    unfold Form.asText at herror
    split at herror
    · cases herror
    · cases herror
      exact nofun

theorem failsByContent_integer? (form : Members) (field : String) :
    FailsByContent (integer? form field) := by
  intro e he
  obtain ⟨cause, hcause, rfl⟩ := Result.mapError_eq_error.mp he
  unfold Form.integer? at hcause
  split at hcause
  · cases hcause
  · have herror := Result.map_eq_error.mp hcause
    unfold Form.asInteger at herror
    split at herror
    · cases herror
    · split at herror
      · cases herror
        exact nofun
      · split at herror
        · cases herror
        · next n hn =>
          cases herror
          exact .inr ⟨n, rfl, (Numeral.readSigned_eq_error.mp hn).2⟩
    · cases herror
      exact nofun

theorem signed?_of_digits {digits : List Char}
    (hdigits : ∀ c ∈ digits, Text.isDecimalDigit c = true)
    (hne : digits ≠ []) : Numeral.signed? digits = some (false, digits) := by
  have hall : digits.all Text.isDecimalDigit = true := List.all_eq_true.mpr hdigits
  have hempty : digits.isEmpty = false := by simpa using hne
  unfold Numeral.signed?
  split
  next negative rest hsplit =>
    split at hsplit
    · exact absurd (hdigits '-' List.mem_cons_self) (by decide)
    · exact absurd (hdigits '+' List.mem_cons_self) (by decide)
    · cases hsplit
      simp [hempty, hall]

/-- A field whose text is a numeral of too many digits is a defect. -/
theorem integer?_of_long {form : Members} {field : String} {digits : List Char}
    (hfield : Form.lookup form field = some (.str (String.ofList digits)))
    (hdigits : ∀ c ∈ digits, Text.isDecimalDigit c = true)
    (hlong : Numeral.longestNumeral < digits.length) :
    integer? form field = .error (.defect (.numeralTooLong digits.length)) := by
  obtain ⟨c, r, rfl⟩ : ∃ c r, digits = c :: r :=
    List.exists_cons_of_length_pos (Nat.zero_lt_of_lt hlong)
  have hblank : Text.isBlankText (String.ofList (c :: r)) = false := by
    rw [Text.isBlankText, String.toList_ofList, Bool.eq_false_iff]
    intro hall
    have hdigit := hdigits c List.mem_cons_self
    have hblank := List.all_eq_true.mp hall c List.mem_cons_self
    rw [Text.not_isDecimalDigit_of_isBlank hblank] at hdigit
    cases hdigit
  have hread : Numeral.readSigned (false, c :: r) = .error (c :: r).length := by
    rw [Numeral.readSigned, Numeral.read, if_pos hlong]
    rfl
  simp only [integer?, Form.integer?, Form.usable, hfield, hblank, Bool.false_eq_true, if_false,
    Form.asInteger, String.toList_ofList, Text.trim_of_digits hdigits,
    signed?_of_digits hdigits (List.cons_ne_nil c r), hread]
  rfl

theorem failsByContent_skip? (form : Members) : FailsByContent (skip? form) := by
  refine (failsByContent_integer? form "find.skip").bind fun n => ?_
  split
  · split
    · exact ok _
    · split
      · exact problem nofun
      · exact error (.inl rfl)
  · exact ok _

/-! ### Commands -/

/-- A form whose command there is not, and no other, has the problem that says so. -/
theorem kindOf_eq_error {form : Members} {e : Failure} (h : kindOf form = .error e) :
    (∃ key known, e = .problem (.unknownOperation key known)) ∨ e.IsOfContent := by
  obtain htext | ⟨name, -, hname⟩ := Result.bind_eq_error.mp h
  · exact .inr (failsByContent_text? form "command" e htext)
  · obtain ⟨p, hp, rfl⟩ := Result.mapError_eq_error.mp hname
    unfold CommandKind.resolve at hp
    split at hp
    · cases hp
    · cases hp
      exact .inl ⟨_, _, rfl⟩

theorem failsByContent_bodyOf (kind : CommandKind) (form : Members) :
    FailsByContent (bodyOf kind form) := by
  have text := failsByContent_text? form
  have integer := failsByContent_integer? form
  cases kind with
  | find =>
    exact (text _).bind fun _ => (text _).bind fun _ => (text _).bind fun _ =>
      (integer _).bind fun _ => (failsByContent_skip? form).bind fun _ => ok _
  | insert => exact (text _).map _
  | update => exact (text _).bind fun _ => (text _).bind fun _ => (text _).bind fun _ => ok _
  | delete => exact (text _).bind fun _ => (text _).bind fun _ => ok _
  | count => exact (text _).map _
  | distinct => exact (text _).bind fun _ => (text _).bind fun _ => ok _
  | aggregate => exact (text _).bind fun _ => (integer _).bind fun _ => ok _
  | raw => exact (text _).map _

/-- **Reading a command that there is fails by what the form holds only.** -/
theorem failsByContent_ofForm {form : Members} {kind : CommandKind} (h : kindOf form = .ok kind) :
    FailsByContent (ofForm form) := by
  rw [ofForm, h]
  exact (failsByContent_text? form "collection").bind fun _ =>
    (failsByContent_bodyOf kind form).bind fun _ => ok _

/-! ### Documents -/

theorem failsByContent_part (key label text : String) : FailsByContent (part key label text) :=
  (Query.failsByContent_document label text).bind fun _ => ok _

theorem failsByContent_part? (key label : String) (text : Option String) :
    FailsByContent (part? key label text) := by
  unfold part?
  split
  · exact ok _
  · exact failsByContent_part key label _

theorem failsByContent_listed (field text : String) (flaw : Query.Flaw) :
    FailsByContent (listed field text flaw) := by
  refine (Query.failsByContent_value field text).bind fun d => ?_
  split
  · exact ok _
  · split
    · exact ok _
    · exact problem nofun
  · exact problem nofun

/-- **Rendering a command fails by what the form holds only.** -/
theorem failsByContent_document (c : Command) : FailsByContent c.document := by
  have part := failsByContent_part
  have part? := failsByContent_part?
  have listed := failsByContent_listed
  unfold document
  split
  · exact (part _ _ _).bind fun _ => (part? _ _ _).bind fun _ => (part? _ _ _).bind fun _ => ok _
  · exact (listed _ _ _).bind fun _ => ok _
  · exact (part _ _ _).bind fun _ => (part _ _ _).bind fun _ => ok _
  · exact (part _ _ _).bind fun _ => ok _
  · exact (part _ _ _).bind fun _ => ok _
  · exact (part _ _ _).bind fun _ => ok _
  · exact (listed _ _ _).bind fun _ => ok _
  · exact Query.failsByContent_document _ _

end Command
end FormDispatch
