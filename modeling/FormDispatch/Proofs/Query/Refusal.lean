/-
# How query texts of fields are refused

A query text that cannot be read is refused with a flaw of its field: what is wrong at a place of
the text, and the characters around that place (`refusal`). The one other failure is the length of
an integer, and it is none of the field; which texts have it, `MeetsLong` says. A field that must
hold a document is refused as well where its text holds another value (`read_failures`).
-/

import FormDispatch.Proofs.Query.LongInteger

namespace FormDispatch
namespace Query

/-- The refusal of a field's text for what is wrong at a place, with up to 20 characters on either
side of it. -/
def refusal (field text : String) (place : Nat) (reason : String) : Failure :=
  .problem (.unreadableText field
    (String.ofList ((text.toList.take (place + 20)).drop (place - 20))) reason)

theorem refusal_eq_flawProblem (field text : String) (place : Nat) (what : Flaw) :
    refusal field text place what.wording =
      .problem (flawProblem field text.toList place what) := by
  unfold refusal
  rw [List.drop_take]
  rfl

/-- A flaw lies in the text. -/
theorem left_le_of_read {s : List Char} {what : Flaw} {left : Nat}
    (h : read s = .error (.flaw what left)) : left ≤ s.length := by
  unfold read at h
  rcases Result.bind_eq_error.1 h with hvalue | ⟨⟨held, rest⟩, hvalue, hmore⟩
  · exact (Reader.accounts_whole s).within what left hvalue
  · have hpass := ((Reader.accounts_whole s).passes held rest hvalue).trans
      (.trimFront (Nat.zero_le _) rest)
    dsimp only at hmore
    split at hmore
    · cases hmore
    · cases hmore
      exact hpass.length_le

theorem value_eq_failure {field text : String} {e : Failure} :
    value field text = .error e ↔
      ∃ cause, read text.toList = .error cause ∧ cause.failure field text.toList = e := by
  unfold value
  cases read text.toList <;> simp

/-- **What a text that is not read fails with.** The field is refused for a flaw at a place of the
text, `left` characters before its end, unless the text comes to an integer of too many digits;
then, and only then, it fails for the length of that integer. A field that must hold a document
fails in the same way, and is refused from the start of the text where it holds another value. -/
theorem read_failures (field text : String) :
    (∀ e, value field text = .error e →
      (∃ what left place, read text.toList = .error (.flaw what left) ∧
        place + left = text.toList.length ∧ e = refusal field text place what.wording) ∨
      ∃ n, e = .defect (.numeralTooLong n)) ∧
    (∀ n, value field text = .error (.defect (.numeralTooLong n)) ↔
      MeetsLong n 0 .value (Text.trimFront text.toList)) ∧
    (∀ e, value field text = .error e → document field text = .error e) ∧
    ∀ d, value field text = .ok d →
      (∃ members, d = .obj members ∧ document field text = .ok members) ∨
      (∀ members, d ≠ .obj members) ∧
        document field text = .error (refusal field text 0 Flaw.notDocument.wording) := by
  refine ⟨fun e herror => ?_, fun n => ?_, fun e herror => ?_, fun d hd => ?_⟩
  · obtain ⟨cause, hread, rfl⟩ := value_eq_failure.1 herror
    cases cause with
    | flaw what left =>
      have hleft := left_le_of_read hread
      exact .inl ⟨what, left, text.toList.length - left, hread, Nat.sub_add_cancel hleft,
        (refusal_eq_flawProblem ..).symm⟩
    | numeralTooLong n => exact .inr ⟨n, rfl⟩
  · rw [← read_eq_long_iff, value_eq_failure]
    constructor
    · rintro ⟨cause, hread, he⟩
      cases cause with
      | flaw what left => cases he
      | numeralTooLong m =>
        cases he
        exact hread
    · exact fun hread => ⟨_, hread, rfl⟩
  · rw [document, herror]
    rfl
  · rw [document, hd, refusal_eq_flawProblem]
    cases d with
    | obj members => exact .inl ⟨members, rfl, rfl⟩
    | _ => exact .inr ⟨nofun, rfl⟩

end Query
end FormDispatch
