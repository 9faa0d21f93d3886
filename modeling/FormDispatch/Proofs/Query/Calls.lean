/-
# What calls in query text stand for

`Canonical` says what a call with an argument stands for, without the checks of the calls: an object
identifier for its 24 digits in lower case, a 32-bit integer for itself, a long integer for its
decimal text. The value of a call is what it stands for (`canonical_of_ofArgument`).

`calls_canonical` brings this together with the places of calls: every call in a text that is read
stands for what `Canonical` says, and a text with a call whose argument is of no such kind is not
read. A long integer has no range: every integer that can be written is taken for one.
-/

import FormDispatch.Proofs.Query.CallPlace
import FormDispatch.Proofs.Query.WrittenText
import FormDispatch.Proofs.Text.Trimming

namespace FormDispatch
namespace Query

/-! ### Integers as arguments -/

/-- A sign, and whether it is that of a negative number. -/
inductive Sign : Bool → List Char → Prop
  | none : Sign false []
  | plus : Sign false ['+']
  | minus : Sign true ['-']

/-- The text of an integer: decimal digits of any script, perhaps a sign before them, and blanks
around. -/
inductive IntegerText : Int → List Char → Prop
  | digits {negative : Bool} {sign digits w w' : List Char} (hw : Blanks w)
      (hsign : Sign negative sign) (hne : digits ≠ [])
      (hdigits : ∀ c ∈ digits, Text.isDecimalDigit c = true) (hw' : Blanks w') :
      IntegerText (Numeral.withSign negative (Numeral.ofDigits digits))
        (w ++ (sign ++ digits ++ w'))

/-- An argument gives an integer: it is one, or the text of one. -/
inductive IntegerArgument (n : Int) : Document → Prop
  | int : IntegerArgument n (.int n)
  | text {s : String} (h : IntegerText n s.toList) : IntegerArgument n (.str s)

/-- A sign and digits are told apart just where they meet. -/
theorem signed?_eq_some_iff {s digits : List Char} {negative : Bool} :
    Numeral.signed? s = some (negative, digits) ↔
      ∃ sign, Sign negative sign ∧ s = sign ++ digits ∧ digits ≠ [] ∧
        ∀ c ∈ digits, Text.isDecimalDigit c = true := by
  constructor
  · intro h
    have hdigits := (Numeral.signed?_spec h).2
    unfold Numeral.signed? at h
    split at h
    next sign behind hsplit =>
      split at h
      · cases h
      · next hchecked =>
        cases h
        have hne : digits ≠ [] := by
          rintro rfl
          simp at hchecked
        split at hsplit <;> cases hsplit
        · exact ⟨['-'], .minus, rfl, hne, hdigits⟩
        · exact ⟨['+'], .plus, rfl, hne, hdigits⟩
        · exact ⟨[], .none, rfl, hne, hdigits⟩
  · rintro ⟨sign, hsign, rfl, hne, hdigits⟩
    have hall : digits.all Text.isDecimalDigit = true := List.all_eq_true.mpr hdigits
    cases hsign with
    | plus | minus => simp [Numeral.signed?, hall, hne]
    | none =>
      -- a digit is no sign
      obtain ⟨c, r, rfl⟩ := List.exists_cons_of_ne_nil hne
      have hc := hdigits c List.mem_cons_self
      have hminus : c ≠ '-' := by
        rintro rfl
        exact absurd hc (by decide)
      have hplus : c ≠ '+' := by
        rintro rfl
        exact absurd hc (by decide)
      have hsplit : Numeral.signed? (c :: r) = if (c :: r).isEmpty ||
          !(c :: r).all Text.isDecimalDigit then none else some (false, c :: r) := by
        simp [Numeral.signed?, hminus, hplus]
      rw [List.nil_append, hsplit, hall]
      rfl

/-- A sign and digits start and end with no blank, so nothing else is trimmed. -/
theorem trim_signed {negative : Bool} {sign digits w w' : List Char} (hw : Blanks w)
    (hsign : Sign negative sign) (hne : digits ≠ [])
    (hdigits : ∀ c ∈ digits, Text.isDecimalDigit c = true) (hw' : Blanks w') :
    Text.trim (w ++ (sign ++ digits ++ w')) = sign ++ digits := by
  have digit_word : ∀ c ∈ digits, isStop c = false := fun c hc => by
    rw [Bool.eq_false_iff]
    intro hstop
    have hdigit := hdigits c hc
    rw [not_isDecimalDigit_of_isStop hstop] at hdigit
    cases hdigit
  have hstart : StartsWord (sign ++ digits) := by
    obtain ⟨c, r, rfl⟩ := List.exists_cons_of_ne_nil hne
    cases hsign with
    | none => exact ⟨c, r, rfl, digit_word c List.mem_cons_self⟩
    | plus | minus => exact ⟨_, c :: r, rfl, by decide⟩
  have hlast : EndsWord digits := by
    refine ⟨digits.dropLast, digits.getLast hne, (List.dropLast_concat_getLast hne).symm, ?_⟩
    have hstop := digit_word _ (List.getLast_mem hne)
    rw [isStop, Bool.or_eq_false_iff] at hstop
    exact hstop.1
  exact trim_word hw hstart (hlast.append sign) hw'

/-- **The texts of an integer are those that are a sign and digits when they are trimmed.** -/
theorem integerText_iff {n : Int} {s : List Char} :
    IntegerText n s ↔ ∃ negative digits, Numeral.signed? (Text.trim s) = some (negative, digits) ∧
      Numeral.withSign negative (Numeral.ofDigits digits) = n := by
  constructor
  · rintro ⟨hw, hsign, hne, hdigits, hw'⟩
    rw [trim_signed hw hsign hne hdigits hw']
    exact ⟨_, _, signed?_eq_some_iff.mpr ⟨_, hsign, rfl, hne, hdigits⟩, rfl⟩
  · rintro ⟨negative, digits, hsigned, rfl⟩
    obtain ⟨sign, hsign, htrim, hne, hdigits⟩ := signed?_eq_some_iff.mp hsigned
    obtain ⟨w, w', hs, hw, hw'⟩ := Text.exists_trim s
    rw [htrim] at hs
    exact hs ▸ .digits hw hsign hne hdigits hw'

/-- What a call takes for an integer gives one. -/
theorem integerArgument_of_integer {call : Call} {argument : Document} {n : Int}
    (h : call.integer argument = .ok n) : IntegerArgument n argument := by
  unfold Call.integer at h
  split at h
  · cases h
    exact .int
  · split at h
    · cases h
    · next numeral hsigned =>
      split at h
      · next hread =>
        cases h
        exact .text (integerText_iff.mpr ⟨_, _, hsigned, (Numeral.readSigned_eq_ok.mp hread).2⟩)
      · cases h
  · cases h

/-! ### The value of a call -/

/-- A digit or one of the letters `a` to `f`. -/
def isLowerHex (c : Char) : Bool :=
  c.isDigit || ('a' ≤ c && c ≤ 'f')

/-- **What a call with an argument stands for.** -/
inductive Canonical : Call → Document → Document → Prop
  /-- 24 hexadecimal digits in lower case, the same up to case as those of the argument -/
  | objectId {s id : String} (length : id.length = 24)
      (digits : ∀ c ∈ id.toList, isLowerHex c = true)
      (same : s.toList.map Char.toLower = id.toList) :
      Canonical .objectId (.str s) (.obj [("$oid", .str id)])
  | isoDate {s : String} (h : Moment.isMoment s.toList = true) :
      Canonical .isoDate (.str s) (.obj [("$date", .str s)])
  /-- the decimal text of an integer, however large -/
  | numberLong {argument : Document} {n : Int} (h : IntegerArgument n argument) :
      Canonical .numberLong argument (.obj [("$numberLong", .str (Numeral.text n))])
  /-- an integer of 32 bits -/
  | numberInt {argument : Document} {n : Int} (h : IntegerArgument n argument)
      (low : -2 ^ 31 ≤ n) (high : n ≤ 2 ^ 31 - 1) : Canonical .numberInt argument (.int n)
  | numberDecimal {argument : Document} {s : String} (h : Call.decimalText? argument = some s)
      (hd : DecimalText.isDecimal s.toList = true) :
      Canonical .numberDecimal argument (.obj [("$numberDecimal", .str s)])

/-- A hexadecimal digit is one that is a digit of lower case in lower case. -/
theorem isSome_hexValue?_iff (c : Char) :
    (Text.hexValue? c).isSome = isLowerHex c.toLower := by
  have shown : ∀ n ∈ List.range 128,
      (Text.hexValue? (Char.ofNat n)).isSome = isLowerHex (Char.ofNat n).toLower := by
    decide +kernel
  rcases Nat.lt_or_ge c.toNat 128 with hsmall | hlarge
  · have hc := shown c.toNat (List.mem_range.mpr hsmall)
    rwa [Char.ofNat_toNat] at hc
  · have beyond : ∀ d : Char, d.toNat < 128 → ¬ c ≤ d := fun d hd hle =>
      absurd (Nat.le_trans hlarge (UInt32.le_iff_toNat_le.mp hle)) (Nat.not_le_of_lt hd)
    have hlower : c.toLower = c := dif_neg fun hupper => beyond 'Z' (by decide) hupper.2
    have hdigit : c.isDigit = false := by
      rw [Bool.eq_false_iff]
      intro h
      simp only [Char.isDigit, Bool.and_eq_true, decide_eq_true_eq] at h
      exact beyond '9' (by decide) h.2
    rw [hlower, isLowerHex, hdigit, Text.hexValue?]
    simp [beyond '9' (by decide), beyond 'f' (by decide), beyond 'F' (by decide)]

/-- An identifier of hexadecimal digits is one of lower case in lower case. -/
theorem isObjectIdText_iff {s : List Char} : Call.isObjectIdText s = true ↔
    s.length = 24 ∧ ∀ c ∈ s.map Char.toLower, isLowerHex c = true := by
  simp [Call.isObjectIdText, isSome_hexValue?_iff]

/-- The value of a call is what it stands for. -/
theorem canonical_of_ofArgument {call : Call} {argument d : Document}
    (h : call.ofArgument argument = .ok d) : Canonical call argument d := by
  unfold Call.ofArgument at h
  split at h
  · next s =>
    split at h
    · next hid =>
      cases h
      obtain ⟨hlength, hdigits⟩ := isObjectIdText_iff.mp hid
      refine .objectId ?_ ?_ ?_
      · rw [← String.length_toList, String.toList_ofList, List.length_map, hlength]
      · rwa [String.toList_ofList]
      · rw [String.toList_ofList]
    · cases h
  · cases h
  · split at h
    · next hmoment =>
      cases h
      exact .isoDate hmoment
    · cases h
  · cases h
  · obtain ⟨n, hn, hd⟩ := Result.bind_eq_ok.mp h
    cases hd
    exact .numberLong (integerArgument_of_integer hn)
  · obtain ⟨n, hn, hd⟩ := Result.bind_eq_ok.mp h
    split at hd
    · next hrange =>
      cases hd
      exact .numberInt (integerArgument_of_integer hn) (by omega) (by omega)
    · cases hd
  · split at h
    · cases h
    · next s hs =>
      split at h
      · next hdecimal =>
        cases h
        exact .numberDecimal hs hdecimal
      · cases h

/-! ### Calls in texts that are read -/

/-- A value that starts a text is told from the text. -/
theorem Spells.unique {d e : Document} {t u rest behind : List Char} (ht : Spells (.value d) t)
    (hu : Spells (.value e) u) (hsame : t ++ rest = u ++ behind) (hrest : Stops rest)
    (hbehind : Stops behind) : d = e ∧ rest = behind := by
  have hleft := ht.isReadFrom (2 * t.length + 2 * u.length)
    ((Place.mk .outside 0).peak t + (Place.mk .outside 0).peak u) 0 rest (t ++ rest)
    (by omega) (by omega) hrest (ht.head_value.trimFront rest)
  have hright := hu.isReadFrom (2 * t.length + 2 * u.length)
    ((Place.mk .outside 0).peak t + (Place.mk .outside 0).peak u) 0 behind (u ++ behind)
    (by omega) (by omega) hbehind (hu.head_value.trimFront behind)
  rw [hsame, hright] at hleft
  obtain ⟨rfl, rfl⟩ := Prod.mk.inj (Except.ok.inj hleft)
  exact ⟨rfl, rfl⟩

/-- The argument that stands behind the bracket of a call is the only one that does. -/
theorem argument_unique {d e : Document} {w u w' after v t v' others : List Char}
    (hw : Blanks w) (hu : Spells (.value d) u) (hw' : Blanks w') (hv : Blanks v)
    (ht : Spells (.value e) t) (hv' : Blanks v')
    (hsame : w ++ (u ++ (w' ++ ')' :: after)) = v ++ (t ++ (v' ++ ')' :: others))) : d = e := by
  have hfront := congrArg Text.trimFront hsame
  rw [hu.head_value.trimFront_append hw, ht.head_value.trimFront_append hv] at hfront
  exact (hu.unique ht hfront (.blanks hw' (.cons (by decide) _))
    (.blanks hv' (.cons (by decide) _))).1

/-- The call of a long integer with an integer that can be written is read, whatever its size. -/
theorem value_numberLong (field : String) {n : Int}
    (h : (Numeral.digits n.natAbs).length ≤ Numeral.longestNumeral) :
    value field ("NumberLong(" ++ Numeral.text n ++ ")") =
      .ok (.obj [("$numberLong", .str (Numeral.text n))]) := by
  have htellable : (Document.int n).isTellable = true := by
    rw [Document.isTellable, Numeral.text?, if_neg (Nat.not_lt_of_le h)]
    rfl
  have hchars : (Numeral.text n).toList = Numeral.chars n := String.toList_ofList
  have hspells := @Spells.call .numberLong _ _ [] [] _ [] .nil .nil (spells_int htellable) .nil rfl
  have htext : ("NumberLong(" ++ Numeral.text n ++ ")").toList =
      Call.numberLong.name.toList ++ ([] ++ '(' :: ([] ++ (Numeral.chars n ++ ([] ++ [')'])))) := by
    rw [String.toList_append, String.toList_append, hchars, List.append_assoc]
    rfl
  have hneutral : ∀ c ∈ ("NumberLong(" ++ Numeral.text n ++ ")").toList, isNeutral c = true := by
    have hnumeral := (Numeral.numeralText_chars n).mono
      (fun c => Text.isDecimalDigit_of_isDigit) fun c hc => hc
    rw [String.toList_append, String.toList_append, hchars,
      List.forall_mem_append, List.forall_mem_append]
    exact ⟨⟨List.all_eq_true.mp (by decide),
      fun c hc => isNeutral_of_isOfNumeral (isOfNumeral_of_mem hnumeral c hc)⟩,
      List.all_eq_true.mp (by decide)⟩
  have hnesting : nesting ("NumberLong(" ++ Numeral.text n ++ ")").toList ≤ deepest := by
    rw [nesting, Place.peak_of_isNeutral hneutral]
    exact Nat.zero_le _
  rw [value_eq_ok, read_eq_ok hnesting, htext]
  exact ⟨[], _, [], by simp, .nil, hspells, .nil⟩

/-- **What the calls in a query text stand for.** Where a text of a field is read, every call in it
has an argument and stands for what is canonical for that argument, and whatever spells the same
can stand in its place. A text with a call for whose argument nothing is canonical is turned down:
a flaw is told, unless an integer in the text has too many digits. A long integer is canonical
whatever its size: all integers that can be written are read. -/
theorem calls_canonical (field : String) :
    (∀ (text : String) (document : Document), value field text = .ok document →
      ∀ call before behind, CallAt call before behind text.toList →
        ∃ (w u w' after : List Char) (argument d : Document),
          behind = w ++ (u ++ (w' ++ ')' :: after)) ∧ Blanks w ∧ Blanks w' ∧
            Spells (.value argument) u ∧ Canonical call argument d ∧
            ∀ v, Spells (.value d) v → SpellsAlone document (before ++ (v ++ after))) ∧
    (∀ (text : String) (call : Call) (before w u w' after : List Char) (argument : Document),
      CallAt call before (w ++ (u ++ (w' ++ ')' :: after))) text.toList → Blanks w → Blanks w' →
        Spells (.value argument) u → (∀ d, ¬Canonical call argument d) →
          (∃ place what,
            value field text = .error (.problem (flawProblem field text.toList place what))) ∨
          ∃ digits, Numeral.longestNumeral < digits ∧
            value field text = .error (.defect (.numeralTooLong digits))) ∧
    ∀ n : Int, (Numeral.digits n.natAbs).length ≤ Numeral.longestNumeral →
      value field ("NumberLong(" ++ Numeral.text n ++ ")") =
        .ok (.obj [("$numberLong", .str (Numeral.text n))]) := by
  refine ⟨fun text document hread call before behind hcall => ?_,
    fun text call before w u w' after argument hcall hw hw' hu hnone => ?_,
    fun n h => value_numberLong field h⟩
  · obtain ⟨w, u, w', after, argument, d, hbehind, hw, hw', hu, hd, hv⟩ :=
      (spellsAlone_of_read (value_eq_ok.mp hread)).wholeCall hcall
    exact ⟨w, u, w', after, argument, d, hbehind, hw, hw', hu, canonical_of_ofArgument hd, hv⟩
  · cases hvalue : value field text with
    | error e =>
      rcases value_eq_error hvalue with ⟨place, what, rfl⟩ | ⟨digits, hlong, rfl⟩
      · exact .inl ⟨place, what, rfl⟩
      · exact .inr ⟨digits, hlong, rfl⟩
    | ok document =>
      obtain ⟨v, t, v', others, found, d, hbehind, hv, hv', ht, hd, -⟩ :=
        (spellsAlone_of_read (value_eq_ok.mp hvalue)).wholeCall hcall
      obtain rfl := argument_unique hw hu hw' hv ht hv' hbehind
      exact absurd (canonical_of_ofArgument hd) (hnone d)

/-- A call in an array, with a call for its argument, stands for what is canonical for that. -/
theorem calls_canonical_nested :
    CallAt .numberLong "\x7bn: [".toList "NumberInt('+7'))]\x7d".toList
        "\x7bn: [NumberLong(NumberInt('+7'))]\x7d".toList ∧
      ∃ (w u w' after : List Char) (argument d : Document),
        "NumberInt('+7'))]\x7d".toList = w ++ (u ++ (w' ++ ')' :: after)) ∧ Blanks w ∧ Blanks w' ∧
          Spells (.value argument) u ∧ Canonical .numberLong argument d ∧
          ∀ v, Spells (.value d) v →
            SpellsAlone (.obj [("n", .arr [.obj [("$numberLong", .str "7")]])])
              ("\x7bn: [".toList ++ (v ++ after)) := by
  have hcall : CallAt .numberLong "\x7bn: [".toList "NumberInt('+7'))]\x7d".toList
      "\x7bn: [NumberLong(NumberInt('+7'))]\x7d".toList :=
    ⟨⟨[], .nil, by decide +kernel⟩, by decide +kernel, by rintro _ ⟨⟩; decide⟩
  exact ⟨hcall, (calls_canonical "find.query").1 _ _
    (Result.toOption_eq_some.mp (by decide +kernel)) _ _ _ hcall⟩

end Query
end FormDispatch
