/-
# Values never change the structure of a text

A template is a document with holes: bare ones in the place of values, and others inside of texts
and keys. `Prints` relates a template to the ways of writing it as JSON, with blanks between its
parts and either quote around each text, as pieces: plain characters, and a binding for each hole.

Filling a printed template always gives a text of the grammar of query text, which spells the
template with its holes filled (`Prints.spells`). So whatever the values are, what is read is the
template's own tree: a value inside of a text is nothing but characters of that text, and a bare
value is one value (`value_filled_template`).
-/

import FormDispatch.Proofs.Number.DecimalText
import FormDispatch.Proofs.Query.Escaping
import FormDispatch.Proofs.Query.StandardText
import FormDispatch.Proofs.Substitution.Splice
import FormDispatch.Query

namespace FormDispatch
namespace Substitution

open Document (isPaired)
open Document.Reader (NumeralParts NumeralText isLeadingDigit)
open Query (SpelledText Blanks Phrase Spells StartsWord Place)

/-! ### Templates -/

/-- A part of a text: characters as they are, or a hole with an expression. -/
inductive Chunk where
  | literal (s : String)
  | hole (expression : List Char)
deriving DecidableEq

/-- A document with holes. -/
inductive Template where
  | null
  | bool (value : Bool)
  | int (value : Int)
  | float (value : Binary64)
  | text (chunks : List Chunk)
  | arr (items : List Template)
  | obj (members : List (List Chunk × Template))
  | hole (expression : List Char)

/-- The value that a hole inside of a text is filled with: its characters, none if it is missing. -/
def heldText (params : List Param) (expression : List Char) : List Char :=
  match (paramAt? params expression).bind Param.value with
  | some value => value.toList
  | none => []

/-- The value that a bare hole is filled with: the document that it spells, else the text that it
is, null for a missing one. -/
def heldDocument (params : List Param) (expression : List Char) : Document :=
  match (paramAt? params expression).bind Param.value with
  | some value => (spelled? value.toList).getD (.str value)
  | none => .null

/-- The characters of a part of a text. -/
def Chunk.held (params : List Param) : Chunk → List Char
  | literal s => s.toList
  | hole expression => heldText params expression

/-- The characters of a text with holes. -/
def heldChunks (params : List Param) (chunks : List Chunk) : List Char :=
  chunks.flatMap (Chunk.held params)

namespace Template

mutual

/-- The document of a template with its holes filled. -/
def document (params : List Param) : Template → Document
  | null => .null
  | bool b => .bool b
  | int n => .int n
  | float x => .float x
  | text chunks => .str (String.ofList (heldChunks params chunks))
  | arr items => .arr (documents params items)
  | obj members => .obj (Entries.ofPairs (documentPairs params members))
  | hole expression => heldDocument params expression

/-- The documents of items with their holes filled. -/
def documents (params : List Param) : List Template → List Document
  | [] => []
  | item :: rest => document params item :: documents params rest

/-- The keys and documents of members with their holes filled. -/
def documentPairs (params : List Param) : List (List Chunk × Template) → List (String × Document)
  | [] => []
  | (key, value) :: rest =>
    (String.ofList (heldChunks params key), document params value) :: documentPairs params rest

end

end Template

/-! ### Printed templates -/

/-- Plain characters as pieces. -/
def plain (s : List Char) : List Piece :=
  s.map .plain

/-- A text with holes, and the pieces that print it between the given quotes. -/
inductive PrintsText (quote : Char) : List Chunk → List Piece → Prop
  | nil : PrintsText quote [] []
  | literal {cs s : List Char} {chunks : List Chunk} {ps : List Piece}
      (h : SpelledText quote cs s) (rest : PrintsText quote chunks ps) :
      PrintsText quote (.literal (String.ofList cs) :: chunks) (plain s ++ ps)
  | hole {expression : List Char} {chunks : List Chunk} {ps : List Piece}
      (rest : PrintsText quote chunks ps) :
      PrintsText quote (.hole expression :: chunks) (.binding expression :: ps)

/-- A text with holes, and the pieces that print it with its quotes. -/
inductive PrintsQuoted : List Chunk → List Piece → Prop
  | quoted {q : Char} {chunks : List Chunk} {ps : List Piece}
      (hq : Query.Reader.isQuote q = true) (h : PrintsText q chunks ps) :
      PrintsQuoted chunks (.plain q :: (ps ++ [.plain q]))

/-- What pieces can print. -/
inductive TemplatePhrase where
  | value (t : Template)
  /-- the items of an array and its end -/
  | items (held : List Template)
  /-- the members of an object and its end -/
  | members (held : List (List Chunk × Template))

/-- **The pieces that print a template as JSON.** -/
inductive Prints : TemplatePhrase → List Piece → Prop
  | null : Prints (.value .null) (plain ['n', 'u', 'l', 'l'])
  | yes : Prints (.value (.bool true)) (plain ['t', 'r', 'u', 'e'])
  | no : Prints (.value (.bool false)) (plain ['f', 'a', 'l', 's', 'e'])
  | int {n : Int} {parts : NumeralParts} {s : List Char}
      (h : NumeralText Char.isDigit isLeadingDigit parts s) (hn : parts.number = .ok (.int n)) :
      Prints (.value (.int n)) (plain s)
  | float {x : Binary64} {parts : NumeralParts} {s : List Char}
      (h : NumeralText Char.isDigit isLeadingDigit parts s) (hx : parts.number = .ok (.float x)) :
      Prints (.value (.float x)) (plain s)
  | text {chunks : List Chunk} {ps : List Piece} (h : PrintsQuoted chunks ps) :
      Prints (.value (.text chunks)) ps
  | hole {expression : List Char} : Prints (.value (.hole expression)) [.binding expression]
  | emptyArr {w : List Char} (hw : Blanks w) :
      Prints (.value (.arr [])) (plain ('[' :: (w ++ [']'])))
  | arr {held : List Template} {ps : List Piece} (h : Prints (.items held) ps) :
      Prints (.value (.arr held)) (.plain '[' :: ps)
  | emptyObj {w : List Char} (hw : Blanks w) :
      Prints (.value (.obj [])) (plain ('\x7b' :: (w ++ ['\x7d'])))
  | obj {held : List (List Chunk × Template)} {ps : List Piece} (h : Prints (.members held) ps) :
      Prints (.value (.obj held)) (.plain '\x7b' :: ps)
  | lastItem {t : Template} {w w' : List Char} {ps : List Piece} (hw : Blanks w)
      (h : Prints (.value t) ps) (hw' : Blanks w') :
      Prints (.items [t]) (plain w ++ (ps ++ plain (w' ++ [']'])))
  | item {t : Template} {held : List Template} {w w' : List Char} {ps qs : List Piece}
      (hw : Blanks w) (h : Prints (.value t) ps) (hw' : Blanks w')
      (hs : Prints (.items held) qs) :
      Prints (.items (t :: held)) (plain w ++ (ps ++ (plain (w' ++ [',']) ++ qs)))
  | lastMember {key : List Chunk} {t : Template} {w w₁ w₂ w' : List Char} {ks ps : List Piece}
      (hw : Blanks w) (hk : PrintsQuoted key ks) (hw₁ : Blanks w₁) (hw₂ : Blanks w₂)
      (h : Prints (.value t) ps) (hw' : Blanks w') :
      Prints (.members [(key, t)])
        (plain w ++ (ks ++ (plain (w₁ ++ ':' :: w₂) ++ (ps ++ plain (w' ++ ['\x7d'])))))
  | member {key : List Chunk} {t : Template} {held : List (List Chunk × Template)}
      {w w₁ w₂ w' : List Char} {ks ps qs : List Piece} (hw : Blanks w)
      (hk : PrintsQuoted key ks) (hw₁ : Blanks w₁) (hw₂ : Blanks w₂) (h : Prints (.value t) ps)
      (hw' : Blanks w') (hs : Prints (.members held) qs) :
      Prints (.members ((key, t) :: held))
        (plain w ++ (ks ++ (plain (w₁ ++ ':' :: w₂) ++ (ps ++ (plain (w' ++ [',']) ++ qs)))))

/-! ### The parts of templates as documents are written -/

/-- An integer that is not too long is printed by its numeral. -/
theorem prints_int {n : Int} (h : (Numeral.digits n.natAbs).length ≤ Numeral.longestNumeral) :
    Prints (.value (.int n)) (plain (Numeral.chars n)) :=
  .int (Numeral.numeralText_chars n) (Numeral.number_chars h)

/-- A finite floating-point number is printed by its shortest digits. -/
theorem prints_float (negative : Bool) (rank : Fin rankCount) :
    Prints (.value (.float (.finite negative rank)))
      (plain (Binary64.finiteChars negative rank)) := by
  obtain ⟨parts, htext, hnumber⟩ := Binary64.number_finiteChars negative rank
  exact .float htext hnumber

/-- A text without holes is printed by its escaped characters between either quotes. -/
theorem printsQuoted_literal {q : Char} (hq : Query.Reader.isQuote q = true) (s : String) :
    PrintsQuoted [.literal s] (plain (q :: (insideQuotes q s.toList ++ [q]))) := by
  have spelled : SpelledText q s.toList (insideQuotes q s.toList) :=
    Query.spelledText_flatMap (Query.spelledChar_insideChar hq) s.toList
  have printed := PrintsQuoted.quoted hq (.literal spelled .nil)
  rw [String.ofList_toList, List.append_nil] at printed
  simpa [plain] using printed

/-! ### Places in printed templates -/

/-- The place after pieces. -/
def placeAfter (place : Quotation) (ps : List Piece) : Quotation :=
  ps.foldl Piece.placeAfter place

theorem placeAfter_append (place : Quotation) (ps qs : List Piece) :
    placeAfter place (ps ++ qs) = placeAfter (placeAfter place ps) qs :=
  List.foldl_append

theorem placeAfter_plain (place : Quotation) (s : List Char) :
    placeAfter place (plain s) = place.afterAll s := by
  rw [placeAfter, plain, List.foldl_map]
  rfl

/-- Pieces side by side are filled one after the other. -/
theorem spliced_append (params : List Param) (place : Quotation) (ps qs : List Piece) :
    spliced params place (ps ++ qs) =
      spliced params place ps ++ spliced params (placeAfter place ps) qs := by
  induction ps generalizing place with
  | nil => rfl
  | cons p ps ih =>
    cases p with
    | plain c =>
      rw [List.cons_append, spliced, ih, spliced]
      rfl
    | binding expression =>
      rw [List.cons_append, spliced, ih, spliced, List.append_assoc]
      rfl

theorem spliced_plainText (params : List Param) (place : Quotation) (s : List Char) :
    spliced params place (plain s) = s := by
  induction s generalizing place with
  | nil => rfl
  | cons c r ih => exact congrArg (c :: ·) (ih _)

/-- What leaves a place as it is leaves its quotation as it is. -/
theorem afterAll_of_place {q : Quotation} {s : List Char} {depth depth' : Nat}
    (h : (Place.mk q depth).afterAll s = ⟨q, depth'⟩) : q.afterAll s = q := by
  have hq := Place.afterAll_quotation ⟨q, depth⟩ s
  rw [h] at hq
  exact hq.symm

/-- A marker leaves a place outside of quotes as it is. -/
theorem afterAll_marker_outside : Quotation.outside.afterAll marker = .outside := by
  decide

/-- A marker leaves a place between quotes as it is. -/
theorem afterAll_marker_inside {q : Char} (hq : Query.Reader.isQuote q = true) :
    (Quotation.inside q false).afterAll marker = .inside q false := by
  simp only [Query.Reader.isQuote, Bool.or_eq_true, beq_iff_eq] at hq
  rcases hq with rfl | rfl <;> decide

/-! ### Values at their places -/

/-- No value escapes a surrogate without its partner. -/
def PairedValues (params : List Param) : Prop :=
  ∀ p ∈ params, ∀ value, p.value = some value → isPaired value.toList = true

/-- Between quotes a hole is filled with a spelling of its value's characters. -/
theorem spelledText_valueAt (params : List Param) {q : Char} (hq : Query.Reader.isQuote q = true)
    (expression : List Char) :
    SpelledText q (heldText params expression)
      (valueAt params (.inside q false) expression) := by
  unfold valueAt heldText
  cases paramAt? params expression with
  | none => exact .nil
  | some p =>
    cases hv : p.value with
    | none =>
      simp only [Option.bind_some, hv]
      exact .nil
    | some value =>
      simp only [Option.bind_some, hv]
      exact Query.spelledText_flatMap (Query.spelledChar_insideChar hq) value.toList

/-- On its own a hole is filled with a spelling of its value. -/
theorem spells_valueAt {params : List Param} (paired : PairedValues params)
    {expression : List Char} (supplied : (paramAt? params expression).isSome) :
    Spells (.value (heldDocument params expression))
      (valueAt params .outside expression) := by
  obtain ⟨p, hp⟩ := Option.isSome_iff_exists.1 supplied
  have hmem : p ∈ params := List.mem_of_find?_eq_some hp
  unfold valueAt heldDocument
  rw [hp]
  cases hv : p.value with
  | none =>
    simp only [Option.bind_some, hv]
    exact .null
  | some value =>
    have hpaired := paired p hmem value hv
    simp only [Option.bind_some, hv, rendered, Quotation.quote?, bare]
    cases hd : Document.readStandard value.toList with
    | ok d =>
      have hspelled : spelled? value.toList = some d := by rw [spelled?, hd]; rfl
      simpa [hspelled] using Query.spells_trim_of_readStandard hd hpaired
    | error e =>
      have hspelled : spelled? value.toList = none := by rw [spelled?, hd]; rfl
      simpa [hspelled] using Query.spells_quotedText true value.toList

/-! ### Filled templates are spelled -/

/-- The text of a printed text with holes is a spelling of its characters, and ends between the same
quotes. -/
theorem PrintsText.spelledText (params : List Param) {q : Char} {chunks : List Chunk}
    {ps : List Piece} (hq : Query.Reader.isQuote q = true) (h : PrintsText q chunks ps) :
    SpelledText q (heldChunks params chunks) (spliced params (.inside q false) ps) ∧
      placeAfter (.inside q false) ps = .inside q false := by
  induction h with
  | nil => exact ⟨.nil, rfl⟩
  | @literal cs s chunks ps h _ ih =>
    have hplace : (Quotation.inside q false).afterAll s = .inside q false :=
      afterAll_of_place (h.afterAll hq 0)
    refine ⟨?_, ?_⟩
    · rw [spliced_append, spliced_plainText, placeAfter_plain, hplace]
      simpa [heldChunks, Chunk.held] using h.append ih.1
    · rw [placeAfter_append, placeAfter_plain, hplace, ih.2]
  | @hole expression chunks ps _ ih =>
    have hplace := afterAll_marker_inside hq
    refine ⟨?_, ?_⟩
    · rw [spliced, hplace]
      exact (spelledText_valueAt params hq expression).append ih.1
    · calc placeAfter (.inside q false) (.binding expression :: ps)
          = placeAfter ((Quotation.inside q false).afterAll marker) ps := rfl
        _ = .inside q false := by rw [hplace, ih.2]

/-- The text of a printed text with its quotes spells its characters as a value and as a key, and
ends outside of quotes. -/
theorem PrintsQuoted.spelled {chunks : List Chunk} {ps : List Piece} (h : PrintsQuoted chunks ps)
    (params : List Param) :
    Spells (.value (.str (String.ofList (heldChunks params chunks))))
        (spliced params .outside ps) ∧
      Query.SpelledKey (String.ofList (heldChunks params chunks)) (spliced params .outside ps) ∧
      placeAfter .outside ps = .outside := by
  cases h with
  | @quoted q chunks ps hq h =>
    obtain ⟨hspelled, hplace⟩ := h.spelledText params hq
    have opened := Query.after_outside_of_isQuote hq
    have closed : (Quotation.inside q false).after q = .outside := by
      simp [Quotation.after, Query.ne_backslash_of_isQuote hq]
    have htext : spliced params .outside (.plain q :: (ps ++ [.plain q])) =
        q :: (spliced params (.inside q false) ps ++ [q]) := by
      rw [spliced, opened, spliced_append, hplace]
      rfl
    have hafter : placeAfter .outside (.plain q :: (ps ++ [.plain q])) = .outside := by
      calc placeAfter .outside (.plain q :: (ps ++ [.plain q]))
          = placeAfter (Quotation.outside.after q) (ps ++ [.plain q]) := rfl
        _ = placeAfter (.inside q false) [.plain q] := by rw [opened, placeAfter_append, hplace]
        _ = .outside := closed
    rw [htext]
    exact ⟨.text hq hspelled, .quoted hq hspelled, hafter⟩

/-- What a template's phrase becomes with its holes filled. -/
def TemplatePhrase.filled (params : List Param) : TemplatePhrase → Phrase
  | value t => .value (t.document params)
  | items held => .items (Template.documents params held)
  | members held => .members (Template.documentPairs params held)

/-- Plain characters that leave a place outside of quotes as it is. -/
theorem placeAfter_outside {s : List Char} {depth depth' : Nat}
    (h : (Place.mk .outside depth).afterAll s = ⟨.outside, depth'⟩) :
    placeAfter .outside (plain s) = .outside := by
  rw [placeAfter_plain]
  exact afterAll_of_place h

/-- Blanks with a mark between them leave a place outside of quotes as it is. -/
theorem placeAfter_mark {w w' : List Char} (hw : Blanks w) (hw' : Blanks w') {c : Char}
    (hc : Query.isNeutral c = true) :
    placeAfter .outside (plain (w ++ c :: w')) = .outside := by
  refine placeAfter_outside (Place.afterAll_of_isNeutral (fun d hd => ?_) 0)
  rcases List.mem_append.1 hd with hd | hd
  · exact Query.isNeutral_of_isBlank (hw d hd)
  · rcases List.mem_cons.1 hd with rfl | hd
    · exact hc
    · exact Query.isNeutral_of_isBlank (hw' d hd)

/-- Pieces that end outside of quotes are filled as if they stood alone, and so is what follows. -/
theorem spliced_append_outside {params : List Param} {ps : List Piece}
    (h : placeAfter .outside ps = .outside) (qs : List Piece) :
    spliced params .outside (ps ++ qs) =
      spliced params .outside ps ++ spliced params .outside qs := by
  rw [spliced_append, h]

theorem placeAfter_append_outside {ps qs : List Piece} (h : placeAfter .outside ps = .outside)
    (h' : placeAfter .outside qs = .outside) : placeAfter .outside (ps ++ qs) = .outside := by
  rw [placeAfter_append, h, h']

theorem Supplied.left {params : List Param} {ps qs : List Piece} (h : Supplied params (ps ++ qs)) :
    Supplied params ps :=
  fun e he => h e (List.mem_append_left qs he)

theorem Supplied.right {params : List Param} {ps qs : List Piece} (h : Supplied params (ps ++ qs)) :
    Supplied params qs :=
  fun e he => h e (List.mem_append_right ps he)

theorem Supplied.tail {params : List Param} {p : Piece} {ps : List Piece}
    (h : Supplied params (p :: ps)) : Supplied params ps :=
  fun e he => h e (List.mem_cons_of_mem p he)

/-- A numeral of JSON spells its number, and leaves its place as it is. -/
theorem spells_numeral {parts : NumeralParts} {s : List Char} {d : Document}
    (h : NumeralText Char.isDigit isLeadingDigit parts s) (hd : parts.number = .ok d) :
    Spells (.value d) s := by
  exact .numeral (h.mono (fun c => Text.isDecimalDigit_of_isDigit) fun c hc => hc) hd

/-- Plain characters that spell a value are filled to themselves. -/
theorem spells_plain (params : List Param) {d : Document} {s : List Char}
    (h : Spells (.value d) s) :
    Spells (.value d) (spliced params .outside (plain s)) ∧
      placeAfter .outside (plain s) = .outside := by
  rw [spliced_plainText]
  exact ⟨h, placeAfter_outside (h.settles 0)⟩

/-- **A filled template spells its document**, and ends outside of quotes. -/
theorem Prints.spells {params : List Param} (paired : PairedValues params) {p : TemplatePhrase}
    {ps : List Piece} (h : Prints p ps) (supplied : Supplied params ps) :
    Spells (p.filled params) (spliced params .outside ps) ∧ placeAfter .outside ps = .outside := by
  induction h with
  | null => exact spells_plain params .null
  | yes => exact spells_plain params .yes
  | no => exact spells_plain params .no
  | int h hn => exact spells_plain params (spells_numeral h hn)
  | float h hx => exact spells_plain params (spells_numeral h hx)
  | text h =>
    obtain ⟨hspells, -, hplace⟩ := h.spelled params
    exact ⟨hspells, hplace⟩
  | @hole expression =>
    have hvalue := spells_valueAt paired (supplied expression (by simp))
    refine ⟨?_, afterAll_marker_outside⟩
    rw [spliced, spliced, List.append_nil]
    exact hvalue
  | emptyArr hw => exact spells_plain params (.emptyArr hw)
  | emptyObj hw => exact spells_plain params (.emptyObj hw)
  | arr _ ih =>
    obtain ⟨hspells, hplace⟩ := ih supplied.tail
    exact ⟨.arr hspells, hplace⟩
  | obj _ ih =>
    obtain ⟨hspells, hplace⟩ := ih supplied.tail
    exact ⟨.obj hspells, hplace⟩
  | lastItem hw _ hw' ih =>
    obtain ⟨hspells, hplace⟩ := ih supplied.right.left
    have before := placeAfter_outside (hw.afterAll 0)
    have ending : Query.Ending ']' _ := .plain hw'
    have behind := placeAfter_outside (ending.afterAll (.inl rfl) 0)
    refine ⟨?_, placeAfter_append_outside before (placeAfter_append_outside hplace behind)⟩
    rw [spliced_append_outside before, spliced_append_outside hplace, spliced_plainText,
      spliced_plainText]
    exact .lastItem hw hspells ending
  | item hw _ hw' _ ih ihs =>
    obtain ⟨hspells, hplace⟩ := ih supplied.right.left
    obtain ⟨hmore, hend⟩ := ihs supplied.right.right.right
    have before := placeAfter_outside (hw.afterAll 0)
    have behind := placeAfter_mark hw' .nil (c := ',') (by decide)
    refine ⟨?_, placeAfter_append_outside before (placeAfter_append_outside hplace
      (placeAfter_append_outside behind hend))⟩
    rw [spliced_append_outside before, spliced_append_outside hplace,
      spliced_append_outside behind, spliced_plainText, spliced_plainText]
    have hall := Spells.item hw hspells hw' hmore
    simp only [List.append_assoc, List.cons_append, List.nil_append] at hall ⊢
    exact hall
  | lastMember hw hk hw₁ hw₂ _ hw' ih =>
    obtain ⟨-, hkey, hkplace⟩ := hk.spelled params
    obtain ⟨hspells, hplace⟩ := ih supplied.right.right.right.left
    have before := placeAfter_outside (hw.afterAll 0)
    have colon := placeAfter_mark hw₁ hw₂ (c := ':') (by decide)
    have ending : Query.Ending '\x7d' _ := .plain hw'
    have behind := placeAfter_outside (ending.afterAll (.inr rfl) 0)
    refine ⟨?_, placeAfter_append_outside before (placeAfter_append_outside hkplace
      (placeAfter_append_outside colon (placeAfter_append_outside hplace behind)))⟩
    rw [spliced_append_outside before, spliced_append_outside hkplace,
      spliced_append_outside colon, spliced_append_outside hplace, spliced_plainText,
      spliced_plainText, spliced_plainText]
    have hall := Spells.lastMember hw hkey hw₁ hw₂ hspells ending
    simp only [List.append_assoc, List.cons_append] at hall ⊢
    exact hall
  | member hw hk hw₁ hw₂ _ hw' _ ih ihs =>
    obtain ⟨-, hkey, hkplace⟩ := hk.spelled params
    obtain ⟨hspells, hplace⟩ := ih supplied.right.right.right.left
    obtain ⟨hmore, hend⟩ := ihs supplied.right.right.right.right.right
    have before := placeAfter_outside (hw.afterAll 0)
    have colon := placeAfter_mark hw₁ hw₂ (c := ':') (by decide)
    have behind := placeAfter_mark hw' .nil (c := ',') (by decide)
    refine ⟨?_, placeAfter_append_outside before (placeAfter_append_outside hkplace
      (placeAfter_append_outside colon (placeAfter_append_outside hplace
        (placeAfter_append_outside behind hend))))⟩
    rw [spliced_append_outside before, spliced_append_outside hkplace,
      spliced_append_outside colon, spliced_append_outside hplace, spliced_append_outside behind,
      spliced_plainText, spliced_plainText, spliced_plainText]
    have hall := Spells.member hw hkey hw₁ hw₂ hspells hw' hmore
    simp only [List.append_assoc, List.cons_append, List.nil_append] at hall ⊢
    exact hall

/-- **Values never change the structure of a text.**  Take any template, printed as JSON so that
two opening braces stand side by side only where a hole starts, the expressions of holes hold no
brace, and no marker starts in the text; and take any parameters that give every hole a value.
Filling the text succeeds, and unless the result nests too deeply, what is read from it is the
template with its holes filled. -/
theorem value_filled_template {t : Template} {ps : List Piece} {params : List Param}
    (printed : Prints (.value t) ps) (openings : OnlyOpenings ps) (braceFree : BraceFree ps)
    (markerFree : ¬ stem <:+: written ps) (supplied : Supplied params ps)
    (paired : PairedValues params) (field : String) :
    ∃ text bound, filled (String.ofList (written ps)) params = .ok (text, bound) ∧
      (Query.nesting text.toList ≤ Query.deepest →
        Query.value field text = .ok (t.document params)) := by
  obtain ⟨hspells, -⟩ := printed.spells paired supplied
  refine ⟨_, _, filled_written openings braceFree markerFree supplied, fun shallow => ?_⟩
  rw [String.toList_ofList] at shallow
  have hread := Query.read_spelled .nil hspells .nil shallow
  rw [List.nil_append, List.append_nil] at hread
  rw [Query.value, String.toList_ofList, hread]

/-- A template with holes in a key and in a text, and a bare one. -/
def sampleTemplate : Template :=
  .obj [([.literal "a", .hole [' ', 'x', ' ']], .text [.hole [' ', 'x', ' ']]),
    ([.literal "b"], .arr [.hole [' ', 'y', ' '], .int 1])]

/-- The template printed with double quotes around its keys and single ones around its text. -/
def samplePieces : List Piece :=
  plain ['\x7b', '"', 'a'] ++ .binding [' ', 'x', ' '] :: plain ['"', ':', '\''] ++
    .binding [' ', 'x', ' '] :: plain ['\'', ',', '"', 'b', '"', ':', '['] ++
    .binding [' ', 'y', ' '] :: plain [',', ' ', '1', ']', '\x7d']

/-- A value that tries to end the quotes around it, and one that spells an array. -/
def sampleParams : List Param :=
  [⟨"x", some "', \"c\": '"⟩, ⟨"y", some "[null]"⟩]

theorem prints_sample : Prints (.value sampleTemplate) samplePieces := by
  have a : SpelledText '"' ['a'] ['a'] :=
    .cons (.plain (by decide) (by decide) (by decide)) .nil
  have b : SpelledText '"' ['b'] ['b'] :=
    .cons (.plain (by decide) (by decide) (by decide)) .nil
  have firstKey : PrintsQuoted [.literal "a", .hole [' ', 'x', ' ']]
      (plain ['"', 'a'] ++ [.binding [' ', 'x', ' '], .plain '"']) :=
    .quoted rfl (.literal a (.hole .nil))
  have lastKey : PrintsQuoted [.literal "b"] (plain ['"', 'b', '"']) :=
    .quoted rfl (.literal b .nil)
  have quoted : PrintsQuoted [.hole [' ', 'x', ' ']]
      [.plain '\'', .binding [' ', 'x', ' '], .plain '\''] := .quoted rfl (.hole .nil)
  have numeral : NumeralText Char.isDigit isLeadingDigit ⟨false, ['1'], none, none⟩ ['1'] :=
    .parts (.digits (s := []) (by decide) nofun) .none .none
  have one : Prints (.value (.int 1)) (plain ['1']) := .int numeral (by rfl)
  have blank : Blanks [' '] := List.all_eq_true.mp (by decide)
  have items : Prints (.items [.hole [' ', 'y', ' '], .int 1])
      (.binding [' ', 'y', ' '] :: plain [',', ' ', '1', ']']) :=
    .item .nil .hole .nil (.lastItem blank one .nil)
  exact .obj (.member .nil firstKey .nil .nil (.text quoted) .nil
    (.lastMember .nil lastKey .nil .nil (.arr items) .nil))

/-- The sample's values stay where they were put. -/
theorem value_filled_sample :
    ∃ text bound, filled (String.ofList (written samplePieces)) sampleParams = .ok (text, bound) ∧
      Query.value "find.query" text =
        .ok (.obj [("a', \"c\": '", .str "', \"c\": '"), ("b", .arr [.arr [.null], .int 1])]) := by
  have supplied : Supplied sampleParams samplePieces := by
    intro expression he
    simp only [samplePieces, plain, List.map_cons, List.map_nil, List.cons_append,
      List.nil_append, List.mem_cons, reduceCtorEq, Piece.binding.injEq, false_or, or_false,
      List.not_mem_nil] at he
    rcases he with rfl | rfl | rfl <;> decide
  have paired : PairedValues sampleParams := by
    intro p hp value hv
    simp only [sampleParams, List.mem_cons, List.not_mem_nil, or_false] at hp
    rcases hp with rfl | rfl <;> (cases hv; decide)
  have wellCut : isWellCut samplePieces = true := by decide
  obtain ⟨text, bound, hfilled, hread⟩ := value_filled_template prints_sample
    (onlyOpenings_of_isWellCut wellCut) (braceFree_of_isWellCut wellCut) (by decide)
    supplied paired "find.query"
  have shallow : (filled (String.ofList (written samplePieces)) sampleParams).toOption.all
      (fun r => Query.nesting r.1.toList ≤ Query.deepest) = true := by decide +kernel
  rw [hfilled] at shallow
  have hdocument : sampleTemplate.document sampleParams =
      .obj [("a', \"c\": '", .str "', \"c\": '"), ("b", .arr [.arr [.null], .int 1])] := by
    decide +kernel
  rw [hdocument] at hread
  exact ⟨text, bound, hfilled, hread (by simpa [Except.toOption] using shallow)⟩

end Substitution
end FormDispatch
