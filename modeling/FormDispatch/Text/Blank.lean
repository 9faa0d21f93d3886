/-
# Blank characters

The characters that count as white space in every text the library reads, and trimming by them.
The set is that of Unicode's bidirectional classes B, S and WS together with the space
separators: 29 characters, among them the four information separators U+001C to U+001F and the
next line U+0085, but not the zero-width space U+200B nor the byte order mark U+FEFF.

`trim_nil_iff` says that trimming leaves nothing exactly when every character is blank.
-/

namespace FormDispatch
namespace Text

/-- A character is blank when Unicode counts it as white space or as a separator of blocks. -/
def isBlank (c : Char) : Bool :=
  let n := c.toNat
  (9 ≤ n && n ≤ 13) || (28 ≤ n && n ≤ 32) || n == 0x85 || n == 0xA0 || n == 0x1680 ||
    (0x2000 ≤ n && n ≤ 0x200A) || n == 0x2028 || n == 0x2029 || n == 0x202F || n == 0x205F ||
    n == 0x3000

/-- A character is white space by Unicode's property of that name: blank, but no information
separator. -/
def isWhiteSpace (c : Char) : Bool :=
  isBlank c && !(28 ≤ c.toNat && c.toNat ≤ 31)

/-- Blank characters are dropped at the front. -/
def trimFront (s : List Char) : List Char :=
  s.dropWhile isBlank

/-- Blank characters are dropped at the back. -/
def trimBack (s : List Char) : List Char :=
  (s.reverse.dropWhile isBlank).reverse

/-- Blank characters are dropped at both ends. -/
def trim (s : List Char) : List Char :=
  trimBack (trimFront s)

/-- The text without the blank characters at its ends. -/
def trimmed (s : String) : String :=
  String.ofList (trim s.toList)

/-- A text is blank when it holds nothing but blank characters. -/
def isBlankText (s : String) : Bool :=
  s.toList.all isBlank

/-- Characters of the given set are dropped at both ends. -/
def trimOf (drop : Char → Bool) (s : List Char) : List Char :=
  ((s.dropWhile drop).reverse.dropWhile drop).reverse

private theorem dropWhile_eq_nil_iff (p : Char → Bool) (s : List Char) :
    s.dropWhile p = [] ↔ s.all p = true := by
  induction s with
  | nil => simp
  | cons c r ih => by_cases h : p c <;> simp [h, ih]

private theorem head_dropWhile {p : Char → Bool} {s r : List Char} {c : Char}
    (h : s.dropWhile p = c :: r) : p c = false := by
  induction s with
  | nil => simp at h
  | cons d t ih =>
    by_cases hd : p d
    · exact ih (by simpa [hd] using h)
    · simp only [List.dropWhile_cons, hd] at h
      cases h
      simpa using hd

/-- Trimming leaves nothing exactly when all characters are blank. -/
theorem trim_nil_iff (s : List Char) : trim s = [] ↔ s.all isBlank = true := by
  unfold trim trimBack trimFront
  rw [List.reverse_eq_nil_iff, dropWhile_eq_nil_iff, List.all_reverse]
  constructor
  · intro h
    rw [← dropWhile_eq_nil_iff]
    cases hd : s.dropWhile isBlank with
    | nil => rfl
    | cons c r =>
      rw [hd] at h
      simp [head_dropWhile hd] at h
  · intro h
    rw [(dropWhile_eq_nil_iff _ _).2 h]
    rfl

end Text
end FormDispatch
