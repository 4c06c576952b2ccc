import Mathlib

/-!
# Text operations

The string functions that the engine and the request checks apply: `str::trim` with Unicode
white space, `str::strip_prefix` and `str::contains`.  They are stated on lists of characters.
-/

namespace AriaUnderlay

/-- The characters with the Unicode property `White_Space`, as `char::is_whitespace` has it. -/
def isWhitespace (c : Char) : Bool :=
  let code := c.toNat
  (9 ≤ code ∧ code ≤ 13) ∨ code = 0x20 ∨ code = 0x85 ∨ code = 0xA0 ∨ code = 0x1680 ∨
    (0x2000 ≤ code ∧ code ≤ 0x200A) ∨ code = 0x2028 ∨ code = 0x2029 ∨ code = 0x202F ∨
    code = 0x205F ∨ code = 0x3000

/-- `str::trim`. -/
def trim (text : String) : String :=
  .ofList ((text.toList.dropWhile isWhitespace).rdropWhile isWhitespace)

/-- `str::trim_start`. -/
def trimStart (text : String) : String :=
  .ofList (text.toList.dropWhile isWhitespace)

/-- `str::contains`. -/
def containsText (text phrase : String) : Bool :=
  phrase.toList <:+: text.toList

/-- `str::strip_prefix`. -/
def stripPrefix (text pattern : String) : Option String :=
  (pattern.toList.isPrefixOf? text.toList).map String.ofList

/-- A text in a message, without characters that the `Debug` format escapes. -/
def debugPath (path : String) : String :=
  "\"" ++ path ++ "\""

/-- Text with no white space at either end. -/
def Trimmed (characters : List Char) : Prop :=
  (∀ c, characters.head? = some c → isWhitespace c = false) ∧
    ∀ c, characters.getLast? = some c → isWhitespace c = false

theorem dropWhile_eq_self_of_trimmed {characters : List Char} (trimmed : Trimmed characters) :
    characters.dropWhile isWhitespace = characters := by
  cases characters with
  | nil => rfl
  | cons first rest => simp [trimmed.1 first rfl]

theorem rdropWhile_eq_self_of_trimmed {characters : List Char} (trimmed : Trimmed characters) :
    characters.rdropWhile isWhitespace = characters := by
  rw [List.rdropWhile_eq_self_iff]
  intro nonempty isSpace
  have last := trimmed.2 (characters.getLast nonempty) (List.getLast?_eq_some_getLast nonempty)
  simp [last] at isSpace

theorem trim_eq_self {text : String} (trimmed : Trimmed text.toList) : trim text = text := by
  rw [trim, dropWhile_eq_self_of_trimmed trimmed, rdropWhile_eq_self_of_trimmed trimmed,
    String.ofList_toList]

theorem trimmed_trim (text : String) : Trimmed (trim text).toList := by
  rw [trim, String.toList_ofList]
  generalize start : text.toList.dropWhile isWhitespace = middle
  constructor
  · intro c isHead
    -- what is left after the right trim is a nonempty initial piece of `middle`
    rcases List.rdropWhile_prefix isWhitespace (l := middle) with ⟨removed, whole⟩
    have isHeadOfMiddle : middle.head? = some c := by
      rw [← whole, List.head?_append, isHead]
      rfl
    have kept := List.head?_dropWhile_not isWhitespace text.toList
    rw [start, isHeadOfMiddle] at kept
    simpa using kept
  · intro c isLast
    have nonempty : middle.rdropWhile isWhitespace ≠ [] := by
      intro empty
      simp [empty] at isLast
    have lastNot := List.rdropWhile_last_not isWhitespace middle nonempty
    rw [List.getLast?_eq_some_getLast nonempty, Option.some.injEq] at isLast
    rw [isLast] at lastNot
    simpa using lastNot

@[simp]
theorem trim_trim (text : String) : trim (trim text) = trim text :=
  trim_eq_self (trimmed_trim text)

theorem stripPrefix_eq_some_iff {text pattern rest : String} :
    stripPrefix text pattern = some rest ↔ text = pattern ++ rest := by
  rw [stripPrefix, Option.map_eq_some_iff]
  constructor
  · rintro ⟨characters, matched, rfl⟩
    rw [List.isPrefixOf?_eq_some_iff_append_eq] at matched
    rw [String.ext_iff, String.toList_append, String.toList_ofList, matched]
  · intro whole
    refine ⟨rest.toList, ?_, String.ofList_toList⟩
    rw [List.isPrefixOf?_eq_some_iff_append_eq, whole, String.toList_append]

end AriaUnderlay
