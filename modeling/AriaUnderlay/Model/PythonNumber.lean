import AriaUnderlay.Model.PythonText

/-!
# Numbers in the adapter's texts

`int` of a text accepts white space around the number, a sign, any decimal digits of Unicode and
single underscores between them.
-/

namespace AriaUnderlay.Python

open Collections

/-- The zeros of the blocks of decimal digits in Unicode 14. -/
def decimalZeros : List ℕ :=
  [0x30, 0x660, 0x6F0, 0x7C0, 0x966, 0x9E6, 0xA66, 0xAE6, 0xB66, 0xBE6, 0xC66, 0xCE6, 0xD66, 0xDE6,
    0xE50, 0xED0, 0xF20, 0x1040, 0x1090, 0x17E0, 0x1810, 0x1946, 0x19D0, 0x1A80, 0x1A90, 0x1B50,
    0x1BB0, 0x1C40, 0x1C50, 0xA620, 0xA8D0, 0xA900, 0xA9D0, 0xA9F0, 0xAA50, 0xABF0, 0xFF10,
    0x104A0, 0x10D30, 0x11066, 0x110F0, 0x11136, 0x111D0, 0x112F0, 0x11450, 0x114D0, 0x11650,
    0x116C0, 0x11730, 0x118E0, 0x11950, 0x11C50, 0x11D50, 0x11DA0, 0x16A60, 0x16AC0, 0x16B50,
    0x1D7CE, 0x1D7D8, 0x1D7E2, 0x1D7EC, 0x1D7F6, 0x1E140, 0x1E2F0, 0x1E950, 0x1FBF0]

/-- `unicodedata.decimal`. -/
def decimalValue (c : Char) : Option ℕ :=
  (decimalZeros.find? fun first => first ≤ c.toNat ∧ c.toNat < first + 10).map (c.toNat - ·)

/-- The characters that `\d` matches. -/
def isDecimal (c : Char) : Bool :=
  (decimalValue c).isSome

/-- Further digits of a number, with single underscores between them. -/
def readDigits : List Char → ℕ → Option ℕ
  | [], value => some value
  | '_' :: c :: rest, value => do
      let digit ← decimalValue c
      readDigits rest (10 * value + digit)
  | c :: rest, value => do
      let digit ← decimalValue c
      readDigits rest (10 * value + digit)

def readNumber : List Char → Option ℕ
  | [] => none
  | c :: rest => do
      let digit ← decimalValue c
      readDigits rest digit

/-- The white space that `int` skips. -/
def isNumberSpace (c : Char) : Bool :=
  isSpace c && !(0x1C ≤ c.toNat && c.toNat ≤ 0x1F)

/-- `int` of a text.  Its limit of 4300 digits is left out. -/
def parseInt (text : String) : Option ℤ :=
  match Collections.strip isNumberSpace text.toList with
  | '+' :: digits => (readNumber digits).map Int.ofNat
  | '-' :: digits => (readNumber digits).map fun value => -Int.ofNat value
  | digits => (readNumber digits).map Int.ofNat

theorem toNat_of_isDigit {c : Char} (isDigit : c.isDigit = true) :
    48 ≤ c.toNat ∧ c.toNat ≤ 57 :=
  Char.isDigit_iff_toNat.mp isDigit

theorem isSpace_eq_false_of_isDigit {c : Char} (isDigit : c.isDigit = true) :
    isSpace c = false := by
  have bounds := toNat_of_isDigit isDigit
  simp only [isSpace, decide_eq_false_iff_not]
  omega

theorem strip_of_no_space {text : String} (kept : ∀ c ∈ text.toList, isSpace c = false) :
    strip text = text := by
  rw [strip, strip_eq_self (fun c isFirst => kept c (List.mem_of_mem_head? isFirst))
    fun c isLast => kept c (List.mem_of_mem_getLast? isLast), String.ofList_toList]

theorem decimalValue_of_isDigit {c : Char} (isDigit : c.isDigit = true) :
    decimalValue c = some (c.toNat - '0'.toNat) := by
  have bounds := toNat_of_isDigit isDigit
  have found : decimalZeros.find? (fun first => first ≤ c.toNat ∧ c.toNat < first + 10) =
      some 0x30 := by
    apply List.find?_cons_of_pos
    simp only [decide_eq_true_eq]
    omega
  rw [decimalValue, found]
  rfl

theorem readDigits_of_isDigit {digits : List Char} {value : ℕ}
    (areDigits : ∀ c ∈ digits, c.isDigit = true) :
    readDigits digits value = some (Nat.ofDigitChars 10 digits value) := by
  induction digits generalizing value with
  | nil => simp [readDigits]
  | cons c rest ih =>
      have isDigit := areDigits c (by simp)
      have notMark : c ≠ '_' := by
        rintro rfl
        cases isDigit
      rw [readDigits]
      · rw [decimalValue_of_isDigit isDigit, Nat.ofDigitChars_cons]
        exact ih fun c member => areDigits c (by simp [member])
      · intro _ _ isMark
        exact absurd isMark notMark

theorem readNumber_of_isDigit {digits : List Char} (nonempty : digits ≠ [])
    (areDigits : ∀ c ∈ digits, c.isDigit = true) :
    readNumber digits = some (Nat.ofDigitChars 10 digits 0) := by
  rcases digits with _ | ⟨c, rest⟩
  · exact absurd rfl nonempty
  · rw [readNumber, decimalValue_of_isDigit (areDigits c (by simp)), Nat.ofDigitChars_cons]
    simpa using readDigits_of_isDigit fun c member => areDigits c (by simp [member])

theorem parseInt_of_isDigit {text : String} (nonempty : text.toList ≠ [])
    (areDigits : ∀ c ∈ text.toList, c.isDigit = true) :
    parseInt text = some ((Nat.ofDigitChars 10 text.toList 0 : ℕ) : ℤ) := by
  have kept : ∀ c ∈ text.toList, isNumberSpace c = false := fun c member => by
    rw [isNumberSpace, isSpace_eq_false_of_isDigit (areDigits c member), Bool.false_and]
  have stripped : Collections.strip isNumberSpace text.toList = text.toList :=
    strip_eq_self (fun c isFirst => kept c (List.mem_of_mem_head? isFirst))
      fun c isLast => kept c (List.mem_of_mem_getLast? isLast)
  have unsigned : ∀ sign digits, sign ∈ ['+', '-'] → text.toList ≠ sign :: digits := by
    intro sign digits isSign same
    have isDigit := areDigits sign (by rw [same]; simp)
    rcases List.mem_pair.mp isSign with rfl | rfl <;> exact absurd isDigit (by decide)
  rw [parseInt, stripped]
  split
  · rename_i digits same
    exact absurd same (unsigned _ digits (by simp))
  · rename_i digits same
    exact absurd same (unsigned _ digits (by simp))
  · rw [readNumber_of_isDigit nonempty areDigits]
    rfl

theorem isDigit_of_mem_toString {number : ℕ} {c : Char} (member : c ∈ (toString number).toList) :
    c.isDigit = true := by
  rw [Nat.toString_eq_ofList_toDigits, String.toList_ofList] at member
  exact Nat.isDigit_of_mem_toDigits (by decide) (by decide) member

theorem toList_toString_ne_nil (number : ℕ) : (toString number).toList ≠ [] := by
  rw [Nat.toString_eq_ofList_toDigits, String.toList_ofList]
  exact Nat.toDigits_ne_nil

/-- `int` reads what `str` writes. -/
theorem parseInt_toString (number : ℕ) : parseInt (toString number) = some (number : ℤ) := by
  rw [parseInt_of_isDigit (toList_toString_ne_nil number) fun c => isDigit_of_mem_toString,
    Nat.toString_eq_ofList_toDigits, String.toList_ofList, Nat.ofDigitChars_ten_toDigits]

end AriaUnderlay.Python
