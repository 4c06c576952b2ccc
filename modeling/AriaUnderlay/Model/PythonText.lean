import AriaUnderlay.Collections.Words

/-!
# Text operations of the adapter

The adapter is written in Python, whose `str` functions differ from those of the core in what they
take for white space and for the end of a line.
-/

namespace AriaUnderlay.Python

open Collections

/-- The characters for which `str.isspace` holds. -/
def isSpace (c : Char) : Bool :=
  let code := c.toNat
  (9 ≤ code ∧ code ≤ 13) ∨ (0x1C ≤ code ∧ code ≤ 0x20) ∨ code = 0x85 ∨ code = 0xA0 ∨
    code = 0x1680 ∨ (0x2000 ≤ code ∧ code ≤ 0x200A) ∨ code = 0x2028 ∨ code = 0x2029 ∨
    code = 0x202F ∨ code = 0x205F ∨ code = 0x3000

/-- The characters at which `str.splitlines` cuts. -/
def isLineBreak (c : Char) : Bool :=
  let code := c.toNat
  (10 ≤ code ∧ code ≤ 13) ∨ (0x1C ≤ code ∧ code ≤ 0x1E) ∨ code = 0x85 ∨ code = 0x2028 ∨
    code = 0x2029

/-- `str.strip` without an argument. -/
def strip (text : String) : String :=
  .ofList (Collections.strip isSpace text.toList)

/-- `str.split` without an argument. -/
def split (text : String) : List String :=
  (wordsOf (fun c => !isSpace c) text.toList).map .ofList

/-- `str.split` with a one-letter argument. -/
def splitOn (mark : Char) (text : String) : List String :=
  (text.toList.splitOn mark).map .ofList

/-- What a text file opened with the default newline mode reads as. -/
def decodeNewlines : List Char → List Char
  | [] => []
  | '\r' :: '\n' :: rest => '\n' :: decodeNewlines rest
  | '\r' :: rest => '\n' :: decodeNewlines rest
  | c :: rest => c :: decodeNewlines rest

/-- `str.splitlines` with the line ends kept, on a text without carriage returns. -/
def splitLines : List Char → List (List Char)
  | [] => []
  | c :: rest =>
      if isLineBreak c then [c] :: splitLines rest
      else
        match splitLines rest with
        | [] => [[c]]
        | line :: lines => (c :: line) :: lines

/-! ## Lines -/

theorem isSpace_of_isLineBreak {c : Char} (isBreak : isLineBreak c = true) : isSpace c = true := by
  simp only [isLineBreak, isSpace, decide_eq_true_eq] at isBreak ⊢
  omega

theorem not_mem_decodeNewlines (text : List Char) : '\r' ∉ decodeNewlines text := by
  induction text using decodeNewlines.induct with
  | case1 => simp [decodeNewlines]
  | case2 rest ih => simpa [decodeNewlines] using ih
  | case3 rest notPair ih => simpa [decodeNewlines] using ih
  | case4 c rest notPair notReturn ih =>
      rw [decodeNewlines.eq_4 _ _ notPair notReturn, List.mem_cons, not_or]
      exact ⟨fun isReturn => notReturn isReturn.symm, ih⟩

theorem decodeNewlines_eq_self {text : List Char} (plain : '\r' ∉ text) :
    decodeNewlines text = text := by
  induction text with
  | nil => rfl
  | cons c rest ih =>
      rw [List.mem_cons, not_or] at plain
      rw [decodeNewlines.eq_4 _ _ (fun _ isReturn => absurd isReturn.symm plain.1)
        (fun isReturn => plain.1 isReturn.symm), ih plain.2]

theorem flatten_splitLines (text : List Char) : (splitLines text).flatten = text := by
  induction text with
  | nil => rfl
  | cons c rest ih =>
      rw [splitLines]
      split
      · simp [ih]
      · cases lines : splitLines rest with
        | nil =>
            rw [lines] at ih
            rw [← ih]
            rfl
        | cons line more =>
            rw [lines, List.flatten_cons] at ih
            rw [List.flatten_cons, List.cons_append, ih]

/-- The text is empty or its last line has an end. -/
def Terminated (text : List Char) : Prop :=
  ∀ c, text.getLast? = some c → isLineBreak c = true

/-- Lines are found independently of what stood before a line end. -/
theorem splitLines_append {text : List Char} (terminated : Terminated text) (more : List Char) :
    splitLines (text ++ more) = splitLines text ++ splitLines more := by
  induction text with
  | nil => rfl
  | cons c rest ih =>
      rw [List.cons_append, splitLines, splitLines]
      cases rest with
      | nil =>
          have isBreak := terminated c rfl
          simp [isBreak, splitLines]
      | cons next rest =>
          have restTerminated : Terminated (next :: rest) := fun last isLast =>
            terminated last (by simpa [List.getLast?_cons_cons] using isLast)
          rw [ih restTerminated]
          split
          · rfl
          · cases lines : splitLines (next :: rest) with
            | nil =>
                have flat := flatten_splitLines (next :: rest)
                simp [lines] at flat
            | cons line more => rfl

theorem splitLines_singleton {line : List Char} {last : Char}
    (oneLine : ∀ c ∈ line, isLineBreak c = false) (ends : isLineBreak last = true) :
    splitLines (line ++ [last]) = [line ++ [last]] := by
  induction line with
  | nil => simp [splitLines, ends]
  | cons c rest ih =>
      rw [List.cons_append, splitLines, if_neg (by simp [oneLine c List.mem_cons_self]),
        ih fun other member => oneLine other (List.mem_cons_of_mem c member)]

end AriaUnderlay.Python
