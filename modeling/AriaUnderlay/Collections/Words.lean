import Mathlib

/-!
# Words of a text

A text is cut into words at the items that do not belong to a word.  Replacing every run of such
items by one mark, and dropping the marks at both ends, keeps exactly the words: two texts end up
the same precisely if they have the same words.
-/

namespace Collections

variable {α : Type} (keep : α → Bool) (mark : α)

/-- Put one mark in the place of every run of items that are not kept.  The flag says whether the
text continues such a run. -/
def replaceRuns : Bool → List α → List α
  | _, [] => []
  | inRun, item :: rest =>
      if keep item then item :: replaceRuns false rest
      else if inRun then replaceRuns true rest
      else mark :: replaceRuns true rest

/-- Drop items at both ends. -/
def strip (drop : α → Bool) (items : List α) : List α :=
  (items.dropWhile drop).rdropWhile drop

/-- The maximal runs of items that are kept. -/
def wordsOf (items : List α) : List (List α) :=
  (items.splitOnP fun item => !keep item).filter fun word => !word.isEmpty

variable {keep mark}

theorem rdropWhile_cons (test : α → Bool) (item : α) (rest : List α) :
    (item :: rest).rdropWhile test =
      if rest.rdropWhile test = [] ∧ test item = true then []
      else item :: rest.rdropWhile test := by
  induction rest using List.reverseRecOn with
  | nil => by_cases dropped : test item <;> simp [List.rdropWhile, dropped]
  | append_singleton rest last ih =>
      rw [← List.cons_append]
      by_cases dropped : test last
      · rw [List.rdropWhile_concat_pos _ _ _ dropped, List.rdropWhile_concat_pos _ _ _ dropped, ih]
      · rw [List.rdropWhile_concat_neg _ _ _ dropped, List.rdropWhile_concat_neg _ _ _ dropped]
        simp

/-! ## Both ends -/

variable {drop : α → Bool} {items word : List α} {item : α} {words : List (List α)}

theorem head?_strip {first : α} (isFirst : (strip drop items).head? = some first) :
    drop first = false := by
  rcases List.rdropWhile_prefix drop (l := items.dropWhile drop) with ⟨removed, whole⟩
  have isHead : (items.dropWhile drop).head? = some first := by
    rw [← whole, List.head?_append, ← strip, isFirst]
    rfl
  have kept := List.head?_dropWhile_not drop items
  rw [isHead] at kept
  simpa using kept

theorem strip_eq_self (keptFirst : ∀ first, items.head? = some first → drop first = false)
    (keptLast : ∀ last, items.getLast? = some last → drop last = false) :
    strip drop items = items := by
  have front : items.dropWhile drop = items := by
    cases items with
    | nil => rfl
    | cons first rest => simp [keptFirst first rfl]
  rw [strip, front, List.rdropWhile_eq_self_iff]
  intro nonempty dropped
  have kept := keptLast _ (List.getLast?_eq_some_getLast nonempty)
  simp [kept] at dropped

theorem strip_concat {last : α} (dropped : drop last = true) (items : List α) :
    strip drop (items ++ [last]) = strip drop items := by
  rw [strip, List.dropWhile_append]
  split
  case isTrue empty =>
    rw [strip, List.isEmpty_iff.mp empty]
    simp [dropped]
  case isFalse => rw [List.rdropWhile_concat_pos _ _ _ dropped, strip]

theorem strip_strip (drop : α → Bool) (items : List α) :
    strip drop (strip drop items) = strip drop items := by
  apply strip_eq_self
  · exact fun first isFirst => head?_strip isFirst
  · intro last isLast
    have nonempty : (items.dropWhile drop).rdropWhile drop ≠ [] := by
      intro empty
      simp [strip, empty] at isLast
    have kept := List.rdropWhile_last_not drop (items.dropWhile drop) nonempty
    rw [strip, List.getLast?_eq_some_getLast nonempty, Option.some.injEq] at isLast
    rw [isLast] at kept
    simpa using kept

/-! ## Words and marks -/

/-- The words after the first one, each behind a mark. -/
def markedWords (mark : α) (words : List (List α)) : List α :=
  words.flatMap (mark :: ·)

theorem intercalate_cons_eq (word : List α) (words : List (List α)) :
    [mark].intercalate (word :: words) = word ++ markedWords mark words := by
  induction words generalizing word with
  | nil => simp [markedWords]
  | cons next rest ih => simp [List.intercalate_cons_cons, ih, markedWords]

theorem mem_intercalate (member : item ∈ [mark].intercalate words) :
    item = mark ∨ ∃ word ∈ words, item ∈ word := by
  cases words with
  | nil => simp at member
  | cons word rest =>
      rw [intercalate_cons_eq, List.mem_append] at member
      rcases member with inWord | inRest
      · exact .inr ⟨word, List.mem_cons_self .., inWord⟩
      · rcases List.mem_flatMap.mp inRest with ⟨next, isWord, inNext⟩
        rcases List.mem_cons.mp inNext with isMark | inNext
        · exact .inl isMark
        · exact .inr ⟨next, List.mem_cons_of_mem _ isWord, inNext⟩

theorem map_intercalate {β : Type} (f : α → β) (mark : α) (words : List (List α)) :
    ([mark].intercalate words).map f = [f mark].intercalate (words.map (List.map f)) := by
  cases words with
  | nil => simp
  | cons word rest =>
      rw [List.map_cons, intercalate_cons_eq, intercalate_cons_eq, List.map_append]
      simp [markedWords, List.map_flatMap, List.flatMap_map]

theorem markedWords_of_nonempty (nonempty : words ≠ []) :
    markedWords mark words = mark :: [mark].intercalate words := by
  cases words with
  | nil => exact absurd rfl nonempty
  | cons word rest => simp [markedWords, intercalate_cons_eq]

theorem intercalate_eq_nil_iff (nonempty : ∀ word ∈ words, word ≠ []) :
    [mark].intercalate words = [] ↔ words = [] := by
  cases words with
  | nil => simp
  | cons word rest =>
      rw [intercalate_cons_eq]
      simp [nonempty word List.mem_cons_self]

theorem ne_nil_of_mem_wordsOf (member : word ∈ wordsOf keep items) :
    word ≠ [] := by
  simpa using (List.mem_filter.mp member).2

theorem keep_of_mem_wordsOf (isWord : word ∈ wordsOf keep items) (member : item ∈ word) :
    keep item = true := by
  have isPiece := (List.mem_filter.mp isWord).1
  clear isWord
  induction items generalizing word with
  | nil =>
      rw [List.splitOnP_nil, List.mem_singleton] at isPiece
      simp [isPiece] at member
  | cons first rest ih =>
      rcases List.exists_cons_of_ne_nil
        (List.splitOnP_ne_nil (fun item => !keep item) rest) with ⟨head, tail, restSplit⟩
      rw [List.splitOnP_cons_eq_if_modifyHead, restSplit] at isPiece
      rw [restSplit] at ih
      cases kept : keep first with
      | true =>
          simp only [kept, Bool.not_true, Bool.false_eq_true, if_false, List.modifyHead_cons,
            List.mem_cons] at isPiece
          rcases isPiece with rfl | inTail
          · rcases List.mem_cons.mp member with rfl | inHead
            · exact kept
            · exact ih inHead List.mem_cons_self
          · exact ih member (List.mem_cons_of_mem head inTail)
      | false =>
          simp only [kept, Bool.not_false, if_true, List.mem_cons] at isPiece
          rcases isPiece with rfl | inRest
          · cases member
          · exact ih member (List.mem_cons.mpr inRest)

/-- A word that stands at the beginning is the first one. -/
theorem wordsOf_append_cons (nonempty : word ≠ []) (isWord : ∀ letter ∈ word, keep letter = true)
    (dropped : keep item = false) (rest : List α) :
    wordsOf keep (word ++ item :: rest) = word :: wordsOf keep rest := by
  rw [wordsOf, List.splitOnP_append_cons_of_forall_mem (by simpa using isWord) item (by simpa)]
  simp [wordsOf, nonempty]

theorem wordsOf_cons_of_not_keep {rest : List α} (dropped : keep item = false) :
    wordsOf keep (item :: rest) = wordsOf keep rest := by
  simp [wordsOf, List.splitOnP_cons_eq_if_modifyHead, dropped]

section Strip

variable (isMark : keep mark = false)

include isMark

theorem ne_mark_of_keep (kept : keep item = true) : item ≠ mark := by
  rintro rfl
  simp [kept] at isMark

variable [DecidableEq α]

/-- Without the marks at its end, a replaced text is its words with marks between them.  The second
part is about a text that continues a word, of which `first` is the rest. -/
theorem rdropWhile_replaceRuns (items : List α) :
    (replaceRuns keep mark true items).rdropWhile (· = mark) =
        [mark].intercalate (wordsOf keep items) ∧
      ∀ first pieces, items.splitOnP (fun item => !keep item) = first :: pieces →
        (replaceRuns keep mark false items).rdropWhile (· = mark) =
          first ++ markedWords mark (pieces.filter fun word => !word.isEmpty) := by
  induction items with
  | nil =>
      refine ⟨by simp [replaceRuns, wordsOf], ?_⟩
      intro first pieces split
      simp only [List.splitOnP_nil, List.cons.injEq] at split
      rcases split with ⟨rfl, rfl⟩
      simp [replaceRuns, markedWords]
  | cons item rest ih =>
      rcases ih with ⟨afterRun, inWord⟩
      rcases List.exists_cons_of_ne_nil
        (List.splitOnP_ne_nil (fun item => !keep item) rest) with ⟨head, tail, restSplit⟩
      have restWords := inWord head tail restSplit
      cases kept : keep item with
      | true =>
          have split :
              (item :: rest).splitOnP (fun item => !keep item) = (item :: head) :: tail := by
            simp [List.splitOnP_cons_eq_if_modifyHead, kept, restSplit]
          have words : ((item :: replaceRuns keep mark false rest).rdropWhile (· = mark)) =
              (item :: head) ++ markedWords mark (tail.filter fun word => !word.isEmpty) := by
            rw [rdropWhile_cons, if_neg (by simp [ne_mark_of_keep isMark kept]), restWords]
            rfl
          constructor
          · rw [replaceRuns, if_pos kept, words, wordsOf, split]
            simp [intercalate_cons_eq]
          · intro first pieces sameSplit
            rw [split, List.cons.injEq] at sameSplit
            rcases sameSplit with ⟨rfl, rfl⟩
            rw [replaceRuns, if_pos kept, words]
      | false =>
          have split : (item :: rest).splitOnP (fun item => !keep item) = [] :: head :: tail := by
            simp [List.splitOnP_cons_eq_if_modifyHead, kept, restSplit]
          constructor
          · rw [replaceRuns, if_neg (by simp [kept]), if_pos rfl, afterRun,
              wordsOf_cons_of_not_keep kept]
          · intro first pieces sameSplit
            rw [split, List.cons.injEq] at sameSplit
            rcases sameSplit with ⟨rfl, rfl⟩
            rw [replaceRuns, if_neg (by simp [kept]), if_neg (by simp), rdropWhile_cons, afterRun,
              ← restSplit]
            change _ = markedWords mark (wordsOf keep rest)
            have emptyIff : [mark].intercalate (wordsOf keep rest) = [] ↔ wordsOf keep rest = [] :=
              intercalate_eq_nil_iff fun _ => ne_nil_of_mem_wordsOf
            by_cases empty : wordsOf keep rest = []
            · simp [empty, markedWords]
            · rw [if_neg (by simp [emptyIff, empty]), markedWords_of_nonempty empty]

theorem dropWhile_replaceRuns (inRun : Bool) (items : List α) :
    (replaceRuns keep mark inRun items).dropWhile (· = mark) =
      replaceRuns keep mark true items := by
  induction items generalizing inRun with
  | nil => rfl
  | cons item rest ih =>
      cases kept : keep item with
      | true => simp [replaceRuns, kept, ne_mark_of_keep isMark kept]
      | false => cases inRun <;> simp [replaceRuns, kept, ih]

/-- What is left of a text is its words with marks between them. -/
theorem strip_replaceRuns (items : List α) :
    strip (· = mark) (replaceRuns keep mark false items) =
      [mark].intercalate (wordsOf keep items) := by
  rw [strip, dropWhile_replaceRuns isMark, (rdropWhile_replaceRuns isMark items).1]

end Strip

/-- The words can be read back from the text with marks between them. -/
theorem intercalate_inj [DecidableEq α] {others : List (List α)}
    (nonempty : ∀ word ∈ words, word ≠ [] ∧ mark ∉ word)
    (othersNonempty : ∀ word ∈ others, word ≠ [] ∧ mark ∉ word) :
    [mark].intercalate words = [mark].intercalate others ↔ words = others := by
  constructor
  · intro same
    have emptyIff : words = [] ↔ others = [] := by
      rw [← intercalate_eq_nil_iff fun word member => (nonempty word member).1, same,
        intercalate_eq_nil_iff fun word member => (othersNonempty word member).1]
    by_cases empty : words = []
    · rw [empty, emptyIff.mp empty]
    · have split := List.splitOn_intercalate mark
        (fun word member => (nonempty word member).2) empty
      have otherSplit := List.splitOn_intercalate mark
        (fun word member => (othersNonempty word member).2) (fun none => empty (emptyIff.mpr none))
      rw [← split, same, otherSplit]
  · rintro rfl
    rfl

/-! ## Texts joined by a mark -/

theorem append_cons_inj {left left' right right' : List α} (unmarked : mark ∉ right)
    (unmarked' : mark ∉ right') (same : left ++ mark :: right = left' ++ mark :: right') :
    left = left' ∧ right = right' := by
  rcases List.append_eq_append_iff.mp same with ⟨rest, leftEq, rightEq⟩ | ⟨rest, leftEq, rightEq⟩
  · cases rest with
    | nil => simp_all
    | cons first rest =>
        rw [List.cons_append, List.cons.injEq] at rightEq
        exact absurd (by simp [rightEq.2]) unmarked
  · cases rest with
    | nil => simp_all
    | cons first rest =>
        rw [List.cons_append, List.cons.injEq] at rightEq
        exact absurd (by simp [rightEq.2]) unmarked'

/-- Without a bound on the marks, two joined texts are also the same where a piece between two marks
went from the end of one left part to the beginning of the other right part. -/
theorem append_cons_eq_iff {left left' right right' : List α} :
    left ++ mark :: right = left' ++ mark :: right' ↔
      (left = left' ∧ right = right') ∨
        (∃ middle, left = left' ++ mark :: middle ∧ right' = middle ++ mark :: right) ∨
          ∃ middle, left' = left ++ mark :: middle ∧ right = middle ++ mark :: right' := by
  constructor
  · intro same
    rcases List.append_eq_append_iff.mp same with ⟨rest, leftEq, rightEq⟩ | ⟨rest, leftEq, rightEq⟩
    · cases rest with
      | nil => simp_all
      | cons first rest =>
          rw [List.cons_append, List.cons.injEq] at rightEq
          rcases rightEq with ⟨rfl, rightEq⟩
          exact .inr (.inr ⟨rest, leftEq, rightEq⟩)
    · cases rest with
      | nil => simp_all
      | cons first rest =>
          rw [List.cons_append, List.cons.injEq] at rightEq
          rcases rightEq with ⟨rfl, rightEq⟩
          exact .inr (.inl ⟨rest, leftEq, rightEq⟩)
  · rintro (⟨rfl, rfl⟩ | ⟨middle, rfl, rfl⟩ | ⟨middle, rfl, rfl⟩)
    · rfl
    · simp
    · simp

end Collections
