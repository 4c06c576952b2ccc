import AriaUnderlay.Collections.Intervals
import AriaUnderlay.Collections.Results
import AriaUnderlay.Model.PythonNumber
import AriaUnderlay.Netconf.Device

/-!
# VLAN lists as text

A trunk port has its VLANs in one text such as `10,20-25`.  The renderer writes it with a loop that
carries the run it is in, and the state parser reads it part by part.
-/

namespace AriaUnderlay.H3c

open Collections Effect Python

/-! ## The renderer -/

def formatVlanRange (start last : ℕ) : String :=
  if start = last then toString start else toString start ++ "-" ++ toString last

/-- The loop over the sorted ids after the first one. -/
def formatRanges (ranges : List String) (start previous : ℕ) : List ℕ → List String
  | [] => ranges ++ [formatVlanRange start previous]
  | vlanId :: rest =>
      if vlanId = previous + 1 then formatRanges ranges start vlanId rest
      else formatRanges (ranges ++ [formatVlanRange start previous]) vlanId vlanId rest

/-- There is no text for an empty list, of which the renderer would take the first item. -/
def formatVlanRanges (vlanIds : List ℕ) : Option String :=
  match vlanIds.insertionSort (· ≤ ·) with
  | [] => none
  | first :: rest => some (",".intercalate (formatRanges [] first first rest))

/-! ## The state parser -/

/-- The error of the parser. -/
def parseError (summary : String) : AdapterError where
  code := "NETCONF_STATE_PARSE_FAILED"
  message := "NETCONF running state parser failed"
  normalizedError := "state parse failed"
  rawErrorSummary := summary
  retryable := false

/-- A VLAN id in range. -/
def parseVlanId (text : String) : Except AdapterError ℕ :=
  match parseInt text with
  | none => .error (parseError ("invalid VLAN ID " ++ text))
  | some value =>
      if value < 1 ∨ 4094 < value then
        .error (parseError ("invalid VLAN ID " ++ toString value))
      else .ok value.toNat

/-- `str.split` at the first dash only. -/
def cutAtDash (text : String) : String × String :=
  (.ofList (text.toList.takeWhile (· ≠ '-')), .ofList (text.toList.dropWhile (· ≠ '-')).tail)

/-- One id or one range. -/
def parseVlanPart (rawPart : String) : Except AdapterError (List ℕ) := do
  let part := strip rawPart
  if part = "" then return []
  else if '-' ∈ part.toList then
    let (rawStart, rawEnd) := cutAtDash part
    let start ← parseVlanId (strip rawStart)
    let last ← parseVlanId (strip rawEnd)
    if last < start then .error (parseError ("invalid VLAN range " ++ part))
    else return numbersOf (start, last)
  else
    let vlanId ← parseVlanId part
    return [vlanId]

/-- The ids of a list, each once. -/
def parseVlanList (value : String) : Except AdapterError (List ℕ) := do
  let parts ← (splitOn ',' value).mapM parseVlanPart
  let vlans := parts.flatten
  if vlans.Nodup then return vlans
  else .error (parseError "trunk port mode has duplicate allowed VLAN")

/-! ## Runs -/

theorem formatRanges_eq (ranges : List String) (start previous : ℕ) (vlanIds : List ℕ) :
    formatRanges ranges start previous vlanIds =
      ranges ++ (runsFrom start previous vlanIds).map fun run => formatVlanRange run.1 run.2 := by
  induction vlanIds generalizing ranges start previous with
  | nil => simp [formatRanges, runsFrom]
  | cons vlanId rest ih =>
      by_cases follows : vlanId = previous + 1
      · simp only [formatRanges, runsFrom, if_pos follows, ih]
      · simp only [formatRanges, runsFrom, if_neg follows, ih, List.map_cons, List.append_assoc,
          List.singleton_append]

/-! ## Reading what was written -/

theorem parseVlanId_toString {vlanId : ℕ} (inRange : 1 ≤ vlanId ∧ vlanId ≤ 4094) :
    parseVlanId (toString vlanId) = .ok vlanId := by
  rw [parseVlanId, parseInt_toString]
  dsimp only
  rw [if_neg (by omega), Int.toNat_natCast]

theorem parseVlanId_eq_ok {text : String} {vlanId : ℕ} (parsed : parseVlanId text = .ok vlanId) :
    1 ≤ vlanId ∧ vlanId ≤ 4094 := by
  unfold parseVlanId at parsed
  split at parsed
  · cases parsed
  · split at parsed
    · cases parsed
    · cases parsed
      omega

theorem strip_toString (number : ℕ) : strip (toString number) = toString number :=
  strip_of_no_space fun _ member => isSpace_eq_false_of_isDigit (isDigit_of_mem_toString member)

theorem not_mem_toString {number : ℕ} {c : Char} (noDigit : c.isDigit = false) :
    c ∉ (toString number).toList := by
  intro member
  rw [isDigit_of_mem_toString member] at noDigit
  cases noDigit

theorem toString_ne_empty (number : ℕ) : toString number ≠ "" := by
  intro empty
  exact toList_toString_ne_nil number (by rw [empty]; rfl)

theorem cutAtDash_append {first second : String} (noDash : '-' ∉ first.toList) :
    cutAtDash (first ++ "-" ++ second) = (first, second) := by
  have kept : ∀ c ∈ first.toList, decide (c ≠ '-') = true := by
    intro c member
    rw [decide_eq_true_eq]
    rintro rfl
    exact noDash member
  have letters : (first ++ "-" ++ second).toList = first.toList ++ '-' :: second.toList := by simp
  rw [cutAtDash, letters, List.takeWhile_append_of_pos kept, List.dropWhile_append_of_pos kept]
  simp

theorem parseVlanPart_formatVlanRange {start last : ℕ} (ordered : start ≤ last)
    (startInRange : 1 ≤ start ∧ start ≤ 4094) (lastInRange : 1 ≤ last ∧ last ≤ 4094) :
    parseVlanPart (formatVlanRange start last) = .ok (numbersOf (start, last)) := by
  have noDash : '-' ∉ (toString start).toList := not_mem_toString (by decide)
  by_cases single : start = last
  · subst single
    rw [formatVlanRange, if_pos rfl, parseVlanPart, strip_toString]
    dsimp only
    rw [if_neg (toString_ne_empty start), if_neg noDash, parseVlanId_toString startInRange,
      numbersOf_self]
    rfl
  · have isPart : strip (toString start ++ "-" ++ toString last) =
        toString start ++ "-" ++ toString last := by
      apply strip_of_no_space
      intro c member
      simp only [String.toList_append, List.mem_append] at member
      rcases member with (member | member) | member
      · exact isSpace_eq_false_of_isDigit (isDigit_of_mem_toString member)
      · rw [List.mem_singleton.mp member]
        rfl
      · exact isSpace_eq_false_of_isDigit (isDigit_of_mem_toString member)
    have nonempty : toString start ++ "-" ++ toString last ≠ "" := by
      intro empty
      simpa using congrArg String.toList empty
    have hasDash : '-' ∈ (toString start ++ "-" ++ toString last).toList := by simp
    rw [formatVlanRange, if_neg single, parseVlanPart, isPart]
    dsimp only
    rw [if_neg nonempty, if_pos hasDash, cutAtDash_append noDash, strip_toString, strip_toString,
      parseVlanId_toString startInRange, parseVlanId_toString lastInRange]
    simp only [bind, Except.bind]
    rw [if_neg (by omega)]
    rfl

theorem comma_not_mem_formatVlanRange (start last : ℕ) :
    ',' ∉ (formatVlanRange start last).toList := by
  unfold formatVlanRange
  split
  · exact not_mem_toString (by decide)
  · simp only [String.toList_append, List.mem_append]
    rintro ((member | member) | member)
    · exact not_mem_toString (by decide) member
    · cases List.mem_singleton.mp member
    · exact not_mem_toString (by decide) member

theorem parseVlanList_intercalate {ranges : List (ℕ × ℕ)} (nonempty : ranges ≠ [])
    (ordered : ∀ range ∈ ranges, range.1 ≤ range.2)
    (inRange : ∀ vlanId ∈ ranges.flatMap numbersOf, 1 ≤ vlanId ∧ vlanId ≤ 4094)
    (distinct : (ranges.flatMap numbersOf).Nodup) :
    parseVlanList (",".intercalate (ranges.map fun range => formatVlanRange range.1 range.2)) =
      .ok (ranges.flatMap numbersOf) := by
  have isSplit : splitOn ','
      (",".intercalate (ranges.map fun range => formatVlanRange range.1 range.2)) =
        ranges.map fun range => formatVlanRange range.1 range.2 := by
    have letters : ∀ part ∈ (ranges.map fun range => formatVlanRange range.1 range.2).map
        String.toList, ',' ∉ part := by
      simp only [List.mem_map]
      rintro _ ⟨_, ⟨range, -, rfl⟩, rfl⟩
      exact comma_not_mem_formatVlanRange range.1 range.2
    have mark : ",".toList = [','] := rfl
    rw [splitOn, String.toList_intercalate, mark, List.splitOn_intercalate ',' letters (by simpa)]
    simp
  have parsed : ∀ range ∈ ranges,
      (parseVlanPart ∘ fun range => formatVlanRange range.1 range.2) range =
        .ok (numbersOf range) := by
    intro range member
    have isOrdered := ordered range member
    rw [Function.comp_apply]
    apply parseVlanPart_formatVlanRange isOrdered
    · exact inRange _ (List.mem_flatMap.mpr ⟨range, member, mem_numbersOf.mpr ⟨le_rfl, isOrdered⟩⟩)
    · exact inRange _ (List.mem_flatMap.mpr ⟨range, member, mem_numbersOf.mpr ⟨isOrdered, le_rfl⟩⟩)
  rw [parseVlanList, isSplit, List.mapM_map, mapM_eq_ok_map parsed]
  simp only [bind, Except.bind, ← List.flatMap_def]
  rw [if_pos distinct]
  rfl

/-! ## Lossless texts -/

theorem pairwise_lt_insertionSort {vlanIds : List ℕ} (distinct : vlanIds.Nodup) :
    (vlanIds.insertionSort (· ≤ ·)).Pairwise (· < ·) :=
  pairwise_lt_sortedBy (by simpa using distinct)

/-- The ranges of the text. -/
theorem exists_ranges {vlanIds : List ℕ} (nonempty : vlanIds ≠ []) (distinct : vlanIds.Nodup) :
    ∃ ranges : List (ℕ × ℕ), ranges ≠ [] ∧ (∀ range ∈ ranges, range.1 ≤ range.2) ∧
      ranges.Pairwise Apart ∧ ranges.flatMap numbersOf = vlanIds.insertionSort (· ≤ ·) ∧
      formatVlanRanges vlanIds =
        some (",".intercalate (ranges.map fun range => formatVlanRange range.1 range.2)) := by
  have sorted := pairwise_lt_insertionSort distinct
  rw [formatVlanRanges]
  cases isSorted : vlanIds.insertionSort (· ≤ ·) with
  | nil =>
      have perm := List.perm_insertionSort (· ≤ ·) vlanIds
      rw [isSorted] at perm
      exact absurd perm.nil_eq.symm nonempty
  | cons first rest =>
      rw [isSorted] at sorted
      refine ⟨runsFrom first first rest, runsFrom_ne_nil, ?_, ?_, ?_, ?_⟩
      · exact fun range member => le_of_mem_runsFrom le_rfl member
      · exact pairwise_apart_runsFrom le_rfl sorted
      · rw [flatMap_runsFrom le_rfl, numbersOf_self]
        rfl
      · dsimp only
        rw [formatRanges_eq, List.nil_append]

theorem inRange_of_parseVlanPart {rawPart : String} {vlanIds : List ℕ}
    (parsed : parseVlanPart rawPart = .ok vlanIds) :
    ∀ vlanId ∈ vlanIds, 1 ≤ vlanId ∧ vlanId ≤ 4094 := by
  intro vlanId member
  unfold parseVlanPart at parsed
  dsimp only at parsed
  split at parsed
  · cases parsed
    cases member
  · split at parsed
    · rcases bind_eq_ok.mp parsed with ⟨start, startParsed, parsed⟩
      rcases bind_eq_ok.mp parsed with ⟨last, lastParsed, parsed⟩
      split at parsed
      · cases parsed
      · cases parsed
        have startInRange := parseVlanId_eq_ok startParsed
        have lastInRange := parseVlanId_eq_ok lastParsed
        have between := mem_numbersOf.mp member
        omega
    · rcases bind_eq_ok.mp parsed with ⟨single, singleParsed, parsed⟩
      cases parsed
      rw [List.mem_singleton.mp member]
      exact parseVlanId_eq_ok singleParsed

/-- The VLAN ids come back in increasing order, from a text whose ranges neither overlap nor touch.
Whatever text the parser accepts, it returns distinct VLAN ids. -/
theorem vlanRanges_lossless :
    (∀ vlanIds : List ℕ, vlanIds ≠ [] → vlanIds.Nodup →
      (∀ vlanId ∈ vlanIds, 1 ≤ vlanId ∧ vlanId ≤ 4094) →
        ∃ text parsed, formatVlanRanges vlanIds = some text ∧ parseVlanList text = .ok parsed ∧
          parsed.Perm vlanIds ∧ parsed.Pairwise (· < ·) ∧
          ∃ ranges : List (ℕ × ℕ),
            text = ",".intercalate (ranges.map fun range => formatVlanRange range.1 range.2) ∧
              (∀ range ∈ ranges, range.1 ≤ range.2) ∧ ranges.Pairwise Apart) ∧
      ∀ text parsed, parseVlanList text = .ok parsed →
        parsed.Nodup ∧ ∀ vlanId ∈ parsed, 1 ≤ vlanId ∧ vlanId ≤ 4094 := by
  constructor
  · intro vlanIds nonempty distinct inRange
    rcases exists_ranges nonempty distinct with
      ⟨ranges, someRange, ordered, apart, numbers, isText⟩
    have sorted := pairwise_lt_insertionSort distinct
    have perm := List.perm_insertionSort (· ≤ ·) vlanIds
    refine ⟨_, _, isText, parseVlanList_intercalate someRange ordered ?_ ?_, ?_, ?_, ranges, rfl,
      ordered, apart⟩
    · intro vlanId member
      rw [numbers, perm.mem_iff] at member
      exact inRange vlanId member
    · rw [numbers]
      exact perm.nodup_iff.mpr distinct
    · rw [numbers]
      exact perm
    · rw [numbers]
      exact sorted
  · intro text parsed accepted
    rcases bind_eq_ok.mp accepted with ⟨parts, isParts, accepted⟩
    dsimp only at accepted
    split at accepted
    · cases accepted
      refine ⟨by assumption, ?_⟩
      intro vlanId member
      rcases List.mem_flatten.mp member with ⟨part, isPart, member⟩
      rcases exists_of_mem_mapM isParts isPart with ⟨rawPart, -, parsed⟩
      exact inRange_of_parseVlanPart parsed vlanId member
    · cases accepted

theorem vlanRanges_lossless_two_ranges :
    ∃ text parsed, formatVlanRanges [12, 30, 10, 11] = some text ∧
      parseVlanList text = .ok parsed ∧ parsed.Perm [12, 30, 10, 11] ∧ parsed.Pairwise (· < ·) ∧
        ∃ ranges : List (ℕ × ℕ),
          text = ",".intercalate (ranges.map fun range => formatVlanRange range.1 range.2) ∧
            (∀ range ∈ ranges, range.1 ≤ range.2) ∧ ranges.Pairwise Apart :=
  vlanRanges_lossless.1 [12, 30, 10, 11] (by decide) (by decide) (by decide)

example : formatVlanRanges [12, 30, 10, 11] = some "10-12,30" := by
  decide +kernel

end AriaUnderlay.H3c
