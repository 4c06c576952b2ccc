import AriaUnderlay.Collections.Keyed

/-!
# Directories of encoded values

A directory holds one file for every entry of a map: the file name comes from the key, the content
encodes the value.  `Represents` relates the two, and writing, removing and listing files keeps up
with inserting, erasing and listing entries.  A directory lists its files in an order of its own, so
that only a sorted listing is determined by the map.

`trace` is the list of answers that a store gives to a sequence of operations, and
`trace_eq_of_simulation` compares two stores step by step.
-/

namespace Storage

open Collections

/-- A format in which values can be written and read back. -/
structure Codec (α Payload : Type) where
  encode : α → Payload
  decode : Payload → Except String α
  decode_encode : ∀ value, decode (encode value) = .ok value

/-- An order in which the elements of a collection are enumerated. -/
structure Enumeration (α : Type) where
  order : List α → List α
  perm : ∀ items, (order items).Perm items

/-- The files of a directory by name; `none` if there is no such directory. -/
abbrev Directory (Payload : Type) : Type := Option (BTreeMap String Payload)

namespace Directory

variable {Payload : Type}

def read (directory : Directory Payload) (name : String) : Option Payload :=
  directory.bind fun files => files[name]?

/-- Replace a file at once; the directory is created if it is missing. -/
def write (directory : Directory Payload) (name : String) (payload : Payload) :
    Directory Payload :=
  some ((directory.getD ∅).insert name payload)

def remove (directory : Directory Payload) (name : String) : Directory Payload :=
  directory.map fun files => files.erase name

def files (directory : Directory Payload) : List (String × Payload) :=
  (directory.getD ∅).toList

variable {directory : Directory Payload} {name other : String} {payload : Payload}

theorem read_write :
    (directory.write name payload).read other =
      if name = other then some payload else directory.read other := by
  cases directory with
  | none => simp [read, write, Std.ExtTreeMap.getElem?_insert]
  | some files => simp [read, write, Std.ExtTreeMap.getElem?_insert]

theorem read_remove :
    (directory.remove name).read other =
      if name = other then none else directory.read other := by
  cases directory with
  | none => simp [read, remove]
  | some files => simp [read, remove, Std.ExtTreeMap.getElem?_erase]

theorem mem_files : (name, payload) ∈ directory.files ↔ directory.read name = some payload := by
  cases directory with
  | none => simp [read, files]
  | some files => simp [read, Directory.files, Std.ExtTreeMap.mem_toList_iff_getElem?_eq_some]

theorem nodup_files (directory : Directory Payload) : directory.files.Nodup := by
  apply List.Pairwise.imp _ Std.ExtTreeMap.ordered_keys_toList
  rintro left right ordered rfl
  simp at ordered

end Directory

/-! ## Extensions -/

/-- What follows the last dot of a file name, if something stands before it. -/
def extension (name : String) : Option String :=
  if name = ".." then none
  else
    match name.toList.reverse.dropWhile (· ≠ '.') with
    | [] | [_] => none
    | _ => some (.ofList (name.toList.reverse.takeWhile (· ≠ '.')).reverse)

theorem extension_append {stem suffix : String} (nonempty : stem ≠ "") (visible : suffix ≠ "")
    (undotted : '.' ∉ suffix.toList) :
    extension (stem ++ "." ++ suffix) = some suffix := by
  have reversed : (stem ++ "." ++ suffix).toList.reverse =
      suffix.toList.reverse ++ '.' :: stem.toList.reverse := by
    simp [String.toList_append]
  have passes : ∀ c ∈ suffix.toList.reverse, decide (c ≠ '.') = true := by
    intro c member
    rw [List.mem_reverse] at member
    exact decide_eq_true fun isDot => undotted (isDot ▸ member)
  have notParent : stem ++ "." ++ suffix ≠ ".." := by
    intro isParent
    have lengths := congrArg (fun name => name.toList.length) isParent
    simp only [String.toList_append, List.length_append] at lengths
    have stemLength : stem.toList.length ≠ 0 := by simpa using nonempty
    have suffixLength : suffix.toList.length ≠ 0 := by simpa using visible
    simp at lengths
    omega
  rw [extension, if_neg notParent, reversed, List.dropWhile_append_of_pos passes,
    List.takeWhile_append_of_pos passes]
  rcases stemReversed : stem.toList.reverse with _ | ⟨last, rest⟩
  · simp at stemReversed
    exact absurd stemReversed nonempty
  · simp

/-! ## Directories that represent maps -/

section Represents

variable {α Payload : Type} (codec : Codec α Payload) (fileName : String → String)

/-- The directory holds the map, one file per entry. -/
structure Represents (directory : Directory Payload) (map : BTreeMap String α) : Prop where
  read : ∀ key, directory.read (fileName key) = map[key]?.map codec.encode
  named : ∀ name payload, directory.read name = some payload →
    ∃ key value, name = fileName key ∧ map[key]? = some value

/-- Every value stands under its own key. -/
def KeyedBy (key : α → String) (map : BTreeMap String α) : Prop :=
  ∀ index value, map[index]? = some value → key value = index

variable {codec fileName} {directory : Directory Payload} {map : BTreeMap String α}
variable {key : α → String}

theorem Represents.empty (noFiles : ∀ name, directory.read name = none) :
    Represents codec fileName directory ∅ where
  read := fun key => by simp [noFiles]
  named := fun name payload found => by simp [noFiles] at found

theorem KeyedBy.empty : KeyedBy key ∅ := by
  intro index value found
  simp at found

theorem KeyedBy.insert {value : α} (keyed : KeyedBy key map) :
    KeyedBy key (map.insert (key value) value) := by
  intro index stored found
  rw [Std.ExtTreeMap.getElem?_insert] at found
  split at found
  · rename_i same
    cases found
    exact Std.LawfulEqCmp.eq_of_compare same
  · exact keyed index stored found

theorem KeyedBy.erase {removed : String} (keyed : KeyedBy key map) :
    KeyedBy key (map.erase removed) := by
  intro index stored found
  rw [Std.ExtTreeMap.getElem?_erase] at found
  split at found
  · cases found
  · exact keyed index stored found

section Injective

variable (injective : Function.Injective fileName)
include injective

theorem Represents.write {index : String} {value : α}
    (represents : Represents codec fileName directory map) :
    Represents codec fileName (directory.write (fileName index) (codec.encode value))
      (map.insert index value) := by
  constructor
  · intro other
    rw [Directory.read_write, Std.ExtTreeMap.getElem?_insert, represents.read]
    by_cases same : index = other
    · simp [same]
    · simp [same, injective.ne same]
  · intro name payload found
    rw [Directory.read_write] at found
    split at found
    · rename_i same
      exact ⟨index, value, same.symm, by simp⟩
    · rename_i differs
      rcases represents.named name payload found with ⟨other, stored, rfl, isStored⟩
      have apart : index ≠ other := fun same => differs (congrArg fileName same)
      exact ⟨other, stored, rfl, by simp [Std.ExtTreeMap.getElem?_insert, apart, isStored]⟩

theorem Represents.remove {index : String} (represents : Represents codec fileName directory map) :
    Represents codec fileName (directory.remove (fileName index)) (map.erase index) := by
  constructor
  · intro other
    rw [Directory.read_remove, Std.ExtTreeMap.getElem?_erase, represents.read]
    by_cases same : index = other
    · simp [same]
    · simp [same, injective.ne same]
  · intro name payload found
    rw [Directory.read_remove] at found
    split at found
    · cases found
    · rename_i differs
      rcases represents.named name payload found with ⟨other, stored, rfl, isStored⟩
      have apart : index ≠ other := fun same => differs (congrArg fileName same)
      exact ⟨other, stored, rfl, by simp [Std.ExtTreeMap.getElem?_erase, apart, isStored]⟩

/-- The files are those of the entries, in some order. -/
theorem Represents.files_perm (represents : Represents codec fileName directory map) :
    directory.files.Perm
      (map.toList.map fun entry => (fileName entry.1, codec.encode entry.2)) := by
  have nodup : (map.toList.map fun entry => (fileName entry.1, codec.encode entry.2)).Nodup := by
    rw [List.nodup_iff_pairwise_ne, List.pairwise_map]
    apply List.Pairwise.imp _ Std.ExtTreeMap.distinct_keys_toList
    intro left right apart same
    apply apart
    rw [injective (Prod.mk.inj same).1]
    exact Std.ReflOrd.compare_self
  rw [List.perm_ext_iff_of_nodup directory.nodup_files nodup]
  rintro ⟨name, payload⟩
  rw [Directory.mem_files, List.mem_map]
  constructor
  · intro found
    rcases represents.named name payload found with ⟨index, value, rfl, isStored⟩
    rw [represents.read, isStored] at found
    cases found
    exact ⟨(index, value), Std.ExtTreeMap.mem_toList_iff_getElem?_eq_some.mpr isStored, rfl⟩
  · rintro ⟨⟨index, value⟩, member, same⟩
    cases same
    rw [represents.read, Std.ExtTreeMap.mem_toList_iff_getElem?_eq_some.mp member]
    rfl

end Injective

/-- The values of a map in the order of their keys. -/
def valuesInOrder (map : BTreeMap String α) : List α :=
  map.toList.map Prod.snd

theorem getElem?_of_mem_valuesInOrder {value : α} (keyed : KeyedBy key map)
    (member : value ∈ valuesInOrder map) :
    map[key value]? = some value := by
  rw [valuesInOrder, List.mem_map] at member
  rcases member with ⟨⟨index, stored⟩, isEntry, rfl⟩
  rw [Std.ExtTreeMap.mem_toList_iff_getElem?_eq_some] at isEntry
  rw [keyed index stored isEntry, isEntry]

theorem pairwise_valuesInOrder (keyed : KeyedBy key map) :
    (valuesInOrder map).Pairwise fun left right => key left < key right := by
  rw [valuesInOrder, List.pairwise_map]
  apply List.Pairwise.imp_of_mem _ Std.ExtTreeMap.ordered_keys_toList
  rintro ⟨leftKey, left⟩ ⟨rightKey, right⟩ leftMember rightMember ordered
  rw [Std.ExtTreeMap.mem_toList_iff_getElem?_eq_some] at leftMember rightMember
  rw [keyed leftKey left leftMember, keyed rightKey right rightMember]
  exact compare_lt_iff_lt.mp ordered

/-- Sorting by key restores the order of the map. -/
theorem mergeSort_eq_valuesInOrder {values : List α} {keep : α → Bool} (keyed : KeyedBy key map)
    (perm : values.Perm ((valuesInOrder map).filter keep)) :
    values.mergeSort (fun left right => key left ≤ key right) =
      (valuesInOrder map).filter keep := by
  have sorted : ((valuesInOrder map).filter keep).Pairwise
      fun left right => key left ≤ key right :=
    ((pairwise_valuesInOrder keyed).filter keep).imp le_of_lt
  have resorted : (values.mergeSort fun left right => key left ≤ key right).Pairwise
      fun left right => key left ≤ key right := by
    apply List.Pairwise.imp _ (List.pairwise_mergeSort _ _ values)
    · exact fun below => of_decide_eq_true below
    · intro first second third below above
      simp only [decide_eq_true_eq] at below above ⊢
      exact below.trans above
    · intro first second
      simpa using le_total (key first) (key second)
  have resortedPerm :=
    (List.mergeSort_perm values fun left right => key left ≤ key right).trans perm
  apply List.Perm.eq_of_pairwise _ resorted sorted resortedPerm
  intro left right leftMember rightMember below above
  have leftFound := getElem?_of_mem_valuesInOrder keyed
    (List.mem_of_mem_filter (resortedPerm.subset leftMember))
  have rightFound := getElem?_of_mem_valuesInOrder keyed (List.mem_of_mem_filter rightMember)
  rw [le_antisymm below above, rightFound, Option.some.injEq] at leftFound
  exact leftFound.symm

end Represents

/-! ## Reading all files of a directory -/

section Load

variable {α ε Payload : Type}

/-- Parse the files with the extension one by one, stop at the first that does not parse, and keep
the wanted values. -/
def loadFiles (suffix : String) (parse : String → Payload → Except ε α) (keep : α → Bool)
    (loaded : List α) :
    List (String × Payload) → Except ε (List α)
  | [] => .ok loaded
  | (name, payload) :: rest =>
      if extension name = some suffix then do
        let value ← parse name payload
        loadFiles suffix parse keep (if keep value then loaded ++ [value] else loaded) rest
      else
        loadFiles suffix parse keep loaded rest

theorem loadFiles_eq_ok {suffix : String} {parse : String → Payload → Except ε α} {keep : α → Bool}
    {files : List (String × Payload)} {values : List α} (loaded : List α)
    (parses : List.Forall₂ (fun file value =>
      extension file.1 = some suffix ∧ parse file.1 file.2 = .ok value) files values) :
    loadFiles suffix parse keep loaded files = .ok (loaded ++ values.filter keep) := by
  induction parses generalizing loaded with
  | nil => simp [loadFiles]
  | @cons file value files values head _ ih =>
      rw [loadFiles, if_pos head.1, head.2]
      change
        loadFiles suffix parse keep (if keep value then loaded ++ [value] else loaded) files = _
      rw [ih]
      by_cases kept : keep value
      · simp [kept]
      · simp [kept]

/-- Loading a directory that represents a map and sorting what was loaded gives the wanted values
of the map in order, whichever way the files are listed. -/
theorem Represents.mergeSort_loadFiles {suffix : String} {parse : String → Payload → Except ε α}
    {keep : α → Bool} {codec : Codec α Payload} {fileName : String → String} {key : α → String}
    {directory : Directory Payload} {map : BTreeMap String α}
    (injective : Function.Injective fileName) (represents : Represents codec fileName directory map)
    (keyed : KeyedBy key map) (order : Enumeration (String × Payload))
    (parses : ∀ index value, map[index]? = some value →
      extension (fileName index) = some suffix ∧
        parse (fileName index) (codec.encode value) = .ok value) :
    (loadFiles suffix parse keep [] (order.order directory.files)).map
        (fun values => values.mergeSort fun left right => key left ≤ key right) =
      .ok ((valuesInOrder map).filter keep) := by
  have listed := (order.perm directory.files).trans (represents.files_perm injective)
  have entriesParse : List.Forall₂ (fun file value =>
      extension file.1 = some suffix ∧ parse file.1 file.2 = .ok value)
      (map.toList.map fun entry => (fileName entry.1, codec.encode entry.2))
      (valuesInOrder map) := by
    rw [valuesInOrder, List.forall₂_map_left_iff, List.forall₂_map_right_iff, List.forall₂_same]
    rintro ⟨index, value⟩ member
    exact parses index value (Std.ExtTreeMap.mem_toList_iff_getElem?_eq_some.mp member)
  rcases List.perm_comp_forall₂ listed entriesParse with ⟨values, valuesParse, perm⟩
  rw [loadFiles_eq_ok [] valuesParse, List.nil_append, Except.map,
    mergeSort_eq_valuesInOrder keyed (perm.filter keep)]

end Load

/-! ## Stores side by side -/

section Trace

variable {Op Answer State Other : Type}

/-- The answers to a sequence of operations. -/
def trace (step : State → Op → Answer × State) : State → List Op → List Answer
  | _, [] => []
  | state, op :: ops => (step state op).1 :: trace step (step state op).2 ops

theorem trace_eq_of_simulation {step : State → Op → Answer × State}
    {otherStep : Other → Op → Answer × Other} (related : State → Other → Prop) {allowed : Op → Prop}
    (simulates : ∀ {state other op}, allowed op → related state other →
      (step state op).1 = (otherStep other op).1 ∧
        related (step state op).2 (otherStep other op).2)
    {state : State}
    {other : Other}
    {ops : List Op}
    (start : related state other)
    (allowedOps : ∀ op ∈ ops, allowed op) :
    trace step state ops = trace otherStep other ops := by
  induction ops generalizing state other with
  | nil => rfl
  | cons op ops ih =>
      rcases simulates (allowedOps op List.mem_cons_self) start with ⟨sameAnswer, stillRelated⟩
      rw [trace, trace, sameAnswer,
        ih stillRelated fun later member => allowedOps later (List.mem_cons_of_mem _ member)]

end Trace

end Storage
