import AriaUnderlay.Effect.Program

/-!
# Fallible loops

A loop that maps every item of a list, or stops with the first error.
-/

namespace Collections

open Effect

section Pairs

variable {First Second : Type} {related : First → Second → Prop} {firsts : List First}
variable {seconds : List Second}

theorem exists_right_of_mem {first : First} (pairs : List.Forall₂ related firsts seconds)
    (member : first ∈ firsts) :
    ∃ second ∈ seconds, related first second := by
  induction pairs with
  | nil => cases member
  | cons pair pairs ih =>
      rcases List.mem_cons.mp member with rfl | member
      · exact ⟨_, List.mem_cons_self .., pair⟩
      · rcases ih member with ⟨second, isSecond, pair⟩
        exact ⟨second, List.mem_cons_of_mem _ isSecond, pair⟩

theorem exists_left_of_mem {second : Second} (pairs : List.Forall₂ related firsts seconds)
    (member : second ∈ seconds) :
    ∃ first ∈ firsts, related first second :=
  exists_right_of_mem pairs.flip member

end Pairs

variable {Error Item Value : Type} {convert : Item → Except Error Value} {items : List Item}
variable {values : List Value}

/-- The loop succeeds with the values of the items. -/
theorem mapM_eq_ok :
    items.mapM convert = .ok values ↔
      List.Forall₂ (fun item value => convert item = .ok value) items values := by
  induction items generalizing values with
  | nil => simp [pure, Except.pure, eq_comm]
  | cons item items ih =>
      rw [List.mapM_cons, bind_eq_ok]
      constructor
      · rintro ⟨value, found, rest⟩
        rcases bind_eq_ok.mp rest with ⟨others, founds, ⟨⟩⟩
        exact .cons found (ih.mp founds)
      · rintro (_ | ⟨found, founds⟩)
        exact ⟨_, found, bind_eq_ok.mpr ⟨_, ih.mpr founds, rfl⟩⟩

theorem mapM_eq_ok_map {value : Item → Value}
    (converts : ∀ item ∈ items, convert item = .ok (value item)) :
    items.mapM convert = .ok (items.map value) := by
  rw [mapM_eq_ok, List.forall₂_map_right_iff, List.forall₂_same]
  exact converts

theorem exists_of_mem_mapM {value : Value} (mapped : items.mapM convert = .ok values)
    (member : value ∈ values) :
    ∃ item ∈ items, convert item = .ok value := by
  rcases exists_left_of_mem (mapM_eq_ok.mp mapped) member with ⟨item, isItem, converted⟩
  exact ⟨item, isItem, converted⟩

end Collections
