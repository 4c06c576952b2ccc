import AriaUnderlay.Effect.Program

/-!
# Checks over lists

A check either passes or stops with an error.  `recordDistinct` is the loop that request checks
share: it walks over the items, remembers the keys it has seen, and refuses a key that comes again.
`eachDistinct` is the loop where nothing is asked of the keys afterwards.
-/

namespace Collections

variable {Error Item Key : Type}

/-- What follows a check passes when the check does. -/
theorem andThen_eq_ok {Value : Type} {first : Except Error Unit}
    {next : Unit → Except Error Value} {value : Value} :
    (first >>= next) = .ok value ↔ first = .ok () ∧ next () = .ok value :=
  Effect.bind_eq_ok.trans Unique.exists_iff

/-- The check that stops at what is `bad`. -/
def refuseIf (bad : Prop) [Decidable bad] (error : Error) : Except Error Unit :=
  if bad then .error error else .ok ()

@[simp]
theorem refuseIf_eq_ok {bad : Prop} [Decidable bad] {error : Error} :
    refuseIf bad error = .ok () ↔ ¬bad := by
  by_cases refused : bad <;> simp [refuseIf, refused]

variable {items : List Item}

theorem forM_eq_ok {check : Item → Except Error Unit} :
    items.forM check = .ok () ↔ ∀ item ∈ items, check item = .ok () := by
  induction items with
  | nil => simp [pure, Except.pure]
  | cons item items ih => rw [List.forM, andThen_eq_ok, ih, List.forall_mem_cons]

variable [DecidableEq Key]

/-- Check every item, with one part of the check before its key is recorded and one after, and
return the keys recorded. -/
def recordDistinct (before : Item → Except Error Unit) (key : Item → Key)
    (duplicate : Item → Error) (after : Item → Except Error Unit) :
    List Key → List Item → Except Error (List Key)
  | seen, [] => .ok seen
  | seen, item :: items => do
      before item
      refuseIf (key item ∈ seen) (duplicate item)
      after item
      recordDistinct before key duplicate after (seen ++ [key item]) items

/-- Check every item as `recordDistinct` does and drop the record. -/
def eachDistinct (before : Item → Except Error Unit) (key : Item → Key) (duplicate : Item → Error)
    (after : Item → Except Error Unit) (seen : List Key) (items : List Item) :
    Except Error Unit := do
  let _ ← recordDistinct before key duplicate after seen items
  .ok ()

variable
  {before after : Item → Except Error Unit}
  {key : Item → Key}
  {duplicate : Item → Error}

/-- The loop passes when every item does and no key is repeated or was there at the start.  It has
then recorded the keys of all items. -/
theorem recordDistinct_eq_ok_of_seen {seen recorded : List Key} :
    recordDistinct before key duplicate after seen items = .ok recorded ↔
      ((∀ item ∈ items, before item = .ok () ∧ after item = .ok ()) ∧
        (items.map key).Nodup ∧ ∀ item ∈ items, key item ∉ seen) ∧
      recorded = seen ++ items.map key := by
  induction items generalizing seen with
  | nil => simp [recordDistinct, eq_comm]
  | cons item items ih =>
      simp only [recordDistinct, andThen_eq_ok, refuseIf_eq_ok, ih, List.forall_mem_cons,
        List.map_cons, List.nodup_cons, List.append_assoc, List.singleton_append]
      constructor
      · rintro ⟨beforeItem, unseen, afterItem, ⟨rest, distinct, notSeen⟩, isRecord⟩
        refine ⟨⟨⟨⟨beforeItem, afterItem⟩, rest⟩, ⟨?_, distinct⟩, unseen, ?_⟩, isRecord⟩
        · intro repeated
          rcases List.mem_map.mp repeated with ⟨other, member, sameKey⟩
          exact notSeen other member (by simp [sameKey])
        · exact fun other member isSeen => notSeen other member (List.mem_append_left _ isSeen)
      · rintro ⟨⟨⟨⟨beforeItem, afterItem⟩, rest⟩, ⟨fresh, distinct⟩, unseen, notSeen⟩, isRecord⟩
        refine ⟨beforeItem, unseen, afterItem, ⟨rest, distinct, ?_⟩, isRecord⟩
        intro other member isSeen
        rcases List.mem_append.mp isSeen with isSeen | sameKey
        · exact notSeen other member isSeen
        · exact fresh (List.mem_singleton.mp sameKey ▸ List.mem_map_of_mem member)

theorem recordDistinct_eq_ok {recorded : List Key} :
    recordDistinct before key duplicate after [] items = .ok recorded ↔
      ((∀ item ∈ items, before item = .ok () ∧ after item = .ok ()) ∧ (items.map key).Nodup) ∧
      recorded = items.map key := by
  simp [recordDistinct_eq_ok_of_seen]

theorem eachDistinct_eq_ok :
    eachDistinct before key duplicate after [] items = .ok () ↔
      (∀ item ∈ items, before item = .ok () ∧ after item = .ok ()) ∧ (items.map key).Nodup := by
  simp [eachDistinct, Effect.bind_eq_ok, recordDistinct_eq_ok]

/-- What passed goes on to pass when items are dropped, also checks that have become weaker. -/
theorem eachDistinct_of_sublist {weakBefore weakAfter : Item → Except Error Unit}
    {kept : List Item} (accepted : eachDistinct before key duplicate after [] items = .ok ())
    (isKept : kept.Sublist items)
    (beforeKept : ∀ item ∈ kept, before item = .ok () → weakBefore item = .ok ())
    (afterKept : ∀ item ∈ kept, after item = .ok () → weakAfter item = .ok ()) :
    eachDistinct weakBefore key duplicate weakAfter [] kept = .ok () := by
  rw [eachDistinct_eq_ok] at accepted ⊢
  rcases accepted with ⟨each, distinct⟩
  refine ⟨fun item isItem => ?_, distinct.sublist (isKept.map key)⟩
  rcases each item (isKept.subset isItem) with ⟨passedBefore, passedAfter⟩
  exact ⟨beforeKept item isItem passedBefore, afterKept item isItem passedAfter⟩

end Collections
