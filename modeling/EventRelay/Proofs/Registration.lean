import EventRelay.Orders.Mapping

/-!
# Registration

Mappers under names of their own are registered one after another, and what each of them
satisfies the whole registry satisfies. Here that is used of mappers that look at no headers,
as those of order events do.
-/

namespace EventRelay

namespace Registry

variable {registry : Registry} {property : Mapper → Prop}

/-- Every mapper that a registry holds has a property. -/
def AllMappers (property : Mapper → Prop) (registry : Registry) : Prop :=
  ∀ eventType mapper, registry.mappers.get? eventType = some mapper → property mapper

theorem allMappers_empty : AllMappers property empty := by
  intro eventType mapper found
  rw [empty] at found
  contradiction

theorem AllMappers.insert (all : AllMappers property registry) (eventType : String)
    {mapper : Mapper} (holds : property mapper) :
    AllMappers property ⟨registry.mappers.insert eventType mapper⟩ := by
  intro name held found
  rw [Dictionary.get?_insert] at found
  split at found
  · rw [← Option.some.inj found]
    exact holds
  · exact all name held found

/-- Under a new name that is not blank a mapper is registered. -/
theorem register_of_fresh {eventType : String} (mapper : Mapper)
    (unblank : Text.isBlank eventType = false)
    (fresh : registry.mappers.get? eventType = none) :
    registry.register eventType mapper =
      .ok ⟨registry.mappers.insert eventType mapper⟩ := by
  rw [register_eq_ite, Dictionary.contains, unblank, fresh]
  rfl

/-- Mappers under different names, none of them blank and all of them new, are registered,
and what they all satisfy holds of the registry as it did before. -/
theorem registerAll_of_fresh {mappers : List (String × Mapper)}
    (all : AllMappers property registry) (holds : ∀ entry ∈ mappers, property entry.2)
    (unblank : ∀ eventType ∈ mappers.map Prod.fst, Text.isBlank eventType = false)
    (fresh : ∀ eventType ∈ mappers.map Prod.fst, registry.mappers.get? eventType = none)
    (distinct : (mappers.map Prod.fst).Nodup) :
    ∃ result, registry.registerAll mappers = .ok result ∧ AllMappers property result := by
  induction mappers generalizing registry with
  | nil => exact ⟨registry, rfl, all⟩
  | cons entry rest ih =>
      obtain ⟨different, distinct⟩ := List.nodup_cons.mp distinct
      rw [List.map_cons, List.forall_mem_cons] at unblank fresh
      rw [List.forall_mem_cons] at holds
      have next := all.insert entry.1 holds.1
      have restFresh : ∀ later ∈ rest.map Prod.fst,
          (registry.mappers.insert entry.1 entry.2).get? later = none := by
        intro later mem
        have other : later ≠ entry.1 := ne_of_mem_of_not_mem mem different
        rw [Dictionary.get?_insert, if_neg other, fresh.2 later mem]
      obtain ⟨result, registered, held⟩ := ih next holds.2 unblank.2 restFresh distinct
      refine ⟨result, ?_, held⟩
      rw [registerAll, List.foldlM_cons, register_of_fresh entry.2 unblank.1 fresh.1]
      exact registered

end Registry

/-! ## Mappers and headers -/

/-- What a mapper makes of an envelope does not depend on its headers. -/
def Mapper.IgnoresHeaders (mapper : Mapper) : Prop :=
  ∀ (envelope : Envelope) (headers : Headers),
    mapper { envelope with headers } = mapper envelope

/-- A registry ignores headers if its mappers do. -/
theorem Registry.AllMappers.ignoresHeaders {registry : Registry}
    (all : registry.AllMappers Mapper.IgnoresHeaders) : registry.map.IgnoresHeaders := by
  intro envelope headers
  unfold Registry.map Registry.resolve
  cases found : registry.mappers.get? envelope.eventType with
  | none => rfl
  | some mapper => exact all envelope.eventType mapper found envelope headers

namespace Orders

theorem ignoresHeaders_of_mem_mappers {topic : String} {entry : String × Mapper}
    (mem : entry ∈ mappers topic) : entry.2.IgnoresHeaders := by
  intro envelope headers
  simp only [mappers, List.mem_cons, List.not_mem_nil, or_false] at mem
  rcases mem with rfl | rfl | rfl <;> rfl

/-- The mappers for order events make a registry, of which holds what holds of them all. -/
theorem registerAll_mappers_of_forall {property : Mapper → Prop} (topic : String)
    (holds : ∀ entry ∈ mappers topic, property entry.2) :
    ∃ registry, Registry.empty.registerAll (mappers topic) = .ok registry ∧
      registry.AllMappers property := by
  have names : (mappers topic).map Prod.fst = [createdType, cancelledType, shippedType] := rfl
  have distinct : ((mappers topic).map Prod.fst).Nodup := by
    rw [names]
    decide
  have unblank : ∀ eventType ∈ (mappers topic).map Prod.fst,
      Text.isBlank eventType = false := by
    rw [names]
    decide +kernel
  exact Registry.registerAll_of_fresh Registry.allMappers_empty holds unblank (fun _ _ => rfl)
    distinct

/-- The mappers for order events make a registry, which ignores headers. -/
theorem registerAll_mappers (topic : String) :
    ∃ registry, Registry.empty.registerAll (mappers topic) = .ok registry ∧
      registry.map.IgnoresHeaders := by
  obtain ⟨registry, registered, all⟩ :=
    registerAll_mappers_of_forall topic fun _ mem => ignoresHeaders_of_mem_mappers mem
  exact ⟨registry, registered, all.ignoresHeaders⟩

end Orders

end EventRelay
