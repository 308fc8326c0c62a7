import EventRelay.Proofs.Announcements
import EventRelay.Proofs.OrderSums

/-!
# The totals that are announced

Whenever other services are told of a created order, the numbers they are told are those of
unbounded arithmetic. They are told of it exactly if nothing leaves its bounds on the way
through the lines: no price of a line, no sum of prices and no number of pieces. The order of
the lines decides which sums are met on the way, but not what they come to.
-/

namespace EventRelay.Orders

/-- Every price of a line and every sum on the way through a list of lines fits. -/
structure FitsThroughout (lines : List Line) : Prop where
  products : ∀ line ∈ lines, Fits line.cost
  /-- What any number of the first lines cost fits. -/
  totals : ∀ count, Fits (cost (lines.take count))
  /-- The pieces on any number of the first lines can be counted. -/
  counts : ∀ count, pieces (lines.take count) < UInt32.size

variable {lines reordered : List Line}

/-- Beyond the last line there is nothing more to sum up. -/
theorem fitsThroughout_iff_upTo :
    (∀ line ∈ lines, Fits line.cost) ∧
        (∀ count ≤ lines.length,
          Fits (cost (lines.take count)) ∧ pieces (lines.take count) < UInt32.size) ↔
      FitsThroughout lines := by
  constructor
  · rintro ⟨products, sums⟩
    have each (count : Nat) := sums (min count lines.length) (Nat.min_le_right _ _)
    simp only [← List.take_eq_take_min] at each
    exact ⟨products, fun count => (each count).1, fun count => (each count).2⟩
  · intro fits
    exact ⟨fits.products, fun count _ => ⟨fits.totals count, fits.counts count⟩⟩

instance : Decidable (FitsThroughout lines) :=
  decidable_of_iff _ fitsThroughout_iff_upTo

/-! ## Exact sums -/

theorem pieces_append (left right : List Line) :
    pieces (left ++ right) = pieces left + pieces right := by
  simp [pieces]

/-- Pieces are never taken away, so the last sum of them is the greatest. -/
theorem fitsThroughout_iff : FitsThroughout lines ↔ Summable lines := by
  constructor
  · intro fits
    have whole := fits.counts lines.length
    rw [List.take_length] at whole
    exact ⟨whole, fits.products, fits.totals⟩
  · intro summable
    refine ⟨summable.cost_fits, summable.sum_fits, ?_⟩
    intro count
    have parts := pieces_append (lines.take count) (lines.drop count)
    rw [List.take_append_drop] at parts
    have whole := summable.pieces_lt
    omega

example : ¬FitsThroughout unsummableOrder.lines := by decide

theorem pieces_perm (perm : lines.Perm reordered) : pieces lines = pieces reordered :=
  (perm.map _).sum_eq

theorem cost_perm (perm : lines.Perm reordered) : cost lines = cost reordered :=
  (perm.map _).sum_eq

/-- Prices that can be summed up come to their exact sum. -/
theorem toInt_of_totalFrom {total value : Int64}
    (summed : totalFrom total lines = .ok value) : value.toInt = total.toInt + cost lines := by
  induction lines generalizing total with
  | nil =>
      obtain rfl := Except.ok.inj summed
      simp [cost]
  | cons line rest ih =>
      simp only [totalFrom, bind_eq_ok_iff] at summed
      obtain ⟨price, multiplied, next, added, others⟩ := summed
      have price_eq : price.toInt = line.cost := int64Within_eq_ok_iff.mp multiplied
      have next_eq := int64Within_eq_ok_iff.mp added
      rw [ih others, next_eq, price_eq, cost_cons, Int.add_assoc]

/-- The numbers of an order are those of unbounded arithmetic. -/
structure Placed.Exact (placed : Placed) (lines : List Line) : Prop where
  itemCount : placed.itemCount.toNat = pieces lines
  total : placed.total.toInt = cost lines

theorem Created.exact_of_placed {event : Created} {placed : Placed}
    (summed : event.placed = .ok placed) : placed.Exact event.lines := by
  simp only [Created.placed, bind_eq_ok_iff] at summed
  obtain ⟨count, counted, total, totalled, made⟩ := summed
  obtain rfl := Except.ok.inj made
  constructor
  · have whole := countFrom_eq_ok_iff.mp counted
    rwa [UInt32.toNat_zero, Nat.zero_add] at whole
  · have whole := toInt_of_totalFrom totalled
    rwa [Int64.toInt_zero, Int.zero_add] at whole

/-- The same lines in another order have the same numbers. -/
theorem Placed.Exact.eq_of_perm {placed other : Placed} (exact : placed.Exact lines)
    (again : other.Exact reordered) (perm : lines.Perm reordered) :
    other.itemCount = placed.itemCount ∧ other.total = placed.total := by
  constructor
  · rw [← UInt32.toNat_inj, exact.itemCount, again.itemCount, pieces_perm perm]
  · rw [← Int64.toInt_inj, exact.total, again.total, cost_perm perm]

/-! ## Announcing them -/

/-- What a message tells other services of an order that was placed. -/
def placedOf? (message : Message) : Option Placed :=
  ((Form.integration .placed).read? message.payload).map IntegrationEvent.data

variable {destination : String} {envelope : Envelope} {event : Created} {message : Message}

/-- An order with lines is announced unless its sums overflow. -/
theorem mapCreated_of_lines (destination : String)
    (read : (Form.bare .created).read? envelope.payload = some event) (lined : event.lines ≠ []) :
    (mapCreated destination envelope).run = event.placed.map fun placed =>
      .ok (announce destination envelope placedName event.orderId placed.toValue) := by
  have parsed : readPayload Created.ofTree? envelope = .ok event := by
    rw [readPayload, show (Json.Tree.parse? envelope.payload).bind Created.ofTree? = some event
      from read]
  have isLined : ¬event.lines.isEmpty = true := by
    rwa [List.isEmpty_iff]
  rw [mapCreated, parsed]
  dsimp only
  rw [if_neg isLined]
  cases event.placed <;> rfl

/-- What is announced of a created order are its exact numbers. -/
theorem exact_of_mapCreated (read : (Form.bare .created).read? envelope.payload = some event)
    (mapped : (mapCreated destination envelope).run = .ok (.ok message)) :
    ∃ placed, placedOf? message = some placed ∧ placed.Exact event.lines := by
  have announced : (Announcement.created.mapper destination envelope).run = .ok (.ok message) :=
    mapped
  obtain ⟨said, placed, reread, carries, rfl⟩ := exists_of_mapper announced
  obtain rfl : event = said := Option.some.inj (read.symm.trans reread)
  refine ⟨placed, ?_, Created.exact_of_placed carries.2.2.2.2⟩
  have told := (Form.integration .placed).read?_write (.ofOrigin envelope placedName placed)
  exact congrArg (Option.map IntegrationEvent.data) told

/-- An order with lines is announced exactly if every price and every sum on the way through its
lines fits, and else there is an overflow. What is announced are the sums of unbounded
arithmetic, and they are the same for the same lines in any other order that is announced. -/
theorem announced_totals_exact (destination : String) (envelope : Envelope) (event : Created)
    (read : (Form.bare .created).read? envelope.payload = some event) (lined : event.lines ≠ []) :
    ((∃ message, (mapCreated destination envelope).run = .ok (.ok message)) ↔
        FitsThroughout event.lines) ∧
      (¬FitsThroughout event.lines →
        ∃ overflow, (mapCreated destination envelope).run = .error overflow) ∧
      ∀ message, (mapCreated destination envelope).run = .ok (.ok message) →
        ∃ placed, placedOf? message = some placed ∧
          placed.itemCount.toNat = pieces event.lines ∧ placed.total.toInt = cost event.lines ∧
          ∀ (elsewhere : String) (other : Envelope) (shuffled : Created) (twin : Message),
            (Form.bare .created).read? other.payload = some shuffled →
            event.lines.Perm shuffled.lines →
            (mapCreated elsewhere other).run = .ok (.ok twin) →
            ∃ again, placedOf? twin = some again ∧
              again.itemCount = placed.itemCount ∧ again.total = placed.total := by
  have run := mapCreated_of_lines destination read lined
  have completes : (∃ placed, event.placed = .ok placed) ↔ FitsThroughout event.lines :=
    exists_placed_iff.trans fitsThroughout_iff.symm
  refine ⟨?_, ?_, ?_⟩
  · rw [← completes, run]
    constructor
    · rintro ⟨message, mapped⟩
      cases placed : event.placed with
      | error overflow =>
          rw [placed] at mapped
          contradiction
      | ok sums => exact ⟨sums, rfl⟩
    · rintro ⟨placed, summed⟩
      exact ⟨_, by rw [summed]; rfl⟩
  · intro unfit
    cases placed : event.placed with
    | error overflow => exact ⟨overflow, by rw [run, placed]; rfl⟩
    | ok sums => exact absurd (completes.mp ⟨sums, placed⟩) unfit
  · intro message mapped
    obtain ⟨placed, told, exact⟩ := exact_of_mapCreated read mapped
    refine ⟨placed, told, exact.itemCount, exact.total, ?_⟩
    intro elsewhere other shuffled twin reread perm remapped
    obtain ⟨again, retold, exactly⟩ := exact_of_mapCreated reread remapped
    exact ⟨again, retold, exact.eq_of_perm exactly perm⟩

/-- The lines of an order that overflows, in an order in which they do not. -/
def summableOrder : Created :=
  { unsummableOrder with lines := [⟨"A", 1, Int64.maxValue⟩, ⟨"C", 1, -1⟩, ⟨"B", 1, 1⟩] }

theorem announced_totals_exact_summable :
    let envelope : Envelope :=
      { Relay.eventOf ⟨⟨"outbox", 0, 0⟩, none, some [1], ∅, none⟩ with
        payload := summableOrder.toValue.toBytes }
    (Form.bare .created).read? envelope.payload = some summableOrder ∧ summableOrder.lines ≠ [] ∧
      summableOrder.lines.Perm unsummableOrder.lines ∧
      ∃ message placed, (mapCreated defaultTopic envelope).run = .ok (.ok message) ∧
        placedOf? message = some placed ∧ placed.itemCount.toNat = 3 ∧
        placed.total.toInt = Int64.maxValue.toInt := by
  intro envelope
  have read : (Form.bare .created).read? envelope.payload = some summableOrder :=
    (Form.bare .created).read?_write summableOrder
  have lined : summableOrder.lines ≠ [] := by decide
  have exactly := announced_totals_exact defaultTopic envelope summableOrder read lined
  have fits : FitsThroughout summableOrder.lines := by decide
  obtain ⟨message, mapped⟩ := exactly.1.mpr fits
  obtain ⟨placed, told, count, total, _⟩ := exactly.2.2 message mapped
  exact ⟨read, lined, by decide, message, placed, mapped, told, count, total⟩

end EventRelay.Orders
