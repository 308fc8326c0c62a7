import EventRelay.Orders.Mapping
import EventRelay.Proofs.Completion
import EventRelay.Proofs.PartitionedLog
import Mathlib

/-!
# The sums of an order

What an order amounts to is summed up line by line in machine integers, and whatever
leaves their bounds on the way is an overflow, also where the final sum would fit. A
mapper for created orders comes to a message or to a refusal exactly where nothing
does.
-/

namespace EventRelay.Orders

/-- An amount fits a signed integer. -/
def Fits (amount : Int) : Prop :=
  Word.leastSigned ≤ amount ∧ amount ≤ Word.mostSigned

instance (amount : Int) : Decidable (Fits amount) :=
  inferInstanceAs (Decidable (_ ∧ _))

/-- What a line costs. -/
def Line.cost (line : Line) : Int :=
  line.unitPrice.toInt * line.quantity.toNat

/-- How many pieces there are on a list of lines. -/
def pieces (lines : List Line) : Nat :=
  (lines.map fun line => line.quantity.toNat).sum

/-- What a list of lines costs. -/
def cost (lines : List Line) : Int :=
  (lines.map Line.cost).sum

@[simp]
theorem pieces_cons (line : Line) (rest : List Line) :
    pieces (line :: rest) = line.quantity.toNat + pieces rest := by
  simp [pieces]

@[simp]
theorem cost_cons (line : Line) (rest : List Line) :
    cost (line :: rest) = line.cost + cost rest := by
  simp [cost]

/-- All that is computed for a list of lines fits. -/
structure Summable (lines : List Line) : Prop where
  pieces_lt : pieces lines < UInt32.size
  cost_fits : ∀ line ∈ lines, Fits line.cost
  /-- What any number of the first lines cost fits. -/
  sum_fits : ∀ count, Fits (cost (lines.take count))

/-! ## One operation -/

theorem fits_toInt (value : Int64) : Fits value.toInt := by
  have low := value.le_toInt
  have high := value.toInt_lt
  unfold Fits Word.leastSigned Word.mostSigned
  omega

theorem exists_int64Within_iff (overflow : Overflow) {exact : Int} :
    (∃ value, int64Within overflow exact = .ok value) ↔ Fits exact := by
  constructor
  · rintro ⟨value, within⟩
    rw [← int64Within_eq_ok_iff.mp within]
    exact fits_toInt value
  · intro fits
    exact ⟨_, if_pos fits⟩

theorem exists_uint32Within_iff (overflow : Overflow) {exact : Nat} :
    (∃ value, uint32Within overflow exact = .ok value) ↔ exact < UInt32.size := by
  constructor
  · rintro ⟨value, within⟩
    rw [← uint32Within_eq_ok_iff.mp within]
    exact value.toNat_lt
  · intro fits
    exact ⟨_, if_pos fits⟩

theorem bind_eq_ok_iff {ε α β : Type} {result : Except ε α} {next : α → Except ε β} {value : β} :
    result >>= next = .ok value ↔ ∃ middle, result = .ok middle ∧ next middle = .ok value := by
  cases result with
  | error failure => simp [bind, Except.bind]
  | ok middle => simp [bind, Except.bind]

/-! ## All operations -/

theorem countFrom_eq_ok_iff {count value : UInt32} {lines : List Line} :
    countFrom count lines = .ok value ↔ value.toNat = count.toNat + pieces lines := by
  induction lines generalizing count with
  | nil =>
      simp only [countFrom, Except.ok.injEq, pieces, List.map_nil, List.sum_nil, Nat.add_zero]
      rw [← UInt32.toNat_inj]
      exact eq_comm
  | cons line rest ih =>
      rw [countFrom, bind_eq_ok_iff, pieces_cons]
      constructor
      · rintro ⟨next, within, counted⟩
        have first := uint32Within_eq_ok_iff.mp within
        have others := ih.mp counted
        omega
      · intro whole
        have below := value.toNat_lt
        rcases (exists_uint32Within_iff .addition).mpr
          (show count.toNat + line.quantity.toNat < UInt32.size by
            unfold UInt32.size
            omega) with ⟨next, within⟩
        have first := uint32Within_eq_ok_iff.mp within
        exact ⟨next, within, ih.mpr (by omega)⟩

/-- The sum of prices, begun at `total`, comes to an amount exactly if every price and
every sum on the way fits. -/
theorem exists_totalFrom_iff (total : Int64) (lines : List Line) :
    (∃ value, totalFrom total lines = .ok value) ↔
      (∀ line ∈ lines, Fits line.cost) ∧
        ∀ count, Fits (total.toInt + cost (lines.take count)) := by
  induction lines generalizing total with
  | nil =>
      have fits := fits_toInt total
      simpa [totalFrom, cost] using fits
  | cons line rest ih =>
      simp only [totalFrom, bind_eq_ok_iff]
      constructor
      · rintro ⟨value, price, multiplied, next, added, summed⟩
        have price_eq : price.toInt = line.cost := int64Within_eq_ok_iff.mp multiplied
        have next_eq := int64Within_eq_ok_iff.mp added
        rcases (ih next).mp ⟨value, summed⟩ with ⟨costs, sums⟩
        constructor
        · intro other mem
          rcases List.mem_cons.mp mem with rfl | mem
          · rw [← price_eq]
            exact fits_toInt price
          · exact costs other mem
        · intro count
          cases count with
          | zero => simpa [cost] using fits_toInt total
          | succ count =>
              have sum := sums count
              rw [next_eq, price_eq] at sum
              rw [List.take_succ_cons, cost_cons, ← Int.add_assoc]
              exact sum
      · rintro ⟨costs, sums⟩
        rcases (exists_int64Within_iff .multiplication).mpr
          (costs line List.mem_cons_self) with ⟨price, multiplied⟩
        have price_eq : price.toInt = line.cost := int64Within_eq_ok_iff.mp multiplied
        have first : Fits (total.toInt + price.toInt) := by
          have sum := sums 1
          rw [price_eq]
          simpa [cost] using sum
        rcases (exists_int64Within_iff .addition).mpr first with ⟨next, added⟩
        have next_eq := int64Within_eq_ok_iff.mp added
        have others : ∀ count, Fits (next.toInt + cost (rest.take count)) := by
          intro count
          have sum := sums (count + 1)
          rw [List.take_succ_cons, cost_cons, ← Int.add_assoc] at sum
          rw [next_eq, price_eq]
          exact sum
        obtain ⟨value, summed⟩ :=
          (ih next).mpr ⟨fun other mem => costs other (List.mem_cons_of_mem _ mem), others⟩
        exact ⟨value, price, multiplied, next, added, summed⟩

theorem exists_placed_iff {event : Created} :
    (∃ placed, event.placed = .ok placed) ↔ Summable event.lines := by
  have counts : (∃ count, event.itemCount = .ok count) ↔ pieces event.lines < UInt32.size := by
    constructor
    · rintro ⟨count, counted⟩
      have whole := countFrom_eq_ok_iff.mp counted
      have below := count.toNat_lt
      rw [UInt32.toNat_zero, Nat.zero_add] at whole
      rw [← whole]
      exact below
    · intro fits
      refine ⟨UInt32.ofNat (pieces event.lines), countFrom_eq_ok_iff.mpr ?_⟩
      rw [UInt32.toNat_ofNat_of_lt' fits, UInt32.toNat_zero, Nat.zero_add]
  have sums := exists_totalFrom_iff 0 event.lines
  simp only [Int64.toInt_zero, Int.zero_add] at sums
  simp only [Created.placed, bind_eq_ok_iff]
  constructor
  · rintro ⟨placed, count, counted, total, summed, _⟩
    rcases sums.mp ⟨total, summed⟩ with ⟨costs, totals⟩
    exact ⟨counts.mp ⟨count, counted⟩, costs, totals⟩
  · intro summable
    rcases counts.mpr summable.pieces_lt with ⟨count, counted⟩
    rcases sums.mpr ⟨summable.cost_fits, summable.sum_fits⟩ with ⟨total, summed⟩
    exact ⟨_, count, counted, total, summed, rfl⟩

/-! ## Mapping -/

/-- The payload of an envelope is a created order that cannot be summed up. -/
def Excessive (envelope : Envelope) : Prop :=
  ∃ event, readPayload Created.ofTree? envelope = .ok event ∧ ¬Summable event.lines

/-- An order without lines can be summed up. -/
theorem summable_nil : Summable [] where
  pieces_lt := by decide
  cost_fits line mem := by contradiction
  sum_fits count := by
    rw [List.take_nil]
    decide

theorem mapCreated_of_excessive (destination : String) {envelope : Envelope}
    (excessive : Excessive envelope) :
    ∃ overflow, (mapCreated destination envelope).run = .error overflow := by
  rcases excessive with ⟨event, read, unsummable⟩
  have lines : event.lines.isEmpty = false := by
    cases lines : event.lines with
    | nil =>
        rw [lines] at unsummable
        exact absurd summable_nil unsummable
    | cons line rest => rfl
  unfold mapCreated
  simp only [read, lines]
  cases placed : event.placed with
  | error overflow => exact ⟨overflow, rfl⟩
  | ok sums => exact absurd (exists_placed_iff.mp ⟨sums, placed⟩) unsummable

theorem mapCreated_of_not_excessive (destination : String) {envelope : Envelope}
    (moderate : ¬Excessive envelope) :
    (∃ message, (mapCreated destination envelope).run = .ok (.ok message)) ∨
      ∃ fault, (mapCreated destination envelope).run = .ok (.error (.mapping fault)) := by
  unfold mapCreated
  cases read : readPayload Created.ofTree? envelope with
  | error fault => exact .inr ⟨fault, rfl⟩
  | ok event =>
      dsimp only
      by_cases lines : event.lines.isEmpty = true
      · rw [if_pos lines]
        exact .inr ⟨_, rfl⟩
      · rw [if_neg lines]
        have summable : Summable event.lines := by
          apply Classical.byContradiction
          intro unsummable
          exact moderate ⟨event, read, unsummable⟩
        rcases exists_placed_iff.mpr summable with ⟨placed, sums⟩
        rw [sums]
        exact .inl ⟨_, rfl⟩

/-- A mapper for created orders comes to a message or to a refusal exactly where the
order can be summed up. Any other order stops the relay that maps it, with nothing
done for its record; an order that can be summed up is settled, unless the attempts to
publish it outgrow their counter. -/
theorem mapCreated_returns_iff (destination : String) (envelope : Envelope) :
    (((∃ message, (mapCreated destination envelope).run = .ok (.ok message)) ∨
        ∃ fault, (mapCreated destination envelope).run = .ok (.error (.mapping fault))) ↔
      ¬Excessive envelope) ∧
    ∀ {ω : Type} (relay : Relay) (environment : Relay.Environment ω) (record : SourceRecord)
      (session : Session ω),
      relay.registry.resolve envelope.eventType = .ok (mapCreated destination) →
        (Excessive envelope →
          ∃ overflow, relay.process environment ⟨record, envelope⟩ session =
            (.error overflow, session)) ∧
        (¬Excessive envelope →
          (∃ result later, relay.process environment ⟨record, envelope⟩ session =
            (.ok result, later) ∧ Relay.NotSkipped result) ∨
          relay.policy.maxRetries + 1 = UInt32.size) := by
  constructor
  · constructor
    · intro returns excessive
      rcases mapCreated_of_excessive destination excessive with
        ⟨overflow, overflows⟩
      rcases returns with ⟨message, mapped⟩ | ⟨fault, mapped⟩
      · cases overflows.symm.trans mapped
      · cases overflows.symm.trans mapped
    · exact mapCreated_of_not_excessive destination
  · intro ω relay environment record session resolved
    constructor
    · intro excessive
      rcases mapCreated_of_excessive destination excessive with
        ⟨overflow, overflows⟩
      exact ⟨overflow, Relay.process_eq_of_overflow environment resolved overflows session⟩
    · intro moderate
      by_cases countable : relay.policy.maxRetries + 1 < UInt32.size
      · left
        rcases mapCreated_of_not_excessive destination moderate with
          ⟨message, mapped⟩ | ⟨fault, mapped⟩
        · exact Relay.yields_process environment resolved mapped countable session
        · exact Relay.yields_process environment resolved mapped countable session
      · right
        have bound := relay.policy.maxRetries_lt
        omega

/-- An order whose total fits, though what its first two lines cost does not. -/
def unsummableOrder : Created where
  orderId := .zero
  customerId := .zero
  currency := "USD"
  lines := [⟨"A", 1, Int64.maxValue⟩, ⟨"B", 1, 1⟩, ⟨"C", 1, -1⟩]
  createdAt := .epoch

theorem mapCreated_returns_iff_unsummable :
    let record : SourceRecord := ⟨⟨"outbox", 0, 0⟩, none, some [1], ∅, none⟩
    let envelope : Envelope :=
      { Relay.eventOf record with
        eventType := createdType
        payload := unsummableOrder.toValue.toBytes
        eventType_notBlank := by decide }
    let relay : Relay :=
      { Relay.passing with
        registry := ⟨Dictionary.empty.insert createdType (mapCreated defaultTopic)⟩ }
    let environment := (Relay.Content.single ⟨"outbox", 0⟩ [record]).environment
      (.smooth ⟨"outbox", 0⟩)
    Fits (cost unsummableOrder.lines) ∧
      relay.registry.resolve envelope.eventType = .ok (mapCreated defaultTopic) ∧
      Excessive envelope ∧
      ∃ overflow, relay.process environment ⟨record, envelope⟩ Relay.opening =
        (.error overflow, Relay.opening) := by
  intro record envelope relay environment
  have resolved : relay.registry.resolve envelope.eventType = .ok (mapCreated defaultTopic) := by
    simp [relay, envelope, Registry.resolve]
  have excessive : Excessive envelope := by
    have read : (Json.Tree.parse? envelope.payload).bind Created.ofTree? =
        some unsummableOrder := by
      decide +kernel
    refine ⟨unsummableOrder, by rw [readPayload, read], ?_⟩
    intro summable
    exact absurd (summable.sum_fits 2) (by decide)
  exact ⟨by decide, resolved, excessive,
    ((mapCreated_returns_iff defaultTopic envelope).2 relay environment record Relay.opening
      resolved).1 excessive⟩

end EventRelay.Orders
