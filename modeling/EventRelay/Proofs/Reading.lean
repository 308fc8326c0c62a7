import EventRelay.Proofs.Conformance
import EventRelay.Proofs.PartitionedLog

/-!
# Reading a partitioned log

The record that a relay has in hand is the one just before where its partition is
read next, and a relay that abandons a record has been asked to shut down. Both hold
after every move of a relay that reads a partitioned log, and so at every moment of
every run.
-/

namespace EventRelay.Relay

variable {relay : Relay} {content : Content} {history : History} {happening : Happening}
  {phase next : Phase}

/-- The record of a partition at an offset. -/
def Content.record? (content : Content) (place : Place) (offset : Nat) : Option SourceRecord :=
  (content.records place)[offset]?

theorem Content.place_of_record? {place : Place} {offset : Nat} {record : SourceRecord}
    (found : content.record? place offset = some record) : record.coordinates.place = place := by
  rw [content.coordinates_eq place offset record found]
  rfl

theorem Content.offset_of_record? {place : Place} {offset : Nat} {record : SourceRecord}
    (found : content.record? place offset = some record) : record.coordinates.offset = offset := by
  rw [content.coordinates_eq place offset record found]

theorem History.position_of_idle {answer : Except Failure Polled}
    (empty : ∀ record, answer ≠ .ok (.record record)) (place : Place) :
    History.position (.polled answer :: history) place = history.position place := by
  rcases answer with failure | record | _ | partition
  · rfl
  · exact absurd rfl (empty record)
  · rfl
  · rfl

/-- What is known of the record in hand. -/
structure InHand (content : Content) (history : History) (phase : Phase) : Prop where
  /-- It lies just before where its partition is read next. -/
  lies : ∀ record, phase.record? = some record → ∃ offset,
    content.record? record.coordinates.place offset = some record ∧
      history.position record.coordinates.place = offset + 1
  /-- It is abandoned only when shutdown has been asked for. -/
  given : ∀ record, phase = .abandoned record → history.given = true

namespace InHand

theorem ready (history : History) : InHand content history .ready :=
  ⟨fun _ held => (nomatch held), fun _ abandoned => (nomatch abandoned)⟩

theorem owing (history : History) (counter : Counter) :
    InHand content history (.owing counter) :=
  ⟨fun _ held => (nomatch held), fun _ abandoned => (nomatch abandoned)⟩

/-- A record that comes in is the next of its partition. -/
theorem receive {record : SourceRecord}
    (may : content.Allows history (.polled (.ok (.record record)))) :
    content.record? record.coordinates.place (history.position record.coordinates.place) =
      some record := by
  obtain ⟨place, found⟩ := may
  have placed : record.coordinates.place = place := content.place_of_record? found
  rw [placed]
  exact found

theorem moves (hand : InHand content history phase) (may : content.Allows history happening)
    (moves : Moves relay phase happening next) : InHand content (happening :: history) next := by
  cases moves with
  | receive record =>
      constructor
      · intro held same
        cases same
        exact ⟨_, receive may, by simp [History.position]⟩
      · intro _ abandoned
        contradiction
  | look | wait | idle | overlook => exact .ready _
  | rewind | commit | decline => exact .owing _ _
  | cutOff => exact ⟨hand.lies, fun _ _ => may⟩
  | interrupt => exact ⟨hand.lies, fun _ _ => may⟩
  | cancel => exact ⟨hand.lies, fun _ _ => may.symm⟩
  | withhold => exact ⟨hand.lies, fun _ _ => may.symm⟩
  | quit => exact ⟨hand.lies, fun _ _ => may.symm⟩
  | _ => exact ⟨hand.lies, fun _ abandoned => nomatch abandoned⟩

theorem shutdown (hand : InHand content history phase) :
    InHand content (.shutdown :: history) phase :=
  ⟨hand.lies, fun _ _ => rfl⟩

theorem counts {counter : Counter} (hand : InHand content history phase)
    (counts : Counts relay phase counter next) : InHand content history next := by
  cases counts with
  | owed => exact .ready history
  | _ => exact ⟨hand.lies, fun _ abandoned => nomatch abandoned⟩

theorem finds (hand : InHand content history phase) (finds : Finds relay phase next) :
    InHand content history next := by
  cases finds <;> exact ⟨hand.lies, fun _ abandoned => nomatch abandoned⟩

/-- A relay that was asked to shut down does not overlook what it has abandoned. -/
theorem not_overlooked {record : SourceRecord} (hand : InHand content history (.abandoned record)) :
    ¬content.Allows history (.looked false) := by
  intro may
  have given := hand.given record rfl
  rw [← show false = history.given from may] at given
  contradiction

end InHand

/-- At every moment of a run the record in hand is where it should be. -/
theorem Follows.inHand {start : History} {zero counters : Counters}
    (follows : Follows relay content.Allows start zero history counters phase) :
    InHand content history phase := by
  induction follows with
  | start => exact .ready start
  | shutdown _ ih => exact ih.shutdown
  | happens _ may moves ih => exact ih.moves may moves
  | counts _ counts ih => exact ih.counts counts
  | finds _ finds ih => exact ih.finds finds

end EventRelay.Relay
