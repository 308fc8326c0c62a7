import EventRelay.Proofs.History
import EventRelay.Relay.Loop

/-!
# Partitioned logs

A log holds a list of records for every partition and is read through a history: the
record handed out lies where the history says that its partition is read next. All
else is left open. Which partition is read, whether a poll, a commit, a rewind or a
publish succeeds, and when shutdown is asked for is decided at whim.
-/

namespace EventRelay.Relay

/-- What a log holds, by partition. -/
structure Content where
  records : Place → List SourceRecord
  /-- A record lies at its place in the list. -/
  coordinates_eq : ∀ (place : Place) (index : Nat) (record : SourceRecord),
    (records place)[index]? = some record →
      record.coordinates = ⟨place.topic, place.partition, index⟩

/-- What a poll may be about. -/
inductive Choice
  | partition (place : Place)
  | idle
  | endOfPartition (partition : Int)

/-- Whatever else decides how the world answers a relay. -/
structure Whims (χ : Type) where
  /-- Whether shutdown is asked for before the next answer. -/
  fires : StateM χ Bool
  poll : Duration → StateM χ (Except Failure Choice)
  commit : Coordinates → StateM χ (Except Failure Unit)
  rewind : Coordinates → StateM χ (Except Failure Unit)
  fatalError : StateM χ (Option Failure)
  publish : Message → Headers → StateM χ (Except Failure Unit)
  /-- An attempt that is cut off is one during which shutdown is asked for. -/
  race : Message → Headers → StateM χ (Raced (Except Failure Unit))
  pause : Duration → StateM χ Pause
  now : StateM χ Instant
  freshId : StateM χ Uuid

/-- A world with its history. -/
structure Course (χ : Type) where
  whim : χ
  history : History

namespace Whims

variable {χ α : Type} (whims : Whims χ)

/-- Let shutdown be asked for, or not. -/
def lapse (course : Course χ) : Course χ :=
  let (fires, whim) := whims.fires course.whim
  { whim, history := if fires then .shutdown :: course.history else course.history }

/-- Answer without anything happening to the relay. -/
def pass (answer : StateM χ α) : StateM (Course χ) α := fun course =>
  let course := whims.lapse course
  let (value, whim) := answer course.whim
  (value, { course with whim })

/-- Answer, and keep what happened by it; for some answers shutdown has to be asked
for before. -/
def happen (late : α → Bool) (happening : α → Happening) (answer : History → StateM χ α) :
    StateM (Course χ) α := fun course =>
  let course := whims.lapse course
  let (value, whim) := answer course.history course.whim
  let history := if late value then .shutdown :: course.history else course.history
  (value, { whim, history := happening value :: history })

/-- Ask for shutdown. -/
def trigger : StateM (Course χ) Unit := fun course =>
  let course := whims.lapse course
  ((), { course with history := .shutdown :: course.history })

end Whims

namespace Content

variable {χ : Type} (content : Content)

/-- What a poll hands out. -/
def polled (history : History) : Choice → Polled
  | .partition place =>
      match (content.records place)[history.position place]? with
      | some record => .record record
      | none => .idle
  | .idle => .idle
  | .endOfPartition partition => .endOfPartition partition

/-- Whether an attempt was cut off. -/
def isCutOff : Raced (Except Failure Unit) → Bool
  | .cutOff => true
  | .finished _ => false

/-- A log in a world that is else full of whims. -/
def environment (whims : Whims χ) : Environment (Course χ) where
  log :=
    { poll := fun timeout => whims.happen (fun _ => false) .polled fun history => do
        return (← whims.poll timeout).map (content.polled history)
      commit := fun coordinates => whims.happen (fun _ => false) (.committed coordinates) fun _ =>
        whims.commit coordinates
      rewind := fun coordinates => whims.happen (fun _ => false) (.rewound coordinates) fun _ =>
        whims.rewind coordinates
      fatalError := whims.pass whims.fatalError }
  publisher :=
    { publish := fun message headers =>
        whims.happen (fun _ => false) (.forwarded message headers) fun _ =>
          whims.publish message headers
      race := fun message headers =>
        whims.happen isCutOff (.attempted message headers) fun _ => whims.race message headers }
  signal :=
    { isTriggered := whims.happen (fun _ => false) .looked fun history => pure history.given
      pause := fun duration =>
        whims.happen (· = .interrupted) .paused fun _ => whims.pause duration }
  trigger := whims.trigger
  now := whims.happen (fun _ => false) .told fun _ => whims.now
  freshId := whims.pass whims.freshId
  note := fun _ => whims.pass (pure ())

/-- What may happen where this log is read: records come from where their partition
is read next, and the signal is given exactly when shutdown has been asked for. -/
def Allows (history : History) : Happening → Prop
  | .polled (.ok (.record record)) =>
      ∃ place, (content.records place)[history.position place]? = some record
  | .looked given => given = history.given
  | .attempted _ _ .cutOff | .paused .interrupted => history.given = true
  | _ => True

end Content

/-! ## The world keeps its history -/

namespace Whims

variable {χ α : Type} (whims : Whims χ)

theorem lapses_lapse (course : Course χ) :
    History.Lapses course.history (whims.lapse course).history := by
  unfold lapse
  rcases whims.fires course.whim with ⟨_ | _, whim⟩
  · exact .refl _
  · exact .shutdown (.refl _)

theorem silent_pass (answer : StateM χ α) : Silent Course.history (whims.pass answer) :=
  fun course => whims.lapses_lapse course

theorem tells_happen {allowed : History → Happening → Prop} {late : α → Bool}
    {happening : α → Happening} {answer : History → StateM χ α}
    (onTime : ∀ history whim, late (answer history whim).1 = false →
      allowed history (happening (answer history whim).1))
    (tooLate : ∀ history whim, late (answer history whim).1 = true →
      allowed (.shutdown :: history) (happening (answer history whim).1)) :
    Tells Course.history allowed (whims.happen late happening answer) happening := by
  intro course
  have lapses := whims.lapses_lapse course
  have inTime := onTime (whims.lapse course).history (whims.lapse course).whim
  have overtaken := tooLate (whims.lapse course).history (whims.lapse course).whim
  unfold happen
  revert inTime overtaken
  dsimp only
  rcases answer (whims.lapse course).history (whims.lapse course).whim with ⟨value, whim⟩
  intro inTime overtaken
  cases isLate : late value with
  | true => exact ⟨_, .shutdown lapses, overtaken isLate, by simp [isLate]⟩
  | false => exact ⟨_, lapses, inTime isLate, by simp [isLate]⟩

end Whims

variable {χ : Type}

/-- Whatever a poll is about, a record that it hands out is the next of its partition. -/
theorem Content.allows_polled (content : Content) (history : History) (choice : Choice) :
    content.Allows history (.polled (.ok (content.polled history choice))) := by
  rcases choice with place | _ | partition
  · unfold Content.polled
    dsimp only
    split
    · rename_i record next
      exact ⟨place, next⟩
    · trivial
  · trivial
  · trivial

/-- Nothing happens in the world of a log that the log does not allow. -/
theorem Content.keeps (content : Content) (whims : Whims χ) :
    (content.environment whims).Keeps Course.history content.Allows where
  poll timeout := by
    apply whims.tells_happen
    · intro history whim _
      change content.Allows history
        (.polled ((whims.poll timeout whim).1.map (content.polled history)))
      rcases whims.poll timeout whim with ⟨failure | choice, later⟩
      · trivial
      · exact content.allows_polled history choice
    · simp
  commit coordinates := whims.tells_happen (fun _ _ _ => trivial) (by simp)
  rewind coordinates := whims.tells_happen (fun _ _ _ => trivial) (by simp)
  fatalError := whims.silent_pass _
  publish message headers := whims.tells_happen (fun _ _ _ => trivial) (by simp)
  race message headers := by
    apply whims.tells_happen
    · intro history whim
      rcases whims.race message headers whim with ⟨answer | _, later⟩
      · exact fun _ => trivial
      · exact fun onTime => nomatch onTime
    · intro history whim _
      rcases whims.race message headers whim with ⟨answer | _, later⟩
      · trivial
      · rfl
  isTriggered := whims.tells_happen (fun _ _ _ => rfl) (by simp)
  pause duration := by
    apply whims.tells_happen
    · intro history whim
      rcases whims.pause duration whim with ⟨_ | _, later⟩
      · exact fun _ => trivial
      · exact fun onTime => nomatch onTime
    · intro history whim _
      rcases whims.pause duration whim with ⟨_ | _, later⟩
      · trivial
      · rfl
  trigger course := .shutdown (whims.lapses_lapse course)
  now := whims.tells_happen (fun _ _ _ => trivial) (by simp)
  freshId := whims.silent_pass _
  note _ := whims.silent_pass _

/-! ## One partition -/

/-- A log whose only records lie one after another in one partition. -/
def Content.single (place : Place) (records : List SourceRecord) : Content where
  records other :=
    if other = place then
      records.mapIdx fun index record =>
        { record with coordinates := ⟨place.topic, place.partition, index⟩ }
    else []
  coordinates_eq other index record found := by
    split at found
    · rename_i same
      subst same
      rw [List.getElem?_mapIdx] at found
      obtain ⟨held, _, rfl⟩ := Option.map_eq_some_iff.mp found
      rfl
    · simp at found

/-- A world in which one partition is polled, nothing fails and shutdown is not asked
for. -/
def Whims.smooth (place : Place) : Whims Unit where
  fires := pure false
  poll _ := pure (.ok (.partition place))
  commit _ := pure (.ok ())
  rewind _ := pure (.ok ())
  fatalError := pure none
  publish _ _ := pure (.ok ())
  race _ _ := pure (.finished (.ok ()))
  pause _ := pure .elapsed
  now := pure .epoch
  freshId := pure .zero

/-- The start of a run that reads every partition from its beginning. -/
def opening : Session (Course Unit) where
  world := { whim := (), history := [.resumed fun _ => 0] }

/-- An event that says what a record holds. -/
def eventOf (record : SourceRecord) : Envelope :=
  { id := "1", eventType := "created", payload := record.value.getD [], headers := ∅,
    aggregateType := "", aggregateId := "7", aggregateVersion := none, correlationId := none,
    causationId := none, tenantId := none, occurredAt := .epoch, id_notBlank := rfl,
    eventType_notBlank := rfl }

/-- A relay that finds an event in every record and passes it on. -/
def passing : Relay where
  decoder _ record := .ok (.event (eventOf record))
  registry := ⟨Dictionary.empty.insert "created" (.forwarding "orders" ∅)⟩
  policy := { strategy := .immediate, limit := 1 }
  forwarder := { suffix := ".dead", group := "relay" }
  pollTimeout := .zero
  redeliveryBackoff := .zero

end EventRelay.Relay
