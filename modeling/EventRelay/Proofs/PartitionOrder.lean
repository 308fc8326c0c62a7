import EventRelay.Proofs.CommitSafety

/-!
# Partitions are relayed in order

Every attempt to commit is the last that a run does for a record. So the record of a
partition that is due lies as many offsets behind the start of the run as there were
attempts to commit in the partition, and whatever is done is done for a record that is
due. The order of a partition and its lack of gaps follow by counting.
-/

namespace EventRelay.Relay

namespace History

/-- The offsets of a partition that were attempted to be committed, in order of time. -/
def commits : History → Place → List Int
  | [], _ => []
  | .committed coordinates _ :: earlier, place =>
      if coordinates.place = place then commits earlier place ++ [coordinates.offset]
      else commits earlier place
  | _ :: earlier, place => commits earlier place

/-- The offset that is due in a partition. -/
def due (start : Place → Nat) : History → Place → Nat
  | [], place => start place
  | .committed coordinates _ :: earlier, place =>
      if coordinates.place = place then due start earlier place + 1 else due start earlier place
  | _ :: earlier, place => due start earlier place

/-- The record that was polled last. -/
def lastPolled? : History → Option SourceRecord
  | [] => none
  | .polled (.ok (.record record)) :: _ => some record
  | _ :: earlier => lastPolled? earlier

end History

/-- Whether something was done for a record. -/
def Happening.isDeed : Happening → Bool
  | .attempted _ _ _ | .forwarded _ _ _ | .committed _ _ | .rewound _ _ => true
  | _ => false

/-- What a relay did, after what it did earlier, about a record: it polled the record,
or did something for it while it was the record polled last. -/
inductive Concerns (relay : Relay) (earlier : History) (record : SourceRecord) :
    Happening → Prop
  | polled : Concerns relay earlier record (.polled (.ok (.record record)))
  | attempted {now : Instant} {envelope : Envelope} {message : Message}
      (last : earlier.lastPolled? = some record)
      (decoded : relay.decoder now record = .ok (.event envelope))
      (makes : relay.Makes envelope message) (outcome : Raced (Except Failure Unit)) :
      Concerns relay earlier record
        (.attempted message (record.propagatedHeaders envelope) outcome)
  | forwarded {message : Message} (last : earlier.lastPolled? = some record)
      (carries : relay.SetsAside record message) (answer : Except Failure Unit) :
      Concerns relay earlier record (.forwarded message ∅ answer)
  | committed (last : earlier.lastPolled? = some record) (answer : Except Failure Unit) :
      Concerns relay earlier record (.committed record.coordinates answer)
  | rewound (last : earlier.lastPolled? = some record) (answer : Except Failure Unit) :
      Concerns relay earlier record (.rewound record.coordinates answer)

/-- The order of what a run did since it started to read every partition at `start`. -/
structure InOrder (relay : Relay) (start : Place → Nat) (since : History) : Prop where
  /-- In every partition commits are attempted on one offset after the other, from the
  start on. -/
  commits : ∀ place, since.commits place =
    (List.range' (start place) (since.commits place).length).map Int.ofNat
  /-- Whatever is done is done for the record that was polled last. -/
  concerns : ∀ happening earlier, happening :: earlier <:+ since → happening.isDeed = true →
    ∃ record, Concerns relay earlier record happening
  /-- What is done about a partition later is about the same record or a later one. -/
  ordered : ∀ second middle first earlier record other,
    second :: middle ++ first :: earlier <:+ since →
    Concerns relay earlier record first →
    Concerns relay (middle ++ first :: earlier) other second →
    other.coordinates.place = record.coordinates.place →
      other = record ∨ record.coordinates.offset < other.coordinates.offset
  /-- Until a commit of a record is attempted, whatever is done about its partition is
  about this record. -/
  blocked : ∀ second middle first earlier record other,
    second :: middle ++ first :: earlier <:+ since →
    Concerns relay earlier record first →
    Concerns relay (middle ++ first :: earlier) other second →
    other.coordinates.place = record.coordinates.place →
    (∀ answer, Happening.committed record.coordinates answer ∉ middle ++ [first]) →
      other = record

variable {relay : Relay} {content : Content} {start : Place → Nat} {before since : History}
  {happening : Happening} {phase next : Phase}

/-! ## The record that is due -/

/-- Where partitions are read next, told by what is due and what is in hand. -/
structure InTurn (start : Place → Nat) (before since : History) (phase : Phase) : Prop where
  last : ∀ record, phase.record? = some record → since.lastPolled? = some record
  held : ∀ record, phase.record? = some record →
    History.position (since ++ .resumed start :: before) record.coordinates.place =
      since.due start record.coordinates.place + 1
  others : ∀ place, (∀ record, phase.record? = some record → record.coordinates.place ≠ place) →
    History.position (since ++ .resumed start :: before) place = since.due start place

namespace InTurn

/-- With nothing in hand every partition is read where it is due. -/
theorem of_none (none : phase.record? = none)
    (due : ∀ place,
      History.position (since ++ .resumed start :: before) place = since.due start place) :
    InTurn start before since phase where
  last record held := by rw [none] at held; contradiction
  held record held := by rw [none] at held; contradiction
  others place _ := due place

/-- The record in hand is the one that is due. -/
theorem record?_due {record : SourceRecord} (turn : InTurn start before since phase)
    (hand : InHand content (since ++ .resumed start :: before) phase)
    (held : phase.record? = some record) :
    content.record? record.coordinates.place (since.due start record.coordinates.place) =
      some record := by
  obtain ⟨offset, found, position⟩ := hand.lies record held
  have same : offset = since.due start record.coordinates.place := by
    have due := turn.held record held
    omega
  rw [← same]
  exact found

theorem receive {record : SourceRecord} (turn : InTurn start before since .ready) :
    InTurn start before (.polled (.ok (.record record)) :: since) (.polled record) where
  last other same := same
  held other same := by
    cases same
    have due := turn.others record.coordinates.place (fun _ held => nomatch held)
    simp [History.position, History.due, due]
  others place elsewhere := by
    have due := turn.others place (fun _ held => nomatch held)
    simp [History.position, History.due, due, elsewhere record rfl]

/-- An attempt to commit the record in hand makes the next one due. -/
theorem settle {record : SourceRecord} {counter : Counter} (answer : Except Failure Unit)
    (turn : InTurn start before since phase) (held : phase.record? = some record) :
    InTurn start before (.committed record.coordinates answer :: since) (.owing counter) := by
  apply of_none rfl
  intro place
  change History.position (since ++ .resumed start :: before) place = _
  by_cases placed : record.coordinates.place = place
  · subst placed
    simp [History.due, turn.held record held]
  · have due := turn.others place fun other same => by
      cases held.symm.trans same
      exact placed
    simp [History.due, placed, due]

/-- A rewind to the record in hand makes its partition be read where it is due. -/
theorem rewind {record : SourceRecord} (turn : InTurn start before since (.stranded record))
    (hand : InHand content (since ++ .resumed start :: before) (.stranded record)) :
    InTurn start before (.rewound record.coordinates (.ok ()) :: since)
      (.owing .pendingRedeliveries) := by
  apply of_none rfl
  intro place
  by_cases placed : record.coordinates.place = place
  · subst placed
    have lies := content.offset_of_record? (turn.record?_due hand rfl)
    simp [History.position, History.due, lies]
  · have due := turn.others place fun other same => by
      cases same
      exact placed
    simp [History.position, History.due, placed, due]

theorem moves (turn : InTurn start before since phase)
    (hand : InHand content (since ++ .resumed start :: before) phase)
    (may : content.Allows (since ++ .resumed start :: before) happening)
    (moves : Moves relay phase happening next) :
    InTurn start before (happening :: since) next := by
  cases moves with
  | receive record => exact turn.receive
  | idle empty =>
      apply of_none rfl
      intro place
      rw [List.cons_append, History.position_of_idle empty]
      exact turn.others place (fun _ held => nomatch held)
  | rewind record => exact turn.rewind hand
  | commit record counter => exact turn.settle _ rfl
  | decline record counter failure => exact turn.settle _ rfl
  | overlook record => exact absurd may hand.not_overlooked
  | _ => exact ⟨turn.last, turn.held, turn.others⟩

theorem counts {counter : Counter} (turn : InTurn start before since phase)
    (counts : Counts relay phase counter next) : InTurn start before since next := by
  cases counts <;> exact ⟨turn.last, turn.held, turn.others⟩

theorem finds (turn : InTurn start before since phase) (finds : Finds relay phase next) :
    InTurn start before since next := by
  cases finds <;> exact ⟨turn.last, turn.held, turn.others⟩

end InTurn

theorem Follows.inTurn {history : History} {zero counters : Counters}
    (follows : Follows relay content.Allows (.resumed start :: before) zero history counters
      phase) :
    ∃ since, history = since ++ .resumed start :: before ∧ InTurn start before since phase := by
  induction follows with
  | start => exact ⟨[], rfl, .of_none rfl fun _ => rfl⟩
  | shutdown _ ih =>
      obtain ⟨since, rfl, turn⟩ := ih
      exact ⟨.shutdown :: since, rfl, turn.last, turn.held, turn.others⟩
  | happens follows may moves ih =>
      obtain ⟨since, rfl, turn⟩ := ih
      exact ⟨_ :: since, rfl, turn.moves follows.inHand may moves⟩
  | counts _ counts ih =>
      obtain ⟨since, same, turn⟩ := ih
      exact ⟨since, same, turn.counts counts⟩
  | finds _ finds ih =>
      obtain ⟨since, same, turn⟩ := ih
      exact ⟨since, same, turn.finds finds⟩

/-! ## What happened was about the record that was due -/

/-- What is done for the record in hand is done for the record polled last. -/
theorem InTurn.concerns (turn : InTurn start before since phase)
    (known : phase.Known relay (since ++ .resumed start :: before))
    (moves : Moves relay phase happening next) (deed : happening.isDeed = true) :
    ∃ record, phase.record? = some record ∧ Concerns relay since record happening := by
  cases moves with
  | @publish record _ _ makes =>
      obtain ⟨now, _, decoded⟩ := known
      exact ⟨record, rfl, .attempted (turn.last record rfl) decoded makes _⟩
  | @miss record _ _ failure makes =>
      obtain ⟨now, _, decoded⟩ := known
      exact ⟨record, rfl, .attempted (turn.last record rfl) decoded makes _⟩
  | @cutOff record _ _ makes =>
      obtain ⟨now, _, decoded⟩ := known
      exact ⟨record, rfl, .attempted (turn.last record rfl) decoded makes _⟩
  | @setAside record _ carries =>
      exact ⟨record, rfl, .forwarded (turn.last record rfl) carries _⟩
  | @refuse record _ failure carries =>
      exact ⟨record, rfl, .forwarded (turn.last record rfl) carries _⟩
  | rewind record => exact ⟨record, rfl, .rewound (turn.last record rfl) _⟩
  | stick record failure => exact ⟨record, rfl, .rewound (turn.last record rfl) _⟩
  | commit record counter => exact ⟨record, rfl, .committed (turn.last record rfl) _⟩
  | decline record counter failure => exact ⟨record, rfl, .committed (turn.last record rfl) _⟩
  | _ => contradiction

theorem Concerns.last {earlier : History} {record : SourceRecord}
    (concerns : Concerns relay earlier record happening) (deed : happening.isDeed = true) :
    earlier.lastPolled? = some record := by
  cases concerns with
  | polled => contradiction
  | attempted last => exact last
  | forwarded last => exact last
  | committed last => exact last
  | rewound last => exact last

theorem InTurn.due_of_concerns {record : SourceRecord} (turn : InTurn start before since phase)
    (hand : InHand content (since ++ .resumed start :: before) phase)
    (known : phase.Known relay (since ++ .resumed start :: before))
    (may : content.Allows (since ++ .resumed start :: before) happening)
    (moves : Moves relay phase happening next)
    (concerns : Concerns relay since record happening) :
    content.record? record.coordinates.place (since.due start record.coordinates.place) =
      some record := by
  by_cases deed : happening.isDeed = true
  · obtain ⟨held, inHand, same⟩ := turn.concerns known moves deed
    have equal : held = record := by
      have last := same.last deed
      rw [concerns.last deed] at last
      exact (Option.some.inj last).symm
    subst equal
    exact turn.record?_due hand inHand
  · cases concerns with
    | polled =>
        cases moves with
        | receive =>
            have due := turn.others record.coordinates.place (fun _ held => nomatch held)
            rw [← due]
            exact InHand.receive may
        | idle empty => exact absurd rfl (empty record)
    | _ => exact absurd rfl deed

/-- The moments of a run that started to read every partition at `start`. -/
def Passed (relay : Relay) (content : Content) (start : Place → Nat) (before since : History) :
    Prop :=
  ∃ zero counters phase, Follows relay content.Allows (.resumed start :: before) zero
    (since ++ .resumed start :: before) counters phase

namespace Passed

theorem of_suffix {earlier : History} (passed : Passed relay content start before since)
    (suffix : earlier <:+ since) : Passed relay content start before earlier := by
  obtain ⟨zero, counters, phase, follows⟩ := passed
  obtain ⟨later, rfl⟩ := suffix
  have moment : earlier ++ .resumed start :: before <:+
      later ++ earlier ++ .resumed start :: before := by
    rw [List.append_assoc]
    exact List.suffix_append _ _
  obtain ⟨counters, phase, follows⟩ := follows.of_suffix (List.suffix_append _ _) moment
  exact ⟨zero, counters, phase, follows⟩

/-- Where something happened that is not that shutdown was asked for, the relay moved,
and what was due was in hand. -/
theorem of_cons (passed : Passed relay content start before (happening :: since))
    (notShutdown : happening ≠ .shutdown) :
    ∃ phase next, InTurn start before since phase ∧
      InHand content (since ++ .resumed start :: before) phase ∧
      phase.Known relay (since ++ .resumed start :: before) ∧
      content.Allows (since ++ .resumed start :: before) happening ∧
      Moves relay phase happening next := by
  obtain ⟨zero, counters, phase, follows⟩ := passed
  rcases follows.of_cons (List.suffix_append _ _) with asked | ⟨_, phase, next, follows, may, moves⟩
  · exact absurd asked notShutdown
  · obtain ⟨other, same, turn⟩ := follows.inTurn
    have equal : since = other := List.append_cancel_right same
    subst equal
    exact ⟨phase, next, turn, follows.inHand, follows.known, may, moves⟩

/-- Whatever happened about a record happened when the record was due. -/
theorem due {record : SourceRecord}
    (passed : Passed relay content start before (happening :: since))
    (concerns : Concerns relay since record happening) :
    content.record? record.coordinates.place (since.due start record.coordinates.place) =
      some record := by
  have notShutdown : happening ≠ .shutdown := by
    rintro rfl
    cases concerns
  obtain ⟨phase, next, turn, hand, known, may, moves⟩ := passed.of_cons notShutdown
  exact turn.due_of_concerns hand known may moves concerns

theorem concerns (passed : Passed relay content start before (happening :: since))
    (deed : happening.isDeed = true) : ∃ record, Concerns relay since record happening := by
  have notShutdown : happening ≠ .shutdown := by
    rintro rfl
    contradiction
  obtain ⟨phase, next, turn, hand, known, may, moves⟩ := passed.of_cons notShutdown
  obtain ⟨record, _, concerns⟩ := turn.concerns known moves deed
  exact ⟨record, concerns⟩

/-- A commit was attempted on the offset that was due. -/
theorem offset_eq_due {coordinates : Coordinates} {answer : Except Failure Unit}
    (passed : Passed relay content start before (.committed coordinates answer :: since)) :
    coordinates.offset = since.due start coordinates.place := by
  obtain ⟨record, concerns⟩ := passed.concerns rfl
  have found := passed.due concerns
  cases concerns
  exact content.offset_of_record? found

end Passed

/-! ## Counting -/

theorem due_eq_add_length (start : Place → Nat) (since : History) (place : Place) :
    since.due start place = start place + (since.commits place).length := by
  induction since with
  | nil => rfl
  | cons happening earlier ih =>
      cases happening with
      | committed coordinates answer =>
          by_cases placed : coordinates.place = place
          · simp [History.due, History.commits, placed, ih]
            omega
          · simp [History.due, History.commits, placed, ih]
      | _ => exact ih

theorem Passed.commits_eq (passed : Passed relay content start before since) (place : Place) :
    since.commits place =
      (List.range' (start place) (since.commits place).length).map Int.ofNat := by
  induction since with
  | nil => rfl
  | cons happening earlier ih =>
      have earlierEq := ih (passed.of_suffix (List.suffix_cons _ _))
      cases happening with
      | committed coordinates answer =>
          by_cases placed : coordinates.place = place
          · subst placed
            have offset := passed.offset_eq_due
            rw [due_eq_add_length] at offset
            simp only [History.commits, if_true, List.length_append, List.length_singleton,
              List.range'_concat, List.map_append, List.map_singleton, Nat.one_mul]
            rw [← earlierEq, offset]
            rfl
          · simp only [History.commits, placed, if_false]
            exact earlierEq
      | _ => exact earlierEq

theorem due_mono (start : Place → Nat) (middle earlier : History) (place : Place) :
    earlier.due start place ≤ History.due start (middle ++ earlier) place := by
  induction middle with
  | nil => exact Nat.le_refl _
  | cons happening middle ih =>
      cases happening with
      | committed coordinates answer =>
          simp only [List.cons_append, History.due]
          split
          · exact Nat.le_succ_of_le ih
          · exact ih
      | _ => exact ih

/-- What is due changes only by an attempt to commit what was due. -/
theorem Passed.exists_committed {middle earlier : History} {place : Place}
    (passed : Passed relay content start before (middle ++ earlier))
    (changed : History.due start (middle ++ earlier) place ≠ earlier.due start place) :
    ∃ coordinates answer, Happening.committed coordinates answer ∈ middle ∧
      coordinates.place = place ∧ coordinates.offset = earlier.due start place := by
  induction middle with
  | nil => exact absurd rfl changed
  | cons happening middle ih =>
      by_cases already : History.due start (middle ++ earlier) place = earlier.due start place
      · cases happening with
        | committed coordinates answer =>
            by_cases placed : coordinates.place = place
            · refine ⟨coordinates, answer, List.mem_cons_self, placed, ?_⟩
              rw [passed.offset_eq_due, placed, ← already]
              rfl
            · simp only [List.cons_append, History.due, placed, if_false] at changed
              exact absurd already changed
        | _ => exact absurd already changed
      · obtain ⟨coordinates, answer, mem, found⟩ :=
          ih (passed.of_suffix (List.suffix_cons _ _)) already
        exact ⟨coordinates, answer, List.mem_cons_of_mem _ mem, found⟩

/-! ## The order of a run -/

/-- Of two things that happened about a partition each was about the record that was
due at its moment. -/
theorem Passed.due_both {second first : Happening} {middle earlier : History}
    {record other : SourceRecord} (passed : Passed relay content start before since)
    (suffix : second :: (middle ++ first :: earlier) <:+ since)
    (about : Concerns relay earlier record first)
    (later : Concerns relay (middle ++ first :: earlier) other second)
    (placed : other.coordinates.place = record.coordinates.place) :
    content.record? record.coordinates.place (earlier.due start record.coordinates.place) =
        some record ∧
      content.record? record.coordinates.place
        (History.due start (middle ++ first :: earlier) record.coordinates.place) = some other := by
  have between := passed.of_suffix ((List.suffix_cons second _).trans suffix)
  have next := (passed.of_suffix suffix).due later
  rw [placed] at next
  exact ⟨(between.of_suffix (List.suffix_append middle _)).due about, next⟩

theorem Passed.inOrder (passed : Passed relay content start before since) :
    InOrder relay start since where
  commits := passed.commits_eq
  concerns happening earlier suffix deed := (passed.of_suffix suffix).concerns deed
  ordered second middle first earlier record other suffix about later placed := by
    obtain ⟨found, next⟩ := passed.due_both suffix about later placed
    have grows := due_mono start (middle ++ [first]) earlier record.coordinates.place
    rw [List.append_assoc] at grows
    rcases Nat.lt_or_eq_of_le grows with less | same
    · right
      rw [content.offset_of_record? found, content.offset_of_record? next]
      exact Int.ofNat_lt.mpr less
    · left
      rw [same] at found
      exact Option.some.inj (next.symm.trans found)
  blocked second middle first earlier record other suffix about later placed uncommitted := by
    obtain ⟨found, next⟩ := passed.due_both suffix about later placed
    by_cases same : History.due start (middle ++ first :: earlier) record.coordinates.place =
        History.due start earlier record.coordinates.place
    · rw [same] at next
      exact Option.some.inj (next.symm.trans found)
    · have between := passed.of_suffix ((List.suffix_cons second _).trans suffix)
      have whole : middle ++ first :: earlier = middle ++ [first] ++ earlier := by simp
      change Passed relay content start before (middle ++ first :: earlier) at between
      rw [whole] at between same
      obtain ⟨coordinates, answer, mem, lies, offset⟩ := between.exists_committed same
      rw [← content.offset_of_record? found] at offset
      rw [Coordinates.eq_of_place lies offset] at mem
      exact absurd mem (uncommitted answer)

/-- Every run on a partitioned log keeps the order of the partitions. -/
theorem inOrder_run {χ : Type} (whims : Whims χ) (session : Session (Course χ)) (most : Nat)
    (starts : session.world.history = .resumed start :: before) :
    ∃ since, (relay.run (content.environment whims) most session).2.world.history =
        since ++ .resumed start :: before ∧ InOrder relay start since := by
  obtain ⟨counters, phase, follows⟩ := follows_run relay content whims session most
  rw [starts] at follows
  obtain ⟨since, ran, _⟩ := follows.inTurn
  rw [ran] at follows
  exact ⟨since, ran, Passed.inOrder ⟨_, counters, phase, follows⟩⟩

/-- Two records are polled, published and committed, one after the other. -/
theorem inOrder_run_passing :
    let place : Place := ⟨"outbox", 0⟩
    let content := Content.single place
      [⟨⟨"", 0, 0⟩, none, some [1], ∅, none⟩, ⟨⟨"", 0, 0⟩, none, some [2], ∅, none⟩]
    let history :=
      (passing.run (content.environment (.smooth place)) 3 opening).2.world.history
    opening.world.history = [.resumed fun _ => 0] ∧
      history.position place = 2 ∧ history.commits place = [0, 1] ∧
      (history.filter Happening.isDeed).length = 4 ∧
      ∃ since, history = since ++ [.resumed fun _ => 0] ∧ InOrder passing (fun _ => 0) since := by
  intro place content history
  have read : history.position place = 2 := by decide +kernel
  have committed : history.commits place = [0, 1] := by decide +kernel
  have done : (history.filter Happening.isDeed).length = 4 := by decide +kernel
  exact ⟨rfl, read, committed, done, inOrder_run (.smooth place) opening 3 rfl⟩

end EventRelay.Relay
