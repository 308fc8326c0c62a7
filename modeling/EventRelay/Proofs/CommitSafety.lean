import EventRelay.Proofs.Reading

/-!
# Committed records are accounted for

A relay may be stopped and started again at any moment, and each time it resumes
every partition where it is committed. At every moment, whatever lies below what is
committed says nothing, or was published, or was set aside. The invariant that
carries this speaks of what was read: all of it is accounted for but the record in
hand.
-/

namespace EventRelay.Relay

/-- Why a record need not be looked at again. -/
inductive Resolved (relay : Relay) (history : History) (record : SourceRecord) : Prop
  | tombstone (tombstone : record.isTombstone = true)
  /-- It was decoded and holds no event. -/
  | skipped {now : Instant} {reason : String} (told : .told now ∈ history)
      (decoded : relay.decoder now record = .ok (.skipped reason))
  /-- The message that is made of its event was published over its headers. -/
  | published {now : Instant} {envelope : Envelope} {message : Message}
      (told : .told now ∈ history) (decoded : relay.decoder now record = .ok (.event envelope))
      (makes : relay.Makes envelope message)
      (published : .attempted message (record.propagatedHeaders envelope) (.finished (.ok ())) ∈
        history)
  /-- A dead letter for it was published. -/
  | setAside {message : Message} (carries : relay.SetsAside record message)
      (forwarded : .forwarded message ∅ (.ok ()) ∈ history)

theorem Resolved.cons {relay : Relay} {history : History} {record : SourceRecord}
    (resolved : Resolved relay history record) (happening : Happening) :
    Resolved relay (happening :: history) record := by
  cases resolved with
  | tombstone tombstone => exact .tombstone tombstone
  | skipped told decoded => exact .skipped (List.mem_cons_of_mem _ told) decoded
  | published told decoded makes published =>
      exact .published (List.mem_cons_of_mem _ told) decoded makes
        (List.mem_cons_of_mem _ published)
  | setAside carries forwarded => exact .setAside carries (List.mem_cons_of_mem _ forwarded)

/-- There is a record at an offset of a partition, and it is resolved. -/
def Accounted (relay : Relay) (content : Content) (history : History) (place : Place)
    (offset : Nat) : Prop :=
  ∃ record, content.record? place offset = some record ∧ Resolved relay history record

theorem Accounted.cons {relay : Relay} {content : Content} {history : History} {place : Place}
    {offset : Nat} (accounted : Accounted relay content history place offset)
    (happening : Happening) : Accounted relay content (happening :: history) place offset := by
  obtain ⟨record, found, resolved⟩ := accounted
  exact ⟨record, found, resolved.cons happening⟩

variable {relay : Relay} {content : Content} {history : History} {happening : Happening}
  {phase next : Phase}

/-! ## What a phase tells of the record in hand -/

/-- A record to be published was decoded, and one to be committed is resolved. -/
def Phase.Known (relay : Relay) (history : History) : Phase → Prop
  | .opened record envelope =>
      ∃ now, .told now ∈ history ∧ relay.decoder now record = .ok (.event envelope)
  | .done record _ => Resolved relay history record
  | _ => True

theorem Phase.Known.cons (known : phase.Known relay history) (happening : Happening) :
    phase.Known relay (happening :: history) := by
  cases phase with
  | opened record envelope =>
      obtain ⟨now, told, decoded⟩ := known
      exact ⟨now, List.mem_cons_of_mem _ told, decoded⟩
  | done record counter => exact Resolved.cons known happening
  | _ => trivial

theorem Phase.Known.moves (known : phase.Known relay history)
    (moves : Moves relay phase happening next) : next.Known relay (happening :: history) := by
  cases moves with
  | skip decoded => exact .skipped List.mem_cons_self decoded
  | unpack decoded => exact ⟨_, List.mem_cons_self, decoded⟩
  | publish makes =>
      obtain ⟨now, told, decoded⟩ := known
      exact .published (List.mem_cons_of_mem _ told) decoded makes List.mem_cons_self
  | setAside carries => exact .setAside carries List.mem_cons_self
  | miss | lookOn | waitOn | lookBack => exact known.cons _
  | _ => trivial

theorem Phase.Known.counts {counter : Counter} (known : phase.Known relay history)
    (counts : Counts relay phase counter next) : next.Known relay history := by
  cases counts with
  | retry => exact known
  | _ => trivial

theorem Phase.Known.finds (finds : Finds relay phase next) : next.Known relay history := by
  cases finds with
  | tombstone tombstone => exact .tombstone tombstone
  | _ => trivial

theorem Follows.known {start : History} {zero counters : Counters}
    (follows : Follows relay content.Allows start zero history counters phase) :
    phase.Known relay history := by
  induction follows with
  | start => trivial
  | shutdown _ ih => exact ih.cons _
  | happens _ _ moves ih => exact ih.moves moves
  | counts _ counts ih => exact ih.counts counts
  | finds _ finds _ => exact Phase.Known.finds finds

/-! ## What was read and what is committed -/

/-- What is committed is accounted for, and so is what was read but the record in
hand. -/
structure Safe (relay : Relay) (content : Content) (history : History) (phase : Phase) :
    Prop where
  committed : ∀ place offset, offset < history.committed place →
    Accounted relay content history place offset
  read : ∀ place offset, offset < history.position place →
    (∀ record, phase.record? = some record → content.record? place offset ≠ some record) →
      Accounted relay content history place offset

namespace Safe

/-- A run that resumes where everything is committed has nothing in hand. -/
theorem resumed (committed : ∀ place offset, offset < history.committed place →
      Accounted relay content history place offset) :
    Safe relay content (.resumed history.committed :: history) .ready where
  committed place offset below := (committed place offset below).cons _
  read place offset below _ := (committed place offset below).cons _

theorem shutdown (safe : Safe relay content history phase) :
    Safe relay content (.shutdown :: history) phase where
  committed place offset below := (safe.committed place offset below).cons _
  read place offset below other := (safe.read place offset below other).cons _

/-- Once the record in hand is resolved, all that was read is accounted for. -/
theorem read_of_resolved {record : SourceRecord} (safe : Safe relay content history phase)
    (held : phase.record? = some record) (resolved : Resolved relay history record)
    {place : Place} {offset : Nat} (below : offset < history.position place) :
    Accounted relay content history place offset := by
  by_cases found : content.record? place offset = some record
  · exact ⟨record, found, resolved⟩
  · apply safe.read place offset below
    intro other same
    cases held.symm.trans same
    exact found

/-- What was read before the record in hand is accounted for. -/
theorem read_of_lt {record : SourceRecord} (safe : Safe relay content history phase)
    (held : phase.record? = some record) {last offset : Nat}
    (found : content.record? record.coordinates.place last = some record)
    (position : history.position record.coordinates.place = last + 1) (below : offset < last) :
    Accounted relay content history record.coordinates.place offset := by
  apply safe.read _ offset (by omega)
  intro other same different
  cases held.symm.trans same
  have first := content.offset_of_record? found
  have second := content.offset_of_record? different
  omega

/-- What the log hands out next is in hand, and nothing else that was read is. -/
theorem receive {record : SourceRecord} (safe : Safe relay content history .ready)
    (may : content.Allows history (.polled (.ok (.record record)))) :
    Safe relay content (.polled (.ok (.record record)) :: history) (.polled record) where
  committed place offset below := (safe.committed place offset below).cons _
  read place offset below other := by
    apply Accounted.cons
    apply safe.read place offset _ (fun _ held => nomatch held)
    have next := InHand.receive may
    simp only [History.position] at below
    split at below
    · rename_i placed
      subst placed
      have different : offset ≠ history.position record.coordinates.place := by
        rintro rfl
        exact other record rfl next
      omega
    · exact below

theorem rewind {record : SourceRecord} (safe : Safe relay content history (.stranded record))
    (hand : InHand content history (.stranded record)) :
    Safe relay content (.rewound record.coordinates (.ok ()) :: history)
      (.owing .pendingRedeliveries) where
  committed place offset below := (safe.committed place offset below).cons _
  read place offset below _ := by
    apply Accounted.cons
    obtain ⟨last, found, position⟩ := hand.lies record rfl
    have lies := content.offset_of_record? found
    simp only [History.position] at below
    split at below
    · rename_i placed
      subst placed
      exact safe.read_of_lt rfl found position (by omega)
    · rename_i elsewhere
      apply safe.read place offset below
      rintro other ⟨⟩ same
      exact elsewhere (content.place_of_record? same)

theorem commit {record : SourceRecord} {counter : Counter}
    (safe : Safe relay content history (.done record counter))
    (hand : InHand content history (.done record counter))
    (resolved : Resolved relay history record) :
    Safe relay content (.committed record.coordinates (.ok ()) :: history)
      (.owing counter) where
  committed place offset below := by
    apply Accounted.cons
    obtain ⟨last, found, position⟩ := hand.lies record rfl
    have lies := content.offset_of_record? found
    simp only [History.committed] at below
    split at below
    · rename_i placed
      subst placed
      exact safe.read_of_resolved rfl resolved (by omega)
    · exact safe.committed place offset below
  read place offset below _ := (safe.read_of_resolved rfl resolved below).cons _

theorem moves (safe : Safe relay content history phase) (hand : InHand content history phase)
    (known : phase.Known relay history) (may : content.Allows history happening)
    (moves : Moves relay phase happening next) :
    Safe relay content (happening :: history) next := by
  cases moves with
  | receive record => exact safe.receive may
  | rewind record => exact safe.rewind hand
  | commit record counter => exact safe.commit hand known
  | decline record counter failure =>
      exact ⟨fun place offset below => (safe.committed place offset below).cons _,
        fun place offset below _ => (safe.read_of_resolved rfl known below).cons _⟩
  | idle empty =>
      constructor
      · intro place offset below
        exact (safe.committed place offset below).cons _
      · intro place offset below other
        rw [History.position_of_idle empty] at below
        exact (safe.read place offset below other).cons _
  | overlook record => exact absurd may hand.not_overlooked
  | _ =>
      exact ⟨fun place offset below => (safe.committed place offset below).cons _,
        fun place offset below other => (safe.read place offset below other).cons _⟩

theorem counts {counter : Counter} (safe : Safe relay content history phase)
    (counts : Counts relay phase counter next) : Safe relay content history next := by
  cases counts <;> exact ⟨safe.committed, safe.read⟩

theorem finds (safe : Safe relay content history phase) (finds : Finds relay phase next) :
    Safe relay content history next := by
  cases finds <;> exact ⟨safe.committed, safe.read⟩

end Safe

/-- What a run finds accounted for when it starts stays so. -/
theorem Follows.safe {start : History} {zero counters : Counters}
    (follows : Follows relay content.Allows start zero history counters phase)
    (safe : Safe relay content start .ready) : Safe relay content history phase := by
  induction follows with
  | start => exact safe
  | shutdown _ ih => exact ih.shutdown
  | happens follows may moves ih => exact ih.moves follows.inHand follows.known may moves
  | counts _ counts ih => exact ih.counts counts
  | finds _ finds ih => exact ih.finds finds

/-! ## Runs one after another -/

/-- The moments that a relay comes to by runs one after another, each resuming every
partition where it is committed at some moment of the runs before. -/
inductive Reached (relay : Relay) (content : Content) : History → Prop
  | fresh : Reached relay content []
  | run {χ : Type} {history moment : History} (whims : Whims χ) (session : Session (Course χ))
      (most : Nat) (reached : Reached relay content history)
      (resumes : session.world.history = .resumed history.committed :: history)
      (earlier : moment <:+
        (relay.run (content.environment whims) most session).2.world.history) :
      Reached relay content moment

/-- A run on a partitioned log moves from phase to phase. -/
theorem follows_run {χ : Type} (relay : Relay) (content : Content) (whims : Whims χ)
    (session : Session (Course χ)) (most : Nat) :
    ∃ counters phase, Follows relay content.Allows session.world.history session.counters
      (relay.run (content.environment whims) most session).2.world.history counters phase := by
  let observer : Observer (Course χ) :=
    { relay, history := Course.history, allowed := content.Allows,
      start := session.world.history, zero := session.counters }
  obtain ⟨phase, at_⟩ :=
    observer.somewhere_run (content.keeps whims) most session .start
  exact ⟨_, phase, at_⟩

/-- What holds of a moment holds of every moment before it. -/
theorem Reached.accounted (reached : Reached relay content history) {moment : History}
    (before : moment <:+ history) : ∀ place offset, offset < moment.committed place →
      Accounted relay content moment place offset := by
  induction reached generalizing moment with
  | fresh =>
      intro place offset below
      rw [List.suffix_nil.mp before] at below
      contradiction
  | run whims session most reached resumes earlier ih =>
      obtain ⟨counters, phase, follows⟩ := follows_run relay content whims session most
      rw [resumes] at follows
      have since := before.trans earlier
      rcases List.suffix_or_suffix_of_suffix since follows.start_suffix with old | new
      · rcases List.suffix_cons_iff.mp old with rfl | old
        · exact (Safe.resumed (ih (List.suffix_refl _))).committed
        · exact ih old
      · obtain ⟨_, _, followed⟩ := follows.of_suffix new since
        exact (followed.safe (Safe.resumed (ih (List.suffix_refl _)))).committed

/-- At every moment of runs one after another, every record below what is committed
says nothing, or was published, or was set aside. -/
theorem resolved_of_lt_committed (reached : Reached relay content history) {place : Place}
    {offset : Nat} (below : offset < history.committed place) :
    ∃ record, content.record? place offset = some record ∧ Resolved relay history record :=
  reached.accounted (List.suffix_refl history) place offset below

theorem resolved_of_lt_committed_passing :
    let place : Place := ⟨"outbox", 0⟩
    let content := Content.single place [⟨⟨"", 0, 0⟩, none, some [1], ∅, none⟩]
    let history :=
      (passing.run (content.environment (.smooth place)) 2 opening).2.world.history
    0 < history.committed place ∧
      ∃ record, content.record? place 0 = some record ∧ Resolved passing history record := by
  intro place content history
  have below : 0 < history.committed place := by decide +kernel
  exact ⟨below, resolved_of_lt_committed (.run _ _ 2 .fresh rfl (List.suffix_refl _)) below⟩

end EventRelay.Relay
