import EventRelay.Proofs.CommitSafety
import EventRelay.Proofs.SettingUp
import EventRelay.Proofs.Since

/-!
# Whether dead letters come back

A dead letter of a topic goes to the topic with the suffix behind its name. Settings isolate
dead letters when no topic that is read gives another one in this way. Nothing makes sure
of it when settings are accepted, and it is just what keeps a relay from reading its own
dead letters.
-/

namespace EventRelay

/-- No dead letter of a topic that is read goes to a topic that is read. -/
def Settings.Isolates (settings : Settings) : Prop :=
  ∀ topic ∈ settings.topics, topic ++ settings.deadLetterSuffix ∉ settings.topics

instance (settings : Settings) : Decidable settings.Isolates :=
  inferInstanceAs (Decidable (∀ topic ∈ settings.topics, _))

example : ({} : Settings).Isolates := by decide +kernel

namespace Relay

open Run

/-! ## What is set aside goes to the topic with the suffix -/

theorem SetsAside.destination {relay : Relay} {record : SourceRecord} {message : Message}
    (carries : relay.SetsAside record message) :
    message.destination = record.coordinates.topic ++ relay.forwarder.suffix := by
  obtain ⟨id, now, headers, failure, rfl⟩ := carries
  rfl

/-- The relay that settings set up decodes as it is told and forwards as they say. -/
theorem ofSettings_eq_ok {settings : Settings} {registry : Registry} {decoder : Outbox.Decoder}
    {relay : Relay} (accepted : ofSettings settings registry decoder = .ok relay) :
    relay.decoder = decoder ∧ relay.forwarder = .ofSettings settings := by
  obtain ⟨-, policy, -, rfl⟩ := ofSettings_eq_ok_iff.mp accepted
  exact ⟨rfl, rfl⟩

/-- All records of a log lie in these topics. -/
def Content.LiesIn (content : Content) (topics : List String) : Prop :=
  ∀ place, content.records place ≠ [] → place.topic ∈ topics

/-- A relay that reads these topics publishes no dead letter to one of them, however long it
runs and whatever happens. -/
def Isolated (relay : Relay) (topics : List String) : Prop :=
  ∀ (content : Content), content.LiesIn topics → ∀ (χ : Type) (whims : Whims χ)
    (session : Session (Course χ)) (most : Nat) (since : History),
    (relay.run (content.environment whims) most session).2.world.history =
        since ++ session.world.history →
      ∀ message headers answer, .forwarded message headers answer ∈ since →
        message.destination ∉ topics

variable {relay : Relay} {content : Content}

/-- What was forwarded since a moment goes to the topic of some record that lies in the log,
with the suffix behind its name. -/
theorem Follows.destination {start since : History} {zero counters : Counters} {phase : Phase}
    (follows : Follows relay content.Allows start zero (since ++ start) counters phase)
    {message : Message} {headers : Headers} {answer : Except Failure Unit}
    (forwarded : .forwarded message headers answer ∈ since) :
    ∃ place, content.records place ≠ [] ∧
      message.destination = place.topic ++ relay.forwarder.suffix := by
  have stems {record : SourceRecord} {before : History} {counters : Counters}
      (follows : Follows relay content.Allows start zero before counters (.spoiled record))
      (carries : relay.SetsAside record message) : ∃ place, content.records place ≠ [] ∧
        message.destination = place.topic ++ relay.forwarder.suffix := by
    obtain ⟨offset, found, _⟩ := follows.inHand.lies record rfl
    refine ⟨record.coordinates.place, ?_, carries.destination⟩
    intro empty
    simp [Content.record?, empty] at found
  obtain ⟨after, before, rfl⟩ := List.append_of_mem forwarded
  have earlier : .forwarded message headers answer :: (before ++ start) <:+
      after ++ .forwarded message headers answer :: before ++ start := ⟨after, by simp⟩
  have started : start <:+ before ++ start := List.suffix_append before start
  obtain ⟨_, _, reached⟩ := follows.of_suffix (started.trans (List.suffix_cons _ _)) earlier
  rcases reached.of_cons started with shutdown | ⟨_, _, _, followed, _, moves⟩
  · contradiction
  · cases moves with
    | setAside carries => exact stems followed carries
    | refuse failure carries => exact stems followed carries

theorem isolated_of_isolates {topics : List String}
    (isolates : ∀ topic ∈ topics, topic ++ relay.forwarder.suffix ∉ topics) :
    relay.Isolated topics := by
  intro content lies χ whims session most since ran message headers answer forwarded
  obtain ⟨counters, phase, follows⟩ := follows_run relay content whims session most
  rw [ran] at follows
  obtain ⟨place, holds, destination⟩ := follows.destination forwarded
  rw [destination]
  exact isolates place.topic (lies place holds)

/-! ## A record that cannot be decoded -/

/-- A dead letter was sent to a topic. -/
def Fed (destination : String) (since : History) : Prop :=
  ∃ message answer, message.destination = destination ∧ .forwarded message ∅ answer ∈ since

theorem Fed.cons {destination : String} {since : History} (fed : Fed destination since)
    (happening : Happening) : Fed destination (happening :: since) := by
  obtain ⟨message, answer, same, forwarded⟩ := fed
  exact ⟨message, answer, same, List.mem_cons_of_mem _ forwarded⟩

theorem Fed.steady {destination : String} : Steady (Fed destination) :=
  fun _ fed => fed.cons _

section Sent

variable {ω : Type} {environment : Environment ω} {history : ω → History}
  {allowed : History → Happening → Prop} {base : History} {destination : String}
  {broken : Session ω → Prop}
  (keeps : environment.Keeps history allowed)

include keeps in
theorem commit_fed (coordinates : Coordinates) :
    Leads (Since history base (Fed destination)) (commit environment coordinates)
      (fun _ => Since history base (Fed destination)) broken := by
  unfold commit
  apply (leads_keep_since (keeps.commit _) Fed.steady fun _ _ fed => fed.cons _).bind
  rintro (failure | ⟨⟩)
  · apply leads_count_since.bind
    intro _
    apply (leads_silent_since (keeps.note _) Fed.steady).bind
    intro _
    exact leads_pure fun _ fed => fed
  · exact leads_pure fun _ fed => fed

include keeps in
theorem redeliver_fed (coordinates : Coordinates) :
    Leads (Since history base (Fed destination)) (redeliver environment coordinates)
      (fun _ => Since history base (Fed destination)) broken := by
  unfold redeliver
  apply (leads_keep_since (keeps.rewind _) Fed.steady fun _ _ fed => fed.cons _).bind
  rintro (failure | ⟨⟩)
  · exact leads_pure fun _ fed => fed
  · apply leads_count_since.bind
    intro _
    exact leads_pure fun _ fed => fed

/-- Nothing is known of what happened. -/
theorem steady_true : Steady fun _ => True :=
  fun _ _ => trivial

include keeps in
theorem forward_fed (forwarder : Forwarder) (record : SourceRecord) (headers : Headers)
    (failure : Failure) :
    Leads (Since history base fun _ => True)
      (act (forwarder.forward environment record headers failure))
      (fun _ => Since history base (Fed (record.coordinates.topic ++ forwarder.suffix)))
      broken := by
  unfold Forwarder.forward
  rw [act_bind]
  apply (leads_silent_since keeps.freshId steady_true).bind
  intro id
  rw [act_bind]
  apply (leads_keep_since keeps.now steady_true fun _ _ _ => trivial).bind
  intro now
  rw [act_bind]
  have sends : Leads (Since history base fun _ => True)
      (act (environment.publisher.publish
        ((forwarder.letter id now record headers failure).toMessage forwarder.suffix) ∅))
      (fun _ => Since history base (Fed (record.coordinates.topic ++ forwarder.suffix)))
      broken :=
    leads_since (keeps.publish _ _) steady_true fun answer _ _ _ =>
      ⟨_, answer, rfl, List.mem_cons_self⟩
  apply sends.bind
  rintro (refusal | ⟨⟩)
  all_goals
    rw [act_bind]
    apply (leads_silent_since (keeps.note _) Fed.steady).bind
    intro _
    exact leads_pure fun _ fed => fed

include keeps in
theorem setAside_fed {forwarder : Forwarder} (enabled : forwarder.enabled = true)
    (record : SourceRecord) (headers : Headers) (failure : Failure) :
    Leads (Since history base fun _ => True)
      (setAside environment forwarder record headers failure)
      (fun _ => Since history base (Fed (record.coordinates.topic ++ forwarder.suffix)))
      broken := by
  unfold setAside
  rw [if_pos enabled]
  apply (forward_fed keeps forwarder record headers failure).bind
  rintro (refusal | letter)
  · apply leads_count_since.bind
    intro _
    exact redeliver_fed keeps record.coordinates
  · apply (commit_fed keeps record.coordinates).bind
    rintro (refusal | ⟨⟩)
    · exact leads_pure fun _ fed => fed
    · apply leads_count_since.bind
      intro _
      exact leads_pure fun _ fed => fed

/-- What was settled is not delivered. -/
theorem asReceived_ne_delivered (result : Except Failure Disposition) (delivery : Delivery) :
    asReceived result ≠ .ok (.delivered delivery) := by
  rcases result with failure | disposition <;> nofun

include keeps in
/-- Whatever the world, a record that cannot be decoded is sent to its topic with the suffix
behind the name. -/
theorem takeIn_fed {decoder : Outbox.Decoder} {forwarder : Forwarder}
    (enabled : forwarder.enabled = true) {record : SourceRecord}
    (spoken : record.isTombstone = false)
    (fails : ∀ now, ∃ failure, decoder now record = .error failure) :
    Leads (Since history base fun _ => True) (takeIn environment decoder forwarder record)
      (fun received session => (∀ delivery, received ≠ .ok (.delivered delivery)) ∧
        Since history base (Fed (record.coordinates.topic ++ forwarder.suffix)) session)
      broken := by
  unfold takeIn
  rw [spoken]
  apply leads_count_since.bind
  intro _
  apply (leads_keep_since keeps.now steady_true fun _ _ _ => trivial).bind
  intro now
  obtain ⟨failure, failed⟩ := fails now
  rw [failed]
  apply leads_count_since.bind
  intro _
  apply (leads_silent_since (keeps.note _) steady_true).bind
  intro _
  apply (setAside_fed keeps enabled record record.headers failure).bind
  intro result
  exact leads_pure fun _ fed => ⟨asReceived_ne_delivered result, fed⟩

include keeps in
theorem goOn_fed (result : Except Failure (Option Disposition)) :
    Leads (Since history base (Fed destination)) (relay.goOn environment result)
      (fun _ => Since history base (Fed destination)) broken := by
  apply leads_goOn
  · exact fun _ => leads_silent_since (keeps.note _) Fed.steady
  · exact fun _ _ fed => fed
  · exact fun _ => leads_keep_since (keeps.pause _) Fed.steady fun _ _ fed => fed.cons _
  · exact fun _ _ _ => leads_silent_since keeps.trigger Fed.steady

end Sent

/-! ## A dead letter that comes back -/

/-- A value that is no document. -/
def poison : Bytes := [0x78]

theorem decoder_poison (now : Instant) (coordinates : Coordinates) :
    Outbox.decoder now ⟨coordinates, none, some poison, ∅, none⟩ =
      .error (.decode .notDocument) := by
  have unread : Json.Tree.parse? poison = none := by decide +kernel
  have failed : Outbox.decodeContent now ⟨coordinates, none, some poison, ∅, none⟩ poison =
      .error .notDocument := by
    unfold Outbox.decodeContent
    rw [show Outbox.unframe poison = (none, poison) from rfl]
    dsimp only
    rw [unread]
  rw [Outbox.decoder, Outbox.decode, show SourceRecord.content? _ = some poison from rfl]
  dsimp only
  rw [failed]
  rfl

/-- A record that is no document, at the start of a partition. -/
def poisonAt (place : Place) : SourceRecord :=
  ⟨⟨place.topic, place.partition, 0⟩, none, some poison, ∅, none⟩

/-- A log that holds nothing else. -/
def poisoned (place : Place) : Content :=
  .single place [poisonAt place]

theorem poisoned_liesIn {place : Place} {topics : List String} (reads : place.topic ∈ topics) :
    (poisoned place).LiesIn topics := by
  intro other holds
  by_cases same : other = place
  · rwa [same]
  · exact absurd (if_neg same) holds

theorem polled_poisoned {place : Place} {history : History}
    (first : history.position place = 0) :
    (poisoned place).polled history (.partition place) = .record (poisonAt place) := by
  simp [Content.polled, poisoned, Content.single, first, poisonAt]

variable {place : Place}

/-- The next record of a poisoned log is its first. -/
def AtStart (place : Place) (session : Session (Course Unit)) : Prop :=
  session.world.history.position place = 0

theorem receive_fed (decodes : relay.decoder = Outbox.decoder)
    (enabled : relay.forwarder.enabled = true) :
    Leads (AtStart place)
      (receive ((poisoned place).environment (.smooth place)) relay.decoder relay.forwarder
        relay.pollTimeout)
      (fun received session => (∀ delivery, received ≠ .ok (.delivered delivery)) ∧
        Since Course.history [] (Fed (place.topic ++ relay.forwarder.suffix)) session)
      (fun _ => False) := by
  have polls : Leads (AtStart place)
      (act (((poisoned place).environment (.smooth place)).log.poll relay.pollTimeout))
      (fun answer session => answer = .ok (.record (poisonAt place)) ∧
        Since Course.history [] (fun _ => True) session) (fun _ => False) := by
    apply leads_act
    intro session first
    refine ⟨?_, _, (List.append_nil _).symm, trivial⟩
    exact congrArg Except.ok (polled_poisoned first)
  have fails (now : Instant) : ∃ failure, relay.decoder now (poisonAt place) = .error failure :=
    ⟨_, decodes ▸ decoder_poison now _⟩
  unfold receive
  apply polls.bind
  intro answer
  apply leads_and
  rintro rfl
  exact takeIn_fed ((poisoned place).keeps _) enabled rfl fails

/-- A relay that polls a poisoned log sets its record aside. -/
theorem pollOnce_fed (decodes : relay.decoder = Outbox.decoder)
    (enabled : relay.forwarder.enabled = true) :
    Leads (AtStart place) (relay.pollOnce ((poisoned place).environment (.smooth place)))
      (fun _ => Since Course.history [] (Fed (place.topic ++ relay.forwarder.suffix)))
      (fun _ => False) := by
  unfold pollOnce
  apply (receive_fed decodes enabled).bind
  rintro (failure | _ | disposition | delivery)
  · exact leads_pure fun _ fed => fed.2
  · exact leads_pure fun _ fed => fed.2
  · exact leads_pure fun _ fed => fed.2
  · exact leads_and fun undelivered => absurd rfl (undelivered delivery)

/-- A relay that reads a poisoned log sets its record aside in its first turn. -/
theorem run_fed (decodes : relay.decoder = Outbox.decoder)
    (enabled : relay.forwarder.enabled = true) (place : Place) :
    Leads (fun session => session.world = opening.world)
      (relay.run ((poisoned place).environment (.smooth place)) 1)
      (fun _ => Since Course.history [] (Fed (place.topic ++ relay.forwarder.suffix)))
      (fun _ => False) := by
  have looks : Leads (fun session => session.world = opening.world)
      (act ((poisoned place).environment (.smooth place)).signal.isTriggered)
      (fun given session => given = false ∧ AtStart place session) (fun _ => False) := by
    apply leads_act
    intro session same
    rw [AtStart, same]
    exact ⟨rfl, rfl⟩
  have turn := leads_turn looks (leads_and fun impossible => nomatch impossible)
    (leads_and fun _ => pollOnce_fed decodes enabled) (goOn_fed ((poisoned place).keeps _))
  unfold run turns
  have notes (notice : Notice) : Leads (fun session => session.world = opening.world)
      (act (((poisoned place).environment (.smooth place)).note notice))
      (fun _ session => session.world = opening.world) (fun _ => False) := by
    apply leads_act
    intro session same
    rw [same]
    rfl
  apply (notes _).bind
  intro _
  apply turn.bind
  rintro (_ | result)
  · exact leads_pure fun _ fed => fed
  · exact leads_pure fun _ fed => fed

/-- A relay that reads a topic whose dead letters go to a topic that is read may publish one
there. -/
theorem not_isolated {topics : List String} (decodes : relay.decoder = Outbox.decoder)
    (enabled : relay.forwarder.enabled = true) {topic : String} (reads : topic ∈ topics)
    (comesBack : topic ++ relay.forwarder.suffix ∈ topics) : ¬relay.Isolated topics := by
  intro isolated
  let place : Place := ⟨topic, 0⟩
  have led := run_fed decodes enabled place opening rfl
  obtain ⟨_, _, follows⟩ := follows_run relay (poisoned place) (.smooth place) opening 1
  obtain ⟨since, ran⟩ := follows.start_suffix
  have apart := isolated (poisoned place) (poisoned_liesIn reads) Unit (.smooth place) opening 1
    since ran.symm
  revert led ran
  rcases relay.run ((poisoned place).environment (.smooth place)) 1 opening with ⟨_ | _, later⟩
  · exact False.elim
  · rintro ⟨whole, history, message, answer, same, forwarded⟩ ran
    rw [List.append_nil] at history
    have happened : .forwarded message ∅ answer ∈ since ++ opening.world.history := by
      rw [ran]
      exact history ▸ forwarded
    rcases List.mem_append.mp happened with new | old
    · apply apart message ∅ answer new
      rw [same]
      exact comesBack
    · simp [opening] at old

/-- Settings that are accepted, with dead letters sent, keep all dead letters out of the
topics that are read exactly if the suffix takes no such topic to another. -/
theorem isolated_iff_isolates {settings : Settings} {registry : Registry}
    (accepted : ofSettings settings registry Outbox.decoder = .ok relay)
    (enabled : settings.deadLetterEnabled = true) :
    relay.Isolated settings.topics ↔ settings.Isolates := by
  obtain ⟨decodes, forwards⟩ := ofSettings_eq_ok accepted
  have suffix : relay.forwarder.suffix = settings.deadLetterSuffix := by
    rw [forwards]
    rfl
  constructor
  · intro isolated topic reads comesBack
    rw [← suffix] at comesBack
    exact not_isolated decodes (by rw [forwards]; exact enabled) reads comesBack isolated
  · intro isolates
    apply isolated_of_isolates
    rwa [suffix]

/-- A suffix that was left empty is accepted, and dead letters come back. -/
theorem isolated_iff_isolates_empty :
    let settings : Settings := { sourceTopics := ["orders"], deadLetterSuffix := "" }
    ∃ relay, ofSettings settings .empty Outbox.decoder = .ok relay ∧
      settings.deadLetterEnabled = true ∧ ¬relay.Isolated settings.topics := by
  intro settings
  have sound : settings.fault? = none := by decide +kernel
  obtain ⟨relay, accepted⟩ := exists_ofSettings .empty Outbox.decoder sound
  refine ⟨relay, accepted, rfl, ?_⟩
  rw [isolated_iff_isolates accepted rfl]
  decide +kernel

end Relay

end EventRelay
