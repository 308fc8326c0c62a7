import EventRelay.Outbox.Decoding

/-!
# The headers of what is decoded

Headers pass through decoding: they decide neither whether a draft can be sealed nor
anything else in its envelope. Two records whose drafts differ in their headers alone
decode alike but for the headers.
-/

namespace EventRelay

/-- Headers decide nothing when a draft is sealed. -/
theorem Envelope.Draft.seal_headers (draft : Envelope.Draft) (now : Instant) (headers : Headers) :
    { draft with headers }.seal now =
      (draft.seal now).map fun envelope => { envelope with headers } := by
  unfold Envelope.Draft.seal
  split
  · split <;> rfl
  · rfl

theorem Envelope.Draft.headers_of_seal {draft : Envelope.Draft} {now : Instant}
    {envelope : Envelope} (sealed : draft.seal now = .ok envelope) :
    envelope.headers = draft.headers := by
  unfold Envelope.Draft.seal at sealed
  split at sealed
  · split at sealed
    · cases sealed
      rfl
    · contradiction
  · contradiction

namespace Outbox

/-- A record with a value that is not empty is decoded from this value. -/
theorem decoder_of_value (now : Instant) {record : SourceRecord} {content : Bytes}
    (nonempty : content ≠ []) (holds : record.value = some content) :
    decoder now record = (decodeContent now record content).mapError .decode := by
  cases content with
  | nil => contradiction
  | cons first rest =>
      rw [decoder, decode, SourceRecord.content?, holds]
      rfl

/-- What is decoded, with other headers. -/
def Decoded.withHeaders (headers : Headers → Headers) : Decoded → Decoded
  | .event envelope => .event { envelope with headers := headers envelope.headers }
  | .skipped reason => .skipped reason

variable {left right : SourceRecord} {first second : Option Nat} {headers : Headers → Headers}

/-- Rows whose drafts differ in their headers alone are sealed alike but for these. -/
theorem sealRow_withHeaders (now : Instant) (image : Json.Value)
    (drafts : ∀ row, draftOf right second row =
      { draftOf left first row with headers := headers (draftOf left first row).headers }) :
    sealRow now right second image =
      (sealRow now left first image).map (Decoded.withHeaders headers) := by
  unfold sealRow
  cases Row.ofValue? image with
  | none => rfl
  | some row =>
      dsimp only
      rw [drafts, Envelope.Draft.seal_headers]
      rcases sealed : (draftOf left first row).seal now with fault | envelope
      · rfl
      · rw [← Envelope.Draft.headers_of_seal sealed]
        rfl

/-- What a row makes depends on the headers and the timestamp of its record alone. -/
theorem sealRow_congr (headers : left.headers = right.headers)
    (timestamp : left.timestamp = right.timestamp) (now : Instant) (schemaId : Option Nat)
    (image : Json.Value) : sealRow now left schemaId image = sealRow now right schemaId image := by
  unfold sealRow draftOf
  rw [headers, timestamp]

/-- A schema id replaces what the headers held of it. -/
theorem sealRow_some (now : Instant) (record : SourceRecord) (id : Nat) (image : Json.Value) :
    sealRow now record (some id) image =
      (sealRow now record none image).map
        (Decoded.withHeaders fun headers =>
          headers.insert HeaderName.schemaId (Decimal.ofNat id)) :=
  sealRow_withHeaders now image fun _ => rfl

end Outbox

end EventRelay
