/-
  LivekitClient/StreamSenders.lean
  ================================
  **Streams of different senders** (`Room::DataPacketEvent` in `src/core/room.cpp`).

  A stream belongs to the participant whose header opened it, and its events carry his
  identity.  The packets that follow are matched by the id of the stream alone: nothing
  compares their sender with the one who opened it, as the RPC path in
  `src/core/detail/rtc_engine.cpp` does.

  What another participant can do is then exactly this: hit an open stream by its id.
  As long as nobody does, the streams of a participant are what they would be if his
  packets had come alone.
-/
import LivekitClient.StreamStore
import LivekitClient.Runs

namespace LivekitClient.StreamSenders

open Std
open Runs
open LivekitClient.DataPacket
open LivekitClient.DataStreamCompression
open LivekitClient.IncomingDataStreams
open LivekitClient.StreamStore
open LivekitClient.StreamReassembly (noZlib)

variable {σ : Type}

/-! ## 1. Whose stream it is -/

/-- The participant that a stream event is attributed to. -/
def Delivery.sender : Delivery → Option String
  | .textReceived event => some event.participantIdentity
  | .byteReceived event => some event.participantIdentity
  | .fileReceived event => some event.participantIdentity
  | .textHandler _ event => some event.info.participantIdentity
  | .byteHandler _ event => some event.info.participantIdentity
  | _ => none

/-- The event is about a stream of this participant. -/
def isAbout (identity : String) (delivery : Delivery) : Bool :=
  Delivery.sender delivery = some identity

def isFrom (identity : String) (arrival : Arrival) : Bool :=
  arrival.packet.participantIdentity = identity

def openedBy {K L : Type} (identity : String) (incoming : Incoming σ K L) : Bool :=
  incoming.event.participantIdentity = identity

/-- The participant has a stream open under this id. -/
def hasOpen (identity : String) (room : Room σ) (id : String) : Bool :=
  (room.incomingTexts[id]?).any (openedBy identity) ||
    (room.incomingFiles[id]?).any (openedBy identity)

/-- The packet does not hit an open stream of the participant. -/
def Spares (identity : String) (zlib : Zlib σ) (room : Room σ) (packet : Packet) : Prop :=
  match packet.value with
  | .streamHeader header =>
    opensStream zlib room header = true → hasOpen identity room header.streamId = false
  | .streamChunk chunk => hasOpen identity room chunk.streamId = false
  | .streamTrailer trailer => hasOpen identity room trailer.streamId = false
  | _ => True

/-- One packet, as a step with an output. -/
def packetStep (zlib : Zlib σ) (room : Room σ) (arrival : Arrival) : Room σ × List Delivery :=
  room.dataPacketEvent zlib arrival.now arrival.packet

theorem deliveries_eq_outputs (zlib : Zlib σ) (room : Room σ) (arrivals : List Arrival) :
    room.deliveries zlib arrivals = outputs (packetStep zlib) room arrivals := by
  induction arrivals generalizing room with
  | nil => rfl
  | cons arrival rest ih =>
    rw [Room.deliveries, outputs, ih]
    rfl

/-! ## 2. What the store keeps

The event and the info of a stream name the same participant. -/

def attributed {K L : Type} (_ : String) (incoming : Incoming σ K L) : Prop :=
  incoming.info.participantIdentity = incoming.event.participantIdentity

structure Attributed (room : Room σ) : Prop where
  texts : Each attributed room.incomingTexts
  files : Each attributed room.incomingFiles

structure Sound (room : Room σ) : Prop extends Attributed room where
  kept : ∃ contents, Kept ⟨room, contents⟩

theorem Sound.apart {room : Room σ} (h : Sound room) (id : String) :
    room.incomingTexts[id]? = none ∨ room.incomingFiles[id]? = none := by
  obtain ⟨contents, hkept⟩ := h.kept
  exact hkept.apart id

theorem attributed_chunk {K L : Type} {zlib : Zlib σ} {incoming after : Incoming σ K L}
    {chunk : StreamChunk} {content : Bytes}
    (hchunk : incoming.chunk zlib chunk = some (after, content)) {id : String}
    (h : attributed id incoming) : attributed id after := by
  obtain ⟨hinfo, -, -, all, hevent⟩ := Incoming.chunk_frame hchunk
  unfold attributed at h ⊢
  rw [hinfo, hevent]
  exact h

/-- The sender of a stream does not change with its chunks. -/
theorem openedBy_chunk {K L : Type} {zlib : Zlib σ} {incoming after : Incoming σ K L}
    {chunk : StreamChunk} {content : Bytes}
    (hchunk : incoming.chunk zlib chunk = some (after, content)) (identity : String) :
    openedBy identity after = openedBy identity incoming := by
  obtain ⟨-, -, -, all, hevent⟩ := Incoming.chunk_frame hchunk
  unfold openedBy
  rw [hevent]

theorem Each.attributed_store {K L : Type} {zlib : Zlib σ}
    {map : ExtTreeMap String (Incoming σ K L)} (h : Each attributed map) {chunk : StreamChunk}
    {incoming : Incoming σ K L} (hsome : map[chunk.streamId]? = some incoming) :
    Each attributed (Incoming.store map chunk.streamId (incoming.chunk zlib chunk)) := by
  cases hchunk : incoming.chunk zlib chunk with
  | none => exact h.erase fun _ _ _ hattributed => hattributed
  | some result =>
    obtain ⟨after, content⟩ := result
    exact h.insert (attributed_chunk hchunk (h _ _ hsome)) fun _ _ _ hattributed => hattributed

theorem Each.attributed_erase {K L : Type} {map : ExtTreeMap String (Incoming σ K L)}
    (h : Each attributed map) (id : String) : Each attributed (map.erase id) :=
  h.erase fun _ _ _ hattributed => hattributed

theorem Attributed.textHeader {zlib : Zlib σ} {room : Room σ} (h : Attributed room)
    (packet : Packet) (header : StreamHeader) (text : TextHeader) :
    Attributed (room.textHeaderEvent zlib packet header text).1 := by
  simp only [Room.textHeaderEvent]
  split
  · exact h
  · split <;> exact h
  · exact ⟨h.texts.insert rfl fun _ _ _ hattributed => hattributed,
      Each.attributed_erase h.files _⟩

theorem Attributed.byteHeader {zlib : Zlib σ} {room : Room σ} (h : Attributed room)
    (packet : Packet) (header : StreamHeader) (byte : ByteHeader) :
    Attributed (room.byteHeaderEvent zlib packet header byte).1 := by
  simp only [Room.byteHeaderEvent]
  split
  · exact h
  · split <;> exact h
  · exact ⟨Each.attributed_erase h.texts _,
      h.files.insert rfl fun _ _ _ hattributed => hattributed⟩

theorem Attributed.chunk {zlib : Zlib σ} {room : Room σ} (h : Attributed room)
    (chunk : StreamChunk) : Attributed (room.chunkEvent zlib chunk).1 := by
  rw [Room.chunkEvent]
  split
  · rename_i text htext
    exact ⟨Each.attributed_store h.texts htext, h.files⟩
  · split
    · exact h
    · rename_i bytes hbytes
      exact ⟨h.texts, Each.attributed_store h.files hbytes⟩

theorem Attributed.packet {zlib : Zlib σ} {room : Room σ} (h : Attributed room) (now : Int)
    (packet : Packet) : Attributed (room.dataPacketEvent zlib now packet).1 := by
  rw [Room.dataPacketEvent]
  cases packet.value with
  | streamHeader header =>
    dsimp only
    rcases header.contentHeader with _ | text | byte
    · exact h
    · exact h.textHeader packet header text
    · exact h.byteHeader packet header byte
  | streamChunk chunk => exact h.chunk chunk
  | streamTrailer trailer =>
    exact ⟨Each.attributed_erase h.texts _, Each.attributed_erase h.files _⟩
  | _ => exact ⟨h.texts, h.files⟩

theorem Sound.packet {zlib : Zlib σ} {room : Room σ} (h : Sound room) (now : Int)
    (packet : Packet) : Sound (room.dataPacketEvent zlib now packet).1 := by
  obtain ⟨contents, hkept⟩ := h.kept
  exact ⟨h.toAttributed.packet now packet, _, hkept.packet now packet⟩

/-! ## 3. The room as one participant sees it -/

/-- The stream, if it is the participant's. -/
def own {K L : Type} (identity : String) (incoming : Option (Incoming σ K L)) :
    Option (Incoming σ K L) :=
  incoming.filter (openedBy identity)

/-- Two rooms with the same streams of a participant. -/
structure AgreeFor (identity : String) (room room' : Room σ) : Prop where
  hasListener : room.hasListener = room'.hasListener
  textStreamHandlers : room.textStreamHandlers = room'.textStreamHandlers
  byteStreamHandlers : room.byteStreamHandlers = room'.byteStreamHandlers
  texts : ∀ id : String,
    own identity room.incomingTexts[id]? = own identity room'.incomingTexts[id]?
  files : ∀ id : String,
    own identity room.incomingFiles[id]? = own identity room'.incomingFiles[id]?

theorem AgreeFor.refl (identity : String) (room : Room σ) : AgreeFor identity room room :=
  ⟨rfl, rfl, rfl, fun _ => rfl, fun _ => rfl⟩

theorem AgreeFor.symm {identity : String} {room room' : Room σ}
    (h : AgreeFor identity room room') : AgreeFor identity room' room where
  hasListener := h.hasListener.symm
  textStreamHandlers := h.textStreamHandlers.symm
  byteStreamHandlers := h.byteStreamHandlers.symm
  texts := fun id => (h.texts id).symm
  files := fun id => (h.files id).symm

theorem AgreeFor.trans {identity : String} {room room' room'' : Room σ}
    (h : AgreeFor identity room room') (h' : AgreeFor identity room' room'') :
    AgreeFor identity room room'' where
  hasListener := h.hasListener.trans h'.hasListener
  textStreamHandlers := h.textStreamHandlers.trans h'.textStreamHandlers
  byteStreamHandlers := h.byteStreamHandlers.trans h'.byteStreamHandlers
  texts := fun id => (h.texts id).trans (h'.texts id)
  files := fun id => (h.files id).trans (h'.files id)

theorem hasOpen_eq (identity : String) (room : Room σ) (id : String) :
    hasOpen identity room id =
      ((own identity room.incomingTexts[id]?).isSome ||
        (own identity room.incomingFiles[id]?).isSome) := by
  rw [hasOpen, own, own]
  rcases room.incomingTexts[id]? with _ | text <;> rcases room.incomingFiles[id]? with _ | bytes <;>
    simp [Option.filter, Option.any] <;> grind

theorem hasOpen_eq_false {identity : String} {room : Room σ} {id : String} :
    hasOpen identity room id = false ↔
      own identity room.incomingTexts[id]? = none ∧
        own identity room.incomingFiles[id]? = none := by
  rw [hasOpen_eq]
  simp

section Map

variable {K L : Type} {identity : String} {map : ExtTreeMap String (Incoming σ K L)} {id : String}

theorem own_some {incoming : Incoming σ K L} (hnone : own identity (some incoming) = none) :
    openedBy identity incoming = false := by
  simpa [own, Option.filter_eq_none_iff] using hnone

theorem own_eq_none {incoming : Incoming σ K L} (hother : openedBy identity incoming = false) :
    own identity (some incoming) = none := by
  simp [own, hother]

/-- What is not his can be dropped. -/
theorem own_erase (hnone : own identity map[id]? = none) (other : String) :
    own identity (map.erase id)[other]? = own identity map[other]? := by
  by_cases heq : id = other
  · rw [← heq, hnone, ExtTreeMap.getElem?_erase_self]
    rfl
  · rw [getElem?_erase_of_ne map heq]

/-- What is not his can be put in. -/
theorem own_insert (hnone : own identity map[id]? = none) {new : Incoming σ K L}
    (hother : openedBy identity new = false) (other : String) :
    own identity (map.insert id new)[other]? = own identity map[other]? := by
  by_cases heq : id = other
  · rw [← heq, hnone, ExtTreeMap.getElem?_insert_self]
    exact own_eq_none hother
  · rw [getElem?_insert_of_ne map new heq]

/-- A chunk of a stream that is not his. -/
theorem own_store {zlib : Zlib σ} {chunk : StreamChunk} {incoming : Incoming σ K L}
    (hsome : map[chunk.streamId]? = some incoming) (hother : openedBy identity incoming = false)
    (other : String) :
    own identity (Incoming.store map chunk.streamId (incoming.chunk zlib chunk))[other]? =
      own identity map[other]? := by
  have hnone : own identity map[chunk.streamId]? = none := by
    rw [hsome]
    exact own_eq_none hother
  rcases hchunk : incoming.chunk zlib chunk with _ | ⟨after, content⟩
  · exact own_erase hnone other
  · apply own_insert hnone
    rw [openedBy_chunk hchunk]
    exact hother

end Map

/-! ## 4. Packets that leave a participant alone -/

/-- Nothing changes for the participant, and nothing is told of his streams. -/
def Untouched (identity : String) (room : Room σ) (result : Room σ × List Delivery) : Prop :=
  AgreeFor identity room result.1 ∧ result.2.filter (isAbout identity) = []

theorem filter_isAbout_eq_nil {identity : String} {deliveries : List Delivery}
    (hother : ∀ delivery ∈ deliveries, Delivery.sender delivery ≠ some identity) :
    deliveries.filter (isAbout identity) = [] := by
  apply List.filter_eq_nil_iff.mpr
  intro delivery hmem
  simpa [isAbout] using hother delivery hmem

/-- The events of a stream that is not his are not about him. -/
theorem sender_ne {K L : Type} {identity id : String} {incoming : Incoming σ K L}
    (hattributed : attributed id incoming) (hother : openedBy identity incoming = false) :
    incoming.info.participantIdentity ≠ identity ∧
      incoming.event.participantIdentity ≠ identity := by
  have hne : incoming.event.participantIdentity ≠ identity := by
    simpa [openedBy] using hother
  refine ⟨?_, hne⟩
  rw [attributed] at hattributed
  rwa [hattributed]

theorem untouched_chunk {zlib : Zlib σ} {identity : String} {room : Room σ} (hroom : Sound room)
    {chunk : StreamChunk} (hspared : hasOpen identity room chunk.streamId = false) :
    Untouched identity room (room.chunkEvent zlib chunk) := by
  obtain ⟨htexts, hfiles⟩ := hasOpen_eq_false.mp hspared
  rw [Room.chunkEvent]
  rcases htext : room.incomingTexts[chunk.streamId]? with _ | text
  · rcases hbytes : room.incomingFiles[chunk.streamId]? with _ | bytes
    · exact ⟨.refl identity room, rfl⟩
    · rw [hbytes] at hfiles
      have hother := own_some hfiles
      refine ⟨⟨rfl, rfl, rfl, fun _ => rfl, fun id => (own_store hbytes hother id).symm⟩, ?_⟩
      apply filter_isAbout_eq_nil
      intro delivery hmem
      obtain ⟨handler, -, rfl⟩ := List.mem_map.mp hmem
      rw [Delivery.sender, Incoming.info_chunkEvent]
      exact fun h => (sender_ne (hroom.files _ _ hbytes) hother).1 (Option.some.inj h)
  · rw [htext] at htexts
    have hother := own_some htexts
    refine ⟨⟨rfl, rfl, rfl, fun id => (own_store htext hother id).symm, fun _ => rfl⟩, ?_⟩
    apply filter_isAbout_eq_nil
    intro delivery hmem
    obtain ⟨handler, -, rfl⟩ := List.mem_map.mp hmem
    rw [Delivery.sender, Incoming.info_chunkEvent]
    exact fun h => (sender_ne (hroom.texts _ _ htext) hother).1 (Option.some.inj h)

theorem sender_byteDeliveries {event : FileReceivedEvent} {delivery : Delivery}
    (hmem : delivery ∈ byteDeliveries event) :
    Delivery.sender delivery = some event.participantIdentity := by
  rw [byteDeliveries] at hmem
  rcases List.mem_cons.mp hmem with rfl | hmem
  · rfl
  · split at hmem
    · simp at hmem
    · rw [List.mem_singleton.mp hmem]
      rfl

theorem identity_received {K L : Type} {incoming : Incoming σ K L} {trailer : StreamTrailer}
    {event : ReceivedEvent K} (hreceived : incoming.received trailer = some event) :
    event.participantIdentity = incoming.event.participantIdentity := by
  rw [Incoming.received] at hreceived
  split at hreceived
  · cases hreceived
    rfl
  · simp at hreceived

theorem untouched_trailer {identity : String} {room : Room σ} (hroom : Sound room)
    {trailer : StreamTrailer} (hspared : hasOpen identity room trailer.streamId = false) :
    Untouched identity room (room.trailerEvent trailer) := by
  obtain ⟨htexts, hfiles⟩ := hasOpen_eq_false.mp hspared
  refine ⟨⟨rfl, rfl, rfl, fun id => (own_erase htexts id).symm,
    fun id => (own_erase hfiles id).symm⟩, ?_⟩
  -- whatever is told is told of the streams under the id, and they are not his
  have htext : ∀ text, room.incomingTexts[trailer.streamId]? = some text →
      text.info.participantIdentity ≠ identity ∧ text.event.participantIdentity ≠ identity := by
    intro text hsome
    rw [hsome] at htexts
    exact sender_ne (hroom.texts _ _ hsome) (own_some htexts)
  have hbyte : ∀ bytes, room.incomingFiles[trailer.streamId]? = some bytes →
      bytes.info.participantIdentity ≠ identity ∧ bytes.event.participantIdentity ≠ identity := by
    intro bytes hsome
    rw [hsome] at hfiles
    exact sender_ne (hroom.files _ _ hsome) (own_some hfiles)
  apply filter_isAbout_eq_nil
  intro delivery hmem hsender
  simp only [Room.trailerEvent, List.mem_append, List.mem_flatMap, Option.mem_toList] at hmem
  rcases hmem with (⟨text, hsome, hmem⟩ | ⟨bytes, hsome, hmem⟩) | hmem
  · obtain ⟨handler, -, rfl⟩ := List.mem_map.mp hmem
    exact (htext text hsome).1 (Option.some.inj hsender)
  · obtain ⟨handler, -, rfl⟩ := List.mem_map.mp hmem
    exact (hbyte bytes hsome).1 (Option.some.inj hsender)
  · rcases List.mem_append.mp (mem_toListener hmem) with hmem | hmem
    · obtain ⟨event, hevent, rfl⟩ := List.mem_map.mp hmem
      obtain ⟨text, hsome, hreceived⟩ := Option.bind_eq_some_iff.mp (Option.mem_toList.mp hevent)
      apply (htext text hsome).2
      rw [← identity_received hreceived]
      exact Option.some.inj hsender
    · obtain ⟨event, hevent, hmem⟩ := List.mem_flatMap.mp hmem
      obtain ⟨bytes, hsome, hreceived⟩ := Option.bind_eq_some_iff.mp (Option.mem_toList.mp hevent)
      apply (hbyte bytes hsome).2
      rw [← identity_received hreceived]
      exact Option.some.inj ((sender_byteDeliveries hmem).symm.trans hsender)

theorem openedBy_newIncoming {K L : Type} {identity : String} {packet : Packet}
    (hother : packet.participantIdentity ≠ identity) (header : StreamHeader) (fields : K)
    (infoFields : L) (handler : Option Nat) (inflater : Option (InflateRawStream σ)) :
    openedBy identity (newIncoming packet header fields infoFields handler inflater) = false := by
  simp [openedBy, newIncoming, hother]

theorem untouched_textHeader {zlib : Zlib σ} {identity : String} {room : Room σ} {packet : Packet}
    (hother : packet.participantIdentity ≠ identity) {header : StreamHeader} {text : TextHeader}
    (hcontent : header.contentHeader = .text text)
    (hspared : opensStream zlib room header = true →
      hasOpen identity room header.streamId = false) :
    Untouched identity room (room.textHeaderEvent zlib packet header text) := by
  simp only [opensStream, hcontent] at hspared
  simp only [Room.textHeaderEvent]
  generalize headerOutcome zlib header (room.textStreamHandlers[header.topic]?).isSome = outcome
    at hspared ⊢
  rcases outcome with _ | content | inflater
  · exact ⟨.refl identity room, rfl⟩
  · rcases room.textStreamHandlers[header.topic]? with _ | handler
    · refine ⟨.refl identity room, filter_isAbout_eq_nil ?_⟩
      intro delivery hmem hsender
      rw [List.mem_singleton.mp (mem_toListener hmem)] at hsender
      exact hother (Option.some.inj hsender)
    · refine ⟨.refl identity room, filter_isAbout_eq_nil ?_⟩
      intro delivery hmem hsender
      obtain ⟨event, hevent, rfl⟩ := List.mem_map.mp hmem
      rw [Delivery.sender, streamId_inlineEvents hevent] at hsender
      exact hother (Option.some.inj hsender)
  · obtain ⟨htexts, hfiles⟩ := hasOpen_eq_false.mp (hspared rfl)
    refine ⟨⟨rfl, rfl, rfl, ?_, fun id => (own_erase hfiles id).symm⟩, filter_isAbout_eq_nil ?_⟩
    · intro id
      exact (own_insert htexts (openedBy_newIncoming hother ..) id).symm
    · intro delivery hmem hsender
      obtain ⟨handler, -, rfl⟩ := List.mem_map.mp hmem
      exact hother (Option.some.inj hsender)

theorem untouched_byteHeader {zlib : Zlib σ} {identity : String} {room : Room σ} {packet : Packet}
    (hother : packet.participantIdentity ≠ identity) {header : StreamHeader} {byte : ByteHeader}
    (hcontent : header.contentHeader = .byte byte)
    (hspared : opensStream zlib room header = true →
      hasOpen identity room header.streamId = false) :
    Untouched identity room (room.byteHeaderEvent zlib packet header byte) := by
  simp only [opensStream, hcontent] at hspared
  simp only [Room.byteHeaderEvent]
  generalize headerOutcome zlib header (room.byteStreamHandlers[header.topic]?).isSome = outcome
    at hspared ⊢
  rcases outcome with _ | content | inflater
  · exact ⟨.refl identity room, rfl⟩
  · rcases room.byteStreamHandlers[header.topic]? with _ | handler
    · refine ⟨.refl identity room, filter_isAbout_eq_nil ?_⟩
      intro delivery hmem hsender
      rw [sender_byteDeliveries (mem_toListener hmem)] at hsender
      exact hother (Option.some.inj hsender)
    · refine ⟨.refl identity room, filter_isAbout_eq_nil ?_⟩
      intro delivery hmem hsender
      obtain ⟨event, hevent, rfl⟩ := List.mem_map.mp hmem
      rw [Delivery.sender, streamId_inlineEvents hevent] at hsender
      exact hother (Option.some.inj hsender)
  · obtain ⟨htexts, hfiles⟩ := hasOpen_eq_false.mp (hspared rfl)
    refine ⟨⟨rfl, rfl, rfl, fun id => (own_erase htexts id).symm, ?_⟩, filter_isAbout_eq_nil ?_⟩
    · intro id
      exact (own_insert hfiles (openedBy_newIncoming hother ..) id).symm
    · intro delivery hmem hsender
      obtain ⟨handler, -, rfl⟩ := List.mem_map.mp hmem
      exact hother (Option.some.inj hsender)

theorem untouched_other {zlib : Zlib σ} (identity : String) (room : Room σ) {packet : Packet}
    (hid : streamIdOf packet = none) (now : Int) :
    Untouched identity room (room.dataPacketEvent zlib now packet) := by
  have hnothing : ∀ delivery, Delivery.sender delivery = none →
      (room.toListener [delivery]).filter (isAbout identity) = [] := by
    intro delivery hsender
    apply filter_isAbout_eq_nil
    intro told hmem
    rw [List.mem_singleton.mp (mem_toListener hmem), hsender]
    exact nofun
  rw [streamIdOf] at hid
  rw [Room.dataPacketEvent]
  cases hvalue : packet.value with
  | streamHeader header => simp [hvalue] at hid
  | streamChunk chunk => simp [hvalue] at hid
  | streamTrailer trailer => simp [hvalue] at hid
  | transcription transcription =>
    exact ⟨⟨rfl, rfl, rfl, fun _ => rfl, fun _ => rfl⟩, hnothing _ rfl⟩
  | user | sipDtmf | chatMessage | metrics => exact ⟨.refl identity room, hnothing _ rfl⟩
  | _ => exact ⟨.refl identity room, rfl⟩

/-- A packet of somebody else that hits no open stream of the participant. -/
theorem untouched_packet {zlib : Zlib σ} {identity : String} {room : Room σ} (hroom : Sound room)
    {packet : Packet} (hother : packet.participantIdentity ≠ identity)
    (hspares : Spares identity zlib room packet) (now : Int) :
    Untouched identity room (room.dataPacketEvent zlib now packet) := by
  rcases hid : streamIdOf packet with _ | id
  · exact untouched_other identity room hid now
  rw [streamIdOf] at hid
  rw [Spares] at hspares
  rw [Room.dataPacketEvent]
  cases hvalue : packet.value with
  | streamHeader header =>
    rw [hvalue] at hspares
    dsimp only
    rcases hcontent : header.contentHeader with _ | text | byte
    · exact ⟨.refl identity room, rfl⟩
    · exact untouched_textHeader hother hcontent hspares
    · exact untouched_byteHeader hother hcontent hspares
  | streamChunk chunk =>
    rw [hvalue] at hspares
    exact untouched_chunk hroom hspares
  | streamTrailer trailer =>
    rw [hvalue] at hspares
    exact untouched_trailer hroom hspares
  | _ => simp [hvalue] at hid

/-! ## 5. Packets of the participant -/

/-- A header does the same in both rooms. -/
theorem AgreeFor.textHeader {zlib : Zlib σ} {identity : String} {room room' : Room σ}
    (h : AgreeFor identity room room') (packet : Packet) (header : StreamHeader)
    (text : TextHeader) :
    AgreeFor identity (room.textHeaderEvent zlib packet header text).1
        (room'.textHeaderEvent zlib packet header text).1 ∧
      (room.textHeaderEvent zlib packet header text).2 =
        (room'.textHeaderEvent zlib packet header text).2 := by
  simp only [Room.textHeaderEvent]
  rw [← h.textStreamHandlers]
  split
  · exact ⟨h, rfl⟩
  · split
    · exact ⟨h, rfl⟩
    · exact ⟨h, by simp only [Room.toListener, h.hasListener]⟩
  · refine ⟨⟨h.hasListener, rfl, h.byteStreamHandlers, ?_, ?_⟩, rfl⟩ <;> intro id
    · by_cases heq : header.streamId = id
      · simp only [heq, ExtTreeMap.getElem?_insert_self]
      · simp only [getElem?_insert_of_ne _ _ heq, h.texts id]
    · by_cases heq : header.streamId = id
      · simp only [heq, ExtTreeMap.getElem?_erase_self]
      · simp only [getElem?_erase_of_ne _ heq, h.files id]

theorem AgreeFor.byteHeader {zlib : Zlib σ} {identity : String} {room room' : Room σ}
    (h : AgreeFor identity room room') (packet : Packet) (header : StreamHeader)
    (byte : ByteHeader) :
    AgreeFor identity (room.byteHeaderEvent zlib packet header byte).1
        (room'.byteHeaderEvent zlib packet header byte).1 ∧
      (room.byteHeaderEvent zlib packet header byte).2 =
        (room'.byteHeaderEvent zlib packet header byte).2 := by
  simp only [Room.byteHeaderEvent]
  rw [← h.byteStreamHandlers]
  split
  · exact ⟨h, rfl⟩
  · split
    · exact ⟨h, rfl⟩
    · exact ⟨h, by simp only [Room.toListener, h.hasListener]⟩
  · refine ⟨⟨h.hasListener, h.textStreamHandlers, rfl, ?_, ?_⟩, rfl⟩ <;> intro id
    · by_cases heq : header.streamId = id
      · simp only [heq, ExtTreeMap.getElem?_erase_self]
      · simp only [getElem?_erase_of_ne _ heq, h.texts id]
    · by_cases heq : header.streamId = id
      · simp only [heq, ExtTreeMap.getElem?_insert_self]
      · simp only [getElem?_insert_of_ne _ _ heq, h.files id]

theorem own_eq_some {K L : Type} {identity : String} {found : Option (Incoming σ K L)}
    {incoming : Incoming σ K L} (hsome : own identity found = some incoming) :
    found = some incoming :=
  (Option.filter_eq_some_iff.mp hsome).1

/-- A stream that is his is the same in both rooms. -/
theorem AgreeFor.agreeAt {identity : String} {room room' : Room σ}
    (h : AgreeFor identity room room') (hroom : Sound room) (hroom' : Sound room') {id : String}
    (hopen : hasOpen identity room id = true) : AgreeAt id room room' := by
  have hone : ∀ {room : Room σ}, Sound room →
      (room.incomingTexts[id]? ≠ none → room.incomingFiles[id]? = none) ∧
        (room.incomingFiles[id]? ≠ none → room.incomingTexts[id]? = none) := by
    intro room hroom
    rcases hroom.apart id with hnone | hnone <;> simp [hnone]
  rw [hasOpen_eq, Bool.or_eq_true, Option.isSome_iff_exists, Option.isSome_iff_exists] at hopen
  rcases hopen with ⟨text, hown⟩ | ⟨bytes, hown⟩
  · have htext := own_eq_some hown
    have htext' := own_eq_some ((h.texts id).symm.trans hown)
    have hfile := (hone hroom).1 (by simp [htext])
    have hfile' := (hone hroom').1 (by simp [htext'])
    exact ⟨h.hasListener, h.textStreamHandlers, h.byteStreamHandlers, htext.trans htext'.symm,
      hfile.trans hfile'.symm⟩
  · have hfile := own_eq_some hown
    have hfile' := own_eq_some ((h.files id).symm.trans hown)
    have htext := (hone hroom).2 (by simp [hfile])
    have htext' := (hone hroom').2 (by simp [hfile'])
    exact ⟨h.hasListener, h.textStreamHandlers, h.byteStreamHandlers, htext.trans htext'.symm,
      hfile.trans hfile'.symm⟩

/-- A packet of one of his open streams does the same in both rooms. -/
theorem AgreeFor.ownPacket {zlib : Zlib σ} {identity : String} {room room' : Room σ}
    (h : AgreeFor identity room room') (hroom : Sound room) (hroom' : Sound room')
    {packet : Packet} {id : String} (hid : streamIdOf packet = some id)
    (hopen : hasOpen identity room id = true) (now : Int) :
    AgreeFor identity (room.dataPacketEvent zlib now packet).1
        (room'.dataPacketEvent zlib now packet).1 ∧
      (room.dataPacketEvent zlib now packet).2 = (room'.dataPacketEvent zlib now packet).2 := by
  obtain ⟨hagree, hsame⟩ := (h.agreeAt hroom hroom' hopen).dataPacketEvent zlib hid now now
  refine ⟨⟨hagree.hasListener, hagree.textStreamHandlers, hagree.byteStreamHandlers, ?_, ?_⟩,
    hsame⟩ <;> intro other
  · by_cases heq : id = other
    · rw [← heq, hagree.texts]
    · have hne : streamIdOf packet ≠ some other := by
        rw [hid]
        exact fun h => heq (Option.some.inj h)
      rw [← (agreeAt_dataPacketEvent zlib room now hne).texts,
        ← (agreeAt_dataPacketEvent zlib room' now hne).texts]
      exact h.texts other
  · by_cases heq : id = other
    · rw [← heq, hagree.files]
    · have hne : streamIdOf packet ≠ some other := by
        rw [hid]
        exact fun h => heq (Option.some.inj h)
      rw [← (agreeAt_dataPacketEvent zlib room now hne).files,
        ← (agreeAt_dataPacketEvent zlib room' now hne).files]
      exact h.files other

/-- A packet that leaves him alone in both rooms. -/
theorem AgreeFor.untouched {identity : String} {room room' : Room σ}
    {result result' : Room σ × List Delivery} (h : AgreeFor identity room room')
    (hleft : Untouched identity room result) (hright : Untouched identity room' result') :
    AgreeFor identity result.1 result'.1 ∧
      result.2.filter (isAbout identity) = result'.2.filter (isAbout identity) :=
  ⟨hleft.1.symm.trans (h.trans hright.1), hleft.2.trans hright.2.symm⟩

/-- A packet that comes to both rooms. -/
theorem AgreeFor.packet {identity : String} {room room' : Room σ}
    (h : AgreeFor identity room room') (zlib : Zlib σ) (hroom : Sound room) (hroom' : Sound room')
    (packet : Packet) (now : Int) :
    AgreeFor identity (room.dataPacketEvent zlib now packet).1
        (room'.dataPacketEvent zlib now packet).1 ∧
      (room.dataPacketEvent zlib now packet).2.filter (isAbout identity) =
        (room'.dataPacketEvent zlib now packet).2.filter (isAbout identity) := by
  rcases hid : streamIdOf packet with _ | id
  · exact h.untouched (untouched_other identity room hid now)
      (untouched_other identity room' hid now)
  by_cases hopen : hasOpen identity room id = true
  · obtain ⟨hagree, hsame⟩ := h.ownPacket hroom hroom' hid hopen now
    exact ⟨hagree, by rw [hsame]⟩
  have hclosed : hasOpen identity room id = false := Bool.not_eq_true _ ▸ hopen
  have hclosed' : hasOpen identity room' id = false := by
    rw [hasOpen_eq, ← h.texts, ← h.files, ← hasOpen_eq]
    exact hclosed
  rw [streamIdOf] at hid
  rw [Room.dataPacketEvent, Room.dataPacketEvent]
  cases hvalue : packet.value with
  | streamHeader header =>
    dsimp only
    rcases header.contentHeader with _ | text | byte
    · exact ⟨h, rfl⟩
    · obtain ⟨hagree, hsame⟩ := h.textHeader packet header text
      exact ⟨hagree, congrArg (List.filter (isAbout identity)) hsame⟩
    · obtain ⟨hagree, hsame⟩ := h.byteHeader packet header byte
      exact ⟨hagree, congrArg (List.filter (isAbout identity)) hsame⟩
  | streamChunk chunk =>
    rw [hvalue] at hid
    cases hid
    exact h.untouched (untouched_chunk hroom hclosed) (untouched_chunk hroom' hclosed')
  | streamTrailer trailer =>
    rw [hvalue] at hid
    cases hid
    exact h.untouched (untouched_trailer hroom hclosed) (untouched_trailer hroom' hclosed')
  | _ => simp [hvalue] at hid

/-! ## 6. Whole runs -/

/-- Every packet of another participant leaves the streams of this one alone. -/
def AllSpare (identity : String) (zlib : Zlib σ) (room : Room σ) (arrivals : List Arrival) :
    Prop :=
  Along (fun room arrival => isFrom identity arrival = false →
      Spares identity zlib room arrival.packet)
    (fun room arrival => (packetStep zlib room arrival).1) room arrivals

/-- The packets of the others can be left out. -/
theorem deliveries_alone {zlib : Zlib σ} {identity : String} {room : Room σ} (hroom : Sound room)
    {arrivals : List Arrival} (hspares : AllSpare identity zlib room arrivals) :
    (room.deliveries zlib arrivals).filter (isAbout identity) =
      (room.deliveries zlib (arrivals.filter (isFrom identity))).filter (isAbout identity) := by
  rw [deliveries_eq_outputs, deliveries_eq_outputs]
  refine outputs_filter (R := fun room room' => AgreeFor identity room room' ∧ Sound room ∧
    Sound room') ?_ ?_ ⟨.refl identity room, hroom, hroom⟩ hspares
  · rintro room room' arrival ⟨hagree, hroom, hroom'⟩ -
    obtain ⟨hnext, hsame⟩ := hagree.packet zlib hroom hroom' arrival.packet arrival.now
    exact ⟨⟨hnext, hroom.packet _ _, hroom'.packet _ _⟩, hsame⟩
  · rintro room room' arrival ⟨hagree, hroom, hroom'⟩ hfrom hspares
    have hother : arrival.packet.participantIdentity ≠ identity := by
      simpa [isFrom] using hfrom
    obtain ⟨hkept, hnothing⟩ := untouched_packet hroom hother (hspares hfrom) arrival.now
    exact ⟨⟨hkept.symm.trans hagree, hroom.packet _ _, hroom'⟩, hnothing⟩

theorem sound_handlerRoom (hasListener : Bool) (texts bytes : ExtTreeMap String Nat) :
    Sound (handlerRoom hasListener texts bytes : Room σ) := by
  refine ⟨⟨?_, ?_⟩, _, kept_handlerRoom hasListener texts bytes⟩ <;>
    intro id incoming hsome <;> simp [handlerRoom, Room.new] at hsome

/-- What a room tells the application of the streams of one participant. -/
def told (zlib : Zlib σ) (identity : String) (room : Room σ) (arrivals : List Arrival) :
    List Delivery :=
  (room.deliveries zlib arrivals).filter (isAbout identity)

/-- **Senders do not interfere** as long as no packet hits an open stream of another
    participant: what is told of the streams of one participant is told by his packets
    alone, and by any run with the same packets of his. -/
theorem senders_do_not_interfere (zlib : Zlib σ) (identity : String) (hasListener : Bool)
    (texts bytes : ExtTreeMap String Nat) (arrivals : List Arrival)
    (hspares : AllSpare identity zlib (handlerRoom hasListener texts bytes) arrivals) :
    told zlib identity (handlerRoom hasListener texts bytes) arrivals =
        told zlib identity (handlerRoom hasListener texts bytes)
          (arrivals.filter (isFrom identity)) ∧
      ∀ arrivals', AllSpare identity zlib (handlerRoom hasListener texts bytes) arrivals' →
        arrivals'.filter (isFrom identity) = arrivals.filter (isFrom identity) →
        told zlib identity (handlerRoom hasListener texts bytes) arrivals' =
          told zlib identity (handlerRoom hasListener texts bytes) arrivals := by
  have hsound := sound_handlerRoom (σ := σ) hasListener texts bytes
  refine ⟨deliveries_alone hsound hspares, ?_⟩
  intro arrivals' hspares' hsame
  rw [told, told, deliveries_alone hsound hspares', deliveries_alone hsound hspares, hsame]

/-! ### Two participants and one stream id -/

def headerFrom (identity id : String) : Arrival :=
  ⟨0, { participantIdentity := identity,
        value := .streamHeader { streamId := id, contentHeader := .text {} } }⟩

def chunkFrom (identity id : String) (index : UInt64) (content : Bytes) : Arrival :=
  ⟨0, { participantIdentity := identity,
        value := .streamChunk { streamId := id, chunkIndex := index, content := content } }⟩

def trailerFrom (identity id : String) : Arrival :=
  ⟨0, { participantIdentity := identity, value := .streamTrailer { streamId := id } }⟩

/-- Bob uses the id before Alice opens her stream, and after she has closed it. -/
def takingTurns : List Arrival :=
  [headerFrom "bob" "a", chunkFrom "bob" "a" 0 [6], headerFrom "alice" "a",
   chunkFrom "alice" "a" 0 [1], trailerFrom "alice" "a", trailerFrom "bob" "a"]

theorem told_takingTurns :
    told noZlib "alice" (handlerRoom true ∅ ∅) takingTurns =
        told noZlib "alice" (handlerRoom true ∅ ∅)
          [headerFrom "alice" "a", chunkFrom "alice" "a" 0 [1], trailerFrom "alice" "a"] ∧
      (told noZlib "alice" (handlerRoom true ∅ ∅) takingTurns).length = 1 := by
  have hspares : AllSpare "alice" noZlib (handlerRoom true ∅ ∅) takingTurns := by
    refine ⟨fun _ _ => rfl, fun _ => rfl, ?_, ?_, ?_, fun _ => rfl, trivial⟩ <;>
      exact fun h => absurd h (by decide)
  exact ⟨(senders_do_not_interfere noZlib "alice" true ∅ ∅ takingTurns hspares).1, by decide⟩

/-- Bob's chunk goes into the stream that Alice opened, and comes out as hers. -/
theorem chunk_of_another_sender :
    ∃ arrivals : List Arrival,
      told noZlib "alice" (handlerRoom true ∅ ∅) arrivals ≠
        told noZlib "alice" (handlerRoom true ∅ ∅) (arrivals.filter (isFrom "alice")) := by
  refine ⟨[headerFrom "alice" "a", chunkFrom "bob" "a" 0 [6], trailerFrom "alice" "a"], ?_⟩
  decide

end LivekitClient.StreamSenders
