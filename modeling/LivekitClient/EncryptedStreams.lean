/-
  LivekitClient/EncryptedStreams.lean
  ===================================
  **Data streams over an encrypted session** (`SendText`, `SendBytes` and `SendFile` in
  `src/core/participant/local_participant.cpp`, `SendDataPacket` and `OnDataChannelMessage` in
  `src/core/detail/rtc_engine.cpp`, `DataPacketEvent` in `src/core/room.cpp`).

  The packets of a stream are sealed one by one, and the key may be ratcheted in the middle of
  a stream.  The room of the receiver puts the payload together from what its engine hands on.
-/
import LivekitClient.EncryptedSessions
import LivekitClient.OutgoingDataStreams

namespace LivekitClient.EncryptedStreams

open LivekitClient.KeyProvider LivekitClient.FrameCryptor LivekitClient.EncryptedDataPath
open LivekitClient.DataPacket LivekitClient.DataRatchet LivekitClient.EncryptedSessions
open LivekitClient.DataStreamCompression LivekitClient.IncomingDataStreams
open LivekitClient.OutgoingDataStreams LivekitClient.StreamReassembly

/-! ## 1. What the room gets -/

/-- The packets that `OnDataChannelMessage` hands to the room. -/
def listened (targets : List (Option Dispatch)) : List Packet :=
  targets.filterMap fun
    | some (.listener packet) => some packet
    | _ => none

/-- A packet of a stream goes to the room. -/
theorem dispatch_of_stream {packet : Packet} {id : String} (hid : streamIdOf packet = some id) :
    dispatch true packet = some (.listener packet) := by
  unfold streamIdOf at hid
  unfold dispatch
  cases hvalue : packet.value <;> simp only [hvalue] at hid ⊢ <;> first | rfl | cases hid

/-- No packet of a stream goes elsewhere. -/
theorem filter_listened (id : String) (packets : List Packet) :
    (listened (packets.map (dispatch true))).filter (fun packet => streamIdOf packet = some id) =
      packets.filter fun packet => streamIdOf packet = some id := by
  induction packets with
  | nil => rfl
  | cons packet packets ih =>
    by_cases hid : streamIdOf packet = some id
    · have hlistened : listened ((packet :: packets).map (dispatch true)) =
          packet :: listened (packets.map (dispatch true)) := by
        simp only [listened, List.map_cons, dispatch_of_stream hid, List.filterMap_cons]
      simp only [hlistened, List.filter_cons, hid, decide_true, if_true, ih]
    · have hother : (listened ((packet :: packets).map (dispatch true))).filter
          (fun packet => streamIdOf packet = some id) =
            (listened (packets.map (dispatch true))).filter
              fun packet => streamIdOf packet = some id := by
        simp only [listened, List.map_cons, List.filterMap_cons]
        unfold dispatch
        cases packet.value <;> simp [hid]
      simp only [hother, List.filter_cons, hid, decide_false, Bool.false_eq_true, if_false, ih]

/-! ## 2. A stream -/

theorem encryptable_chunkPackets (options : StreamOptions) (streamId : String) (start : Nat)
    (data : List Bytes) :
    ∀ packet ∈ chunkPackets options streamId start data, Encryptable packet.value := by
  induction data generalizing start with
  | nil => exact fun _ hmem => absurd hmem List.not_mem_nil
  | cons piece rest ih => exact List.forall_mem_cons.2 ⟨trivial, ih (start + 1)⟩

/-- All packets of a stream are to travel encrypted. -/
theorem encryptable_packets (sending : Sending) (streamId : String) (timestamp : Int) :
    ∀ packet ∈ sending.packets streamId timestamp, Encryptable packet.value := by
  intro packet hmem
  rcases List.mem_append.1 hmem with hmem | hmem
  · rcases List.mem_cons.1 hmem with rfl | hmem
    · trivial
    · exact encryptable_chunkPackets _ _ _ _ packet hmem
  · obtain rfl := List.mem_singleton.1 hmem
    trivial

/-- **A stream over an encrypted session.**  If the packets of a stream are delivered, among
    those of other ids and whatever ratchets come in between, the receiver keeps up, and its
    room can take the payload and has no handler for the topic, it gets the payload once, and
    its store is left as the other packets leave it. -/
theorem stream_arrives {σ : Type} (lib : Native) (codecs : Codecs) (identity : String)
    (material : Bytes) (acts : List Act) (sender receiver : DataManager)
    (h : Connected lib codecs identity material acts sender receiver)
    (delivered : List EncryptedSessions.Arrival)
    (hdelivered : delivered.Sublist (transmit lib codecs identity sender 0 acts))
    (hkeeps : KeepsUp receiver.options.ratchetWindowSize 0 delivered)
    (zlib : Zlib σ) (room : Room σ) (hroom : Reachable zlib room)
    (hlistener : room.hasListener = true) (sending : Sending) (hsending : sending.Accepted)
    (hsize : sending.payload.length ≤ kMaximumBufferedDataStreamSize) (streamId : String)
    (hid : streamId ≠ "") (hhandler : sending.handler room = none)
    (htexts : room.incomingTexts[streamId]? = none)
    (hfiles : room.incomingFiles[streamId]? = none) (timestamp : Int)
    (hpackets :
      (delivered.map (·.packet)).filter (fun packet => streamIdOf packet = some streamId) =
        (sending.send zlib Engine.reliable streamId timestamp).2.sent)
    (arrivals : List IncomingDataStreams.Arrival)
    (harrivals : arrivals.map (·.packet) =
      listened (receive lib codecs receiver (delivered.map (·.bytes)))) :
    forStream streamId (room.deliveries zlib arrivals) =
        sending.received streamId timestamp identity ∧
      (room.run zlib arrivals).incomingTexts =
        (room.run zlib (others streamId arrivals)).incomingTexts ∧
      (room.run zlib arrivals).incomingFiles =
        (room.run zlib (others streamId arrivals)).incomingFiles := by
  have hsent : (sending.send zlib Engine.reliable streamId timestamp).2.sent =
      framed sending.options (sending.header streamId timestamp)
        (pieces sending.options.chunkSize sending.payload) "" := by
    simp only [Sending.send_reliable hsending]
    exact Sending.packets_eq_framed timestamp
  have hreceived := h.receive_of_keepsUp hdelivered hkeeps
  have hnamed : delivered.map (fun arrival => dispatch true (arrival.named identity).2) =
      ((delivered.map (·.packet)).map (relay identity)).map (dispatch true) := by
    simp only [List.map_map]
    rfl
  have hstream : ofStream streamId arrivals =
      (framed sending.options (sending.header streamId timestamp)
        (pieces sending.options.chunkSize sending.payload) "").map (relay identity) := by
    calc ofStream streamId arrivals
        = (listened (((delivered.map (·.packet)).map (relay identity)).map
            (dispatch true))).filter (fun packet => streamIdOf packet = some streamId) := by
          simp only [ofStream, harrivals, hreceived, hnamed]
      _ = ((delivered.map (·.packet)).map (relay identity)).filter
            (fun packet => streamIdOf packet = some streamId) := filter_listened ..
      _ = ((delivered.map (·.packet)).filter
            (fun packet => streamIdOf packet = some streamId)).map (relay identity) := by
          rw [List.filter_map]
          rfl
      _ = _ := by simp only [hpackets, hsent]
  have houtcome := Sending.headerOutcome_header hsending hsize streamId timestamp hid zlib
  obtain ⟨hdeliveries, hleft⟩ :=
    Sending.deliveries_framed hroom hlistener hhandler htexts hfiles houtcome hstream
  refine ⟨?_, hleft⟩
  simp only [hdeliveries, Sending.framedDelivery_payload timestamp identity
    (Sending.reassemble_chunks hsending hsize ..), forStream_received]

/-- A text in one chunk. -/
def sealedText : Sending := .text [72, 105] { topic := "chat", chunkSize := 2 }

def headerPlaintext : Bytes :=
  field 0x3A (field 0x0A [116, 101, 120, 116, 45, 49] ++ [0x10, 7] ++
    field 0x1A [99, 104, 97, 116] ++
    field 0x22 [116, 101, 120, 116, 47, 112, 108, 97, 105, 110] ++ [0x28, 2] ++ field 0x4A [])

def chunkPlaintext : Bytes :=
  field 0x42 (field 0x0A [116, 101, 120, 116, 45, 49] ++ field 0x1A [72, 105])

def trailerPlaintext : Bytes := field 0x4A (field 0x0A [116, 101, 120, 116, 45, 49])

def streamCodecs : Codecs :=
  tableCodecs
    [(.streamHeader (sealedText.header "text-1" 7), headerPlaintext),
      (.streamChunk { streamId := "text-1", content := [72, 105] }, chunkPlaintext),
      (.streamTrailer { streamId := "text-1" }, trailerPlaintext)]
    [sealedAfter headerPlaintext 0 [0, 0, 0, 1, 0, 0, 0, 2, 0, 0, 0, 2],
      sealedAfter chunkPlaintext 0 [0, 0, 0, 1, 0, 0, 0, 2, 0, 0, 0, 1],
      sealedAfter trailerPlaintext 1 [0, 0, 0, 1, 0, 0, 0, 2, 0, 0, 0, 0]]

/-- The key is ratcheted before the trailer. -/
def ratchetedText : List EncryptedSessions.Act :=
  ((sealedText.packets "text-1" 7).take 2).map (.send · ⟨true, true, true, true⟩ ⟨1, 1, 2⟩) ++
    .ratchet ::
      ((sealedText.packets "text-1" 7).drop 2).map (.send · ⟨true, true, true, true⟩ ⟨1, 1, 2⟩)

theorem stream_arrives_ratchetedText :
    forStream "text-1" ((Room.new true).deliveries noZlib
        (alone (listened (receive keyedNative streamCodecs { dataManager with options := ⟨[], 1⟩ }
          ((transmit keyedNative streamCodecs "alice" dataManager 0 ratchetedText).map
            (·.bytes)))))) =
      [.textReceived
        { streamId := "text-1", topic := "chat", participantIdentity := "alice",
          attributes := ∅, timestamp := 7, content := [72, 105], fields := ⟨"", []⟩ }] := by
  have hvalues : ∀ packet channel chance,
      EncryptedSessions.Act.send packet channel chance ∈ ratchetedText →
        Encryptable packet.value := by
    intro packet channel chance hmem
    simp only [ratchetedText, List.mem_append, List.mem_cons, List.mem_map, reduceCtorEq,
      false_or, EncryptedSessions.Act.send.injEq, ← and_assoc] at hmem
    apply encryptable_packets sealedText "text-1" 7
    rcases hmem with ⟨sent, ⟨⟨hsent, rfl⟩, -⟩, -⟩ | ⟨sent, ⟨⟨hsent, rfl⟩, -⟩, -⟩
    · exact List.mem_of_mem_take hsent
    · exact List.mem_of_mem_drop hsent
  have hconnected : Connected keyedNative streamCodecs "alice" firstMaterial ratchetedText
      dataManager { dataManager with options := ⟨[], 1⟩ } :=
    { aead := keyedAead_lawful
      packet := Codec.ofTable_lawful (by decide +kernel) (by decide +kernel)
      payload := Codec.ofTable_lawful (by decide +kernel) (by decide +kernel)
      identity_ne := by decide
      index_lt := by decide
      sends := ⟨rfl, by decide, RatchetedSessions.sharedKeys_holds "alice"⟩
      receives := ⟨rfl, by decide, RatchetedSessions.sharedKeys_holds "alice"⟩
      values := hvalues
      apart := firstMaterial_apart.mono (by decide) }
  exact (stream_arrives keyedNative streamCodecs "alice" firstMaterial ratchetedText dataManager
    { dataManager with options := ⟨[], 1⟩ } hconnected
    (transmit keyedNative streamCodecs "alice" dataManager 0 ratchetedText)
    (List.Sublist.refl _) (by decide +kernel) noZlib (Room.new true) ⟨true, [], rfl⟩ rfl
    sealedText ⟨rfl, by decide, by decide⟩ (by decide) "text-1" (by decide) (by decide)
    (by decide) (by decide) 7 (by decide +kernel) (alone _)
    (by simp only [alone, List.map_map, Function.comp_def, List.map_id'])).1

end LivekitClient.EncryptedStreams
