/-
  LivekitClient/StreamStore.lean
  ==============================
  **The store of incoming streams** (`incoming_texts_` and `incoming_files_` in
  `src/core/room.h`): what its counters count.

  A chunk is checked against four differences of unsigned numbers.  They are safe
  because of what every branch keeps: the received length is that of the chunks
  accepted so far, and no counter passes the limit it is subtracted from.

  The chunks accepted since a stream was opened are not part of the room.  They are
  recorded beside it, one step at a time.
-/
import LivekitClient.StreamReassembly

namespace LivekitClient.StreamStore

open Std
open LivekitClient.DataPacket
open LivekitClient.DataStreamCompression
open LivekitClient.IncomingDataStreams
open LivekitClient.StreamReassembly (noZlib)

variable {σ : Type}

/-! ## 1. What has been accepted -/

/-- The stream is opened, not rejected and not delivered at once. -/
def HeaderOutcome.isOpened : HeaderOutcome σ → Bool
  | .opened _ => true
  | _ => false

/-- The header opens a stream in this room. -/
def opensStream (zlib : Zlib σ) (room : Room σ) (header : StreamHeader) : Bool :=
  match header.contentHeader with
  | .text _ =>
    HeaderOutcome.isOpened
      (headerOutcome zlib header (room.textStreamHandlers[header.topic]?).isSome)
  | .byte _ =>
    HeaderOutcome.isOpened
      (headerOutcome zlib header (room.byteStreamHandlers[header.topic]?).isSome)
  | .notSet => false

/-- The content, inflated if need be, of a chunk that an open stream accepts. -/
def acceptedContent (zlib : Zlib σ) (room : Room σ) (chunk : StreamChunk) : Option Bytes :=
  match room.incomingTexts[chunk.streamId]? with
  | some text => (text.chunk zlib chunk).map (·.2)
  | none =>
    match room.incomingFiles[chunk.streamId]? with
    | some bytes => (bytes.chunk zlib chunk).map (·.2)
    | none => none

/-- A room, and for each stream the contents accepted since it was opened. -/
structure Tracked (σ : Type) where
  room : Room σ
  contents : String → List Bytes

def addContent (contents : String → List Bytes) (id : String) : Option Bytes → String → List Bytes
  | some content => Function.update contents id (contents id ++ [content])
  | none => contents

def recordPacket (zlib : Zlib σ) (tracked : Tracked σ) (packet : Packet) :
    String → List Bytes :=
  match packet.value with
  | .streamHeader header =>
    if opensStream zlib tracked.room header then
      Function.update tracked.contents header.streamId []
    else tracked.contents
  | .streamChunk chunk =>
    addContent tracked.contents chunk.streamId (acceptedContent zlib tracked.room chunk)
  | _ => tracked.contents

def Tracked.apply (zlib : Zlib σ) (tracked : Tracked σ) (op : Op) : Tracked σ where
  room := tracked.room.apply zlib op
  contents :=
    match op with
    | .packet arrival => recordPacket zlib tracked arrival.packet
    | _ => tracked.contents

def Tracked.new (hasListener : Bool) : Tracked σ := ⟨Room.new hasListener, fun _ => []⟩

def Tracked.run (zlib : Zlib σ) (tracked : Tracked σ) (ops : List Op) : Tracked σ :=
  ops.foldl (Tracked.apply zlib) tracked

/-- The record does not change what the room does. -/
theorem Tracked.room_run (zlib : Zlib σ) (tracked : Tracked σ) (ops : List Op) :
    (tracked.run zlib ops).room = ops.foldl (Room.apply zlib) tracked.room := by
  unfold Tracked.run
  induction ops generalizing tracked with
  | nil => rfl
  | cons op rest ih =>
    rw [List.foldl_cons, List.foldl_cons, ih]
    rfl

/-! ## 2. One stream -/

section Stream

variable {K L : Type}

/-- What the counters of an open stream are, and the limits they keep. -/
structure Counts (contents : List Bytes) (incoming : Incoming σ K L) : Prop where
  received : incoming.receivedLength = (contents.map List.length).sum
  buffered : incoming.handler = none → incoming.event.content = contents.flatten
  handled : incoming.handler ≠ none → incoming.event.content = []
  expected_le : ∀ expected ∈ incoming.expectedLength, incoming.receivedLength ≤ expected
  expected_lt : ∀ expected ∈ incoming.expectedLength, expected < 2 ^ 64
  next : incoming.nextChunk = UInt64.ofNat contents.length
  received_le : incoming.receivedLength ≤ 2 ^ 64 - 1
  buffered_le : incoming.event.content.length ≤ kMaximumBufferedDataStreamSize
  compressed_le : incoming.compressedLength ≤ kMaximumBufferedDataStreamSize

theorem counts_newIncoming (packet : Packet) (header : StreamHeader) (fields : K) (infoFields : L)
    (handler : Option Nat) (inflater : Option (InflateRawStream σ)) :
    Counts [] (newIncoming packet header fields infoFields handler inflater) := by
  constructor <;> simp [newIncoming]
  intro length _
  exact UInt64.toNat_lt length

/-- What `refusesContent` lets through fits into every limit. -/
theorem fits_of_not_refused {incoming : Incoming σ K L} {size : Nat}
    (hok : incoming.refusesContent size = false) :
    size ≤ 2 ^ 64 - 1 - incoming.receivedLength ∧
      (∀ expected ∈ incoming.expectedLength,
        incoming.receivedLength ≤ expected ∧ size ≤ expected - incoming.receivedLength) ∧
      (incoming.handler = none →
        size ≤ kMaximumBufferedDataStreamSize - incoming.event.content.length) := by
  unfold Incoming.refusesContent at hok
  simp only [Bool.or_eq_false_iff, decide_eq_false_iff_not, Nat.not_lt, Bool.and_eq_false_iff] at hok
  obtain ⟨⟨hmax, hexpected⟩, hbuffer⟩ := hok
  refine ⟨hmax, ?_, ?_⟩
  · intro expected hmem
    rw [Option.mem_def.mp hmem] at hexpected
    simpa using hexpected
  · intro hnone
    rcases hbuffer with hsome | hfits
    · simp [hnone] at hsome
    · exact hfits

/-- A compressed chunk that is decoded fits into the limit of the compressed length. -/
theorem compressed_of_decode {zlib : Zlib σ} {incoming : Incoming σ K L} {content decoded : Bytes}
    {inflater : Option (InflateRawStream σ)}
    (hdecode : incoming.decode zlib content = some (decoded, inflater))
    (hcompressed : incoming.inflater.isSome = true) :
    content.length ≤ kMaximumBufferedDataStreamSize - incoming.compressedLength := by
  unfold Incoming.decode at hdecode
  split at hdecode
  · rename_i hnone
    simp [hnone] at hcompressed
  · split at hdecode
    · assumption
    · simp at hdecode

/-- A chunk that is accepted is counted. -/
theorem Counts.chunk {zlib : Zlib σ} {contents : List Bytes} {incoming after : Incoming σ K L}
    (h : Counts contents incoming) {chunk : StreamChunk} {content : Bytes}
    (hchunk : incoming.chunk zlib chunk = some (after, content)) :
    Counts (contents ++ [content]) after := by
  unfold Incoming.chunk at hchunk
  split at hchunk
  · simp at hchunk
  rename_i decoded inflater hdecode
  split at hchunk
  · simp at hchunk
  rename_i hok
  obtain ⟨-, hrefuses⟩ := not_or.mp hok
  simp only [Bool.not_eq_true] at hrefuses
  obtain ⟨hmax, hexpected, hbuffer⟩ := fits_of_not_refused hrefuses
  cases hchunk
  have hreceived := h.received_le
  have hcompressed := h.compressed_le
  have hbuffered := h.buffered_le
  constructor
  · simp [Incoming.extend, h.received]
  · intro hnone
    have hnone' : incoming.handler = none := hnone
    simp [Incoming.extend, hnone', h.buffered hnone']
  · intro hsome
    have hsome' : incoming.handler ≠ none := hsome
    simp [Incoming.extend, Option.isSome_iff_ne_none.mpr hsome', h.handled hsome']
  · intro expected hmem
    obtain ⟨hle, hfits⟩ := hexpected expected hmem
    simp only [Incoming.extend]
    omega
  · exact h.expected_lt
  · rw [List.length_append, List.length_singleton, UInt64.ofNat_add, ← h.next]
    rfl
  · simp only [Incoming.extend]
    omega
  · simp only [Incoming.extend]
    split
    · exact hbuffered
    · rename_i hnone
      have hfits := hbuffer (Option.not_isSome_iff_eq_none.mp hnone)
      rw [List.length_append]
      omega
  · simp only [Incoming.extend]
    split
    · rename_i hsome
      have hfits := compressed_of_decode hdecode hsome
      omega
    · exact hcompressed

/-- `refusesContent` as the source computes it, in 64 bits. -/
def refusesContent64 (incoming : Incoming σ K L) (contentSize : UInt64) : Bool :=
  decide (UInt64.ofNat (2 ^ 64 - 1) - UInt64.ofNat incoming.receivedLength < contentSize) ||
    (match incoming.expectedLength with
     | none => false
     | some expected =>
       decide (UInt64.ofNat expected < UInt64.ofNat incoming.receivedLength) ||
         decide (UInt64.ofNat expected - UInt64.ofNat incoming.receivedLength < contentSize)) ||
    (incoming.handler.isNone &&
      decide (UInt64.ofNat kMaximumBufferedDataStreamSize -
        UInt64.ofNat incoming.event.content.length < contentSize))

/-- The check of the compressed length, in 64 bits. -/
def fitsCompressed64 (incoming : Incoming σ K L) (compressedSize : UInt64) : Bool :=
  decide (compressedSize ≤ UInt64.ofNat kMaximumBufferedDataStreamSize -
    UInt64.ofNat incoming.compressedLength)

theorem sub_lt_ofNat {a b n : Nat} (ha : a < 2 ^ 64) (hle : b ≤ a) (hn : n < 2 ^ 64) :
    UInt64.ofNat a - UInt64.ofNat b < UInt64.ofNat n ↔ a - b < n := by
  rw [UInt64.lt_iff_toNat_lt, UInt64.toNat_sub]
  simp only [UInt64.toNat_ofNat']
  rw [Nat.mod_eq_of_lt ha, Nat.mod_eq_of_lt (Nat.lt_of_le_of_lt hle ha), Nat.mod_eq_of_lt hn]
  omega

/-- **No difference wraps**: the checks in 64 bits are those over the natural numbers. -/
theorem Counts.checks64 {contents : List Bytes} {incoming : Incoming σ K L}
    (h : Counts contents incoming) {size : Nat} (hsize : size < 2 ^ 64) :
    refusesContent64 incoming (UInt64.ofNat size) = incoming.refusesContent size ∧
      fitsCompressed64 incoming (UInt64.ofNat size) =
        decide (size ≤ kMaximumBufferedDataStreamSize - incoming.compressedLength) := by
  have hreceived := h.received_le
  have hlimit : kMaximumBufferedDataStreamSize < 2 ^ 64 := by decide
  constructor
  · unfold refusesContent64 Incoming.refusesContent
    rw [decide_eq_decide.mpr (sub_lt_ofNat (by decide) hreceived hsize),
      decide_eq_decide.mpr (sub_lt_ofNat hlimit h.buffered_le hsize)]
    cases hexpected : incoming.expectedLength with
    | none => rfl
    | some expected =>
      have hle := h.expected_le expected hexpected
      have hlt := h.expected_lt expected hexpected
      have hless : UInt64.ofNat expected < UInt64.ofNat incoming.receivedLength ↔
          expected < incoming.receivedLength := by
        rw [UInt64.lt_iff_toNat_lt, UInt64.toNat_ofNat', UInt64.toNat_ofNat',
          Nat.mod_eq_of_lt hlt, Nat.mod_eq_of_lt (by omega)]
      dsimp only
      rw [decide_eq_decide.mpr hless, decide_eq_decide.mpr (sub_lt_ofNat hlt hle hsize)]
  · unfold fitsCompressed64
    rw [decide_eq_decide, ← not_iff_not, UInt64.not_le, Nat.not_le]
    exact sub_lt_ofNat hlimit h.compressed_le hsize

end Stream

/-! ## 3. The store -/

/-- Every stream of the map is as `P` says of its id. -/
def Each {α : Type} (P : String → α → Prop) (map : ExtTreeMap String α) : Prop :=
  ∀ (id : String) (a : α), map[id]? = some a → P id a

theorem Each.erase {α : Type} {P Q : String → α → Prop} {map : ExtTreeMap String α}
    (hmap : Each P map) {id : String} (himp : ∀ other a, other ≠ id → P other a → Q other a) :
    Each Q (map.erase id) := by
  intro other a hsome
  rw [ExtTreeMap.getElem?_erase] at hsome
  split at hsome
  · simp at hsome
  · rename_i hne
    rw [LawfulEqOrd.compare_eq_iff_eq] at hne
    exact himp other a (fun h => hne h.symm) (hmap other a hsome)

theorem Each.insert {α : Type} {P Q : String → α → Prop} {map : ExtTreeMap String α}
    (hmap : Each P map) {id : String} {new : α} (hnew : Q id new)
    (himp : ∀ other a, other ≠ id → P other a → Q other a) : Each Q (map.insert id new) := by
  intro other a hsome
  rw [ExtTreeMap.getElem?_insert] at hsome
  split at hsome
  · rename_i heq
    rw [LawfulEqOrd.compare_eq_iff_eq] at heq
    cases hsome
    exact heq ▸ hnew
  · rename_i hne
    rw [LawfulEqOrd.compare_eq_iff_eq] at hne
    exact himp other a (fun h => hne h.symm) (hmap other a hsome)

/-- The invariant of the store. -/
structure Kept (tracked : Tracked σ) : Prop where
  apart : ∀ id : String, tracked.room.incomingTexts[id]? = none ∨ tracked.room.incomingFiles[id]? = none
  texts : Each (fun id text => Counts (tracked.contents id) text) tracked.room.incomingTexts
  files : Each (fun id bytes => Counts (tracked.contents id) bytes) tracked.room.incomingFiles

theorem kept_new (hasListener : Bool) : Kept (Tracked.new hasListener : Tracked σ) := by
  constructor
  · intro id
    simp [Tracked.new, Room.new]
  all_goals
    intro id incoming hsome
    simp [Tracked.new, Room.new] at hsome

/-- A room with handlers, and nothing received yet. -/
def handlerRoom (hasListener : Bool) (texts bytes : ExtTreeMap String Nat) : Room σ :=
  { Room.new hasListener with textStreamHandlers := texts, byteStreamHandlers := bytes }

theorem kept_handlerRoom (hasListener : Bool) (texts bytes : ExtTreeMap String Nat) :
    Kept (⟨handlerRoom hasListener texts bytes, fun _ => []⟩ : Tracked σ) := by
  have hkept := kept_new (σ := σ) hasListener
  exact ⟨hkept.apart, hkept.texts, hkept.files⟩

/-- The contents of the other streams are left alone. -/
theorem Counts.update {K L : Type} {contents : String → List Bytes} {id other : String}
    (hne : other ≠ id) (more : List Bytes) {incoming : Incoming σ K L}
    (h : Counts (contents other) incoming) :
    Counts (Function.update contents id more other) incoming := by
  rwa [Function.update_of_ne hne]

theorem counts_opened {K L : Type} (contents : String → List Bytes) (id : String)
    {incoming : Incoming σ K L} (h : Counts [] incoming) :
    Counts (Function.update contents id [] id) incoming := by
  rwa [Function.update_self]

theorem getElem?_erase_eq_none {α : Type} {map : ExtTreeMap String α} {id other : String}
    (hnone : map[other]? = none) : (map.erase id)[other]? = none := by
  rw [ExtTreeMap.getElem?_erase]
  split
  · rfl
  · exact hnone

/-- A stream of one kind takes the place of whatever had its id. -/
theorem apart_insert {α β : Type} {map : ExtTreeMap String α} {others : ExtTreeMap String β}
    (hapart : ∀ id : String, map[id]? = none ∨ others[id]? = none) (id : String) (a : α) (other : String) :
    (map.insert id a)[other]? = none ∨ (others.erase id)[other]? = none := by
  by_cases heq : id = other
  · right
    rw [heq]
    simp
  · rcases hapart other with hnone | hnone
    · left
      rw [getElem?_insert_of_ne _ _ heq]
      exact hnone
    · right
      exact getElem?_erase_eq_none hnone

theorem Kept.textHeader {zlib : Zlib σ} {tracked : Tracked σ} (h : Kept tracked) (packet : Packet)
    {header : StreamHeader} {text : TextHeader} (hcontent : header.contentHeader = .text text) :
    Kept ⟨(tracked.room.textHeaderEvent zlib packet header text).1,
      if opensStream zlib tracked.room header then
        Function.update tracked.contents header.streamId [] else tracked.contents⟩ := by
  unfold Room.textHeaderEvent opensStream
  rw [hcontent]
  dsimp only
  cases headerOutcome zlib header (tracked.room.textStreamHandlers[header.topic]?).isSome with
  | rejected => exact h
  | inline content => cases tracked.room.textStreamHandlers[header.topic]? <;> exact h
  | opened inflater =>
    refine ⟨apart_insert h.apart header.streamId _, ?_, ?_⟩
    · exact h.texts.insert (counts_opened _ _ (counts_newIncoming ..))
        fun other text hne hcounts => hcounts.update hne []
    · exact h.files.erase fun other bytes hne hcounts => hcounts.update hne []

theorem Kept.byteHeader {zlib : Zlib σ} {tracked : Tracked σ} (h : Kept tracked) (packet : Packet)
    {header : StreamHeader} {byte : ByteHeader} (hcontent : header.contentHeader = .byte byte) :
    Kept ⟨(tracked.room.byteHeaderEvent zlib packet header byte).1,
      if opensStream zlib tracked.room header then
        Function.update tracked.contents header.streamId [] else tracked.contents⟩ := by
  unfold Room.byteHeaderEvent opensStream
  rw [hcontent]
  dsimp only
  cases headerOutcome zlib header (tracked.room.byteStreamHandlers[header.topic]?).isSome with
  | rejected => exact h
  | inline content => cases tracked.room.byteStreamHandlers[header.topic]? <;> exact h
  | opened inflater =>
    refine ⟨?_, ?_, ?_⟩
    · intro id
      exact (apart_insert (fun id => (h.apart id).symm) header.streamId _ id).symm
    · exact h.texts.erase fun other text hne hcounts => hcounts.update hne []
    · exact h.files.insert (counts_opened _ _ (counts_newIncoming ..))
        fun other bytes hne hcounts => hcounts.update hne []

/-- The contents of the other streams are left alone by a chunk. -/
theorem Counts.addContent {K L : Type} {contents : String → List Bytes} {id other : String}
    (hne : other ≠ id) (content : Option Bytes) {incoming : Incoming σ K L}
    (h : Counts (contents other) incoming) :
    Counts (addContent contents id content other) incoming := by
  cases content with
  | none => exact h
  | some content => exact h.update hne _

/-- The map after a chunk of one of its streams. -/
theorem Each.store {K L : Type} {zlib : Zlib σ} {map : ExtTreeMap String (Incoming σ K L)}
    {contents : String → List Bytes} (hmap : Each (fun id => Counts (contents id)) map)
    {chunk : StreamChunk} {incoming : Incoming σ K L}
    (hsome : map[chunk.streamId]? = some incoming) :
    Each
      (fun id => Counts (addContent contents chunk.streamId
        ((incoming.chunk zlib chunk).map Prod.snd) id))
      (Incoming.store map chunk.streamId (incoming.chunk zlib chunk)) := by
  have hcounts := hmap _ _ hsome
  cases hchunk : incoming.chunk zlib chunk with
  | none => exact hmap.erase fun other incoming _ hcounts => hcounts
  | some result =>
    obtain ⟨after, content⟩ := result
    refine hmap.insert ?_ fun other incoming hne hcounts => hcounts.addContent hne (some content)
    simp only [Option.map_some, StreamStore.addContent, Function.update_self]
    exact hcounts.chunk hchunk

theorem getElem?_store_eq_none {K L : Type} {map : ExtTreeMap String (Incoming σ K L)}
    {id other : String} {result : Option (Incoming σ K L × Bytes)} (hid : map[id]? ≠ none)
    (hnone : map[other]? = none) : (Incoming.store map id result)[other]? = none := by
  rw [getElem?_store_of_ne _ _ ?_]
  · exact hnone
  · rintro rfl
    exact hid hnone

theorem Kept.chunk {zlib : Zlib σ} {tracked : Tracked σ} (h : Kept tracked)
    (chunk : StreamChunk) :
    Kept ⟨(tracked.room.chunkEvent zlib chunk).1,
      addContent tracked.contents chunk.streamId
        (acceptedContent zlib tracked.room chunk)⟩ := by
  -- where the id has a stream of the one kind, there is none of the other
  have hothers : ∀ {K L : Type} {map : ExtTreeMap String (Incoming σ K L)},
      Each (fun id => Counts (tracked.contents id)) map → map[chunk.streamId]? = none →
      ∀ content, Each (fun id => Counts (addContent tracked.contents chunk.streamId content id))
        map := by
    intro K L map hmap hnone content id incoming hsome
    have hne : id ≠ chunk.streamId := by
      rintro rfl
      simp [hnone] at hsome
    exact (hmap id incoming hsome).addContent hne content
  unfold Room.chunkEvent acceptedContent
  cases htext : tracked.room.incomingTexts[chunk.streamId]? with
  | some text =>
    have hfile : tracked.room.incomingFiles[chunk.streamId]? = none :=
      (h.apart chunk.streamId).resolve_left (by simp [htext])
    refine ⟨?_, h.texts.store htext, hothers h.files hfile _⟩
    intro id
    rcases h.apart id with hnone | hnone
    · exact .inl (getElem?_store_eq_none (by simp [htext]) hnone)
    · exact .inr hnone
  | none =>
    cases hbytes : tracked.room.incomingFiles[chunk.streamId]? with
    | none => exact h
    | some bytes =>
      refine ⟨?_, hothers h.texts htext _, h.files.store hbytes⟩
      intro id
      rcases h.apart id with hnone | hnone
      · exact .inl hnone
      · exact .inr (getElem?_store_eq_none (by simp [hbytes]) hnone)

theorem Kept.packet {zlib : Zlib σ} {tracked : Tracked σ} (h : Kept tracked) (now : Int)
    (packet : Packet) :
    Kept ⟨(tracked.room.dataPacketEvent zlib now packet).1,
      recordPacket zlib tracked packet⟩ := by
  unfold Room.dataPacketEvent recordPacket
  cases hvalue : packet.value with
  | streamHeader header =>
    dsimp only
    cases hcontent : header.contentHeader with
    | text text => exact h.textHeader packet hcontent
    | byte byte => exact h.byteHeader packet hcontent
    | notSet =>
      simp only [opensStream, hcontent]
      exact h
  | streamChunk chunk => exact h.chunk chunk
  | streamTrailer trailer =>
    refine ⟨?_, h.texts.erase fun _ _ _ hcounts => hcounts,
      h.files.erase fun _ _ _ hcounts => hcounts⟩
    intro id
    rcases h.apart id with hnone | hnone
    · exact .inl (getElem?_erase_eq_none hnone)
    · exact .inr (getElem?_erase_eq_none hnone)
  | _ => exact ⟨h.apart, h.texts, h.files⟩

theorem Kept.apply {zlib : Zlib σ} {tracked : Tracked σ} (h : Kept tracked) (op : Op) :
    Kept (tracked.apply zlib op) := by
  cases op with
  | packet arrival => exact h.packet arrival.now arrival.packet
  | failIncomingDataStreams reason =>
    constructor
    · intro id
      simp [Tracked.apply, Room.apply, Room.failIncomingDataStreams]
    all_goals
      intro id incoming hsome
      simp [Tracked.apply, Room.apply, Room.failIncomingDataStreams] at hsome
  | _ => exact ⟨h.apart, h.texts, h.files⟩

theorem Kept.run {zlib : Zlib σ} {tracked : Tracked σ} (h : Kept tracked) (ops : List Op) :
    Kept (tracked.run zlib ops) := by
  unfold Tracked.run
  induction ops generalizing tracked with
  | nil => exact h
  | cons op rest ih => exact ih (h.apply op)

/-- **The invariant of the store**: in every state that packets, handlers and failures
    lead to, a stream is of one kind, its counters count the chunks accepted since it
    was opened (the next index in 64 bits), and no check of a chunk wraps. -/
theorem store_invariant (zlib : Zlib σ) (hasListener : Bool) (ops : List Op) :
    (∀ id : String, ((Tracked.new hasListener).run zlib ops).room.incomingTexts[id]? = none ∨
      ((Tracked.new hasListener).run zlib ops).room.incomingFiles[id]? = none) ∧
    (∀ (id : String) (text : IncomingText σ),
      ((Tracked.new hasListener).run zlib ops).room.incomingTexts[id]? = some text →
        Counts (((Tracked.new hasListener).run zlib ops).contents id) text ∧
          ∀ size < 2 ^ 64, refusesContent64 text (UInt64.ofNat size) = text.refusesContent size ∧
            fitsCompressed64 text (UInt64.ofNat size) =
              decide (size ≤ kMaximumBufferedDataStreamSize - text.compressedLength)) ∧
    (∀ (id : String) (bytes : IncomingFile σ),
      ((Tracked.new hasListener).run zlib ops).room.incomingFiles[id]? = some bytes →
        Counts (((Tracked.new hasListener).run zlib ops).contents id) bytes ∧
          ∀ size < 2 ^ 64, refusesContent64 bytes (UInt64.ofNat size) = bytes.refusesContent size ∧
            fitsCompressed64 bytes (UInt64.ofNat size) =
              decide (size ≤ kMaximumBufferedDataStreamSize - bytes.compressedLength)) := by
  have hkept : Kept ((Tracked.new hasListener).run zlib ops) := (kept_new hasListener).run ops
  refine ⟨hkept.apart, ?_, ?_⟩
  · intro id text hsome
    have hcounts := hkept.texts id text hsome
    exact ⟨hcounts, fun size hsize => hcounts.checks64 hsize⟩
  · intro id bytes hsome
    have hcounts := hkept.files id bytes hsome
    exact ⟨hcounts, fun size hsize => hcounts.checks64 hsize⟩

/-! ### The index comes round -/

def emptyChunk (i : Nat) : StreamChunk where
  streamId := "text-1"
  chunkIndex := UInt64.ofNat i
  content := []

def emptyHeader : StreamHeader where
  streamId := "text-1"
  contentHeader := .text {}

/-- A stream without a declared length and `n` empty chunks. -/
def emptyChunks (n : Nat) : List Op :=
  .packet ⟨0, { value := .streamHeader emptyHeader }⟩ ::
    (List.range n).map fun i => .packet ⟨0, { value := .streamChunk (emptyChunk i) }⟩

def emptyStream (n : Nat) : IncomingText Unit :=
  { newText { value := .streamHeader emptyHeader } emptyHeader {} none none with
    nextChunk := UInt64.ofNat n }

theorem chunk_emptyStream (n : Nat) :
    (emptyStream n).chunk noZlib (emptyChunk n) = some (emptyStream (n + 1), []) := by
  have hnext : UInt64.ofNat n + 1 = UInt64.ofNat (n + 1) := by
    rw [UInt64.ofNat_add]
    rfl
  have hrefuses : (emptyStream n).refusesContent 0 = false := rfl
  have hdecode : (emptyStream n).decode noZlib (emptyChunk n).content = some ([], none) := rfl
  rw [Incoming.chunk, hdecode]
  dsimp only
  rw [List.length_nil, hrefuses, if_neg (by simp [emptyChunk, emptyStream])]
  have hextend : (emptyStream n).extend [] none 0 =
      { emptyStream n with nextChunk := UInt64.ofNat n + 1 } := rfl
  rw [show (emptyChunk n).content.length = 0 from rfl, hextend, hnext]
  rfl

theorem run_emptyChunks (n : Nat) :
    (((Tracked.new true).run noZlib (emptyChunks n)).room.incomingTexts["text-1"]? =
        some (emptyStream n)) ∧
      ((Tracked.new true).run noZlib (emptyChunks n)).contents "text-1" =
        List.replicate n [] := by
  induction n with
  | zero =>
    constructor <;> rfl
  | succ n ih =>
    obtain ⟨htext, hcontents⟩ := ih
    have hrun : (Tracked.new true).run noZlib (emptyChunks (n + 1)) =
        ((Tracked.new true).run noZlib (emptyChunks n)).apply noZlib
          (.packet ⟨0, { value := .streamChunk (emptyChunk n) }⟩) := by
      simp [Tracked.run, emptyChunks, List.range_succ]
    rw [hrun]
    generalize (Tracked.new true).run noZlib (emptyChunks n) = tracked at htext hcontents
    have hfound : tracked.room.incomingTexts[(emptyChunk n).streamId]? = some (emptyStream n) :=
      htext
    have haccepted : acceptedContent noZlib tracked.room (emptyChunk n) = some [] := by
      simp only [acceptedContent, hfound, chunk_emptyStream, Option.map_some]
    constructor
    · simp only [Tracked.apply, Room.apply, Room.dataPacketEvent, Room.chunkEvent, hfound]
      exact (getElem?_store_self ..).trans (by rw [chunk_emptyStream, Option.map_some])
    · simp only [Tracked.apply, recordPacket, haccepted, addContent]
      rw [show (emptyChunk n).streamId = "text-1" from rfl, Function.update_self, hcontents,
        List.replicate_succ']

/-- After `2 ^ 64` chunks the next index is zero again. -/
theorem nextChunk_comes_round :
    ¬ ∀ (ops : List Op) (id : String) (text : IncomingText Unit),
      ((Tracked.new true).run noZlib ops).room.incomingTexts[id]? = some text →
        text.nextChunk.toNat = (((Tracked.new true).run noZlib ops).contents id).length := by
  intro hall
  obtain ⟨n, hn⟩ : ∃ n, n = 2 ^ 64 := ⟨_, rfl⟩
  obtain ⟨htext, hcontents⟩ := run_emptyChunks n
  have hcount := hall (emptyChunks n) "text-1" (emptyStream n) htext
  rw [hcontents, List.length_replicate] at hcount
  have hround : (emptyStream n).nextChunk.toNat = 0 := by
    simp [emptyStream, hn]
  omega

end LivekitClient.StreamStore
