/-
  LivekitClient/DataPacket.lean
  =============================
  **Data packets**, as the protobuf messages of the LiveKit protocol have them.

  A `DataPacket` has a `oneof` for its value: setting one member drops the one that
  was there.  Of the messages the fields are given that the client writes or reads;
  payloads are byte strings, since a `std::string` is one, and identifiers are
  `String`s, since they are only compared.
-/
import Mathlib.Algebra.Ring.Nat
import Mathlib.Data.List.Nodup
import LivekitClient.KeyProvider

namespace LivekitClient.DataPacket

open Std
open LivekitClient.KeyProvider

abbrev Attributes := ExtTreeMap String String

/-! ## 1. The messages -/

structure UserPacket where
  participantIdentity : String := ""
  payload : Bytes := []
  topic : Option String := none
deriving DecidableEq

structure SipDtmf where
  code : UInt32 := 0
  digit : String := ""
deriving DecidableEq

structure ChatMessage where
  id : String := ""
  timestamp : Int := 0
  editTimestamp : Option Int := none
  message : String := ""
  deleted : Bool := false
  generated : Bool := false
deriving DecidableEq

structure TranscriptionSegment where
  id : String := ""
  text : String := ""
  language : String := ""
  startTime : Nat := 0
  endTime : Nat := 0
  final : Bool := false
deriving DecidableEq

structure Transcription where
  transcribedParticipantIdentity : String := ""
  trackId : String := ""
  segments : List TranscriptionSegment := []
deriving DecidableEq

structure RpcRequest where
  id : String := ""
  method : String := ""
  payload : Bytes := []
  responseTimeoutMs : UInt32 := 0
  version : UInt32 := 0
deriving DecidableEq

structure RpcAck where
  requestId : String := ""
deriving DecidableEq

structure RpcError where
  code : UInt32 := 0
  message : Bytes := []
  data : Bytes := []
deriving DecidableEq

/-- The `oneof` of an RPC response. -/
inductive RpcResponseValue where
  | notSet
  | payload (payload : Bytes)
  | error (error : RpcError)
deriving DecidableEq

structure RpcResponse where
  requestId : String := ""
  value : RpcResponseValue := .notSet
deriving DecidableEq

/-- Protobuf enumerations are open: an unknown number is kept. -/
inductive CompressionType where
  | none
  | deflateRaw
  | other (number : Nat)
deriving DecidableEq

inductive OperationType where
  | create
  | update
  | other (number : Nat)
deriving DecidableEq

structure TextHeader where
  operationType : OperationType := .create
  version : Int := 0
  replyToStreamId : String := ""
  attachedStreamIds : List String := []
deriving DecidableEq

structure ByteHeader where
  name : String := ""
deriving DecidableEq

/-- The `oneof` of a stream header. -/
inductive ContentHeader where
  | notSet
  | text (header : TextHeader)
  | byte (header : ByteHeader)
deriving DecidableEq

structure StreamHeader where
  streamId : String := ""
  timestamp : Int := 0
  topic : String := ""
  mimeType : String := ""
  totalLength : Option UInt64 := none
  attributes : Attributes := ∅
  contentHeader : ContentHeader := .notSet
  inlineContent : Option Bytes := none
  compression : CompressionType := .none
deriving DecidableEq

structure StreamChunk where
  streamId : String := ""
  chunkIndex : UInt64 := 0
  content : Bytes := []
  version : Int := 0
deriving DecidableEq

structure StreamTrailer where
  streamId : String := ""
  reason : String := ""
  attributes : Attributes := ∅
deriving DecidableEq

inductive EncryptionType where
  | none
  | gcm
  | custom
  | other (number : Nat)
deriving DecidableEq

structure EncryptedPacket where
  encryptionType : EncryptionType := .none
  iv : Bytes := []
  keyIndex : UInt32 := 0
  encryptedValue : Bytes := []
deriving DecidableEq

/-! ## 2. The packet -/

/-- The `oneof` of a data packet.  `metrics` and `other` (the speaker update) are
    handed on whole and named by their bytes. -/
inductive Value where
  | notSet
  | user (user : UserPacket)
  | sipDtmf (dtmf : SipDtmf)
  | chatMessage (chat : ChatMessage)
  | transcription (transcription : Transcription)
  | metrics (metrics : Bytes)
  | rpcRequest (request : RpcRequest)
  | rpcAck (ack : RpcAck)
  | rpcResponse (response : RpcResponse)
  | streamHeader (header : StreamHeader)
  | streamChunk (chunk : StreamChunk)
  | streamTrailer (trailer : StreamTrailer)
  | encryptedPacket (packet : EncryptedPacket)
  | other (message : Bytes)
deriving DecidableEq

inductive PacketKind where
  | reliable
  | lossy
deriving DecidableEq

structure Packet where
  kind : PacketKind := .reliable
  participantIdentity : String := ""
  destinationIdentities : List String := []
  value : Value := .notSet
deriving DecidableEq

/-- The `oneof` of an `EncryptedPacketPayload`. -/
inductive EncryptedPacketPayload where
  | notSet
  | user (user : UserPacket)
  | chatMessage (chat : ChatMessage)
  | rpcRequest (request : RpcRequest)
  | rpcAck (ack : RpcAck)
  | rpcResponse (response : RpcResponse)
  | streamHeader (header : StreamHeader)
  | streamChunk (chunk : StreamChunk)
  | streamTrailer (trailer : StreamTrailer)
deriving DecidableEq

/-! ## 3. Serialization -/

/-- `std::numeric_limits<int>::max()`. -/
def intMax : Nat := 2 ^ 31 - 1

/-- `SerializeToString` and `ParseFromArray` of a message. -/
structure Codec (α : Type) where
  serialize : α → Option Bytes
  parse : Bytes → Option α

/-- What the code relies on: parsing undoes serializing, and a message of more than
    `INT_MAX` bytes is not serialized. -/
structure Codec.Lawful {α : Type} (codec : Codec α) : Prop where
  parse_serialize : ∀ message bytes, codec.serialize message = some bytes →
    codec.parse bytes = some message
  length_le : ∀ message bytes, codec.serialize message = some bytes → bytes.length ≤ intMax

/-- A codec for the messages of a table. -/
def Codec.ofTable {α : Type} [DecidableEq α] (table : List (α × Bytes)) : Codec α where
  serialize := fun message => (table.find? fun entry => entry.1 = message).map (·.2)
  parse := fun bytes => (table.find? fun entry => entry.2 = bytes).map (·.1)

theorem Codec.ofTable_lawful {α : Type} [DecidableEq α] {table : List (α × Bytes)}
    (hnodup : (table.map (·.2)).Nodup) (hsize : ∀ entry ∈ table, entry.2.length ≤ intMax) :
    (Codec.ofTable table).Lawful where
  parse_serialize := by
    intro message bytes hserialize
    simp only [ofTable, Option.map_eq_some_iff] at hserialize ⊢
    obtain ⟨entry, hfind, rfl⟩ := hserialize
    have hmem := List.mem_of_find?_eq_some hfind
    have hmessage : entry.1 = message := by simpa using List.find?_some hfind
    cases hother : table.find? fun other => other.2 = entry.2 with
    | none =>
      have hnone := List.find?_eq_none.mp hother entry hmem
      simp at hnone
    | some other =>
      have hsame : other.2 = entry.2 := by simpa using List.find?_some hother
      have heq := List.inj_on_of_nodup_map hnodup (List.mem_of_find?_eq_some hother) hmem hsame
      exact ⟨other, rfl, by rw [heq]; exact hmessage⟩
  length_le := by
    intro message bytes hserialize
    simp only [ofTable, Option.map_eq_some_iff] at hserialize
    obtain ⟨entry, hfind, rfl⟩ := hserialize
    exact hsize entry (List.mem_of_find?_eq_some hfind)

end LivekitClient.DataPacket
