/-
  LivekitClient/EncryptedDataPath.lean
  ====================================
  **The encrypted data path**: `RtcEngine::SendDataPacket` and
  `RtcEngine::OnDataChannelMessage` (`src/core/detail/rtc_engine.cpp`), with
  `E2EEManager::EncryptData` / `DecryptData` and the data packet cryptor under them.

  With end-to-end encryption on, eight kinds of values are sealed and put into an
  `encrypted_packet`; the other side opens it and puts the value back.  The flag is
  read twice on each side, under two mutexes, and other threads may change the
  manager in between: what they do to it is the argument `meanwhile`.
-/
import LivekitClient.DataPacket
import LivekitClient.FrameCryptor

namespace LivekitClient.EncryptedDataPath

open LivekitClient.KeyProvider
open LivekitClient.FrameCryptor
open LivekitClient.DataPacket

/-! ## 1. The data packet cryptor -/

/-- `webrtc::EncryptedPacket`. -/
structure SealedData where
  data : Bytes
  iv : Bytes
  keyIndex : UInt8
deriving DecidableEq

structure DataPacketCryptor where
  sendCount : UInt32
deriving DecidableEq

/-- What the random generator and the clock give during a call. -/
structure Chance where
  nonZeroId : UInt32
  id : UInt32
  timeMillis : UInt32
deriving DecidableEq

namespace DataPacketCryptor

def makeIv (c : DataPacketCryptor) (chance : Chance) (timestamp : UInt32) :
    Bytes × DataPacketCryptor :=
  let sendCount := if c.sendCount = 0 then chance.nonZeroId * 0xFFFF else c.sendCount
  (writeUInt32 chance.id ++ writeUInt32 timestamp ++ writeUInt32 (timestamp - sendCount % 0xFFFF),
   ⟨sendCount + 1⟩)

/-- `Encrypt`; data packets have no header to authenticate. -/
def encrypt (lib : Native) (c : DataPacketCryptor) (p : NativeKeyProvider)
    (participantId : String) (keyIndex : Nat) (data : Bytes) (chance : Chance) :
    Option SealedData × DataPacketCryptor × NativeKeyProvider :=
  let (handler, p) := p.getSharedKey participantId
  match handler.bind fun handler => handler.getKeySet p.heap keyIndex with
  | none => (none, c, p)
  | some keySet =>
    let (iv, c) := c.makeIv chance chance.timeMillis
    match lib.aead.encrypt keySet.encryptionKey iv [] data with
    | none => (none, c, p)
    | some buffer => (some ⟨buffer, iv, keyIndex.toUInt8⟩, c, p)

def decrypt (lib : Native) (options : CryptoOptions) (p : NativeKeyProvider)
    (participantId : String) (packet : SealedData) : Option Bytes × NativeKeyProvider :=
  if packet.iv.length ≠ 12 ∨ packet.data.length < 16 then (none, p)
  else
    let (handler, p) := p.getSharedKey participantId
    let keyIndex := packet.keyIndex.toNat
    match handler.bind fun handler => handler.getKeySet p.heap keyIndex with
    | none => (none, p)
    | some keySet =>
      match openWithRatchet lib options p participantId keySet keyIndex
          fun key => lib.aead.decrypt key packet.iv [] packet.data with
      | (.initial buffer, p) => (some buffer, p)
      | (.ratcheted buffer, p) => (some buffer, p)
      | (.failed, p) => (none, p)

end DataPacketCryptor

/-! ## 2. The manager -/

/-- What of the E2EE manager the data path uses. -/
structure DataManager where
  enabled : Bool
  dataKeyIndex : Nat
  keys : NativeKeyProvider
  options : CryptoOptions
  dataCryptor : DataPacketCryptor

/-- `E2EEManagerNativeAccess::EncryptedData`. -/
structure EncryptedData where
  payload : Bytes
  iv : Bytes
  keyIndex : Nat
deriving DecidableEq

/-- The fields of an `encrypted_packet` as `SendDataPacket` sets them. -/
def EncryptedData.packet (encrypted : EncryptedData) : EncryptedPacket where
  encryptionType := .gcm
  iv := encrypted.iv
  keyIndex := encrypted.keyIndex.toUInt32
  encryptedValue := encrypted.payload

namespace DataManager

def encryptData (lib : Native) (m : DataManager) (participantIdentity : String) (payload : Bytes)
    (chance : Chance) : Option EncryptedData × DataManager :=
  if !m.enabled then (none, m)
  else
    match m.dataCryptor.encrypt lib m.keys participantIdentity m.dataKeyIndex payload chance with
    | (result, dataCryptor, keys) =>
      (result.map fun packet => ⟨packet.data, packet.iv, packet.keyIndex.toNat⟩,
       { m with dataCryptor := dataCryptor, keys := keys })

def decryptData (lib : Native) (m : DataManager) (participantIdentity : String)
    (encrypted : EncryptedData) : Option Bytes × DataManager :=
  if !m.enabled || decide (m.keys.keyRingSize ≤ encrypted.keyIndex) then (none, m)
  else
    match DataPacketCryptor.decrypt lib m.options m.keys participantIdentity
        ⟨encrypted.payload, encrypted.iv, encrypted.keyIndex.toUInt8⟩ with
    | (result, keys) => (result, { m with keys := keys })

/-- The key set of a slot, as the cryptor finds it for a participant. -/
def keySet (m : DataManager) (participantIdentity : String) (keyIndex : Nat) : Option KeySet :=
  (m.keys.getSharedKey participantIdentity).1.bind fun handler =>
    handler.getKeySet (m.keys.getSharedKey participantIdentity).2.heap keyIndex

end DataManager

/-! ## 3. The engine -/

def makeEncryptablePayload (packet : Packet) : Option EncryptedPacketPayload :=
  match packet.value with
  | .user user => some (.user user)
  | .chatMessage chat => some (.chatMessage chat)
  | .rpcRequest request => some (.rpcRequest request)
  | .rpcAck ack => some (.rpcAck ack)
  | .rpcResponse response => some (.rpcResponse response)
  | .streamHeader header => some (.streamHeader header)
  | .streamChunk chunk => some (.streamChunk chunk)
  | .streamTrailer trailer => some (.streamTrailer trailer)
  | _ => none

def restoreEncryptedPayload (payload : EncryptedPacketPayload) (packet : Packet) : Option Packet :=
  match payload with
  | .user user => some { packet with value := .user user }
  | .chatMessage chat => some { packet with value := .chatMessage chat }
  | .rpcRequest request => some { packet with value := .rpcRequest request }
  | .rpcAck ack => some { packet with value := .rpcAck ack }
  | .rpcResponse response => some { packet with value := .rpcResponse response }
  | .streamHeader header => some { packet with value := .streamHeader header }
  | .streamChunk chunk => some { packet with value := .streamChunk chunk }
  | .streamTrailer trailer => some { packet with value := .streamTrailer trailer }
  | .notSet => none

structure Codecs where
  packet : Codec Packet
  payload : Codec EncryptedPacketPayload

/-- How the data channel behaves during a call: whether there is one (after the
    negotiations that `SendDataPacket` waits for or starts), whether it is open in
    time, whether its buffer drains, and what `Send` returns. -/
structure ChannelBehaviour where
  present : Bool
  opens : Bool
  writable : Bool
  sends : Bool
deriving DecidableEq

/-- The result of `SendDataPacket`: what it returns, and what it handed to
    `channel->Send`. -/
structure SendOutcome where
  result : Bool
  handed : Option Bytes
  manager : Option DataManager

/-- The section of `SendDataPacket` under `e2ee_mutex_`: the packet to send, or
    nothing if the call is to return false. -/
def makeOutbound (lib : Native) (codecs : Codecs) (localIdentity : String)
    (manager : Option DataManager) (meanwhile : DataManager → DataManager) (chance : Chance)
    (packet : Packet) : Option Packet × Option DataManager :=
  match manager with
  | none => (some packet, none)
  | some m =>
    if !m.enabled then (some packet, some m)
    else
      match makeEncryptablePayload packet with
      | none => (some packet, some m)
      | some payload =>
        match codecs.payload.serialize payload with
        | none => (none, some m)
        | some plaintext =>
          match (meanwhile m).encryptData lib localIdentity plaintext chance with
          | (none, m) => (none, some m)
          | (some encrypted, m) =>
            (some { packet with value := .encryptedPacket encrypted.packet }, some m)

def sendDataPacket (lib : Native) (codecs : Codecs) (channel : ChannelBehaviour)
    (localIdentity : String) (manager : Option DataManager)
    (meanwhile : DataManager → DataManager) (chance : Chance) (packet : Packet) : SendOutcome :=
  if !channel.present then ⟨false, none, manager⟩
  else if !channel.opens then ⟨false, none, manager⟩
  else
    match makeOutbound lib codecs localIdentity manager meanwhile chance packet with
    | (none, manager) => ⟨false, none, manager⟩
    | (some outbound, manager) =>
      match codecs.packet.serialize outbound with
      | none => ⟨false, none, manager⟩
      | some serialized =>
        if !channel.writable then ⟨false, none, manager⟩
        else ⟨channel.sends, some serialized, manager⟩

/-- Who gets a packet that has arrived. -/
inductive Dispatch where
  | rpc (packet : Packet)
  | listener (packet : Packet)
deriving DecidableEq

def Dispatch.packet : Dispatch → Packet
  | .rpc packet => packet
  | .listener packet => packet

/-- The section of `OnDataChannelMessage` under `e2ee_mutex_`. -/
def openPacket (lib : Native) (codecs : Codecs) (manager : Option DataManager)
    (meanwhile : DataManager → DataManager) (packet : Packet) (encrypted : EncryptedPacket) :
    Option Packet × Option DataManager :=
  match manager with
  | none => (none, none)
  | some m =>
    if !m.enabled ∨ (encrypted.encryptionType ≠ .none ∧ encrypted.encryptionType ≠ .gcm) then
      (none, some m)
    else
      match (meanwhile m).decryptData lib packet.participantIdentity
          ⟨encrypted.encryptedValue, encrypted.iv, encrypted.keyIndex.toNat⟩ with
      | (none, m) => (none, some m)
      | (some decrypted, m) =>
        if intMax < decrypted.length then (none, some m)
        else
          match codecs.payload.parse decrypted with
          | none => (none, some m)
          | some payload => (restoreEncryptedPayload payload packet, some m)

def dispatch (hasListener : Bool) (packet : Packet) : Option Dispatch :=
  match packet.value with
  | .rpcRequest _ => some (.rpc packet)
  | .rpcAck _ => some (.rpc packet)
  | .rpcResponse _ => some (.rpc packet)
  | _ => if hasListener then some (.listener packet) else none

def onDataChannelMessage (lib : Native) (codecs : Codecs) (hasListener : Bool)
    (manager : Option DataManager) (meanwhile : DataManager → DataManager) (buffer : Bytes) :
    Option Dispatch × Option DataManager :=
  if intMax < buffer.length then (none, manager)
  else
    match codecs.packet.parse buffer with
    | none => (none, manager)
    | some packet =>
      match packet.value with
      | .encryptedPacket encrypted =>
        match openPacket lib codecs manager meanwhile packet encrypted with
        | (none, manager) => (none, manager)
        | (some packet, manager) => (dispatch hasListener packet, manager)
      | _ => (dispatch hasListener packet, manager)

/-! ## 4. The round trip -/

/-- The values that are to travel encrypted. -/
def Encryptable : Value → Prop
  | .user _ => True
  | .chatMessage _ => True
  | .rpcRequest _ => True
  | .rpcAck _ => True
  | .rpcResponse _ => True
  | .streamHeader _ => True
  | .streamChunk _ => True
  | .streamTrailer _ => True
  | _ => False

/-- The two case lists agree. -/
theorem restoreEncryptedPayload_makeEncryptablePayload {packet : Packet}
    (hvalue : Encryptable packet.value) :
    ∃ payload, makeEncryptablePayload packet = some payload ∧
      ∀ other, restoreEncryptedPayload payload other =
        some { other with value := packet.value } := by
  unfold makeEncryptablePayload
  cases hcase : packet.value <;> rw [hcase] at hvalue <;>
    first
    | exact absurd hvalue id
    | exact ⟨_, rfl, fun _ => rfl⟩

theorem dispatch_of_encryptable {packet : Packet} (hvalue : Encryptable packet.value) :
    ∃ target, dispatch true packet = some target ∧ target.packet = packet := by
  unfold dispatch
  cases hcase : packet.value <;> rw [hcase] at hvalue <;>
    first
    | exact absurd hvalue id
    | exact ⟨_, rfl, rfl⟩

/-- What `EncryptData` gives, if it gives anything. -/
theorem encryptData_eq_some {lib : Native} {m : DataManager} {identity : String}
    {payload : Bytes} {chance : Chance} {encrypted : EncryptedData}
    (hsome : (m.encryptData lib identity payload chance).1 = some encrypted) :
    ∃ keySet, m.keySet identity m.dataKeyIndex = some keySet ∧
      lib.aead.encrypt keySet.encryptionKey encrypted.iv [] payload = some encrypted.payload ∧
      encrypted.iv.length = 12 ∧ encrypted.keyIndex = m.dataKeyIndex.toUInt8.toNat := by
  unfold DataManager.encryptData at hsome
  split at hsome
  · simp at hsome
  · simp only [DataPacketCryptor.encrypt] at hsome
    cases hkey : (m.keys.getSharedKey identity).1.bind fun handler =>
        handler.getKeySet (m.keys.getSharedKey identity).2.heap m.dataKeyIndex with
    | none => simp [hkey] at hsome
    | some keySet =>
      cases hseal : lib.aead.encrypt keySet.encryptionKey
          (m.dataCryptor.makeIv chance chance.timeMillis).1 [] payload with
      | none => simp [hkey, hseal] at hsome
      | some buffer =>
        simp only [hkey, hseal, Option.map_some, Option.some.injEq] at hsome
        subst hsome
        exact ⟨keySet, hkey, hseal, rfl, rfl⟩

theorem toNat_toUInt8_of_lt {n : Nat} (hlt : n < 2 ^ 8) : n.toUInt8.toNat = n :=
  Nat.mod_eq_of_lt hlt

theorem toNat_toUInt32_of_lt {n : Nat} (hlt : n < 2 ^ 8) : n.toUInt32.toNat = n :=
  Nat.mod_eq_of_lt (Nat.lt_trans hlt (by decide))

/-- `DecryptData` with the key set that sealed the data. -/
theorem decryptData_of_sealed {lib : Native} (haead : lib.aead.Lawful) {m : DataManager}
    (henabled : m.enabled = true) {identity : String} {encrypted : EncryptedData}
    {keySet : KeySet} {payload : Bytes}
    (hring : encrypted.keyIndex < m.keys.keyRingSize) (hsmall : m.keys.keyRingSize ≤ 2 ^ 8)
    (hkey : m.keySet identity encrypted.keyIndex = some keySet)
    (hseal : lib.aead.encrypt keySet.encryptionKey encrypted.iv [] payload =
      some encrypted.payload)
    (hiv : encrypted.iv.length = 12) :
    (m.decryptData lib identity encrypted).1 = some payload := by
  have hindex : encrypted.keyIndex.toUInt8.toNat = encrypted.keyIndex :=
    toNat_toUInt8_of_lt (by omega)
  -- the key has a valid size, and the data is as long as the tag at least
  have hvalid : validKeySize keySet.encryptionKey.length = true := by
    by_contra hnot
    simp [Aead.encrypt, hnot] at hseal
  have hsealed : lib.aead.sealData keySet.encryptionKey encrypted.iv [] payload =
      some encrypted.payload := by
    simpa [Aead.encrypt, hvalid] using hseal
  have hlength := haead.length_seal _ _ _ _ _ hsealed
  have htag : ¬ encrypted.payload.length < kGcmTagSize := by omega
  have hopen : lib.aead.decrypt keySet.encryptionKey encrypted.iv [] encrypted.payload =
      some payload := by
    simp only [Aead.decrypt, hvalid, Bool.not_true, Bool.false_eq_true, if_false, htag]
    exact haead.open_seal _ _ _ _ _ hsealed
  have hguard : ¬ (encrypted.iv.length ≠ 12 ∨ encrypted.payload.length < 16) := by
    rintro (hne | hlt)
    · exact hne hiv
    · exact htag hlt
  have hring' : ¬ m.keys.keyRingSize ≤ encrypted.keyIndex := by omega
  unfold DataManager.keySet at hkey
  simp only [DataManager.decryptData, henabled, hring', decide_false, Bool.not_true, Bool.or_self,
    Bool.false_eq_true, if_false, DataPacketCryptor.decrypt, hguard, hindex, hkey,
    openWithRatchet, hopen]

/-- The peer has encryption on at both of its checks, and the slot that the sender
    sealed with holds the same key set for the sender's identity. -/
structure PeerReady (sender peer peer' : DataManager) (identity : String) : Prop where
  enabled : peer.enabled = true
  enabled' : peer'.enabled = true
  index_lt : sender.dataKeyIndex < peer'.keys.keyRingSize
  keyRingSize_le : peer'.keys.keyRingSize ≤ 2 ^ 8
  keySet_eq : peer'.keySet identity sender.dataKeyIndex =
    sender.keySet identity sender.dataKeyIndex

/-- The outcomes of the section under `e2ee_mutex_` with encryption on. -/
theorem makeOutbound_of_enabled (lib : Native) (codecs : Codecs) {m : DataManager}
    (henabled : m.enabled = true) {packet : Packet} (hvalue : Encryptable packet.value)
    (identity : String)
    (meanwhile : DataManager → DataManager) (chance : Chance) :
    (makeOutbound lib codecs identity (some m) meanwhile chance packet).1 = none ∨
      ∃ payload plaintext encrypted, makeEncryptablePayload packet = some payload ∧
        codecs.payload.serialize payload = some plaintext ∧
        ((meanwhile m).encryptData lib identity plaintext chance).1 = some encrypted ∧
        (makeOutbound lib codecs identity (some m) meanwhile chance packet).1 =
          some { packet with value := .encryptedPacket encrypted.packet } := by
  obtain ⟨payload, hmake, -⟩ := restoreEncryptedPayload_makeEncryptablePayload hvalue
  cases hserialize : codecs.payload.serialize payload with
  | none => exact Or.inl (by simp [makeOutbound, henabled, hmake, hserialize])
  | some plaintext =>
    rcases hencrypt : (meanwhile m).encryptData lib identity plaintext chance with
      ⟨_ | encrypted, after⟩
    · exact Or.inl (by simp [makeOutbound, henabled, hmake, hserialize, hencrypt])
    · right
      refine ⟨payload, plaintext, encrypted, hmake, hserialize, by rw [hencrypt], ?_⟩
      simp [makeOutbound, henabled, hmake, hserialize, hencrypt]

section DataPath

variable {lib : Native} {codecs : Codecs} (haead : lib.aead.Lawful)
  (hpacket : codecs.packet.Lawful) (hpayload : codecs.payload.Lawful)
include haead hpacket hpayload

/-- What `OnDataChannelMessage` makes of an encrypted packet of a ready sender. -/
theorem onDataChannelMessage_sealed {sender peer : DataManager}
    {meanwhile : DataManager → DataManager} {identity : String}
    (hpeer : PeerReady sender peer (meanwhile peer) identity) {original relayed : Packet}
    (hvalue : Encryptable original.value) {payload : EncryptedPacketPayload}
    (hmake : makeEncryptablePayload original = some payload) {plaintext : Bytes}
    (hserialize : codecs.payload.serialize payload = some plaintext) {chance : Chance}
    {encrypted : EncryptedData}
    (hencrypt : (sender.encryptData lib identity plaintext chance).1 = some encrypted)
    (hidentity : relayed.participantIdentity = identity)
    (hrelayed : relayed.value = .encryptedPacket encrypted.packet)
    {bytes : Bytes} (hbytes : codecs.packet.serialize relayed = some bytes) :
    ∃ target, (onDataChannelMessage lib codecs true (some peer) meanwhile bytes).1 = some target ∧
      target.packet = { relayed with value := original.value } := by
  obtain ⟨keySet, hkey, hseal, hiv, hindex⟩ := encryptData_eq_some hencrypt
  have hlt : sender.dataKeyIndex < 2 ^ 8 := Nat.lt_of_lt_of_le hpeer.index_lt hpeer.keyRingSize_le
  rw [toNat_toUInt8_of_lt hlt] at hindex
  have hround : encrypted.packet.keyIndex.toNat = encrypted.keyIndex :=
    toNat_toUInt32_of_lt (by omega)
  have hdecrypt : ((meanwhile peer).decryptData lib relayed.participantIdentity
      ⟨encrypted.packet.encryptedValue, encrypted.packet.iv,
        encrypted.packet.keyIndex.toNat⟩).1 = some plaintext := by
    rw [hround, hidentity]
    refine decryptData_of_sealed haead hpeer.enabled' ?_ hpeer.keyRingSize_le ?_ hseal hiv
    · rw [hindex]
      exact hpeer.index_lt
    · rw [hindex, hpeer.keySet_eq]
      exact hkey
  obtain ⟨payload', hmake', hrestore⟩ := restoreEncryptedPayload_makeEncryptablePayload hvalue
  rw [hmake] at hmake'
  cases hmake'
  have hopen : (openPacket lib codecs (some peer) meanwhile relayed encrypted.packet).1 =
      some { relayed with value := original.value } := by
    have hsize : ¬ intMax < plaintext.length := Nat.not_lt.mpr (hpayload.length_le _ _ hserialize)
    have htype : encrypted.packet.encryptionType = .gcm := rfl
    rcases hresult : (meanwhile peer).decryptData lib relayed.participantIdentity
      ⟨encrypted.packet.encryptedValue, encrypted.packet.iv,
        encrypted.packet.keyIndex.toNat⟩ with ⟨result, after⟩
    rw [hresult] at hdecrypt
    cases hdecrypt
    simp [openPacket, hpeer.enabled, htype, hresult, hsize,
      hpayload.parse_serialize _ _ hserialize, hrestore]
  obtain ⟨target, hdispatch, htarget⟩ : ∃ target,
      dispatch true { relayed with value := original.value } = some target ∧
        target.packet = { relayed with value := original.value } :=
    dispatch_of_encryptable hvalue
  refine ⟨target, ?_, htarget⟩
  have hsize : ¬ intMax < bytes.length := Nat.not_lt.mpr (hpacket.length_le _ _ hbytes)
  rcases hresult : openPacket lib codecs (some peer) meanwhile relayed encrypted.packet with
    ⟨result, after⟩
  rw [hresult] at hopen
  cases hopen
  simp [onDataChannelMessage, hsize, hpacket.parse_serialize _ _ hbytes, hrelayed, hresult,
    hdispatch]

/-- With encryption on at the check of `SendDataPacket`, an encryptable value is
    never handed to the channel in clear, and a ready peer dispatches it unchanged. -/
theorem sendDataPacket_sealed {m : DataManager} (henabled : m.enabled = true) {packet : Packet}
    (hvalue : Encryptable packet.value) (channel : ChannelBehaviour) (identity : String)
    (meanwhile : DataManager → DataManager) (chance : Chance) :
    ((sendDataPacket lib codecs channel identity (some m) meanwhile chance packet).result = false ∧
      (sendDataPacket lib codecs channel identity (some m) meanwhile chance packet).handed = none) ∨
    ∃ encrypted bytes,
      codecs.packet.serialize { packet with value := .encryptedPacket encrypted } = some bytes ∧
      (sendDataPacket lib codecs channel identity (some m) meanwhile chance packet).handed =
        some bytes ∧
      ∀ (peer : DataManager) (meanwhile' : DataManager → DataManager) (relayed : Bytes),
        PeerReady (meanwhile m) peer (meanwhile' peer) identity →
        codecs.packet.serialize
          { packet with
            participantIdentity := identity, value := .encryptedPacket encrypted } =
            some relayed →
        ∃ target,
          (onDataChannelMessage lib codecs true (some peer) meanwhile' relayed).1 = some target ∧
          target.packet = { packet with participantIdentity := identity } := by
  unfold sendDataPacket
  split
  · exact Or.inl ⟨rfl, rfl⟩
  split
  · exact Or.inl ⟨rfl, rfl⟩
  rcases makeOutbound_of_enabled lib codecs henabled hvalue identity meanwhile chance with
    hnone | ⟨payload, plaintext, encrypted, hmake, hserialize, hencrypt, hsome⟩
  · left
    rcases hresult : makeOutbound lib codecs identity (some m) meanwhile chance packet with
      ⟨outbound, after⟩
    rw [hresult] at hnone
    cases hnone
    exact ⟨rfl, rfl⟩
  · rcases hresult : makeOutbound lib codecs identity (some m) meanwhile chance packet with
      ⟨outbound, after⟩
    rw [hresult] at hsome
    cases hsome
    dsimp only
    split
    · exact Or.inl ⟨rfl, rfl⟩
    · rename_i bytes hbytes
      split
      · exact Or.inl ⟨rfl, rfl⟩
      · refine Or.inr ⟨_, bytes, hbytes, rfl, ?_⟩
        intro peer meanwhile' relayed hpeer hrelayed
        exact onDataChannelMessage_sealed haead hpacket hpayload hpeer hvalue hmake hserialize
          hencrypt rfl rfl hrelayed

end DataPath

/-! ### A runnable instance -/

/-- A user packet with the single byte 42. -/
def userPacket : Packet := { value := .user { payload := [42] } }

def userPayload : EncryptedPacketPayload := .user { payload := [42] }

/-- Its wire form, as the plaintext that is sealed. -/
def userPlaintext : Bytes := [0x0A, 3, 0x12, 1, 42]

def dataManager : DataManager where
  enabled := true
  dataKeyIndex := 0
  keys := sharedKeys
  options := ⟨[], 0⟩
  dataCryptor := ⟨0⟩

def sealedUser : EncryptedPacket where
  encryptionType := .gcm
  iv := [0, 0, 0, 1, 0, 0, 0, 2, 0, 0, 0, 2]
  keyIndex := 0
  encryptedValue := userPlaintext ++ checksumTag (List.replicate 16 9)
    [0, 0, 0, 1, 0, 0, 0, 2, 0, 0, 0, 2] []

/-- The wire form of the encrypted packet: field 18 of a data packet. -/
def sealedUserBytes : Bytes :=
  [0x92, 0x01, 39, 0x08, 1, 0x12, 12] ++ sealedUser.iv ++ [0x22, 21] ++ sealedUser.encryptedValue

def wireCodecs : Codecs where
  packet := .ofTable
    [({ userPacket with value := .encryptedPacket sealedUser }, sealedUserBytes),
     ({ userPacket with participantIdentity := "alice", value := .encryptedPacket sealedUser },
      [0x22, 5, 97, 108, 105, 99, 101] ++ sealedUserBytes)]
  payload := .ofTable [(userPayload, userPlaintext)]

theorem wireCodecs_packet_lawful : wireCodecs.packet.Lawful :=
  Codec.ofTable_lawful (by decide) (by decide)

theorem wireCodecs_payload_lawful : wireCodecs.payload.Lawful :=
  Codec.ofTable_lawful (by decide) (by decide)

/-- Sent by `alice`, relayed by the server, and dispatched by a peer with her key. -/
theorem userPacket_arrives :
    (sendDataPacket runnable wireCodecs ⟨true, true, true, true⟩ "alice" (some dataManager) id
      ⟨1, 1, 2⟩ userPacket).handed = some sealedUserBytes ∧
    ∃ target,
      (onDataChannelMessage runnable wireCodecs true (some dataManager) id
        ([0x22, 5, 97, 108, 105, 99, 101] ++ sealedUserBytes)).1 = some target ∧
      target.packet = { userPacket with participantIdentity := "alice" } := by
  have hsealed := @sendDataPacket_sealed runnable wireCodecs checksumAead_lawful
    wireCodecs_packet_lawful wireCodecs_payload_lawful dataManager rfl userPacket trivial
    ⟨true, true, true, true⟩ "alice" id ⟨1, 1, 2⟩
  have hhanded : (sendDataPacket runnable wireCodecs ⟨true, true, true, true⟩ "alice"
      (some dataManager) id ⟨1, 1, 2⟩ userPacket).handed = some sealedUserBytes := by
    decide +kernel
  refine ⟨hhanded, ?_⟩
  rcases hsealed with ⟨-, hnone⟩ | ⟨encrypted, bytes, hbytes, hsome, harrives⟩
  · rw [hhanded] at hnone
    simp at hnone
  · have heq : encrypted = sealedUser := by
      rw [hhanded] at hsome
      cases hsome
      have hparse : wireCodecs.packet.parse sealedUserBytes =
          some { userPacket with value := .encryptedPacket encrypted } :=
        wireCodecs_packet_lawful.parse_serialize _ _ hbytes
      have hparse' : wireCodecs.packet.parse sealedUserBytes =
          some { userPacket with value := .encryptedPacket sealedUser } := by
        decide +kernel
      have hsame := hparse'.symm.trans hparse
      simp only [Option.some.injEq, Packet.mk.injEq, Value.encryptedPacket.injEq, true_and]
        at hsame
      exact hsame.symm
    subst heq
    exact harrives dataManager id _ ⟨rfl, rfl, by decide, by decide, rfl⟩
      (by decide +kernel)

end LivekitClient.EncryptedDataPath
