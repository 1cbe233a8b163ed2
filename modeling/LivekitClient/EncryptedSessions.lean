/-
  LivekitClient/EncryptedSessions.lean
  ====================================
  **Data packets over a whole encrypted session** (`SendDataPacket` and `OnDataChannelMessage`
  in `src/core/detail/rtc_engine.cpp`, `EncryptData` and `DecryptData` in
  `src/core/e2ee/e2ee_manager.cpp`, `RatchetKey` in `src/core/e2ee/key_provider.cpp`).

  The sender encrypts every packet with the material of its slot and ratchets when it likes;
  the server puts the sender's name on a packet; the network loses, doubles and reorders; the
  receiver restores the packet and follows the ratchets.  What the engine of the receiver
  dispatches are the packets that were sent, but for those that come late or after too many
  ratchets.
-/
import LivekitClient.RatchetedSessions

namespace LivekitClient.EncryptedSessions

open LivekitClient.KeyProvider LivekitClient.FrameCryptor LivekitClient.EncryptedDataPath
open LivekitClient.DataPacket LivekitClient.DataRatchet LivekitClient.RatchetedSessions

/-! ## 1. The session -/

inductive Act where
  | ratchet
  | send (packet : Packet) (channel : ChannelBehaviour) (chance : Chance)

/-- A packet for the receiver: the ratchets before it, what was sent, and the bytes. -/
structure Arrival where
  ratchets : Nat
  packet : Packet
  bytes : Bytes

/-- The server puts the name of the sender on a packet. -/
def relay (codecs : Codecs) (identity : String) (bytes : Bytes) : Option Bytes :=
  (codecs.packet.parse bytes).bind fun packet =>
    codecs.packet.serialize { packet with participantIdentity := identity }

def ratchet (lib : Native) (identity : String) (manager : DataManager) : DataManager :=
  { manager with keys := (manager.keys.ratchetKey lib.kdf identity manager.dataKeyIndex).2 }

/-- What the server relays of a run. -/
def transmit (lib : Native) (codecs : Codecs) (identity : String) :
    DataManager → Nat → List Act → List Arrival
  | _, _, [] => []
  | manager, count, .ratchet :: acts =>
    transmit lib codecs identity (ratchet lib identity manager) (count + 1) acts
  | manager, count, .send packet channel chance :: acts =>
    match sendDataPacket lib codecs channel identity (some manager) id chance packet with
    | ⟨_, handed, after⟩ =>
      (handed.bind (relay codecs identity)).toList.map (Arrival.mk count packet) ++
        transmit lib codecs identity (after.getD manager) count acts

/-- What the receiver dispatches, or nothing where it drops a packet. -/
def receive (lib : Native) (codecs : Codecs) :
    DataManager → List Bytes → List (Option Dispatch)
  | _, [] => []
  | manager, bytes :: rest =>
    match onDataChannelMessage lib codecs true (some manager) id bytes with
    | (target, after) => target :: receive lib codecs (after.getD manager) rest

/-- The packet as the receiver is to get it. -/
def Arrival.named (identity : String) (arrival : Arrival) : Nat × Packet :=
  (arrival.ratchets, { arrival.packet with participantIdentity := identity })

def ratchets : List Act → Nat
  | [] => 0
  | .ratchet :: acts => ratchets acts + 1
  | .send _ _ _ :: acts => ratchets acts

/-- Never do more than `window` ratchets come between two packets. -/
def KeepsUp (window : Nat) : Nat → List Arrival → Prop
  | _, [] => True
  | current, arrival :: arrivals =>
    arrival.ratchets ≤ current + window ∧ KeepsUp window arrival.ratchets arrivals

instance decidableKeepsUp (window : Nat) : (current : Nat) → (arrivals : List Arrival) →
    Decidable (KeepsUp window current arrivals)
  | _, [] => inferInstanceAs (Decidable True)
  | current, arrival :: arrivals =>
    @instDecidableAnd _ _ (inferInstanceAs (Decidable (arrival.ratchets ≤ current + window)))
      (decidableKeepsUp window arrival.ratchets arrivals)

/-! ## 2. A manager with a key -/

/-- Encryption is on, and the slot of the data key holds the material. -/
structure Ready (lib : Native) (identity : String) (keyIndex : Nat) (material : Bytes)
    (manager : DataManager) : Prop where
  enabled : manager.enabled = true
  index_lt : keyIndex < manager.keys.keyRingSize
  slot : SlotHolds lib.kdf manager.keys identity keyIndex material

section Sending

variable {lib : Native} {codecs : Codecs} {identity : String} {material : Bytes}
  {manager : DataManager}

theorem Ready.ratchet (h : Ready lib identity manager.dataKeyIndex material manager)
    (hidentity : identity ≠ "") (hratchets : lib.kdf.ratchetKeyMaterial material ≠ []) :
    Ready lib identity (ratchet lib identity manager).dataKeyIndex
      (lib.kdf.ratchetKeyMaterial material) (ratchet lib identity manager) := by
  obtain ⟨hholds, hsize⟩ := slotHolds_ratchetKey hidentity h.index_lt h.slot hratchets
  exact ⟨h.enabled, by simp only [EncryptedSessions.ratchet, hsize]; exact h.index_lt, hholds⟩

/-- `EncryptData` looks at the slot, and no more. -/
theorem encryptData_snd (plaintext : Bytes) (chance : Chance)
    (h : Ready lib identity manager.dataKeyIndex material manager) :
    Ready lib identity manager.dataKeyIndex material
        (manager.encryptData lib identity plaintext chance).2 ∧
      (manager.encryptData lib identity plaintext chance).2.dataKeyIndex =
        manager.dataKeyIndex := by
  have hkeys : (manager.dataCryptor.encrypt lib manager.keys identity manager.dataKeyIndex
      plaintext chance).2.2 = (manager.keys.getSharedKey identity).2 := by
    simp only [DataPacketCryptor.encrypt]
    split
    · rfl
    · split <;> rfl
  simp only [DataManager.encryptData, h.enabled, Bool.not_true, Bool.false_eq_true, if_false]
  refine ⟨⟨rfl, ?_, ?_⟩, trivial⟩
  · simpa only [hkeys, getSharedKey_keyRingSize] using h.index_lt
  · simpa only [hkeys] using h.slot.getSharedKey

/-- `SendDataPacket` leaves the key where it is. -/
theorem Ready.sendDataPacket (h : Ready lib identity manager.dataKeyIndex material manager)
    (channel : ChannelBehaviour) (chance : Chance) (packet : Packet) :
    ∃ after, (sendDataPacket lib codecs channel identity (some manager) id chance
        packet).manager = some after ∧
      Ready lib identity after.dataKeyIndex material after ∧
      after.dataKeyIndex = manager.dataKeyIndex := by
  have houtbound : ∃ after, (makeOutbound lib codecs identity (some manager) id chance
        packet).2 = some after ∧
      Ready lib identity after.dataKeyIndex material after ∧
      after.dataKeyIndex = manager.dataKeyIndex := by
    simp only [makeOutbound, h.enabled, Bool.not_true, Bool.false_eq_true, if_false]
    split
    · exact ⟨manager, rfl, h, rfl⟩
    · split
      · exact ⟨manager, rfl, h, rfl⟩
      · rename_i plaintext _
        obtain ⟨hready, hindex⟩ := encryptData_snd plaintext chance h
        have hafter : Ready lib identity
            (manager.encryptData lib identity plaintext chance).2.dataKeyIndex material
            (manager.encryptData lib identity plaintext chance).2 := by
          simpa only [hindex] using hready
        simp only [id]
        split
        · rename_i after hencrypt
          simp only [hencrypt] at hafter hindex
          exact ⟨after, rfl, hafter, hindex⟩
        · rename_i after hencrypt
          simp only [hencrypt] at hafter hindex
          exact ⟨after, rfl, hafter, hindex⟩
  obtain ⟨after, hafter, hready⟩ := houtbound
  simp only [EncryptedDataPath.sendDataPacket]
  split
  · exact ⟨manager, rfl, h, rfl⟩
  · split
    · exact ⟨manager, rfl, h, rfl⟩
    · split
      · rename_i hmake
        simp only [hmake] at hafter
        exact ⟨after, hafter, hready⟩
      · rename_i hmake
        simp only [hmake] at hafter
        split
        · exact ⟨after, hafter, hready⟩
        · split <;> exact ⟨after, hafter, hready⟩

/-- What `SendDataPacket` hands over is the packet, sealed with the material. -/
theorem handed_sealed (h : Ready lib identity manager.dataKeyIndex material manager)
    (hbyte : manager.dataKeyIndex < 256) {packet : Packet} (hvalue : Encryptable packet.value)
    {channel : ChannelBehaviour} {chance : Chance} {bytes : Bytes}
    (hhanded : (sendDataPacket lib codecs channel identity (some manager) id chance
      packet).handed = some bytes) :
    ∃ payload plaintext, ∃ encrypted : EncryptedData,
      makeEncryptablePayload packet = some payload ∧
      codecs.payload.serialize payload = some plaintext ∧
      codecs.packet.serialize { packet with value := .encryptedPacket encrypted.packet } =
        some bytes ∧
      encrypted.keyIndex = manager.dataKeyIndex ∧
      SealedWith lib.aead (lib.kdf.deriveKey material) plaintext
        ⟨encrypted.payload, encrypted.iv, encrypted.keyIndex.toUInt8⟩ := by
  rcases makeOutbound_of_enabled lib codecs h.enabled hvalue identity id chance with
    hnone | ⟨payload, plaintext, encrypted, hmake, hserialize, hencrypt, hsome⟩
  · simp only [EncryptedDataPath.sendDataPacket] at hhanded
    split at hhanded
    · cases hhanded
    · split at hhanded
      · cases hhanded
      · split at hhanded
        · cases hhanded
        · rename_i houtbound
          simp only [houtbound] at hnone
          cases hnone
  · refine ⟨payload, plaintext, encrypted, hmake, hserialize, ?_, ?_⟩
    · simp only [EncryptedDataPath.sendDataPacket] at hhanded
      split at hhanded
      · cases hhanded
      · split at hhanded
        · cases hhanded
        · split at hhanded
          · cases hhanded
          · rename_i outbound after houtbound
            simp only [houtbound, Option.some.injEq] at hsome
            subst hsome
            split at hhanded
            · cases hhanded
            · rename_i serialized hserialized
              split at hhanded
              · cases hhanded
              · obtain rfl := Option.some.inj hhanded
                exact hserialized
    · obtain ⟨keySet, hkey, hseal, hiv, hindex⟩ := encryptData_eq_some hencrypt
      obtain ⟨handler, hhandler, hcarries⟩ := h.slot
      have hkeySet : manager.keySet identity manager.dataKeyIndex =
          some ⟨material, lib.kdf.deriveKey material⟩ := by
        simp only [DataManager.keySet, hhandler, heap_getSharedKey]
        exact hcarries
      obtain rfl := Option.some.inj (hkeySet.symm.trans hkey)
      exact ⟨hindex.trans (Nat.mod_eq_of_lt hbyte), hiv, hseal⟩

end Sending

/-! ## 3. The receiver -/

section Receiving

variable {lib : Native} {codecs : Codecs} {identity : String} {material : Bytes} {n : Nat}
  {keyIndex : Nat} {peer : DataManager}

/-- An arrival whose bytes are its packet, sealed with the material of its number. -/
def Sealed (lib : Native) (codecs : Codecs) (identity : String) (keyIndex : Nat)
    (material : Bytes) (arrival : Arrival) : Prop :=
  Encryptable arrival.packet.value ∧
    ∃ payload plaintext, ∃ encrypted : EncryptedData,
      makeEncryptablePayload arrival.packet = some payload ∧
      codecs.payload.serialize payload = some plaintext ∧
      codecs.packet.serialize
        { arrival.packet with
          participantIdentity := identity, value := .encryptedPacket encrypted.packet } =
        some arrival.bytes ∧
      encrypted.keyIndex = keyIndex ∧
      SealedWith lib.aead (lib.kdf.deriveKey (ratcheted lib.kdf material arrival.ratchets))
        plaintext ⟨encrypted.payload, encrypted.iv, encrypted.keyIndex.toUInt8⟩

theorem openWithRatchet_keyRingSize (options : CryptoOptions) (provider : NativeKeyProvider)
    (keySet : KeySet) (keyIndex : Nat) (decrypt : Bytes → Option Bytes) :
    (openWithRatchet lib options provider identity keySet keyIndex decrypt).2.keyRingSize =
      provider.keyRingSize := by
  have hset : ∀ material, (provider.setKeyFromMaterial lib.kdf identity material
      keyIndex).keyRingSize = provider.keyRingSize := by
    intro material
    unfold NativeKeyProvider.setKeyFromMaterial
    repeat' split
    all_goals rfl
  have hvalid : ∀ other : NativeKeyProvider,
      (setHasValidKey other identity).keyRingSize = other.keyRingSize := by
    intro other
    unfold setHasValidKey modifyHandler
    repeat' split
    all_goals rfl
  unfold openWithRatchet
  split
  · rfl
  · split
    · exact (hvalid _).trans (hset _)
    · split
      · exact hset _
      · rfl

theorem decrypt_keyRingSize (options : CryptoOptions) (provider : NativeKeyProvider)
    (packet : SealedData) :
    (DataPacketCryptor.decrypt lib options provider identity packet).2.keyRingSize =
      provider.keyRingSize := by
  have hshared := getSharedKey_keyRingSize provider identity
  unfold DataPacketCryptor.decrypt
  split
  · rfl
  · dsimp only
    split
    · exact hshared
    · rename_i keySet _
      have hopen := @openWithRatchet_keyRingSize lib identity options
        (provider.getSharedKey identity).2 keySet packet.keyIndex.toNat
        fun key => lib.aead.decrypt key packet.iv [] packet.data
      split
      all_goals
        rename_i hresult
        simp only [hresult] at hopen
        exact hopen.trans hshared

/-- A manager with encryption on hands the data to the cryptor. -/
theorem Ready.decryptData (h : Ready lib identity keyIndex material peer)
    {encrypted : EncryptedData} (hindex : encrypted.keyIndex = keyIndex) :
    peer.decryptData lib identity encrypted =
      ((DataPacketCryptor.decrypt lib peer.options peer.keys identity
          ⟨encrypted.payload, encrypted.iv, encrypted.keyIndex.toUInt8⟩).1,
        { peer with
          keys := (DataPacketCryptor.decrypt lib peer.options peer.keys identity
            ⟨encrypted.payload, encrypted.iv, encrypted.keyIndex.toUInt8⟩).2 }) := by
  have hring : ¬ peer.keys.keyRingSize ≤ encrypted.keyIndex := by
    have := h.index_lt
    omega
  simp only [DataManager.decryptData, h.enabled, hring, decide_false, Bool.not_true,
    Bool.or_self, Bool.false_eq_true, if_false]

section Message

variable {relayed : Packet} {encrypted : EncryptedData} {bytes : Bytes} {after : DataManager}
  (henabled : peer.enabled = true) (hpacket : codecs.packet.Lawful)
  (hrelayed : relayed.value = .encryptedPacket encrypted.packet)
  (hbytes : codecs.packet.serialize relayed = some bytes) (hbyte : encrypted.keyIndex < 256)

include henabled hpacket hrelayed hbytes hbyte

/-- What is not opened is not dispatched. -/
theorem onDataChannelMessage_of_closed
    (hdecrypt : peer.decryptData lib relayed.participantIdentity encrypted = (none, after)) :
    onDataChannelMessage lib codecs true (some peer) id bytes = (none, some after) := by
  have hround : encrypted.packet.keyIndex.toNat = encrypted.keyIndex := toNat_toUInt32_of_lt hbyte
  have hsize : ¬ intMax < bytes.length := Nat.not_lt.2 (hpacket.length_le _ _ hbytes)
  have htype : encrypted.packet.encryptionType = .gcm := rfl
  have hopen : openPacket lib codecs (some peer) id relayed encrypted.packet =
      (none, some after) := by
    have hsame : peer.decryptData lib relayed.participantIdentity
        ⟨encrypted.packet.encryptedValue, encrypted.packet.iv,
          encrypted.packet.keyIndex.toNat⟩ = (none, after) := by
      simp only [hround]
      exact hdecrypt
    simp [openPacket, henabled, htype, hsame]
  simp [onDataChannelMessage, hsize, hpacket.parse_serialize _ _ hbytes, hrelayed, hopen]

/-- What is opened gets its value back. -/
theorem onDataChannelMessage_of_open (hpayload : codecs.payload.Lawful) {value : Value}
    {payload : EncryptedPacketPayload} {plaintext : Bytes}
    (hserialize : codecs.payload.serialize payload = some plaintext)
    (hrestore : restoreEncryptedPayload payload relayed = some { relayed with value := value })
    (hdecrypt : peer.decryptData lib relayed.participantIdentity encrypted =
      (some plaintext, after)) :
    onDataChannelMessage lib codecs true (some peer) id bytes =
      (dispatch true { relayed with value := value }, some after) := by
  have hround : encrypted.packet.keyIndex.toNat = encrypted.keyIndex := toNat_toUInt32_of_lt hbyte
  have hsize : ¬ intMax < bytes.length := Nat.not_lt.2 (hpacket.length_le _ _ hbytes)
  have hshort : ¬ intMax < plaintext.length :=
    Nat.not_lt.2 (hpayload.length_le _ _ hserialize)
  have htype : encrypted.packet.encryptionType = .gcm := rfl
  have hopen : openPacket lib codecs (some peer) id relayed encrypted.packet =
      (some { relayed with value := value }, some after) := by
    have hsame : peer.decryptData lib relayed.participantIdentity
        ⟨encrypted.packet.encryptedValue, encrypted.packet.iv,
          encrypted.packet.keyIndex.toNat⟩ = (some plaintext, after) := by
      simp only [hround]
      exact hdecrypt
    simp [openPacket, henabled, htype, hsame, hshort,
      hpayload.parse_serialize _ _ hserialize, hrestore]
  simp [onDataChannelMessage, hsize, hpacket.parse_serialize _ _ hbytes, hrelayed, hopen]

end Message

/-- One message moves the receiver as it moves the counter. -/
theorem onDataChannelMessage_follows (haead : lib.aead.Lawful)
    (hpacket : codecs.packet.Lawful) (hpayload : codecs.payload.Lawful)
    (hapart : KeysApart lib material n) (hbyte : keyIndex < 256) {current : Nat}
    (hready : Ready lib identity keyIndex (ratcheted lib.kdf material current) peer)
    {arrival : Arrival} (hsealed : Sealed lib codecs identity keyIndex material arrival)
    (hcurrent : current + peer.options.ratchetWindowSize ≤ n)
    (hratchets : arrival.ratchets + peer.options.ratchetWindowSize ≤ n) :
    ∃ after, after.options = peer.options ∧
      if current ≤ arrival.ratchets ∧
          arrival.ratchets ≤ current + peer.options.ratchetWindowSize then
        onDataChannelMessage lib codecs true (some peer) id arrival.bytes =
            (dispatch true (arrival.named identity).2, some after) ∧
          Ready lib identity keyIndex (ratcheted lib.kdf material arrival.ratchets) after
      else
        onDataChannelMessage lib codecs true (some peer) id arrival.bytes = (none, some after) ∧
          Ready lib identity keyIndex (ratcheted lib.kdf material current) after := by
  obtain ⟨hvalue, payload, plaintext, encrypted, hmake, hserialize, hbytes, rfl, hwith⟩ :=
    hsealed
  have hindex : encrypted.keyIndex.toUInt8.toNat = encrypted.keyIndex := toNat_toUInt8_of_lt hbyte
  have hfollows := decrypt_follows haead hapart hready.slot ⟨hindex, hwith⟩ hcurrent hratchets
  have hdecrypt := @Ready.decryptData lib identity _ encrypted.keyIndex peer hready encrypted rfl
  have hring := @decrypt_keyRingSize lib identity peer.options peer.keys
    ⟨encrypted.payload, encrypted.iv, encrypted.keyIndex.toUInt8⟩
  cases hresult : DataPacketCryptor.decrypt lib peer.options peer.keys identity
      ⟨encrypted.payload, encrypted.iv, encrypted.keyIndex.toUInt8⟩ with
  | mk opened keys =>
    simp only [hresult] at hfollows hdecrypt hring
    have hready' : ∀ material', SlotHolds lib.kdf keys identity encrypted.keyIndex material' →
        Ready lib identity encrypted.keyIndex material' { peer with keys := keys } := by
      intro material' hholds
      exact ⟨hready.enabled, Nat.lt_of_lt_of_eq hready.index_lt hring.symm, hholds⟩
    split at hfollows
    · rename_i hnear
      obtain ⟨rfl, hholds⟩ := hfollows
      obtain ⟨made, hmade, hrestore⟩ := restoreEncryptedPayload_makeEncryptablePayload hvalue
      obtain rfl := Option.some.inj (hmake.symm.trans hmade)
      have hdispatched := onDataChannelMessage_of_open hready.enabled hpacket rfl hbytes hbyte
        hpayload hserialize (hrestore _) hdecrypt
      refine ⟨{ peer with keys := keys }, rfl, ?_⟩
      simp only [if_pos hnear]
      exact ⟨hdispatched, hready' _ hholds⟩
    · rename_i hfar
      obtain ⟨rfl, hholds⟩ := hfollows
      have hdropped := onDataChannelMessage_of_closed hready.enabled hpacket rfl hbytes hbyte
        hdecrypt
      refine ⟨{ peer with keys := keys }, rfl, ?_⟩
      simp only [if_neg hfar]
      exact ⟨hdropped, hready' _ hholds⟩

theorem receive_eq_follow (haead : lib.aead.Lawful)
    (hpacket : codecs.packet.Lawful) (hpayload : codecs.payload.Lawful)
    (hapart : KeysApart lib material n) (hbyte : keyIndex < 256) {window : Nat}
    {arrivals : List Arrival}
    (hsealed : ∀ arrival ∈ arrivals, Sealed lib codecs identity keyIndex material arrival)
    (hratchets : ∀ arrival ∈ arrivals, arrival.ratchets + window ≤ n) {current : Nat}
    (hwindow : peer.options.ratchetWindowSize = window)
    (hready : Ready lib identity keyIndex (ratcheted lib.kdf material current) peer)
    (hcurrent : current + window ≤ n) :
    receive lib codecs peer (arrivals.map Arrival.bytes) =
      (follow window current (arrivals.map (Arrival.named identity))).1.map
        fun opened => opened.bind (dispatch true) := by
  induction arrivals generalizing peer current with
  | nil => rfl
  | cons arrival arrivals ih =>
    subst hwindow
    obtain ⟨hfirst, hlater⟩ := List.forall_mem_cons.1 hsealed
    obtain ⟨hstep, hsteps⟩ := List.forall_mem_cons.1 hratchets
    obtain ⟨after, hoptions, hmoves⟩ := onDataChannelMessage_follows haead hpacket hpayload
      hapart hbyte hready hfirst hcurrent hstep
    have hsame : after.options.ratchetWindowSize = peer.options.ratchetWindowSize :=
      congrArg CryptoOptions.ratchetWindowSize hoptions
    split at hmoves
    · rename_i hnear
      obtain ⟨hmessage, hafter⟩ := hmoves
      have hrest := ih hlater hsteps hsame hafter hstep
      have hfollow : (follow peer.options.ratchetWindowSize current
          (arrival.named identity :: arrivals.map (Arrival.named identity))).1 =
            some (arrival.named identity).2 :: (follow peer.options.ratchetWindowSize
              arrival.ratchets (arrivals.map (Arrival.named identity))).1 := follow_of_near hnear
      simp only [List.map_cons, hfollow, receive, hmessage, Option.getD_some, hrest,
        Option.bind_some]
    · rename_i hfar
      obtain ⟨hmessage, hafter⟩ := hmoves
      have hrest := ih hlater hsteps hsame hafter hcurrent
      have hfollow : (follow peer.options.ratchetWindowSize current
          (arrival.named identity :: arrivals.map (Arrival.named identity))).1 =
            none :: (follow peer.options.ratchetWindowSize current
              (arrivals.map (Arrival.named identity))).1 := follow_of_far hfar
      simp only [List.map_cons, hfollow, receive, hmessage, Option.getD_some, hrest,
        Option.bind_none]

end Receiving

/-! ## 4. What arrives -/

section Arriving

variable {lib : Native} {codecs : Codecs} {identity : String} {material : Bytes}
  {keyIndex : Nat} {manager : DataManager}

/-- The server changes the name, and no more. -/
theorem relay_sealed (hpacket : codecs.packet.Lawful) {packet : Packet} {bytes relayed : Bytes}
    (hbytes : codecs.packet.serialize packet = some bytes)
    (hrelay : relay codecs identity bytes = some relayed) :
    codecs.packet.serialize { packet with participantIdentity := identity } = some relayed := by
  simpa only [relay, hpacket.parse_serialize _ _ hbytes, Option.bind_some] using hrelay

/-- What arrives of one call. -/
theorem sealed_of_send (hpacket : codecs.packet.Lawful)
    (hbyte : manager.dataKeyIndex < 256) {count : Nat}
    (hready : Ready lib identity manager.dataKeyIndex (ratcheted lib.kdf material count) manager)
    {packet : Packet} (hvalue : Encryptable packet.value) {channel : ChannelBehaviour}
    {chance : Chance} {arrival : Arrival}
    (hmem : arrival ∈ ((sendDataPacket lib codecs channel identity (some manager) id chance
      packet).handed.bind (relay codecs identity)).toList.map (Arrival.mk count packet)) :
    Sealed lib codecs identity manager.dataKeyIndex material arrival ∧
      arrival.ratchets = count := by
  obtain ⟨relayed, hrelayed, rfl⟩ := List.mem_map.1 hmem
  obtain ⟨bytes, hhanded, hrelay⟩ := Option.bind_eq_some_iff.1 (Option.mem_toList.1 hrelayed)
  obtain ⟨payload, plaintext, encrypted, hmake, hserialize, hbytes, hindex, hwith⟩ :=
    handed_sealed hready hbyte hvalue hhanded
  exact ⟨⟨hvalue, payload, plaintext, encrypted, hmake, hserialize,
    relay_sealed hpacket hbytes hrelay, hindex, hwith⟩, rfl⟩

/-- All that arrives is sealed as its number says, and the numbers do not go back. -/
theorem sealed_of_transmit (hpacket : codecs.packet.Lawful) (hidentity : identity ≠ "")
    (hbyte : keyIndex < 256) {acts : List Act} {count : Nat}
    (hvalues : ∀ packet channel chance,
      Act.send packet channel chance ∈ acts → Encryptable packet.value)
    (hratchets : ∀ i, 0 < i → i ≤ count + ratchets acts → ratcheted lib.kdf material i ≠ [])
    (hindex : manager.dataKeyIndex = keyIndex)
    (hready : Ready lib identity keyIndex (ratcheted lib.kdf material count) manager) :
    (∀ arrival ∈ transmit lib codecs identity manager count acts,
      Sealed lib codecs identity keyIndex material arrival ∧ count ≤ arrival.ratchets ∧
        arrival.ratchets ≤ count + ratchets acts) ∧
      (transmit lib codecs identity manager count acts).Pairwise
        fun arrival later => arrival.ratchets ≤ later.ratchets := by
  induction acts generalizing manager count with
  | nil => simp [transmit]
  | cons act acts ih =>
    have hlater : ∀ packet channel chance,
        Act.send packet channel chance ∈ acts → Encryptable packet.value :=
      fun packet channel chance hmem =>
        hvalues packet channel chance (List.mem_cons_of_mem _ hmem)
    cases act with
    | ratchet =>
      subst hindex
      have hnext : lib.kdf.ratchetKeyMaterial (ratcheted lib.kdf material count) =
          ratcheted lib.kdf material (count + 1) :=
        (Function.iterate_succ_apply' lib.kdf.ratchetKeyMaterial count material).symm
      have hmaterial := hratchets (count + 1) (Nat.succ_pos count)
        (by simp only [ratchets]; omega)
      have hratcheted := hready.ratchet hidentity (by simpa only [hnext] using hmaterial)
      simp only [hnext] at hratcheted
      have hmore : ∀ i, 0 < i → i ≤ count + 1 + ratchets acts →
          ratcheted lib.kdf material i ≠ [] :=
        fun i hpos hi => hratchets i hpos (by simp only [ratchets]; omega)
      obtain ⟨hall, hsorted⟩ :=
        @ih (ratchet lib identity manager) (count + 1) hlater hmore rfl hratcheted
      refine ⟨?_, hsorted⟩
      intro arrival hmem
      obtain ⟨hsealed, hle, hbound⟩ := hall arrival hmem
      exact ⟨hsealed, by omega, by simp only [ratchets]; omega⟩
    | send packet channel chance =>
      subst hindex
      have hvalue := hvalues packet channel chance List.mem_cons_self
      obtain ⟨after, hafter, hready', hindex⟩ :=
        @Ready.sendDataPacket lib codecs _ _ _ hready channel chance packet
      obtain ⟨hall, hsorted⟩ := ih hlater hratchets hindex
        (by simpa only [hindex] using hready')
      have hfirst : ∀ arrival ∈ ((sendDataPacket lib codecs channel identity (some manager) id
          chance packet).handed.bind (relay codecs identity)).toList.map
            (Arrival.mk count packet),
          Sealed lib codecs identity manager.dataKeyIndex material arrival ∧
            arrival.ratchets = count :=
        fun arrival hmem => sealed_of_send hpacket hbyte hready hvalue hmem
      have hone : (((sendDataPacket lib codecs channel identity (some manager) id
          chance packet).handed.bind (relay codecs identity)).toList.map
            (Arrival.mk count packet)).Pairwise
          fun arrival later => arrival.ratchets ≤ later.ratchets := by
        apply List.pairwise_of_forall_mem_list
        intro arrival hmem later hmem'
        exact Nat.le_of_eq ((hfirst arrival hmem).2.trans (hfirst later hmem').2.symm)
      simp only [transmit, hafter, Option.getD_some]
      constructor
      · intro arrival hmem
        rcases List.mem_append.1 hmem with hmem | hmem
        · obtain ⟨hsealed, hcount⟩ := hfirst arrival hmem
          exact ⟨hsealed, Nat.le_of_eq hcount.symm, by omega⟩
        · exact hall arrival hmem
      · refine List.pairwise_append.2 ⟨hone, hsorted, ?_⟩
        intro arrival hmem later hmem'
        exact Nat.le_trans (Nat.le_of_eq (hfirst arrival hmem).2) (hall later hmem').2.1

end Arriving

theorem follow_of_keepsUp {window current : Nat} (identity : String) {arrivals : List Arrival}
    (hle : ∀ arrival ∈ arrivals, current ≤ arrival.ratchets)
    (hsorted : arrivals.Pairwise fun arrival later => arrival.ratchets ≤ later.ratchets)
    (hkeeps : KeepsUp window current arrivals) :
    (follow window current (arrivals.map (Arrival.named identity))).1 =
      arrivals.map fun arrival => some (arrival.named identity).2 := by
  induction arrivals generalizing current with
  | nil => rfl
  | cons arrival arrivals ih =>
    obtain ⟨hfirst, hrest⟩ := List.pairwise_cons.1 hsorted
    obtain ⟨hnear, hlater⟩ := hkeeps
    simp only [List.map_cons, ← ih hfirst hrest hlater]
    exact follow_of_near ⟨hle arrival List.mem_cons_self, hnear⟩

theorem none_mem_follow {window current : Nat} (identity : String) {arrivals : List Arrival}
    (hle : ∀ arrival ∈ arrivals, current ≤ arrival.ratchets)
    (hsorted : arrivals.Pairwise fun arrival later => arrival.ratchets ≤ later.ratchets)
    (hgap : ¬ KeepsUp window current arrivals) :
    none ∈ (follow window current (arrivals.map (Arrival.named identity))).1 := by
  induction arrivals generalizing current with
  | nil => exact absurd trivial hgap
  | cons arrival arrivals ih =>
    obtain ⟨hfirst, hrest⟩ := List.pairwise_cons.1 hsorted
    simp only [List.map_cons, Arrival.named]
    by_cases hnear : arrival.ratchets ≤ current + window
    · simp only [follow_of_near ⟨hle arrival List.mem_cons_self, hnear⟩]
      exact List.mem_cons_of_mem _ (ih hfirst hrest fun hlater => hgap ⟨hnear, hlater⟩)
    · have hfar : ¬ (current ≤ arrival.ratchets ∧ arrival.ratchets ≤ current + window) :=
        fun hboth => hnear hboth.2
      simp only [follow_of_far hfar]
      exact List.mem_cons_self

/-! ## 5. A session -/

/-- A sender and a receiver with the same first key, and libraries that do their work. -/
structure Connected (lib : Native) (codecs : Codecs) (identity : String) (material : Bytes)
    (acts : List Act) (sender receiver : DataManager) : Prop where
  aead : lib.aead.Lawful
  packet : codecs.packet.Lawful
  payload : codecs.payload.Lawful
  identity_ne : identity ≠ ""
  index_lt : sender.dataKeyIndex < 256
  sends : Ready lib identity sender.dataKeyIndex material sender
  receives : Ready lib identity sender.dataKeyIndex material receiver
  values : ∀ packet channel chance,
    Act.send packet channel chance ∈ acts → Encryptable packet.value
  apart : KeysApart lib material (ratchets acts + receiver.options.ratchetWindowSize)

section Connected

variable {lib : Native} {codecs : Codecs} {identity : String} {material : Bytes}
  {acts : List Act} {sender receiver : DataManager} {delivered : List Arrival}

theorem Connected.sealed (h : Connected lib codecs identity material acts sender receiver) :
    (∀ arrival ∈ transmit lib codecs identity sender 0 acts,
      Sealed lib codecs identity sender.dataKeyIndex material arrival ∧ 0 ≤ arrival.ratchets ∧
        arrival.ratchets ≤ 0 + ratchets acts) ∧
      (transmit lib codecs identity sender 0 acts).Pairwise
        fun arrival later => arrival.ratchets ≤ later.ratchets := by
  have hratchets : ∀ i, 0 < i → i ≤ 0 + ratchets acts → ratcheted lib.kdf material i ≠ [] :=
    fun i hpos hi => h.apart.ratchets i hpos (by omega)
  exact sealed_of_transmit h.packet h.identity_ne h.index_lt h.values hratchets rfl h.sends

/-- What is delivered is dispatched where the counter opens it. -/
theorem Connected.receive (h : Connected lib codecs identity material acts sender receiver)
    (hdelivered : delivered ⊆ transmit lib codecs identity sender 0 acts) :
    EncryptedSessions.receive lib codecs receiver (delivered.map Arrival.bytes) =
      (follow receiver.options.ratchetWindowSize 0
        (delivered.map (Arrival.named identity))).1.map
          fun opened => opened.bind (dispatch true) := by
  have hstart : Ready lib identity sender.dataKeyIndex (ratcheted lib.kdf material 0)
      receiver := h.receives
  refine receive_eq_follow h.aead h.packet h.payload h.apart h.index_lt
    (fun arrival hmem => (h.sealed.1 arrival (hdelivered hmem)).1) ?_ rfl hstart (by omega)
  intro arrival hmem
  have := (h.sealed.1 arrival (hdelivered hmem)).2.2
  omega

/-- Where it keeps up, the receiver dispatches all that is delivered. -/
theorem Connected.receive_of_keepsUp
    (h : Connected lib codecs identity material acts sender receiver)
    (hdelivered : delivered.Sublist (transmit lib codecs identity sender 0 acts))
    (hkeeps : KeepsUp receiver.options.ratchetWindowSize 0 delivered) :
    EncryptedSessions.receive lib codecs receiver (delivered.map Arrival.bytes) =
      delivered.map fun arrival => dispatch true (arrival.named identity).2 := by
  have hfollow := follow_of_keepsUp identity (fun _ _ => Nat.zero_le _)
    (h.sealed.2.sublist hdelivered) hkeeps
  simp only [h.receive hdelivered.subset, hfollow, List.map_map, Function.comp_def,
    Option.bind_some]

end Connected

/-- **A whole encrypted session.**  Whatever packets of the encryptable kinds the sender sends
    and however often it ratchets, nothing that is relayed is in clear.  Of what is delivered,
    lost, doubled and out of order, the engine of the receiver dispatches the packets that were
    sent, under the name of the sender, as a counter opens them that goes on to the number of
    each packet; in order, it dispatches everything exactly if no more ratchets than the window
    come in between. -/
theorem session_dispatches (lib : Native) (codecs : Codecs) (identity : String)
    (material : Bytes) (acts : List Act) (sender receiver : DataManager)
    (h : Connected lib codecs identity material acts sender receiver) :
    (∀ arrival ∈ transmit lib codecs identity sender 0 acts,
      ∃ encrypted, codecs.packet.parse arrival.bytes = some { arrival.packet with
        participantIdentity := identity, value := .encryptedPacket encrypted }) ∧
    ∀ delivered, delivered ⊆ transmit lib codecs identity sender 0 acts →
      receive lib codecs receiver (delivered.map Arrival.bytes) =
        (follow receiver.options.ratchetWindowSize 0
          (delivered.map (Arrival.named identity))).1.map
            (fun opened => opened.bind (dispatch true)) ∧
      (delivered.Sublist (transmit lib codecs identity sender 0 acts) →
        (none ∉ receive lib codecs receiver (delivered.map Arrival.bytes) ↔
          KeepsUp receiver.options.ratchetWindowSize 0 delivered)) := by
  constructor
  · intro arrival hmem
    obtain ⟨-, payload, plaintext, encrypted, -, -, hbytes, -⟩ := (h.sealed.1 arrival hmem).1
    exact ⟨encrypted.packet, h.packet.parse_serialize _ _ hbytes⟩
  · intro delivered hdelivered
    refine ⟨h.receive hdelivered, ?_⟩
    intro hsublist
    constructor
    · intro hnone
      by_contra hgap
      have hmem := none_mem_follow identity (fun _ _ => Nat.zero_le _)
        (h.sealed.2.sublist hsublist) hgap
      apply hnone
      simp only [h.receive hdelivered]
      exact List.mem_map.2 ⟨none, hmem, rfl⟩
    · intro hkeeps hnone
      simp only [h.receive_of_keepsUp hsublist hkeeps, List.mem_map] at hnone
      obtain ⟨arrival, hmem, hdropped⟩ := hnone
      obtain ⟨target, hdispatched, -⟩ := @dispatch_of_encryptable (arrival.named identity).2
        (h.sealed.1 arrival (hdelivered hmem)).1.1
      exact Option.some_ne_none target (hdispatched.symm.trans hdropped)

/-- A plaintext, sealed after `m` ratchets. -/
def sealedAfter (plaintext : Bytes) (m : Nat) (iv : Bytes) : EncryptedPacket where
  encryptionType := .gcm
  iv := iv
  keyIndex := 0
  encryptedValue := plaintext ++ keyedTag (ratcheted rotatingDerivation firstMaterial m) iv []

/-- A field with a length of one byte. -/
def field (tag : UInt8) (data : Bytes) : Bytes := tag :: data.length.toUInt8 :: data

/-- Field 18 of a data packet. -/
def wireOf (encrypted : EncryptedPacket) : Bytes :=
  0x92 :: field 0x01 ([0x08, 1] ++ field 0x12 encrypted.iv ++ field 0x22 encrypted.encryptedValue)

/-- The wire forms of what is sealed, from the sender and with her name. -/
def tableCodecs (payloads : List (EncryptedPacketPayload × Bytes))
    (packets : List EncryptedPacket) : Codecs where
  packet := .ofTable
    ((packets.map fun encrypted => ({ value := .encryptedPacket encrypted }, wireOf encrypted)) ++
      packets.map fun encrypted =>
        ({ participantIdentity := "alice", value := .encryptedPacket encrypted },
          field 0x22 [97, 108, 105, 99, 101] ++ wireOf encrypted))
  payload := .ofTable payloads

def sessionCodecs : Codecs :=
  tableCodecs [(userPayload, userPlaintext)]
    [sealedAfter userPlaintext 0 [0, 0, 0, 1, 0, 0, 0, 2, 0, 0, 0, 2],
      sealedAfter userPlaintext 2 [0, 0, 0, 1, 0, 0, 0, 2, 0, 0, 0, 1]]

/-- The second packet comes after two ratchets: past a window of one. -/
def twoRatchets : List Act :=
  [.send userPacket ⟨true, true, true, true⟩ ⟨1, 1, 2⟩, .ratchet, .ratchet,
    .send userPacket ⟨true, true, true, true⟩ ⟨1, 1, 2⟩]

theorem session_dispatches_twoRatchets :
    receive keyedNative sessionCodecs { dataManager with options := ⟨[], 1⟩ }
        ((transmit keyedNative sessionCodecs "alice" dataManager 0 twoRatchets).map
          Arrival.bytes) =
      [some (.listener { userPacket with participantIdentity := "alice" }), none] := by
  have hvalues : ∀ packet channel chance,
      Act.send packet channel chance ∈ twoRatchets → Encryptable packet.value := by
    intro packet channel chance hmem
    obtain rfl : packet = userPacket := by
      simp only [twoRatchets, List.mem_cons, Act.send.injEq, reduceCtorEq, List.not_mem_nil,
        or_false, false_or] at hmem
      rcases hmem with ⟨hpacket, -⟩ | ⟨hpacket, -⟩
      · exact hpacket
      · exact hpacket
    exact trivial
  have hconnected : Connected keyedNative sessionCodecs "alice" firstMaterial twoRatchets
      dataManager { dataManager with options := ⟨[], 1⟩ } :=
    { aead := keyedAead_lawful
      packet := Codec.ofTable_lawful (by decide +kernel) (by decide +kernel)
      payload := Codec.ofTable_lawful (by decide) (by decide)
      identity_ne := by decide
      index_lt := by decide
      sends := ⟨rfl, by decide, sharedKeys_holds "alice"⟩
      receives := ⟨rfl, by decide, sharedKeys_holds "alice"⟩
      values := hvalues
      apart := firstMaterial_apart }
  have hsession := (session_dispatches keyedNative sessionCodecs "alice" firstMaterial
    twoRatchets dataManager { dataManager with options := ⟨[], 1⟩ } hconnected).2 _
    (List.Subset.refl _)
  rw [hsession.1]
  decide +kernel

end LivekitClient.EncryptedSessions
