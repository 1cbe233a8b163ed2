/-
  LivekitClient/RatchetedSessions.lean
  ====================================
  **A receiver that follows a ratcheting sender** (`DataPacketCryptor::Encrypt` and `Decrypt`
  in `src/core/e2ee/frame_crypto_transformer.cpp`, `RatchetKey` in
  `src/core/e2ee/key_provider.cpp`).

  The sender ratchets its key whenever it likes and tells nobody.  The receiver has a key and
  a window: it opens what is sealed with its key or with one of the next few, and takes over
  the key that opened a packet.  Over a whole session, with packets lost, doubled or out of
  order, the two providers behave as two counters.
-/
import LivekitClient.DataRatchet

namespace LivekitClient.RatchetedSessions

open Std
open LivekitClient.KeyProvider LivekitClient.FrameCryptor LivekitClient.EncryptedDataPath
open LivekitClient.DataRatchet
open LivekitClient.SharedKeys (Carries carries_setKey)

/-! ## 1. The two sides -/

/-- What the sender does; some of its packets arrive. -/
inductive Act where
  | ratchet
  | send (payload : Bytes) (chance : Chance) (arrives : Bool)
deriving DecidableEq

structure Sender where
  provider : NativeKeyProvider
  cryptor : DataPacketCryptor

/-- The packets of a run that arrive. -/
def sent (lib : Native) (identity : String) (keyIndex : Nat) : Sender → List Act → List SealedData
  | _, [] => []
  | sender, .ratchet :: acts =>
    sent lib identity keyIndex
      { sender with provider := (sender.provider.ratchetKey lib.kdf identity keyIndex).2 } acts
  | sender, .send payload chance arrives :: acts =>
    match sender.cryptor.encrypt lib sender.provider identity keyIndex payload chance with
    | (packet, cryptor, provider) =>
      (if arrives then packet.toList else []) ++
        sent lib identity keyIndex ⟨provider, cryptor⟩ acts

/-- What the receiver opens of the packets that arrive. -/
def receive (lib : Native) (options : CryptoOptions) (identity : String) :
    NativeKeyProvider → List SealedData → List (Option Bytes) × NativeKeyProvider
  | provider, [] => ([], provider)
  | provider, packet :: packets =>
    match DataPacketCryptor.decrypt lib options provider identity packet with
    | (result, provider) =>
      match receive lib options identity provider packets with
      | (results, provider) => (result :: results, provider)

/-! ## 2. Counters in place of keys -/

/-- A counter that goes on to a number that is at most `window` ahead, and opens what has such
    a number. -/
def follow {α : Type} (window : Nat) : Nat → List (Nat × α) → List (Option α) × Nat
  | current, [] => ([], current)
  | current, (step, payload) :: packets =>
    if current ≤ step ∧ step ≤ current + window then
      (some payload :: (follow window step packets).1, (follow window step packets).2)
    else (none :: (follow window current packets).1, (follow window current packets).2)

/-- The payloads that arrive, with the number of ratchets before them. -/
def stamped : Nat → List Act → List (Nat × Bytes)
  | _, [] => []
  | count, .ratchet :: acts => stamped (count + 1) acts
  | count, .send payload _ arrives :: acts =>
    if arrives then (count, payload) :: stamped count acts else stamped count acts

/-- What is opened, where `gap` ratchets have come since the key that the receiver has. -/
def opened (window : Nat) : Nat → List Act → List (Option Bytes)
  | _, [] => []
  | gap, .ratchet :: acts => opened window (gap + 1) acts
  | gap, .send payload _ arrives :: acts =>
    if arrives then
      if gap ≤ window then some payload :: opened window 0 acts else none :: opened window gap acts
    else opened window gap acts

/-- Never do more than `window` ratchets come between two packets that arrive. -/
def KeepsUp (window : Nat) : Nat → List Act → Prop
  | _, [] => True
  | gap, .ratchet :: acts => KeepsUp window (gap + 1) acts
  | gap, .send _ _ arrives :: acts =>
    if arrives then gap ≤ window ∧ KeepsUp window 0 acts else KeepsUp window gap acts

def ratchets (acts : List Act) : Nat := acts.countP (· = .ratchet)

section Counters

variable {window : Nat}

theorem follow_of_near {α : Type} {current step : Nat} {payload : α}
    {packets : List (Nat × α)} (hnear : current ≤ step ∧ step ≤ current + window) :
    (follow window current ((step, payload) :: packets)).1 =
      some payload :: (follow window step packets).1 := by
  simp only [follow, if_pos hnear]

theorem follow_of_far {α : Type} {current step : Nat} {payload : α}
    {packets : List (Nat × α)} (hfar : ¬ (current ≤ step ∧ step ≤ current + window)) :
    (follow window current ((step, payload) :: packets)).1 =
      none :: (follow window current packets).1 := by
  simp only [follow, if_neg hfar]

/-- The counter never goes back. -/
theorem le_of_follow {α : Type} (current : Nat) (packets : List (Nat × α)) :
    current ≤ (follow window current packets).2 := by
  induction packets generalizing current with
  | nil => exact Nat.le_refl _
  | cons packet packets ih =>
    obtain ⟨step, payload⟩ := packet
    rw [follow]
    split
    · rename_i hnear
      exact Nat.le_trans hnear.1 (ih step)
    · exact ih current

/-- A sender never goes back, so only the distance counts. -/
theorem follow_stamped {current count : Nat} (hle : current ≤ count) (acts : List Act) :
    (follow window current (stamped count acts)).1 = opened window (count - current) acts := by
  induction acts generalizing current count with
  | nil => rfl
  | cons act acts ih =>
    cases act with
    | ratchet =>
      rw [stamped, opened, ih (Nat.le_succ_of_le hle), Nat.succ_sub hle]
    | send payload chance arrives =>
      rw [stamped, opened]
      cases arrives with
      | false => exact ih hle
      | true =>
        simp only [if_true, follow]
        by_cases hnear : count - current ≤ window
        · rw [if_pos ⟨hle, by omega⟩, if_pos hnear, ih (Nat.le_refl count), Nat.sub_self]
        · rw [if_neg (by omega), if_neg hnear, ih hle]

theorem none_notMem_opened_iff (gap : Nat) (acts : List Act) :
    none ∉ opened window gap acts ↔ KeepsUp window gap acts := by
  induction acts generalizing gap with
  | nil => simp [opened, KeepsUp]
  | cons act acts ih =>
    cases act with
    | ratchet => exact ih (gap + 1)
    | send payload chance arrives =>
      rw [opened, KeepsUp]
      cases arrives with
      | false => exact ih gap
      | true =>
        simp only [if_true]
        by_cases hnear : gap ≤ window
        · simp [hnear, ih 0]
        · simp [hnear]

end Counters

/-! ## 3. The receiver -/

/-- A packet that is sealed with the key after `entry.1` ratchets. -/
structure SealedAt (lib : Native) (keyIndex : Nat) (material : Bytes) (packet : SealedData)
    (entry : Nat × Bytes) : Prop where
  keyIndex : packet.keyIndex.toNat = keyIndex
  sealedWith : SealedWith lib.aead (lib.kdf.deriveKey (ratcheted lib.kdf material entry.1))
    entry.2 packet

section Receiver

variable {lib : Native} {options : CryptoOptions} {provider : NativeKeyProvider}
  {identity : String} {keyIndex n : Nat} {material : Bytes}

theorem ratcheted_ratcheted (kdf : KeyDerivation) (material : Bytes) (current i : Nat) :
    ratcheted kdf (ratcheted kdf material current) i = ratcheted kdf material (i + current) :=
  (Function.iterate_add_apply _ i current material).symm

/-- The materials after a few ratchets are apart if those before them are. -/
theorem keysApart_after (h : KeysApart lib material n) {current rest : Nat}
    (hle : current + rest ≤ n) : KeysApart lib (ratcheted lib.kdf material current) rest where
  ratchets := by
    intro i hpos hi
    rw [ratcheted_ratcheted]
    exact h.ratchets _ (by omega) (by omega)
  distinct := by
    intro i j hi hj hsame
    rw [ratcheted_ratcheted, ratcheted_ratcheted] at hsame
    have := h.distinct _ _ (by omega) (by omega) hsame
    omega
  right_key := by
    intro i j hi hj
    rw [ratcheted_ratcheted, ratcheted_ratcheted]
    exact h.right_key _ _ (by omega) (by omega)

/-- What no key of the window opens leaves the slot as it was. -/
theorem decrypt_of_none {packet : SealedData} (hiv : packet.iv.length = 12)
    (hlong : 16 ≤ packet.data.length)
    (hslot : SlotHolds lib.kdf provider identity packet.keyIndex.toNat material)
    (hnone : ∀ i ≤ options.ratchetWindowSize,
      lib.aead.decrypt (lib.kdf.deriveKey (ratcheted lib.kdf material i)) packet.iv []
        packet.data = none) :
    (DataPacketCryptor.decrypt lib options provider identity packet).1 = none ∧
      SlotHolds lib.kdf (DataPacketCryptor.decrypt lib options provider identity packet).2
        identity packet.keyIndex.toNat material := by
  have hkept := hslot.getSharedKey
  obtain ⟨handler, hhandler, hcarries⟩ := hslot
  have hinitial := hnone 0 (Nat.zero_le _)
  have hattempts := @ratchetAttempts_eq_none lib.kdf
    (fun key => lib.aead.decrypt key packet.iv [] packet.data) options.ratchetWindowSize material
    fun i _ hle => hnone i hle
  rw [decrypt_eq hiv hlong hhandler hcarries rfl, openWithRatchet]
  rw [ratcheted_zero] at hinitial
  simp only [hinitial, hattempts]
  refine ⟨rfl, ?_⟩
  split
  · exact slotHolds_setKeyFromMaterial hhandler (lt_length_of_carries hcarries)
  · exact hkept

/-- One packet moves the slot as it moves the counter. -/
theorem decrypt_follows (haead : lib.aead.Lawful) (hapart : KeysApart lib material n)
    {current : Nat} (hslot : SlotHolds lib.kdf provider identity keyIndex
      (ratcheted lib.kdf material current))
    {packet : SealedData} {step : Nat} {payload : Bytes}
    (hsealed : SealedAt lib keyIndex material packet (step, payload))
    (hcurrent : current + options.ratchetWindowSize ≤ n)
    (hstep : step + options.ratchetWindowSize ≤ n) :
    if current ≤ step ∧ step ≤ current + options.ratchetWindowSize then
      (DataPacketCryptor.decrypt lib options provider identity packet).1 = some payload ∧
        SlotHolds lib.kdf (DataPacketCryptor.decrypt lib options provider identity packet).2
          identity keyIndex (ratcheted lib.kdf material step)
    else
      (DataPacketCryptor.decrypt lib options provider identity packet).1 = none ∧
        SlotHolds lib.kdf (DataPacketCryptor.decrypt lib options provider identity packet).2
          identity keyIndex (ratcheted lib.kdf material current) := by
  obtain ⟨rfl, hsealedWith⟩ := hsealed
  split
  · rename_i hnear
    obtain ⟨ahead, rfl⟩ := Nat.exists_eq_add_of_le' hnear.1
    rw [← ratcheted_ratcheted] at hsealedWith ⊢
    rcases Nat.eq_zero_or_pos ahead with rfl | hpos
    · rw [ratcheted_zero] at hsealedWith ⊢
      have hinitial := @decrypt_of_initial lib packet payload options provider identity _
        haead hslot hsealedWith
      rw [hinitial]
      exact ⟨rfl, hslot.getSharedKey⟩
    · exact decrypt_of_ahead haead (keysApart_after hapart (by omega)) hslot hsealedWith hpos
        (by omega)
  · rename_i hfar
    apply decrypt_of_none hsealedWith.iv (hsealedWith.length_data haead) hslot
    intro i hi
    rw [ratcheted_ratcheted]
    exact hsealedWith.decrypt_other hapart (by omega) (by omega) (by omega)

theorem receive_eq_follow (haead : lib.aead.Lawful) (hapart : KeysApart lib material n)
    {packets : List SealedData} {entries : List (Nat × Bytes)}
    (hsealed : List.Forall₂ (SealedAt lib keyIndex material) packets entries)
    {current : Nat} (hcurrent : current + options.ratchetWindowSize ≤ n)
    (hslot : SlotHolds lib.kdf provider identity keyIndex (ratcheted lib.kdf material current))
    (hsteps : ∀ entry ∈ entries, entry.1 + options.ratchetWindowSize ≤ n) :
    (receive lib options identity provider packets).1 =
        (follow options.ratchetWindowSize current entries).1 ∧
      SlotHolds lib.kdf (receive lib options identity provider packets).2 identity keyIndex
        (ratcheted lib.kdf material (follow options.ratchetWindowSize current entries).2) := by
  induction hsealed generalizing provider current with
  | nil => exact ⟨rfl, hslot⟩
  | @cons packet entry packets entries hfirst _ ih =>
    obtain ⟨step, payload⟩ := entry
    have hstep : step + options.ratchetWindowSize ≤ n := hsteps (step, payload) (by simp)
    have hrest : ∀ entry ∈ entries, entry.1 + options.ratchetWindowSize ≤ n :=
      fun entry hmem => hsteps entry (List.mem_cons_of_mem _ hmem)
    have hdecrypt := decrypt_follows haead hapart hslot hfirst hcurrent hstep
    rw [follow]
    split at hdecrypt
    · rename_i hnear
      obtain ⟨hresults, hholds⟩ := ih hstep hdecrypt.2 hrest
      rw [if_pos hnear]
      exact ⟨congrArg₂ List.cons hdecrypt.1 hresults, hholds⟩
    · rename_i hfar
      obtain ⟨hresults, hholds⟩ := ih hcurrent hdecrypt.2 hrest
      rw [if_neg hfar]
      exact ⟨congrArg₂ List.cons hdecrypt.1 hresults, hholds⟩

/-- **The receiver is a counter**: whatever arrives, in any order, it opens what a counter
    with the same window opens, and its slot is as far as the counter, which never goes
    back. -/
theorem receive_follows (lib : Native) (haead : lib.aead.Lawful) (options : CryptoOptions)
    (identity : String) (keyIndex n : Nat) (material : Bytes) (hapart : KeysApart lib material n)
    (provider : NativeKeyProvider) (current : Nat)
    (hslot : SlotHolds lib.kdf provider identity keyIndex (ratcheted lib.kdf material current))
    (hcurrent : current + options.ratchetWindowSize ≤ n)
    (packets : List SealedData) (entries : List (Nat × Bytes))
    (hsealed : List.Forall₂ (SealedAt lib keyIndex material) packets entries)
    (hsteps : ∀ entry ∈ entries, entry.1 + options.ratchetWindowSize ≤ n) :
    (receive lib options identity provider packets).1 =
        (follow options.ratchetWindowSize current entries).1 ∧
      SlotHolds lib.kdf (receive lib options identity provider packets).2 identity keyIndex
        (ratcheted lib.kdf material (follow options.ratchetWindowSize current entries).2) ∧
      current ≤ (follow options.ratchetWindowSize current entries).2 := by
  obtain ⟨hresults, hholds⟩ := receive_eq_follow haead hapart hsealed hcurrent hslot hsteps
  exact ⟨hresults, hholds, le_of_follow current entries⟩

theorem sharedKeys_holds (identity : String) :
    SlotHolds keyedNative.kdf sharedKeys identity 0 firstMaterial :=
  ⟨⟨[some 0, none], true⟩, rfl, rfl⟩

/-- A packet one ratchet ahead, then a late one, then one two ratchets ahead. -/
theorem receive_follows_late :
    (receive keyedNative ⟨[], 1⟩ "alice" sharedKeys
      [packetAhead 1, packetAhead 0, packetAhead 2]).1 = [some [42], none, some [42]] := by
  have hsealed : List.Forall₂ (SealedAt keyedNative 0 firstMaterial)
      [packetAhead 1, packetAhead 0, packetAhead 2] [(1, [42]), (0, [42]), (2, [42])] :=
    .cons ⟨rfl, rfl, rfl⟩ (.cons ⟨rfl, rfl, rfl⟩ (.cons ⟨rfl, rfl, rfl⟩ .nil))
  have hfollows := receive_follows keyedNative keyedAead_lawful ⟨[], 1⟩ "alice" 0 3 firstMaterial
    firstMaterial_apart sharedKeys 0 (sharedKeys_holds "alice") (by decide)
    [packetAhead 1, packetAhead 0, packetAhead 2] [(1, [42]), (0, [42]), (2, [42])] hsealed
    (by decide)
  rw [hfollows.1]
  decide

end Receiver

/-! ## 4. The sender -/

section Sender

variable {lib : Native} {provider : NativeKeyProvider} {identity : String} {keyIndex : Nat}
  {material : Bytes}

/-- `RatchetKey` works on the handler that `GetSharedKey` gives. -/
theorem promote_spec (provider : NativeKeyProvider) (identity : String) :
    (provider.promote identity).1 = (provider.getSharedKey identity).1 ∧
      (provider.promote identity).2.heap = provider.heap ∧
      (provider.promote identity).2.keyRingSize = provider.keyRingSize := by
  cases hexplicit : provider.participantKeys[identity]? with
  | some handler =>
    simp [NativeKeyProvider.promote, NativeKeyProvider.getSharedKey, hexplicit]
  | none =>
    cases hclone : provider.sharedClones[identity]? with
    | some clone =>
      simp [NativeKeyProvider.promote, NativeKeyProvider.getSharedKey, hexplicit, hclone]
    | none =>
      cases hshared : provider.shared with
      | none =>
        simp [NativeKeyProvider.promote, NativeKeyProvider.getSharedKey, hexplicit, hclone,
          hshared]
      | some shared =>
        simp [NativeKeyProvider.promote, NativeKeyProvider.getSharedKey, hexplicit, hclone,
          hshared]

/-- `RatchetKey` puts the next material into the slot that the sender seals with. -/
theorem slotHolds_ratchetKey {kdf : KeyDerivation} (hidentity : identity ≠ "")
    (hindex : keyIndex < provider.keyRingSize)
    (hslot : SlotHolds kdf provider identity keyIndex material)
    (hratchets : kdf.ratchetKeyMaterial material ≠ []) :
    SlotHolds kdf (provider.ratchetKey kdf identity keyIndex).2 identity keyIndex
        (kdf.ratchetKeyMaterial material) ∧
      (provider.ratchetKey kdf identity keyIndex).2.keyRingSize = provider.keyRingSize := by
  obtain ⟨handler, hhandler, hcarries⟩ := hslot
  obtain ⟨hsame, hheap, hsize⟩ := promote_spec provider identity
  rw [hhandler] at hsame
  have hguard : (identity.isEmpty || !provider.validIndex keyIndex) = false := by
    simp [hidentity, NativeKeyProvider.validIndex, hindex]
  have hmaterial : (kdf.ratchetKeyMaterial material).isEmpty = false :=
    List.isEmpty_eq_false_iff.2 hratchets
  have hratchet : handler.ratchetKey kdf provider.heap keyIndex =
      (kdf.ratchetKeyMaterial material,
        handler.setKey kdf provider.heap (kdf.ratchetKeyMaterial material) keyIndex) := by
    have hkeySet : handler.getKeySet provider.heap keyIndex =
        some ⟨material, kdf.deriveKey material⟩ := hcarries
    simp only [KeyHandler.ratchetKey, hkeySet, hmaterial, Bool.false_eq_true, if_false]
  have hset : Carries kdf (handler.setKey kdf provider.heap (kdf.ratchetKeyMaterial material)
      keyIndex).1 (handler.setKey kdf provider.heap (kdf.ratchetKeyMaterial material)
        keyIndex).2 keyIndex (kdf.ratchetKeyMaterial material) :=
    carries_setKey (lt_length_of_carries hcarries)
  cases hpromote : provider.promote identity with
  | mk found promoted =>
    rw [hpromote] at hsame hheap hsize
    dsimp only at hsame hheap hsize
    subst hsame
    rw [← hheap] at hratchet hset
    simp only [NativeKeyProvider.ratchetKey, hguard, Bool.false_eq_true, if_false, hpromote,
      hratchet]
    refine ⟨⟨_, ?_, hset⟩, hsize⟩
    simp [NativeKeyProvider.getSharedKey]

/-- What the sender seals is sealed with the material of its slot. -/
theorem encrypt_sealedWith (haead : lib.aead.Lawful)
    (hslot : SlotHolds lib.kdf provider identity keyIndex material)
    (hsize : validKeySize (lib.kdf.deriveKey material).length = true)
    (cryptor : DataPacketCryptor) (payload : Bytes) (chance : Chance) :
    ∃ packet, (cryptor.encrypt lib provider identity keyIndex payload chance).1 = some packet ∧
      packet.keyIndex = keyIndex.toUInt8 ∧
      SealedWith lib.aead (lib.kdf.deriveKey material) payload packet ∧
      (cryptor.encrypt lib provider identity keyIndex payload chance).2.2 =
        (provider.getSharedKey identity).2 := by
  obtain ⟨handler, hhandler, hcarries⟩ := hslot
  obtain ⟨sealed, hsealed⟩ := haead.seal_some (lib.kdf.deriveKey material)
    (cryptor.makeIv chance chance.timeMillis).1 [] payload hsize
  have hkeySet : ((provider.getSharedKey identity).1.bind fun handler =>
      handler.getKeySet (provider.getSharedKey identity).2.heap keyIndex) =
        some ⟨material, lib.kdf.deriveKey material⟩ := by
    rw [hhandler, heap_getSharedKey]
    exact hcarries
  have hencrypt : lib.aead.encrypt (lib.kdf.deriveKey material)
      (cryptor.makeIv chance chance.timeMillis).1 [] payload = some sealed := by
    rw [Aead.encrypt, if_pos hsize, hsealed]
  refine ⟨⟨sealed, (cryptor.makeIv chance chance.timeMillis).1, keyIndex.toUInt8⟩, ?_, rfl,
    ⟨rfl, hencrypt⟩, ?_⟩
  · simp only [DataPacketCryptor.encrypt, hkeySet, hencrypt]
  · simp only [DataPacketCryptor.encrypt, hkeySet, hencrypt]

theorem sent_send (sender : Sender) (payload : Bytes) (chance : Chance) (arrives : Bool)
    (acts : List Act) :
    sent lib identity keyIndex sender (.send payload chance arrives :: acts) =
      (if arrives then
        (sender.cryptor.encrypt lib sender.provider identity keyIndex payload chance).1.toList
      else []) ++
        sent lib identity keyIndex
          ⟨(sender.cryptor.encrypt lib sender.provider identity keyIndex payload chance).2.2,
            (sender.cryptor.encrypt lib sender.provider identity keyIndex payload chance).2.1⟩
          acts := rfl

/-- The packets that arrive are sealed as their stamps say. -/
theorem sent_stamped (haead : lib.aead.Lawful) (hidentity : identity ≠ "")
    (hbyte : keyIndex < 256) {n : Nat} (hapart : KeysApart lib material n)
    (hsize : ∀ i ≤ n, validKeySize (lib.kdf.deriveKey (ratcheted lib.kdf material i)).length = true)
    (acts : List Act) {sender : Sender} {count : Nat}
    (hindex : keyIndex < sender.provider.keyRingSize)
    (hslot : SlotHolds lib.kdf sender.provider identity keyIndex
      (ratcheted lib.kdf material count))
    (hcount : count + ratchets acts ≤ n) :
    List.Forall₂ (SealedAt lib keyIndex material) (sent lib identity keyIndex sender acts)
      (stamped count acts) := by
  induction acts generalizing sender count with
  | nil => exact .nil
  | cons act acts ih =>
    cases act with
    | ratchet =>
      have hmore : ratchets (.ratchet :: acts) = ratchets acts + 1 := by simp [ratchets]
      rw [hmore] at hcount
      have hnext : lib.kdf.ratchetKeyMaterial (ratcheted lib.kdf material count) =
          ratcheted lib.kdf material (count + 1) :=
        (Function.iterate_succ_apply' lib.kdf.ratchetKeyMaterial count material).symm
      have hratchets := hapart.ratchets (count + 1) (Nat.succ_pos count) (by omega)
      rw [← hnext] at hratchets
      obtain ⟨hholds, hring⟩ := slotHolds_ratchetKey hidentity hindex hslot hratchets
      rw [hnext] at hholds
      exact ih (by rw [hring]; exact hindex) hholds (by omega)
    | send payload chance arrives =>
      have hsame : ratchets (.send payload chance arrives :: acts) = ratchets acts := by
        simp [ratchets]
      rw [hsame] at hcount
      obtain ⟨packet, hpacket, hkeyIndex, hsealed, hprovider⟩ :=
        encrypt_sealedWith haead hslot (hsize count (by omega)) sender.cryptor payload chance
      have hrest : List.Forall₂ (SealedAt lib keyIndex material)
          (sent lib identity keyIndex
            ⟨(sender.cryptor.encrypt lib sender.provider identity keyIndex payload chance).2.2,
              (sender.cryptor.encrypt lib sender.provider identity keyIndex payload chance).2.1⟩
            acts) (stamped count acts) := by
        apply ih _ _ hcount
        · rw [hprovider, getSharedKey_keyRingSize]
          exact hindex
        · rw [hprovider]
          exact hslot.getSharedKey
      rw [sent_send, hpacket, stamped]
      cases arrives with
      | false => exact hrest
      | true =>
        refine List.Forall₂.cons ⟨?_, hsealed⟩ hrest
        rw [hkeyIndex]
        exact Nat.mod_eq_of_lt hbyte

end Sender

theorem stamped_le (acts : List Act) (count : Nat) :
    ∀ entry ∈ stamped count acts, entry.1 ≤ count + ratchets acts := by
  induction acts generalizing count with
  | nil => simp [stamped]
  | cons act acts ih =>
    intro entry hmem
    cases act with
    | ratchet =>
      have hmore : ratchets (.ratchet :: acts) = ratchets acts + 1 := by simp [ratchets]
      have hle := ih (count + 1) entry hmem
      omega
    | send payload chance arrives =>
      have hsame : ratchets (.send payload chance arrives :: acts) = ratchets acts := by
        simp [ratchets]
      rw [hsame]
      rw [stamped] at hmem
      cases arrives with
      | false => exact ih count entry hmem
      | true =>
        rcases List.mem_cons.1 hmem with rfl | hmem
        · exact Nat.le_add_right count _
        · exact ih count entry hmem

/-! ## 5. A session -/

/-- **A session of two counters**: the receiver opens what arrives as long as the sender has
    not ratcheted more often than the window is long since the last packet that arrived, and
    nothing any more once it has.  It opens everything exactly if that never happens. -/
theorem session_opens (lib : Native) (haead : lib.aead.Lawful) (options : CryptoOptions)
    (localIdentity remoteIdentity : String) (keyIndex : Nat) (material : Bytes)
    (acts : List Act) (sender : Sender) (receiver : NativeKeyProvider)
    (hlocal : localIdentity ≠ "") (hindex : keyIndex < sender.provider.keyRingSize)
    (hbyte : keyIndex < 256)
    (hsender : SlotHolds lib.kdf sender.provider localIdentity keyIndex material)
    (hreceiver : SlotHolds lib.kdf receiver remoteIdentity keyIndex material)
    (hapart : KeysApart lib material (ratchets acts + options.ratchetWindowSize))
    (hsize : ∀ i ≤ ratchets acts + options.ratchetWindowSize,
      validKeySize (lib.kdf.deriveKey (ratcheted lib.kdf material i)).length = true) :
    (receive lib options remoteIdentity receiver
        (sent lib localIdentity keyIndex sender acts)).1 =
      opened options.ratchetWindowSize 0 acts ∧
    (none ∉ (receive lib options remoteIdentity receiver
        (sent lib localIdentity keyIndex sender acts)).1 ↔
      KeepsUp options.ratchetWindowSize 0 acts) := by
  have hsealed : List.Forall₂ (SealedAt lib keyIndex material)
      (sent lib localIdentity keyIndex sender acts) (stamped 0 acts) :=
    sent_stamped haead hlocal hbyte hapart hsize acts hindex hsender (by omega)
  have hsteps : ∀ entry ∈ stamped 0 acts,
      entry.1 + options.ratchetWindowSize ≤ ratchets acts + options.ratchetWindowSize := by
    intro entry hmem
    have := stamped_le acts 0 entry hmem
    omega
  have hstart : SlotHolds lib.kdf receiver remoteIdentity keyIndex
      (ratcheted lib.kdf material 0) := hreceiver
  have hcurrent : 0 + options.ratchetWindowSize ≤ ratchets acts + options.ratchetWindowSize := by
    omega
  have hreceive := receive_eq_follow haead hapart hsealed hcurrent hstart hsteps
  rw [hreceive.1, follow_stamped (Nat.le_refl 0), Nat.sub_self]
  exact ⟨rfl, none_notMem_opened_iff 0 acts⟩

/-- Two ratchets, with a packet in between that is lost: past a window of one ratchet. -/
def lossySession : List Act :=
  [.send [41] ⟨1, 2, 3⟩ true, .ratchet, .send [42] ⟨1, 2, 3⟩ false, .ratchet,
    .send [43] ⟨1, 2, 3⟩ true]

theorem session_opens_lossy :
    (receive keyedNative ⟨[], 1⟩ "bob" sharedKeys
      (sent keyedNative "alice" 0 ⟨sharedKeys, ⟨0⟩⟩ lossySession)).1 = [some [41], none] := by
  have hsession := session_opens keyedNative keyedAead_lawful ⟨[], 1⟩ "alice" "bob" 0
    firstMaterial lossySession ⟨sharedKeys, ⟨0⟩⟩ sharedKeys (by decide) (by decide) (by decide)
    (sharedKeys_holds "alice") (sharedKeys_holds "bob") firstMaterial_apart (by decide)
  rw [hsession.1]
  decide

end LivekitClient.RatchetedSessions
