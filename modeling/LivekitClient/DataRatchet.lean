/-
  LivekitClient/DataRatchet.lean
  ==============================
  **Automatic ratcheting of data keys** (`DataPacketCryptor::Decrypt` in
  `src/core/e2ee/frame_crypto_transformer.cpp`).

  A packet that the slot's key does not open is tried with the keys of the materials that
  follow by ratcheting, at most `ratchet_window_size` of them.  The first one that opens the
  packet goes into the slot; if none does, the material of before is put back.  A packet
  sealed `m` ratchets ahead is therefore read if `m` is in the window, and leaves the slot
  as it was if it is not.
-/
import Mathlib.Logic.Function.Iterate
import LivekitClient.EncryptedDataPath
import LivekitClient.SharedKeys

namespace LivekitClient.DataRatchet

open Std
open LivekitClient.KeyProvider LivekitClient.FrameCryptor LivekitClient.EncryptedDataPath
open LivekitClient.SharedKeys (Carries)

/-! ## 1. The materials ahead of a slot -/

/-- The material after `m` ratchets. -/
def ratcheted (kdf : KeyDerivation) (material : Bytes) (m : Nat) : Bytes :=
  kdf.ratchetKeyMaterial^[m] material

@[simp] theorem ratcheted_zero (kdf : KeyDerivation) (material : Bytes) :
    ratcheted kdf material 0 = material := rfl

theorem ratcheted_succ (kdf : KeyDerivation) (material : Bytes) (m : Nat) :
    ratcheted kdf material (m + 1) = ratcheted kdf (kdf.ratchetKeyMaterial material) m := rfl

/-- What is relied on for the materials up to the `n`-th: ratcheting does not fail, no
    material comes twice, and the key of one material does not open what the key of another
    one has sealed. -/
structure KeysApart (lib : Native) (material : Bytes) (n : Nat) : Prop where
  ratchets : ∀ i, 0 < i → i ≤ n → ratcheted lib.kdf material i ≠ []
  distinct : ∀ i j, i ≤ n → j ≤ n →
    ratcheted lib.kdf material i = ratcheted lib.kdf material j → i = j
  right_key : ∀ i j, i ≤ n → j ≤ n → ∀ iv payload sealed opened,
    lib.aead.sealData (lib.kdf.deriveKey (ratcheted lib.kdf material j)) iv [] payload =
      some sealed →
    lib.aead.openData (lib.kdf.deriveKey (ratcheted lib.kdf material i)) iv [] sealed =
      some opened →
    ratcheted lib.kdf material i = ratcheted lib.kdf material j

theorem KeysApart.mono {lib : Native} {material : Bytes} {n n' : Nat}
    (h : KeysApart lib material n) (hle : n' ≤ n) : KeysApart lib material n' where
  ratchets := fun i hpos hi => h.ratchets i hpos (Nat.le_trans hi hle)
  distinct := fun i j hi hj => h.distinct i j (Nat.le_trans hi hle) (Nat.le_trans hj hle)
  right_key := fun i j hi hj => h.right_key i j (Nat.le_trans hi hle) (Nat.le_trans hj hle)

/-! ## 2. The loop over the window -/

section Loop

variable {kdf : KeyDerivation} {decrypt : Bytes → Option Bytes}

/-- No material of the window opens the payload. -/
theorem ratchetAttempts_eq_none {attempts : Nat} {material : Bytes}
    (hnone : ∀ i, 0 < i → i ≤ attempts → decrypt (kdf.deriveKey (ratcheted kdf material i)) = none) :
    ratchetAttempts kdf decrypt attempts material = none := by
  induction attempts generalizing material with
  | zero => rfl
  | succ attempts ih =>
    have hfirst := hnone 1 Nat.one_pos (Nat.succ_le_succ (Nat.zero_le attempts))
    rw [ratcheted_succ, ratcheted_zero] at hfirst
    simp only [ratchetAttempts, hfirst]
    split
    · rfl
    · apply ih
      intro i hpos hle
      rw [← ratcheted_succ]
      exact hnone (i + 1) (Nat.succ_pos i) (Nat.succ_le_succ hle)

/-- The first material that opens the payload is the one that is found. -/
theorem ratchetAttempts_eq_some {attempts m : Nat} {material payload : Bytes}
    (hpos : 0 < m) (hle : m ≤ attempts)
    (hratchets : ∀ i, 0 < i → i ≤ m → ratcheted kdf material i ≠ [])
    (hearlier : ∀ i, 0 < i → i < m → decrypt (kdf.deriveKey (ratcheted kdf material i)) = none)
    (hopen : decrypt (kdf.deriveKey (ratcheted kdf material m)) = some payload) :
    ratchetAttempts kdf decrypt attempts material = some (ratcheted kdf material m, payload) := by
  induction attempts generalizing material m with
  | zero => omega
  | succ attempts ih =>
    obtain ⟨m, rfl⟩ : ∃ n, m = n + 1 := ⟨m - 1, by omega⟩
    have hnext : (kdf.ratchetKeyMaterial material).isEmpty = false := by
      rw [List.isEmpty_eq_false_iff]
      exact hratchets 1 Nat.one_pos (Nat.succ_le_succ (Nat.zero_le m))
    simp only [ratchetAttempts, hnext, Bool.false_eq_true, if_false]
    rw [ratcheted_succ] at hopen ⊢
    rcases Nat.eq_zero_or_pos m with rfl | hm
    · -- the next material is the one
      rw [ratcheted_zero] at hopen ⊢
      rw [hopen]
    · have hfirst := hearlier 1 Nat.one_pos (by omega)
      rw [ratcheted_succ, ratcheted_zero] at hfirst
      rw [hfirst]
      apply ih hm (by omega)
      · intro i hi hlt
        rw [← ratcheted_succ]
        exact hratchets (i + 1) (Nat.succ_pos i) (by omega)
      · intro i hi hlt
        rw [← ratcheted_succ]
        exact hearlier (i + 1) (Nat.succ_pos i) (by omega)
      · exact hopen

end Loop

/-! ## 3. The slot -/

/-- The slot `keyIndex` that `GetSharedKey` gives a participant has the key set of this
    material. -/
def SlotHolds (kdf : KeyDerivation) (p : NativeKeyProvider) (participantId : String)
    (keyIndex : Nat) (material : Bytes) : Prop :=
  ∃ handler, (p.getSharedKey participantId).1 = some handler ∧
    Carries kdf p.heap handler keyIndex material

section Slot

variable {kdf : KeyDerivation} {p : NativeKeyProvider} {participantId : String} {keyIndex : Nat}
  {material : Bytes}

theorem heap_getSharedKey (p : NativeKeyProvider) (participantId : String) :
    (p.getSharedKey participantId).2.heap = p.heap := by
  unfold NativeKeyProvider.getSharedKey
  repeat' split
  all_goals rfl

/-- Asking once more gives the same handler. -/
theorem getSharedKey_getSharedKey (p : NativeKeyProvider) (participantId : String) :
    (p.getSharedKey participantId).2.getSharedKey participantId =
      p.getSharedKey participantId := by
  cases hexplicit : p.participantKeys[participantId]? with
  | some handler => simp [NativeKeyProvider.getSharedKey, hexplicit]
  | none =>
    cases hclone : p.sharedClones[participantId]? with
    | some clone => simp [NativeKeyProvider.getSharedKey, hexplicit, hclone]
    | none =>
      cases hshared : p.shared with
      | none => simp [NativeKeyProvider.getSharedKey, hexplicit, hclone, hshared]
      | some shared => simp [NativeKeyProvider.getSharedKey, hexplicit, hclone, hshared]

theorem lt_length_of_carries {heap : List KeySet} {handler : KeyHandler}
    (h : Carries kdf heap handler keyIndex material) : keyIndex < handler.ring.length := by
  rw [Carries, KeyHandler.getKeySet, KeyHandler.slot] at h
  by_contra hout
  rw [List.getElem?_eq_none (Nat.le_of_not_lt hout)] at h
  cases h

theorem carries_setKeyFromMaterial {heap : List KeySet} {handler : KeyHandler}
    (hindex : keyIndex < handler.ring.length) :
    Carries kdf (handler.setKeyFromMaterial kdf heap material keyIndex).1
      (handler.setKeyFromMaterial kdf heap material keyIndex).2 keyIndex material :=
  SharedKeys.carries_setKey hindex

/-- Looking at the slot does not change it. -/
theorem SlotHolds.getSharedKey (h : SlotHolds kdf p participantId keyIndex material) :
    SlotHolds kdf (p.getSharedKey participantId).2 participantId keyIndex material := by
  rw [SlotHolds, getSharedKey_getSharedKey, heap_getSharedKey]
  exact h

/-- `SetKeyFromMaterial` reaches the slot of the handler that `GetSharedKey` gave. -/
theorem slotHolds_setKeyFromMaterial {handler : KeyHandler}
    (hhandler : (p.getSharedKey participantId).1 = some handler)
    (hindex : keyIndex < handler.ring.length) :
    SlotHolds kdf ((p.getSharedKey participantId).2.setKeyFromMaterial kdf participantId material
      keyIndex) participantId keyIndex material := by
  have hcarries := fun heap => @carries_setKeyFromMaterial kdf keyIndex material heap handler hindex
  refine ⟨(handler.setKeyFromMaterial kdf p.heap material keyIndex).2, ?_, ?_⟩
  all_goals
    cases hexplicit : p.participantKeys[participantId]? with
    | some explicit =>
      simp only [NativeKeyProvider.getSharedKey, hexplicit, Option.some.injEq] at hhandler ⊢
      subst hhandler
      simp [NativeKeyProvider.setKeyFromMaterial, hexplicit, hcarries]
    | none =>
      cases hclone : p.sharedClones[participantId]? with
      | some clone =>
        simp only [NativeKeyProvider.getSharedKey, hexplicit, hclone, Option.some.injEq]
          at hhandler ⊢
        subst hhandler
        simp [NativeKeyProvider.setKeyFromMaterial, hexplicit, hclone, hcarries]
      | none =>
        cases hshared : p.shared with
        | none => simp [NativeKeyProvider.getSharedKey, hexplicit, hclone, hshared] at hhandler
        | some shared =>
          simp only [NativeKeyProvider.getSharedKey, hexplicit, hclone, hshared,
            Option.some.injEq] at hhandler ⊢
          subst hhandler
          simp [NativeKeyProvider.setKeyFromMaterial, hexplicit, hcarries]

/-- `SetHasValidKey` changes no slot. -/
theorem SlotHolds.setHasValidKey (h : SlotHolds kdf p participantId keyIndex material) :
    SlotHolds kdf (setHasValidKey p participantId) participantId keyIndex material := by
  obtain ⟨handler, hhandler, hcarries⟩ := h
  have hheap : (FrameCryptor.setHasValidKey p participantId).heap = p.heap := by
    unfold FrameCryptor.setHasValidKey modifyHandler
    repeat' split
    all_goals rfl
  rw [← hheap] at hcarries
  cases hexplicit : p.participantKeys[participantId]? with
  | some explicit =>
    rw [NativeKeyProvider.getSharedKey, hexplicit, Option.some.injEq] at hhandler
    subst hhandler
    refine ⟨{ explicit with hasValidKey := true }, ?_, hcarries⟩
    simp [FrameCryptor.setHasValidKey, modifyHandler, NativeKeyProvider.getSharedKey, hexplicit]
  | none =>
    cases hclone : p.sharedClones[participantId]? with
    | some clone =>
      simp only [NativeKeyProvider.getSharedKey, hexplicit, hclone, Option.some.injEq] at hhandler
      subst hhandler
      refine ⟨{ clone with hasValidKey := true }, ?_, hcarries⟩
      simp [FrameCryptor.setHasValidKey, modifyHandler, NativeKeyProvider.getSharedKey,
        hexplicit, hclone]
    | none =>
      have hsame : FrameCryptor.setHasValidKey p participantId = p := by
        simp [FrameCryptor.setHasValidKey, modifyHandler, hexplicit, hclone]
      rw [hsame] at hcarries ⊢
      exact ⟨handler, hhandler, hcarries⟩

end Slot

/-! ## 4. Decrypting -/

/-- A packet with a 12-byte IV that is sealed with this key. -/
structure SealedWith (aead : Aead) (key payload : Bytes) (packet : SealedData) : Prop where
  iv : packet.iv.length = 12
  data : aead.encrypt key packet.iv [] payload = some packet.data

/-- The payload, if the attempt gave one. -/
def openedPayload : Opened → Option Bytes
  | .initial payload => some payload
  | .ratcheted payload => some payload
  | .failed => none

section Decrypt

variable {lib : Native} {packet : SealedData} {key payload : Bytes}

/-- The size of the key is one that there is a cipher for, and the data has a tag. -/
theorem SealedWith.sealData (h : SealedWith lib.aead key payload packet) :
    validKeySize key.length = true ∧
      lib.aead.sealData key packet.iv [] payload = some packet.data := by
  have hdata := h.data
  unfold Aead.encrypt at hdata
  split at hdata
  · exact ⟨‹_›, hdata⟩
  · cases hdata

theorem SealedWith.length_data (haead : lib.aead.Lawful)
    (h : SealedWith lib.aead key payload packet) : 16 ≤ packet.data.length := by
  have hlength := haead.length_seal _ _ _ _ _ h.sealData.2
  simp only [kGcmTagSize] at hlength
  omega

/-- The key that sealed the packet opens it. -/
theorem SealedWith.decrypt_self (haead : lib.aead.Lawful)
    (h : SealedWith lib.aead key payload packet) :
    lib.aead.decrypt key packet.iv [] packet.data = some payload := by
  have hlong : ¬ packet.data.length < kGcmTagSize := by
    have := h.length_data haead
    simp only [kGcmTagSize]
    omega
  simp only [Aead.decrypt, h.sealData.1, Bool.not_true, Bool.false_eq_true, if_false, hlong]
  exact haead.open_seal _ _ _ _ _ h.sealData.2

/-- The key of another material does not. -/
theorem SealedWith.decrypt_other {material : Bytes} {n m i : Nat}
    (hapart : KeysApart lib material n)
    (h : SealedWith lib.aead (lib.kdf.deriveKey (ratcheted lib.kdf material m)) payload packet)
    (hm : m ≤ n) (hi : i ≤ n) (hne : i ≠ m) :
    lib.aead.decrypt (lib.kdf.deriveKey (ratcheted lib.kdf material i)) packet.iv []
      packet.data = none := by
  unfold Aead.decrypt
  split
  · rfl
  · split
    · rfl
    · cases hopen : lib.aead.openData (lib.kdf.deriveKey (ratcheted lib.kdf material i))
          packet.iv [] packet.data with
      | none => rfl
      | some opened =>
        have hsame := hapart.right_key i m hi hm _ _ _ _ h.sealData.2 hopen
        exact absurd (hapart.distinct i m hi hm hsame) hne

variable {options : CryptoOptions} {p : NativeKeyProvider} {participantId : String}
  {material : Bytes} {m : Nat}

/-- A packet that is long enough is opened with the slot's key set. -/
theorem decrypt_eq {handler : KeyHandler} (hiv : packet.iv.length = 12)
    (hlong : 16 ≤ packet.data.length)
    (hhandler : (p.getSharedKey participantId).1 = some handler)
    (hcarries : Carries lib.kdf p.heap handler packet.keyIndex.toNat material)
    {opened : Opened × NativeKeyProvider}
    (hopened : openWithRatchet lib options (p.getSharedKey participantId).2 participantId
      ⟨material, lib.kdf.deriveKey material⟩ packet.keyIndex.toNat
      (fun key => lib.aead.decrypt key packet.iv [] packet.data) = opened) :
    DataPacketCryptor.decrypt lib options p participantId packet =
      (openedPayload opened.1, opened.2) := by
  have hguard : ¬ (packet.iv.length ≠ 12 ∨ packet.data.length < 16) := by omega
  have hkeySet : ((p.getSharedKey participantId).1.bind fun handler =>
      handler.getKeySet (p.getSharedKey participantId).2.heap packet.keyIndex.toNat) =
        some ⟨material, lib.kdf.deriveKey material⟩ := by
    rw [hhandler, heap_getSharedKey]
    exact hcarries
  simp only [DataPacketCryptor.decrypt, if_neg hguard, hkeySet, hopened]
  rcases opened with ⟨payload | payload | _, q⟩ <;> rfl

/-- The slot's own material: nothing but the look at the handler happens. -/
theorem decrypt_of_initial (haead : lib.aead.Lawful)
    (hslot : SlotHolds lib.kdf p participantId packet.keyIndex.toNat material)
    (hsealed : SealedWith lib.aead (lib.kdf.deriveKey material) payload packet) :
    DataPacketCryptor.decrypt lib options p participantId packet =
      (some payload, (p.getSharedKey participantId).2) := by
  obtain ⟨handler, hhandler, hcarries⟩ := hslot
  rw [decrypt_eq hsealed.iv (hsealed.length_data haead) hhandler hcarries rfl, openWithRatchet,
    hsealed.decrypt_self haead]
  rfl

/-- A material in the window is found, and goes into the slot. -/
theorem decrypt_of_ahead (haead : lib.aead.Lawful)
    (hapart : KeysApart lib material (options.ratchetWindowSize + m))
    (hslot : SlotHolds lib.kdf p participantId packet.keyIndex.toNat material)
    (hsealed : SealedWith lib.aead (lib.kdf.deriveKey (ratcheted lib.kdf material m)) payload
      packet)
    (hpos : 0 < m) (hle : m ≤ options.ratchetWindowSize) :
    (DataPacketCryptor.decrypt lib options p participantId packet).1 = some payload ∧
    SlotHolds lib.kdf (DataPacketCryptor.decrypt lib options p participantId packet).2
      participantId packet.keyIndex.toNat (ratcheted lib.kdf material m) := by
  obtain ⟨handler, hhandler, hcarries⟩ := hslot
  have hinitial := hsealed.decrypt_other hapart (by omega) (Nat.zero_le _) (Nat.ne_of_lt hpos)
  have hfound := @ratchetAttempts_eq_some lib.kdf
    (fun key => lib.aead.decrypt key packet.iv [] packet.data) options.ratchetWindowSize m
    material payload hpos hle
    (by
      intro i hi him
      exact hapart.ratchets i hi (by omega))
    (by
      intro i hi him
      exact hsealed.decrypt_other hapart (by omega) (by omega) (Nat.ne_of_lt him))
    (hsealed.decrypt_self haead)
  rw [decrypt_eq hsealed.iv (hsealed.length_data haead) hhandler hcarries rfl, openWithRatchet]
  rw [ratcheted_zero] at hinitial
  simp only [hinitial, hfound]
  refine ⟨rfl, SlotHolds.setHasValidKey ?_⟩
  exact slotHolds_setKeyFromMaterial hhandler (lt_length_of_carries hcarries)

/-- Past the window nothing opens the packet, and the slot has its material again. -/
theorem decrypt_of_past (haead : lib.aead.Lawful)
    (hapart : KeysApart lib material (options.ratchetWindowSize + m))
    (hslot : SlotHolds lib.kdf p participantId packet.keyIndex.toNat material)
    (hsealed : SealedWith lib.aead (lib.kdf.deriveKey (ratcheted lib.kdf material m)) payload
      packet)
    (hpast : options.ratchetWindowSize < m) :
    (DataPacketCryptor.decrypt lib options p participantId packet).1 = none ∧
    SlotHolds lib.kdf (DataPacketCryptor.decrypt lib options p participantId packet).2
      participantId packet.keyIndex.toNat material := by
  have hkept := hslot.getSharedKey
  obtain ⟨handler, hhandler, hcarries⟩ := hslot
  have hinitial := hsealed.decrypt_other hapart (by omega) (Nat.zero_le _) (by omega)
  have hnone := @ratchetAttempts_eq_none lib.kdf
    (fun key => lib.aead.decrypt key packet.iv [] packet.data) options.ratchetWindowSize material
    (by
      intro i hi hle
      exact hsealed.decrypt_other hapart (by omega) (by omega) (by omega))
  rw [decrypt_eq hsealed.iv (hsealed.length_data haead) hhandler hcarries rfl, openWithRatchet]
  rw [ratcheted_zero] at hinitial
  simp only [hinitial, hnone]
  refine ⟨rfl, ?_⟩
  split
  · exact slotHolds_setKeyFromMaterial hhandler (lt_length_of_carries hcarries)
  · exact hkept

/-- **Ratcheting finds the materials of its window, and no others.**  A packet sealed `m`
    ratchets ahead of the slot is opened exactly when `m` is at most the window's size; the
    slot then has the `m`-th material, and otherwise the one it had. -/
theorem decrypt_opens_window (lib : Native) (haead : lib.aead.Lawful) (options : CryptoOptions)
    (p : NativeKeyProvider) (participantId : String) (packet : SealedData)
    (material payload : Bytes) (m : Nat)
    (hapart : KeysApart lib material (options.ratchetWindowSize + m))
    (hslot : SlotHolds lib.kdf p participantId packet.keyIndex.toNat material)
    (hsealed : SealedWith lib.aead (lib.kdf.deriveKey (ratcheted lib.kdf material m)) payload
      packet) :
    ((DataPacketCryptor.decrypt lib options p participantId packet).1 = some payload ↔
      m ≤ options.ratchetWindowSize) ∧
    (m ≤ options.ratchetWindowSize →
      SlotHolds lib.kdf (DataPacketCryptor.decrypt lib options p participantId packet).2
        participantId packet.keyIndex.toNat (ratcheted lib.kdf material m)) ∧
    (m = 0 → (DataPacketCryptor.decrypt lib options p participantId packet).2 =
      (p.getSharedKey participantId).2) ∧
    (options.ratchetWindowSize < m →
      (DataPacketCryptor.decrypt lib options p participantId packet).1 = none ∧
      SlotHolds lib.kdf (DataPacketCryptor.decrypt lib options p participantId packet).2
        participantId packet.keyIndex.toNat material) := by
  rcases Nat.lt_or_ge options.ratchetWindowSize m with hpast | hle
  · have hfailed := decrypt_of_past haead hapart hslot hsealed hpast
    refine ⟨⟨?_, by omega⟩, by omega, by omega, fun _ => hfailed⟩
    rw [hfailed.1]
    nofun
  · rcases Nat.eq_zero_or_pos m with rfl | hpos
    · have hinitial := @decrypt_of_initial lib packet payload options p participantId material
        haead hslot hsealed
      rw [hinitial]
      refine ⟨⟨fun _ => hle, fun _ => rfl⟩, fun _ => ?_, fun _ => rfl, by omega⟩
      exact hslot.getSharedKey
    · obtain ⟨hopened, hholds⟩ := decrypt_of_ahead haead hapart hslot hsealed hpos hle
      exact ⟨⟨fun _ => hle, fun _ => hopened⟩, fun _ => hholds, by omega, by omega⟩

end Decrypt

/-! ### A packet one ratchet ahead, and one that is past the window -/

/-- A tag that depends on the key, the IV and the associated data. -/
def keyedTag (key iv additionalData : Bytes) : Bytes :=
  ((key ++ List.replicate kGcmTagSize 0).take kGcmTagSize).map
    (· + (iv ++ additionalData).foldl (fun sum byte => sum * 31 + byte + 1) 7)

def keyedAead : Aead where
  sealData := fun key iv additionalData data => some (data ++ keyedTag key iv additionalData)
  openData := fun key iv additionalData data =>
    if data.drop (data.length - kGcmTagSize) = keyedTag key iv additionalData
    then some (data.take (data.length - kGcmTagSize)) else none

theorem length_keyedTag (key iv additionalData : Bytes) :
    (keyedTag key iv additionalData).length = kGcmTagSize := by
  simp [keyedTag]

theorem keyedAead_lawful : keyedAead.Lawful where
  seal_some := fun _ _ _ _ _ => ⟨_, rfl⟩
  length_seal := by
    intro key iv additionalData data sealed hsealed
    cases hsealed
    rw [List.length_append, length_keyedTag]
  open_seal := by
    intro key iv additionalData data sealed hsealed
    cases hsealed
    simp [keyedAead, length_keyedTag]

/-- The tags of two 16-byte keys differ. -/
theorem keyedTag_injective {key key' iv additionalData : Bytes}
    (hkey : key.length = kGcmTagSize) (hkey' : key'.length = kGcmTagSize)
    (hsame : keyedTag key iv additionalData = keyedTag key' iv additionalData) : key = key' := by
  have hpadded := (List.map_inj_right fun x y hsum => (UInt8.add_left_inj _).mp hsum).mp hsame
  rwa [List.take_left' hkey, List.take_left' hkey'] at hpadded

def keyedNative : Native := { runnable with aead := keyedAead }

/-- The shared key of `sharedKeys`. -/
def firstMaterial : Bytes := List.replicate 16 9

theorem firstMaterial_apart : KeysApart keyedNative firstMaterial 3 where
  ratchets := by
    have hratchets : ∀ i < 4, ratcheted keyedNative.kdf firstMaterial i ≠ [] := by decide
    intro i hpos hle
    exact hratchets i (by omega)
  distinct := by
    have hdistinct : ∀ i < 4, ∀ j < 4, ratcheted keyedNative.kdf firstMaterial i =
        ratcheted keyedNative.kdf firstMaterial j → i = j := by decide
    intro i j hi hj
    exact hdistinct i (by omega) j (by omega)
  right_key := by
    have hlength : ∀ i < 4, (ratcheted keyedNative.kdf firstMaterial i).length =
        kGcmTagSize := by decide
    intro i j hi hj iv payload sealed opened hsealed hopened
    cases hsealed
    simp only [keyedNative, keyedAead] at hopened
    split at hopened
    · rename_i htag
      rw [List.length_append, length_keyedTag, Nat.add_sub_cancel, List.drop_left] at htag
      exact (keyedTag_injective (hlength j (by omega)) (hlength i (by omega)) htag).symm
    · cases hopened

/-- Payload 42, sealed with the key that comes `m` ratchets after the first one. -/
def packetAhead (m : Nat) : SealedData where
  data := [42] ++ keyedTag (ratcheted rotatingDerivation firstMaterial m) (List.replicate 12 1) []
  iv := List.replicate 12 1
  keyIndex := 0

/-- With a window of one ratchet, the packet one ahead is read and moves the slot; the one
    two ahead is not and leaves it. -/
theorem decrypt_opens_window_one :
    (DataPacketCryptor.decrypt keyedNative ⟨[], 1⟩ sharedKeys "alice" (packetAhead 1)).1 =
        some [42] ∧
      SlotHolds rotatingDerivation
        (DataPacketCryptor.decrypt keyedNative ⟨[], 1⟩ sharedKeys "alice" (packetAhead 1)).2
        "alice" 0 (List.replicate 16 10) ∧
      (DataPacketCryptor.decrypt keyedNative ⟨[], 1⟩ sharedKeys "alice" (packetAhead 2)).1 =
        none ∧
      SlotHolds rotatingDerivation
        (DataPacketCryptor.decrypt keyedNative ⟨[], 1⟩ sharedKeys "alice" (packetAhead 2)).2
        "alice" 0 firstMaterial := by
  have hslot : SlotHolds keyedNative.kdf sharedKeys "alice" 0 firstMaterial :=
    ⟨⟨[some 0, none], true⟩, rfl, rfl⟩
  have hnear := decrypt_opens_window keyedNative keyedAead_lawful ⟨[], 1⟩ sharedKeys "alice"
    (packetAhead 1) firstMaterial [42] 1 (firstMaterial_apart.mono (by decide)) hslot
    ⟨rfl, rfl⟩
  have hfar := decrypt_opens_window keyedNative keyedAead_lawful ⟨[], 1⟩ sharedKeys "alice"
    (packetAhead 2) firstMaterial [42] 2 firstMaterial_apart hslot ⟨rfl, rfl⟩
  exact ⟨hnear.1.mpr (Nat.le_refl 1), hnear.2.1 (Nat.le_refl 1),
    hfar.2.2.2 (Nat.lt_succ_self 1)⟩

end LivekitClient.DataRatchet
