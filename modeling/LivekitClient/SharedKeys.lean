/-
  LivekitClient/SharedKeys.lean
  =============================
  **Shared keys and explicit keys** (`NativeKeyProvider` in
  `src/core/e2ee/key_provider.cpp`).

  A participant without keys of its own uses a clone of the shared handler.  The clone is
  made when it is first asked for, decryptors put ratcheted keys into it, and it becomes
  explicit when its participant is ratcheted.  Setting, ratcheting and removing a shared key
  reaches all clones nevertheless: a set key goes into each of them, and a removed one drops
  them.
-/
import LivekitClient.KeyProvider

namespace LivekitClient.SharedKeys

open Std CellHeap LivekitClient.KeyProvider

/-! ## 1. Rings of the right size -/

/-- The handlers have a slot for each index, and no participant has both a handler of its own
    and a clone. -/
structure Apart (p : NativeKeyProvider) : Prop where
  shared : ∀ handler, p.shared = some handler → handler.ring.length = p.keyRingSize
  participantKeys : ∀ (identity : String) handler, p.participantKeys[identity]? = some handler →
    handler.ring.length = p.keyRingSize
  sharedClones : ∀ (identity : String) handler, p.sharedClones[identity]? = some handler →
    handler.ring.length = p.keyRingSize
  disjoint : ∀ (identity : String) handler, p.participantKeys[identity]? = some handler →
    p.sharedClones[identity]? = none

/-- The slot `index` has the key set of this material. -/
def Carries (kdf : KeyDerivation) (heap : List KeySet) (handler : KeyHandler) (index : Nat)
    (material : Bytes) : Prop :=
  handler.getKeySet heap index = some ⟨material, kdf.deriveKey material⟩

section Handlers

variable {kdf : KeyDerivation} {heap : List KeySet} {handler : KeyHandler} {material : Bytes}
  {index : Nat}

@[simp] theorem length_ring_new (keyRingSize : Nat) :
    (KeyHandler.new keyRingSize).ring.length = keyRingSize :=
  List.length_replicate

@[simp] theorem length_ring_setKeyFromMaterial :
    (handler.setKeyFromMaterial kdf heap material index).2.ring.length = handler.ring.length :=
  List.length_set

@[simp] theorem length_ring_setKey :
    (handler.setKey kdf heap material index).2.ring.length = handler.ring.length :=
  List.length_set

@[simp] theorem length_ring_ratchetKey :
    (handler.ratchetKey kdf heap index).2.2.ring.length = handler.ring.length := by
  rw [KeyHandler.ratchetKey]
  split
  · rfl
  · dsimp only
    split
    · rfl
    · exact length_ring_setKey

/-- A key that is set is there. -/
theorem carries_setKey (hindex : index < handler.ring.length) :
    Carries kdf (handler.setKey kdf heap material index).1
      (handler.setKey kdf heap material index).2 index material := by
  have hslot : (handler.setKey kdf heap material index).2.slot index = some heap.length := by
    simp [KeyHandler.setKey, KeyHandler.setKeyFromMaterial, KeyHandler.slot,
      List.getElem?_set_self hindex]
  rw [Carries, KeyHandler.getKeySet, hslot]
  exact List.getElem?_concat_length

theorem slot_setKey_of_ne {j : Nat} (hne : index ≠ j) :
    (handler.setKey kdf heap material index).2.slot j = handler.slot j := by
  simp [KeyHandler.setKey, KeyHandler.setKeyFromMaterial, KeyHandler.slot,
    List.getElem?_set_ne hne]

/-- A ratchet that returns a key has put it into the slot. -/
theorem carries_ratchetKey (hindex : index < handler.ring.length)
    (hkey : (handler.ratchetKey kdf heap index).1.isEmpty = false) :
    Carries kdf (handler.ratchetKey kdf heap index).2.1
      (handler.ratchetKey kdf heap index).2.2 index (handler.ratchetKey kdf heap index).1 := by
  rw [KeyHandler.ratchetKey] at hkey ⊢
  cases hset : handler.getKeySet heap index with
  | none =>
    rw [hset] at hkey
    cases hkey
  | some keySet =>
    rw [hset] at hkey
    dsimp only at hkey ⊢
    by_cases hempty : (kdf.ratchetKeyMaterial keySet.material).isEmpty = true
    · rw [if_pos hempty] at hkey
      cases hkey
    · rw [if_neg hempty]
      exact carries_setKey hindex

/-- New cells do not change what is there. -/
theorem Carries.mono (h : Carries kdf heap handler index material) {after : List KeySet}
    (hextends : Touched KeySet.cleanse [] heap after) :
    Carries kdf after handler index material := by
  rw [Carries, KeyHandler.getKeySet] at h ⊢
  obtain ⟨addr, hslot, hcell⟩ := Option.bind_eq_some_iff.mp h
  have hlt : addr < heap.length := (List.getElem?_eq_some_iff.mp hcell).1
  have hsame := hextends.cell addr hlt
  rw [if_neg List.not_mem_nil] at hsame
  rw [hslot, Option.bind_some, hsame, hcell]

end Handlers

theorem Apart.of_handlers {p q : NativeKeyProvider} (h : Apart p)
    (hsize : q.keyRingSize = p.keyRingSize)
    (hshared : ∀ handler, q.shared = some handler →
      p.shared = some handler ∨ handler.ring.length = p.keyRingSize)
    (hparticipant : ∀ (identity : String) handler, q.participantKeys[identity]? = some handler →
      p.participantKeys[identity]? = some handler ∨ handler.ring.length = p.keyRingSize)
    (hclones : ∀ (identity : String) handler, q.sharedClones[identity]? = some handler →
      p.sharedClones[identity]? = some handler ∨ handler.ring.length = p.keyRingSize)
    (hdisjoint : ∀ (identity : String) handler, q.participantKeys[identity]? = some handler →
      q.sharedClones[identity]? = none) : Apart q := by
  refine ⟨?_, ?_, ?_, hdisjoint⟩
  · intro handler hhandler
    rw [hsize]
    rcases hshared handler hhandler with hold | hlength
    · exact h.shared handler hold
    · exact hlength
  · intro identity handler hhandler
    rw [hsize]
    rcases hparticipant identity handler hhandler with hold | hlength
    · exact h.participantKeys identity handler hold
    · exact hlength
  · intro identity handler hhandler
    rw [hsize]
    rcases hclones identity handler hhandler with hold | hlength
    · exact h.sharedClones identity handler hold
    · exact hlength

theorem apart_new (keyRingSize : Nat) : Apart (.new keyRingSize) := by
  constructor <;> simp [NativeKeyProvider.new]

/-! ## 2. The shared keys -/

section Shared

variable {kdf : KeyDerivation} {p : NativeKeyProvider} {key : Bytes} {index : Nat}

/-- What setting a shared key does to the clones: they are the same participants' and carry
    the key. -/
structure ClonesCarry (kdf : KeyDerivation) (p q : NativeKeyProvider) (index : Nat)
    (key : Bytes) : Prop where
  keyRingSize : q.keyRingSize = p.keyRingSize
  shared : q.shared = p.shared
  participantKeys : q.participantKeys = p.participantKeys
  heap : Touched KeySet.cleanse [] p.heap q.heap
  identities : ∀ identity : String, identity ∈ q.sharedClones ↔ identity ∈ p.sharedClones
  clones : ∀ (identity : String) handler, q.sharedClones[identity]? = some handler →
    handler.ring.length = p.keyRingSize ∧ Carries kdf q.heap handler index key

/-- One turn of the loop over the clones. -/
def setCloneKey (kdf : KeyDerivation) (key : Bytes) (index : Nat) (q : NativeKeyProvider)
    (entry : String × KeyHandler) : NativeKeyProvider :=
  { q with
    heap := (entry.2.setKey kdf q.heap key index).1
    sharedClones := q.sharedClones.insert entry.1 (entry.2.setKey kdf q.heap key index).2 }

theorem setCloneKeys_eq : p.setCloneKeys kdf key index =
    p.sharedClones.toList.foldl (setCloneKey kdf key index) p :=
  rfl

theorem clonesCarry_setCloneKeys (h : Apart p) (hindex : index < p.keyRingSize) :
    ClonesCarry kdf p (p.setCloneKeys kdf key index) index key := by
  -- a clone whose turn has come carries the key, and the others are as they were
  have hloop : ∀ (entries : List (String × KeyHandler)) (q : NativeKeyProvider),
      (∀ entry ∈ entries, p.sharedClones[entry.1]? = some entry.2) →
      q.keyRingSize = p.keyRingSize → q.shared = p.shared →
      q.participantKeys = p.participantKeys → Touched KeySet.cleanse [] p.heap q.heap →
      (∀ identity : String, identity ∈ q.sharedClones ↔ identity ∈ p.sharedClones) →
      (∀ (identity : String) handler, q.sharedClones[identity]? = some handler →
        (handler.ring.length = p.keyRingSize ∧ Carries kdf q.heap handler index key) ∨
          identity ∈ entries.map Prod.fst) →
      ClonesCarry kdf p (entries.foldl (setCloneKey kdf key index) q) index key := by
    intro entries
    induction entries with
    | nil =>
      intro q _ hsize hshared hparticipant hheap hidentities hclones
      refine ⟨hsize, hshared, hparticipant, hheap, hidentities, ?_⟩
      intro identity handler hhandler
      obtain hcarries | hnil := hclones identity handler hhandler
      · exact hcarries
      · cases hnil
    | cons entry entries ih =>
      intro q hentries hsize hshared hparticipant hheap hidentities hclones
      obtain ⟨hentry, hrest⟩ := List.forall_mem_cons.mp hentries
      have hlength : entry.2.ring.length = p.keyRingSize := h.sharedClones _ _ hentry
      have hgrows := KeyHandler.touched_setKey kdf q.heap entry.2 key index
      refine ih _ hrest hsize hshared hparticipant
        (hheap.after KeySet.cleanse_cleanse hgrows) ?_ ?_
      · intro identity
        have hmem : entry.1 ∈ p.sharedClones := by
          rw [ExtTreeMap.mem_iff_isSome_getElem?, hentry]
          rfl
        simp only [setCloneKey, ExtTreeMap.mem_insert, LawfulEqOrd.compare_eq_iff_eq, hidentities]
        constructor
        · rintro (rfl | hold)
          · exact hmem
          · exact hold
        · exact .inr
      · intro identity handler hhandler
        simp only [setCloneKey, ExtTreeMap.getElem?_insert, LawfulEqOrd.compare_eq_iff_eq]
          at hhandler
        split at hhandler
        · cases hhandler
          exact .inl ⟨length_ring_setKey.trans hlength, carries_setKey (hlength ▸ hindex)⟩
        · rename_i hne
          obtain ⟨hsized, hcarries⟩ | hmem := hclones identity handler hhandler
          · exact .inl ⟨hsized, hcarries.mono hgrows⟩
          · rcases List.mem_cons.mp hmem with heq | hmem
            · exact absurd heq.symm hne
            · exact .inr hmem
  rw [setCloneKeys_eq]
  refine hloop _ p ?_ rfl rfl rfl (Touched.refl _ _) (fun _ => Iff.rfl) ?_
  · intro entry hentry
    exact ExtTreeMap.mem_toList_iff_getElem?_eq_some.mp hentry
  · intro identity handler hhandler
    refine .inr (List.mem_map.mpr ⟨(identity, handler), ?_, rfl⟩)
    exact ExtTreeMap.mem_toList_iff_getElem?_eq_some.mpr hhandler

/-- The shared handler and every clone carry a key. -/
structure SharedCarries (kdf : KeyDerivation) (p : NativeKeyProvider) (index : Nat)
    (key : Bytes) : Prop where
  shared : ∃ handler, p.shared = some handler ∧ Carries kdf p.heap handler index key
  clones : ∀ (identity : String) handler, p.sharedClones[identity]? = some handler →
    Carries kdf p.heap handler index key

theorem Apart.setCloneKeys (h : Apart p) (hindex : index < p.keyRingSize) :
    Apart (p.setCloneKeys kdf key index) := by
  have hcarry := @clonesCarry_setCloneKeys kdf p key index h hindex
  refine h.of_handlers hcarry.keyRingSize ?_ ?_ ?_ ?_
  · intro handler hhandler
    rw [hcarry.shared] at hhandler
    exact .inl hhandler
  · intro identity handler hhandler
    rw [hcarry.participantKeys] at hhandler
    exact .inl hhandler
  · intro identity handler hhandler
    exact .inr (hcarry.clones identity handler hhandler).1
  · intro identity handler hhandler
    rw [hcarry.participantKeys] at hhandler
    apply ExtTreeMap.getElem?_eq_none
    rw [hcarry.identities, ExtTreeMap.mem_iff_isSome_getElem?,
      h.disjoint identity handler hhandler]
    exact Bool.false_ne_true

theorem sharedCarries_setCloneKeys (h : Apart p) (hindex : index < p.keyRingSize)
    {handler : KeyHandler} (hshared : p.shared = some handler)
    (hcarries : Carries kdf p.heap handler index key) :
    SharedCarries kdf (p.setCloneKeys kdf key index) index key := by
  have hcarry := @clonesCarry_setCloneKeys kdf p key index h hindex
  constructor
  · exact ⟨handler, hcarry.shared.trans hshared, hcarries.mono hcarry.heap⟩
  · intro identity clone hclone
    exact (hcarry.clones identity clone hclone).2

/-- A shared handler of the right size in place of the old one. -/
theorem Apart.setShared (h : Apart p) (heap : List KeySet) {handler : KeyHandler}
    (hlength : handler.ring.length = p.keyRingSize) :
    Apart { p with heap := heap, shared := some handler } := by
  apply h.of_handlers
  · rfl
  · intro other hother
    cases hother
    exact .inr hlength
  · exact fun _ _ hother => .inl hother
  · exact fun _ _ hother => .inl hother
  · exact h.disjoint

theorem length_getD_shared (h : Apart p) :
    (p.shared.getD (KeyHandler.new p.keyRingSize)).ring.length = p.keyRingSize := by
  cases hshared : p.shared with
  | none => exact length_ring_new _
  | some handler => exact h.shared handler hshared

theorem setSharedKey_spec (h : Apart p) (index : Nat) (key : Bytes) :
    Apart (p.setSharedKey kdf index key).2 ∧
      ((p.setSharedKey kdf index key).1 = true →
        SharedCarries kdf (p.setSharedKey kdf index key).2 index key) := by
  rw [NativeKeyProvider.setSharedKey]
  split
  · exact ⟨h, fun htrue => Bool.noConfusion htrue⟩
  · rename_i hvalid
    have hindex : index < p.keyRingSize := by
      simp only [NativeKeyProvider.validIndex, Bool.or_eq_true, Bool.not_eq_true',
        decide_eq_false_iff_not, not_or, not_not] at hvalid
      exact hvalid.1
    have hlength := length_getD_shared h
    have hafter : ((p.shared.getD (KeyHandler.new p.keyRingSize)).setKey kdf p.heap key
        index).2.ring.length = p.keyRingSize := length_ring_setKey.trans hlength
    have hset := h.setShared
      ((p.shared.getD (KeyHandler.new p.keyRingSize)).setKey kdf p.heap key index).1 hafter
    exact ⟨hset.setCloneKeys hindex, fun _ => sharedCarries_setCloneKeys hset hindex rfl
      (carries_setKey (Nat.lt_of_lt_of_eq hindex hlength.symm))⟩

/-- Setting a shared key neither makes a clone nor drops one. -/
theorem setSharedKey_identities (h : Apart p) (index : Nat) (key : Bytes) :
    (p.setSharedKey kdf index key).2.keyRingSize = p.keyRingSize ∧
      (p.setSharedKey kdf index key).2.participantKeys = p.participantKeys ∧
      ∀ identity : String, identity ∈ (p.setSharedKey kdf index key).2.sharedClones ↔
        identity ∈ p.sharedClones := by
  rw [NativeKeyProvider.setSharedKey]
  split
  · exact ⟨rfl, rfl, fun _ => Iff.rfl⟩
  · rename_i hvalid
    simp only [NativeKeyProvider.validIndex, Bool.or_eq_true, Bool.not_eq_true',
      decide_eq_false_iff_not, not_or, not_not] at hvalid
    have hset := h.setShared
      ((p.shared.getD (KeyHandler.new p.keyRingSize)).setKey kdf p.heap key index).1
      (length_ring_setKey.trans (length_getD_shared h) :
        ((p.shared.getD (KeyHandler.new p.keyRingSize)).setKey kdf p.heap key
          index).2.ring.length = p.keyRingSize)
    have hcarry := @clonesCarry_setCloneKeys kdf _ key index hset hvalid.1
    exact ⟨hcarry.keyRingSize, hcarry.participantKeys, hcarry.identities⟩

theorem ratchetSharedKey_spec (h : Apart p) (index : Nat) :
    Apart (p.ratchetSharedKey kdf index).2 ∧
      ((p.ratchetSharedKey kdf index).1.isEmpty = false →
        SharedCarries kdf (p.ratchetSharedKey kdf index).2 index
          (p.ratchetSharedKey kdf index).1) := by
  rw [NativeKeyProvider.ratchetSharedKey]
  split
  · exact ⟨h, fun hfalse => Bool.noConfusion hfalse⟩
  · rename_i hvalid
    have hindex : index < p.keyRingSize := by
      simpa [NativeKeyProvider.validIndex] using hvalid
    cases hshared : p.shared with
    | none => exact ⟨h, fun hfalse => Bool.noConfusion hfalse⟩
    | some handler =>
      have hlength := h.shared handler hshared
      have hafter : (handler.ratchetKey kdf p.heap index).2.2.ring.length = p.keyRingSize :=
        length_ring_ratchetKey.trans hlength
      have hset := h.setShared (handler.ratchetKey kdf p.heap index).2.1 hafter
      dsimp only
      by_cases hempty : (handler.ratchetKey kdf p.heap index).1.isEmpty = true
      · rw [if_pos hempty]
        exact ⟨hset, fun hfalse => Bool.noConfusion hfalse⟩
      · rw [if_neg hempty]
        exact ⟨hset.setCloneKeys hindex, fun _ => sharedCarries_setCloneKeys hset hindex rfl
          (carries_ratchetKey (hlength ▸ hindex) (Bool.not_eq_true _ ▸ hempty))⟩

/-! ### A shared key that is removed -/

/-- The replacement of `RebuildWithout` has nothing at the slot that is left out. -/
theorem rebuildWithout_slot (old : KeyHandler) (index : Nat) :
    (p.rebuildWithout kdf old index).1.slot index = none ∧
      (p.rebuildWithout kdf old index).1.ring.length = p.keyRingSize := by
  have hloop : ∀ (indices : List Nat) (acc : List KeySet × KeyHandler),
      acc.2.slot index = none → acc.2.ring.length = p.keyRingSize →
      (indices.foldl (NativeKeyProvider.rebuildSlot kdf p old index) acc).2.slot index = none ∧
        (indices.foldl (NativeKeyProvider.rebuildSlot kdf p old index) acc).2.ring.length =
          p.keyRingSize := by
    intro indices
    induction indices with
    | nil => exact fun _ hslot hlength => ⟨hslot, hlength⟩
    | cons i rest ih =>
      intro acc hslot hlength
      rw [List.foldl_cons]
      apply ih
      · rw [NativeKeyProvider.rebuildSlot]
        split
        · exact hslot
        · rename_i hkept
          simp only [Bool.or_eq_true, decide_eq_true_eq, not_or] at hkept
          rw [slot_setKey_of_ne hkept.1, hslot]
      · rw [NativeKeyProvider.rebuildSlot]
        split
        · exact hlength
        · exact length_ring_setKey.trans hlength
  apply hloop
  · simp only [KeyHandler.slot, KeyHandler.new, List.getElem?_replicate]
    split <;> rfl
  · exact length_ring_new _

/-- The shared handler and all clones have nothing at a slot. -/
structure SharedEmpty (p : NativeKeyProvider) (index : Nat) : Prop where
  shared : ∃ handler, p.shared = some handler ∧ handler.slot index = none
  clones : ∀ (identity : String) handler, p.sharedClones[identity]? = some handler →
    handler.slot index = none

theorem removeSharedKey_spec (h : Apart p) (index : Nat) :
    Apart (p.removeSharedKey kdf index).2 ∧
      ((p.removeSharedKey kdf index).1 = true →
        SharedEmpty (p.removeSharedKey kdf index).2 index) := by
  rw [NativeKeyProvider.removeSharedKey]
  cases hshared : p.shared with
  | none => exact ⟨h, fun htrue => Bool.noConfusion htrue⟩
  | some old =>
    dsimp only
    split
    · exact ⟨h, fun htrue => Bool.noConfusion htrue⟩
    · obtain ⟨hslot, hlength⟩ := @rebuildWithout_slot kdf p old index
      obtain ⟨heq, -, -⟩ := NativeKeyProvider.rebuildWithout_spec kdf p old index
      rw [heq, NativeKeyProvider.cleanseMap_eq]
      constructor
      · refine h.of_handlers rfl ?_ (fun _ _ hother => .inl hother) (by simp) (by simp)
        intro handler hhandler
        cases hhandler
        exact .inr hlength
      · exact fun _ => ⟨⟨_, rfl, hslot⟩, by simp⟩

end Shared

/-! ## 3. The other operations -/

section Others

variable {kdf : KeyDerivation} {p : NativeKeyProvider}

theorem Apart.getSharedKey (h : Apart p) (identity : String) :
    Apart (p.getSharedKey identity).2 := by
  rw [NativeKeyProvider.getSharedKey]
  split
  · exact h
  · rename_i hexplicit
    split
    · exact h
    · split
      · exact h
      · rename_i shared hshared
        apply h.of_handlers
        · rfl
        · exact fun _ hother => .inl hother
        · exact fun _ _ hother => .inl hother
        · intro other handler hother
          simp only [ExtTreeMap.getElem?_insert, LawfulEqOrd.compare_eq_iff_eq] at hother
          split at hother
          · cases hother
            exact .inr (h.shared shared hshared)
          · exact .inl hother
        · intro other handler hother
          simp only [ExtTreeMap.getElem?_insert, LawfulEqOrd.compare_eq_iff_eq]
          rw [if_neg]
          · exact h.disjoint other handler hother
          · rintro rfl
            rw [hexplicit] at hother
            cases hother

/-- A handler of its own for a participant without a clone. -/
theorem Apart.insertExplicit (h : Apart p) (heap : List KeySet) {identity : String}
    {handler : KeyHandler} (hlength : handler.ring.length = p.keyRingSize)
    (hclone : p.sharedClones[identity]? = none) :
    Apart { p with heap := heap,
                   participantKeys := p.participantKeys.insert identity handler } := by
  apply h.of_handlers
  · rfl
  · exact fun _ hother => .inl hother
  · intro other explicit hother
    simp only [ExtTreeMap.getElem?_insert, LawfulEqOrd.compare_eq_iff_eq] at hother
    split at hother
    · cases hother
      exact .inr hlength
    · exact .inl hother
  · exact fun _ _ hother => .inl hother
  · intro other explicit hother
    simp only [ExtTreeMap.getElem?_insert, LawfulEqOrd.compare_eq_iff_eq] at hother
    split at hother
    · rename_i heq
      subst heq
      exact hclone
    · exact h.disjoint other explicit hother

theorem Apart.eraseClone (h : Apart p) (heap : List KeySet) (identity : String) :
    Apart { p with heap := heap, sharedClones := p.sharedClones.erase identity } := by
  apply h.of_handlers
  · rfl
  · exact fun _ hother => .inl hother
  · exact fun _ _ hother => .inl hother
  · intro other clone hother
    simp only [ExtTreeMap.getElem?_erase, LawfulEqOrd.compare_eq_iff_eq] at hother
    split at hother
    · cases hother
    · exact .inl hother
  · intro other handler hother
    simp only [ExtTreeMap.getElem?_erase, LawfulEqOrd.compare_eq_iff_eq]
    split
    · rfl
    · exact h.disjoint other handler hother

theorem Apart.eraseExplicit (h : Apart p) (heap : List KeySet) (identity : String) :
    Apart { p with heap := heap, participantKeys := p.participantKeys.erase identity } := by
  apply h.of_handlers
  · rfl
  · exact fun _ hother => .inl hother
  · intro other handler hother
    simp only [ExtTreeMap.getElem?_erase, LawfulEqOrd.compare_eq_iff_eq] at hother
    split at hother
    · cases hother
    · exact .inl hother
  · exact fun _ _ hother => .inl hother
  · intro other handler hother
    simp only [ExtTreeMap.getElem?_erase, LawfulEqOrd.compare_eq_iff_eq] at hother
    split at hother
    · cases hother
    · exact h.disjoint other handler hother

theorem Apart.removeSharedClone (h : Apart p) (identity : String) :
    Apart (p.removeSharedClone identity).2 ∧
      (p.removeSharedClone identity).2.sharedClones[identity]? = none := by
  rw [NativeKeyProvider.removeSharedClone]
  cases hclone : p.sharedClones[identity]? with
  | none => exact ⟨h, hclone⟩
  | some clone =>
    constructor
    · exact h.eraseClone _ identity
    · simp [NativeKeyProvider.cleanseHandler]

theorem Apart.removeParticipantKeys (h : Apart p) (identity : String) :
    Apart (p.removeParticipantKeys identity).2 := by
  rw [NativeKeyProvider.removeParticipantKeys]
  have hfirst : Apart (p.removeParticipantKeysEntry identity).2 := by
    rw [NativeKeyProvider.removeParticipantKeysEntry]
    cases p.participantKeys[identity]? with
    | none => exact h
    | some handler => exact h.eraseExplicit _ identity
  exact (hfirst.removeSharedClone identity).1

theorem Apart.setKey (h : Apart p) (identity : String) (index : Nat) (key : Bytes) :
    Apart (p.setKey kdf identity index key).2 := by
  rw [NativeKeyProvider.setKey]
  split
  · exact h
  · obtain ⟨hremoved, hclone⟩ := h.removeSharedClone identity
    apply hremoved.insertExplicit _ _ hclone
    rw [length_ring_setKey]
    cases hexplicit : (p.removeSharedClone identity).2.participantKeys[identity]? with
    | none => exact length_ring_new _
    | some handler => exact hremoved.participantKeys identity handler hexplicit

/-- The handler that is ratcheted belongs to its participant alone. -/
theorem Apart.promote (h : Apart p) (identity : String) :
    Apart (p.promote identity).2 ∧ ∀ handler, (p.promote identity).1 = some handler →
      handler.ring.length = (p.promote identity).2.keyRingSize ∧
        (p.promote identity).2.sharedClones[identity]? = none := by
  rw [NativeKeyProvider.promote]
  cases hexplicit : p.participantKeys[identity]? with
  | some handler =>
    refine ⟨h, ?_⟩
    rintro other ⟨⟩
    exact ⟨h.participantKeys identity handler hexplicit, h.disjoint identity handler hexplicit⟩
  | none =>
    dsimp only
    cases hclone : (p.sharedClones[identity]? <|> p.shared) with
    | none =>
      refine ⟨h, ?_⟩
      rintro other ⟨⟩
    | some clone =>
      have hlength : clone.ring.length = p.keyRingSize := by
        cases hold : p.sharedClones[identity]? with
        | none =>
          rw [hold] at hclone
          exact h.shared clone hclone
        | some other =>
          rw [hold] at hclone
          cases hclone
          exact h.sharedClones identity clone hold
      have herased := h.eraseClone p.heap identity
      have hnone : (p.sharedClones.erase identity)[identity]? = none := by simp
      refine ⟨herased.insertExplicit p.heap hlength hnone, ?_⟩
      rintro other ⟨⟩
      exact ⟨hlength, hnone⟩

theorem Apart.ratchetKey (h : Apart p) (identity : String) (index : Nat) :
    Apart (p.ratchetKey kdf identity index).2 := by
  rw [NativeKeyProvider.ratchetKey]
  split
  · exact h
  · obtain ⟨hpromoted, hhandler⟩ := h.promote identity
    rcases hpromote : p.promote identity with ⟨_ | handler, after⟩
    · rw [hpromote] at hpromoted
      exact hpromoted
    · rw [hpromote] at hpromoted hhandler
      obtain ⟨hlength, hclone⟩ := hhandler handler rfl
      exact hpromoted.insertExplicit _ (length_ring_ratchetKey.trans hlength) hclone

theorem Apart.removeKey (h : Apart p) (identity : String) (index : Nat) :
    Apart (p.removeKey kdf identity index).2 := by
  rw [NativeKeyProvider.removeKey]
  split
  · exact h
  · cases hexplicit : p.participantKeys[identity]? with
    | none => exact h
    | some handler =>
      dsimp only
      split
      · exact h
      · obtain ⟨-, hlength⟩ := @rebuildWithout_slot kdf p handler index
        obtain ⟨heq, -, -⟩ := NativeKeyProvider.rebuildWithout_spec kdf p handler index
        rw [heq]
        exact h.insertExplicit _ hlength (h.disjoint identity handler hexplicit)

theorem Apart.setKeyFromMaterial (h : Apart p) (identity : String) (material : Bytes)
    (index : Nat) : Apart (p.setKeyFromMaterial kdf identity material index) := by
  rw [NativeKeyProvider.setKeyFromMaterial]
  cases hexplicit : p.participantKeys[identity]? with
  | some handler =>
    have hlength : (handler.setKeyFromMaterial kdf p.heap material index).2.ring.length =
        p.keyRingSize :=
      length_ring_setKeyFromMaterial.trans (h.participantKeys identity handler hexplicit)
    exact h.insertExplicit _ hlength (h.disjoint identity handler hexplicit)
  | none =>
    dsimp only
    cases hclone : p.sharedClones[identity]? with
    | none => exact h
    | some clone =>
      apply h.of_handlers
      · rfl
      · exact fun _ hother => .inl hother
      · exact fun _ _ hother => .inl hother
      · intro other handler hother
        simp only [ExtTreeMap.getElem?_insert, LawfulEqOrd.compare_eq_iff_eq] at hother
        split at hother
        · cases hother
          exact .inr (length_ring_setKeyFromMaterial.trans (h.sharedClones identity clone hclone))
        · exact .inl hother
      · intro other handler hother
        simp only [ExtTreeMap.getElem?_insert, LawfulEqOrd.compare_eq_iff_eq]
        rw [if_neg]
        · exact h.disjoint other handler hother
        · rintro rfl
          rw [hexplicit] at hother
          cases hother

theorem apart_clear (p : NativeKeyProvider) : Apart p.clear := by
  constructor <;> simp [NativeKeyProvider.clear]

end Others

/-! ## 4. Every run

What a public operation does to the invariant is what the native operation behind its checks
does. -/

section Runs

variable {kdf : KeyDerivation} {p : NativeKeyProvider}

theorem Apart.apply (h : Apart p) (op : Op) : Apart (apply kdf p op).2 := by
  cases op with
  | setSharedKey key keyIndex =>
    simp only [KeyProvider.apply, KeyProvider.setSharedKey]
    cases validateKeyIndex p keyIndex with
    | some error => exact h
    | none =>
      dsimp only
      split
      · exact h
      · exact (setSharedKey_spec h keyIndex key).1
  | ratchetSharedKey keyIndex =>
    simp only [KeyProvider.apply, KeyProvider.ratchetSharedKey]
    cases validateKeyIndex p keyIndex with
    | some error => exact h
    | none => exact (ratchetSharedKey_spec h keyIndex).1
  | removeSharedKey keyIndex =>
    simp only [KeyProvider.apply, KeyProvider.removeSharedKey]
    cases validateKeyIndex p keyIndex with
    | some error => exact h
    | none => exact (removeSharedKey_spec h keyIndex).1
  | setKey identity key keyIndex =>
    simp only [KeyProvider.apply, KeyProvider.setKey]
    split
    · exact h
    · cases validateKeyIndex p keyIndex with
      | some error => exact h
      | none =>
        dsimp only
        split
        · exact h
        · exact h.setKey identity keyIndex key
  | ratchetKey identity keyIndex =>
    simp only [KeyProvider.apply, KeyProvider.ratchetKey]
    split
    · exact h
    · cases validateKeyIndex p keyIndex with
      | some error => exact h
      | none => exact h.ratchetKey identity keyIndex
  | removeKey identity keyIndex =>
    simp only [KeyProvider.apply, KeyProvider.removeKey]
    split
    · exact h
    · cases validateKeyIndex p keyIndex with
      | some error => exact h
      | none => exact h.removeKey identity keyIndex
  | removeParticipantKeys identity =>
    simp only [KeyProvider.apply, KeyProvider.removeParticipantKeys]
    split
    · exact h
    · exact h.removeParticipantKeys identity

theorem apart_of_reachable (hp : Reachable kdf p) : Apart p := by
  induction hp with
  | new keyRingSize => exact apart_new keyRingSize
  | op hp op ih => exact ih.apply op
  | getSharedKey hp participantId ih => exact ih.getSharedKey participantId
  | setKeyFromMaterial hp participantId material index ih =>
    exact ih.setKeyFromMaterial participantId material index
  | clear hp ih => exact apart_clear _

/-! ### What `GetSharedKey` finds -/

/-- A participant without explicit keys is given its clone or the shared handler, and the
    clone that is made is a copy of the shared handler. -/
theorem getSharedKey_cases (identity : String) (hexplicit : p.participantKeys[identity]? = none)
    {shared : KeyHandler} (hshared : p.shared = some shared) :
    ∃ handler, (p.getSharedKey identity).1 = some handler ∧
      (p.getSharedKey identity).2.heap = p.heap ∧
      (p.getSharedKey identity).2.shared = p.shared ∧
      (p.getSharedKey identity).2.participantKeys = p.participantKeys ∧
      (handler = shared ∨ p.sharedClones[identity]? = some handler) ∧
      ∀ (other : String) clone, (p.getSharedKey identity).2.sharedClones[other]? = some clone →
        clone = shared ∨ p.sharedClones[other]? = some clone := by
  rw [NativeKeyProvider.getSharedKey, hexplicit]
  dsimp only
  cases hclone : p.sharedClones[identity]? with
  | some clone =>
    refine ⟨clone, rfl, rfl, rfl, rfl, .inr rfl, ?_⟩
    intro other clone hother
    exact .inr hother
  | none =>
    simp only [hshared, true_and]
    refine ⟨shared, rfl, .inl rfl, ?_⟩
    intro other clone hother
    simp only [ExtTreeMap.getElem?_insert, LawfulEqOrd.compare_eq_iff_eq] at hother
    split at hother
    · cases hother
      exact .inl rfl
    · exact .inr hother

/-- `GetSharedKey` for one participant after the other. -/
def getSharedKeys (p : NativeKeyProvider) (identities : List String) : NativeKeyProvider :=
  identities.foldl (fun p identity => (p.getSharedKey identity).2) p

theorem getSharedKey_of_explicit {identity : String} {handler : KeyHandler}
    (hexplicit : p.participantKeys[identity]? = some handler) :
    p.getSharedKey identity = (some handler, p) := by
  rw [NativeKeyProvider.getSharedKey, hexplicit]

/-- Fetching keys leaves the explicit keys alone. -/
theorem getSharedKeys_participantKeys (p : NativeKeyProvider) (identities : List String) :
    (getSharedKeys p identities).participantKeys = p.participantKeys := by
  induction identities generalizing p with
  | nil => rfl
  | cons identity rest ih =>
    apply (ih (p.getSharedKey identity).2).trans
    rw [NativeKeyProvider.getSharedKey]
    split
    · rfl
    · split
      · rfl
      · split
        · rfl
        · rfl

variable {index : Nat} {key : Bytes}

/-- After a shared key is set, every participant without explicit keys is given it. -/
theorem SharedCarries.getSharedKey (h : SharedCarries kdf p index key) {identity : String}
    (hexplicit : p.participantKeys[identity]? = none) :
    SharedCarries kdf (p.getSharedKey identity).2 index key ∧
      ∃ handler, (p.getSharedKey identity).1 = some handler ∧
        Carries kdf (p.getSharedKey identity).2.heap handler index key := by
  obtain ⟨shared, hshared, hcarries⟩ := h.shared
  obtain ⟨handler, hget, hheap, hkept, -, hhandler, hclones⟩ :=
    getSharedKey_cases identity hexplicit hshared
  constructor
  · constructor
    · exact ⟨shared, hkept.trans hshared, hheap ▸ hcarries⟩
    · intro other clone hclone
      rw [hheap]
      rcases hclones other clone hclone with rfl | hold
      · exact hcarries
      · exact h.clones other clone hold
  · refine ⟨handler, hget, ?_⟩
    rw [hheap]
    rcases hhandler with rfl | hclone
    · exact hcarries
    · exact h.clones identity handler hclone

theorem SharedCarries.getSharedKeys (h : SharedCarries kdf p index key)
    (identities : List String) : SharedCarries kdf (getSharedKeys p identities) index key := by
  induction identities generalizing p with
  | nil => exact h
  | cons identity rest ih =>
    apply ih
    cases hexplicit : p.participantKeys[identity]? with
    | none => exact (h.getSharedKey hexplicit).1
    | some handler =>
      dsimp only
      rw [getSharedKey_of_explicit hexplicit]
      exact h

/-- After a shared key is removed, no participant without explicit keys is given one. -/
theorem SharedEmpty.getSharedKey (h : SharedEmpty p index) {identity : String}
    (hexplicit : p.participantKeys[identity]? = none) :
    SharedEmpty (p.getSharedKey identity).2 index ∧
      ∃ handler, (p.getSharedKey identity).1 = some handler ∧ handler.slot index = none := by
  obtain ⟨shared, hshared, hslot⟩ := h.shared
  obtain ⟨handler, hget, -, hkept, -, hhandler, hclones⟩ :=
    getSharedKey_cases identity hexplicit hshared
  constructor
  · constructor
    · exact ⟨shared, hkept.trans hshared, hslot⟩
    · intro other clone hclone
      rcases hclones other clone hclone with rfl | hold
      · exact hslot
      · exact h.clones other clone hold
  · refine ⟨handler, hget, ?_⟩
    rcases hhandler with rfl | hclone
    · exact hslot
    · exact h.clones identity handler hclone

theorem SharedEmpty.getSharedKeys (h : SharedEmpty p index) (identities : List String) :
    SharedEmpty (getSharedKeys p identities) index := by
  induction identities generalizing p with
  | nil => exact h
  | cons identity rest ih =>
    apply ih
    cases hexplicit : p.participantKeys[identity]? with
    | none => exact (h.getSharedKey hexplicit).1
    | some handler =>
      dsimp only
      rw [getSharedKey_of_explicit hexplicit]
      exact h

/-! ### The public operations -/

/-- Whoever else fetches its key first, a participant without explicit keys is given a handler
    with this key set at the slot, or with none. -/
def SharedKeyIs (p : NativeKeyProvider) (index : Nat) (keySet : Option KeySet) : Prop :=
  ∀ (earlier : List String) (identity : String), p.participantKeys[identity]? = none →
    ∃ handler, ((getSharedKeys p earlier).getSharedKey identity).1 = some handler ∧
      handler.getKeySet ((getSharedKeys p earlier).getSharedKey identity).2.heap index = keySet

theorem SharedCarries.sharedKeyIs (h : SharedCarries kdf p index key) :
    SharedKeyIs p index (some ⟨key, kdf.deriveKey key⟩) := by
  intro earlier identity hexplicit
  rw [← getSharedKeys_participantKeys p earlier] at hexplicit
  exact ((h.getSharedKeys earlier).getSharedKey hexplicit).2

theorem SharedEmpty.sharedKeyIs (h : SharedEmpty p index) : SharedKeyIs p index none := by
  intro earlier identity hexplicit
  rw [← getSharedKeys_participantKeys p earlier] at hexplicit
  obtain ⟨-, handler, hget, hslot⟩ := (h.getSharedKeys earlier).getSharedKey hexplicit
  refine ⟨handler, hget, ?_⟩
  rw [KeyHandler.getKeySet, hslot]
  rfl

theorem error_of_validateKeyIndex {error : KeyOperationResult}
    (hvalid : validateKeyIndex p index = some error) : error.error ≠ none := by
  rw [validateKeyIndex] at hvalid
  split at hvalid
  · cases hvalid
  · cases hvalid
    exact Option.some_ne_none _

theorem sharedKeyIs_setSharedKey (h : Apart p) (key : Bytes) (index : Nat)
    (hok : (setSharedKey kdf p key index).1.error = none) :
    SharedKeyIs (setSharedKey kdf p key index).2 index (some ⟨key, kdf.deriveKey key⟩) := by
  rw [setSharedKey] at hok ⊢
  cases hvalid : validateKeyIndex p index with
  | some error =>
    rw [hvalid] at hok
    exact absurd hok (error_of_validateKeyIndex hvalid)
  | none =>
    rw [hvalid] at hok
    dsimp only at hok ⊢
    split at hok
    · cases hok
    · rename_i hkey
      rw [if_neg hkey]
      split at hok
      · rename_i hset
        exact ((setSharedKey_spec h index key).2 hset).sharedKeyIs
      · cases hok

theorem sharedKeyIs_ratchetSharedKey (h : Apart p) (index : Nat)
    (hok : (ratchetSharedKey kdf p index).1.error = none) :
    SharedKeyIs (ratchetSharedKey kdf p index).2 index
      (some ⟨(ratchetSharedKey kdf p index).1.key,
        kdf.deriveKey (ratchetSharedKey kdf p index).1.key⟩) := by
  rw [ratchetSharedKey] at hok ⊢
  cases hvalid : validateKeyIndex p index with
  | some error =>
    rw [hvalid] at hok
    exact absurd hok (error_of_validateKeyIndex hvalid)
  | none =>
    rw [hvalid] at hok
    dsimp only [keyResult] at hok ⊢
    split at hok
    · cases hok
    · rename_i hkey
      rw [if_neg hkey]
      exact ((ratchetSharedKey_spec h index).2 (Bool.not_eq_true _ ▸ hkey)).sharedKeyIs

theorem sharedKeyIs_removeSharedKey (h : Apart p) (index : Nat)
    (hok : (removeSharedKey kdf p index).1.error = none) :
    SharedKeyIs (removeSharedKey kdf p index).2 index none := by
  rw [removeSharedKey] at hok ⊢
  cases hvalid : validateKeyIndex p index with
  | some error =>
    rw [hvalid] at hok
    exact absurd hok (error_of_validateKeyIndex hvalid)
  | none =>
    rw [hvalid] at hok
    dsimp only [removedResult] at hok ⊢
    split at hok
    · rename_i hremoved
      exact ((removeSharedKey_spec h index).2 hremoved).sharedKeyIs
    · cases hok

end Runs

/-- **Shared keys and explicit keys stay apart and up to date.**  In a reachable provider no
    participant has both explicit keys and a clone, and after a shared key is set, ratcheted or
    removed, `GetSharedKey` gives every participant without explicit keys the new key at the
    slot, respectively none. -/
theorem shared_and_explicit_apart (kdf : KeyDerivation) {p : NativeKeyProvider}
    (hp : Reachable kdf p) :
    (∀ identity : String, ¬ (identity ∈ p.participantKeys ∧ identity ∈ p.sharedClones)) ∧
    (∀ (key : E2eeKey) (index : Nat), (setSharedKey kdf p key index).1.error = none →
      SharedKeyIs (setSharedKey kdf p key index).2 index (some ⟨key, kdf.deriveKey key⟩)) ∧
    (∀ index : Nat, (ratchetSharedKey kdf p index).1.error = none →
      SharedKeyIs (ratchetSharedKey kdf p index).2 index
        (some ⟨(ratchetSharedKey kdf p index).1.key,
          kdf.deriveKey (ratchetSharedKey kdf p index).1.key⟩)) ∧
    (∀ index : Nat, (removeSharedKey kdf p index).1.error = none →
      SharedKeyIs (removeSharedKey kdf p index).2 index none) := by
  have hapart := apart_of_reachable hp
  refine ⟨?_, sharedKeyIs_setSharedKey hapart, sharedKeyIs_ratchetSharedKey hapart,
    sharedKeyIs_removeSharedKey hapart⟩
  rintro identity ⟨hexplicit, hclone⟩
  have hnone := hapart.disjoint identity _ (ExtTreeMap.getElem?_eq_some_getElem hexplicit)
  rw [ExtTreeMap.getElem?_eq_some_getElem hclone] at hnone
  cases hnone

/-- A provider whose shared key bob has fetched, with an explicit key of alice. -/
def fetchedByBob : NativeKeyProvider := (sharedAndExplicit.getSharedKey "bob").2

theorem shared_and_explicit_apart_fetchedByBob :
    ¬ ("bob" ∈ fetchedByBob.participantKeys ∧ "bob" ∈ fetchedByBob.sharedClones) ∧
      SharedKeyIs (setSharedKey rotatingDerivation fetchedByBob [5] 0).2 0 (some ⟨[5], [5]⟩) ∧
      SharedKeyIs (removeSharedKey rotatingDerivation fetchedByBob 0).2 0 none := by
  obtain ⟨hdisjoint, hset, -, hremove⟩ := shared_and_explicit_apart rotatingDerivation
    (.getSharedKey sharedAndExplicit_reachable "bob")
  exact ⟨hdisjoint "bob", hset [5] 0 (by decide), hremove 0 (by decide)⟩

end LivekitClient.SharedKeys
