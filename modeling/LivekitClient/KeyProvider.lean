/-
  LivekitClient/KeyProvider.lean
  ==============================
  **The E2EE key store** (`src/core/e2ee/key_provider.cpp`): the native key
  provider with its shared handler, the participants' explicit handlers and the
  clones of the shared handler, and the public `KeyProvider` in front of it.

  A handler is a ring of *references* to key sets.  `Clone` copies the ring and
  not the key sets, setting a key puts a fresh key set into one slot of one
  ring, and cleansing overwrites the bytes of a key set in place.  The key sets
  therefore live in a `CellHeap`, and the question of this file is who still
  refers to a key set when it is cleansed.

  Code outside the repository: `ParticipantKeyHandler` of libwebrtc.  Its two
  derivation functions are the parameters `KeyDerivation`.
-/
import LivekitClient.CellHeap
import LivekitClient.Types

namespace LivekitClient.KeyProvider

open Std

/-! ## 1. Handlers -/

abbrev E2eeKey := Bytes

/-- `ParticipantKeyHandler::KeySet`. -/
structure KeySet where
  material : Bytes
  encryptionKey : Bytes
deriving DecidableEq, Repr

/-- The derivations of `ParticipantKeyHandler` (libwebrtc): the 128-bit encryption
    key of a material under the provider's salt, and the next material. -/
structure KeyDerivation where
  deriveKey : Bytes → Bytes
  ratchetKeyMaterial : Bytes → Bytes

/-- `Cleanse`: `OPENSSL_cleanse` zeroes the bytes and keeps the length. -/
def cleanse (key : Bytes) : Bytes := key.map fun _ => 0

def KeySet.cleanse (keySet : KeySet) : KeySet :=
  ⟨KeyProvider.cleanse keySet.material, KeyProvider.cleanse keySet.encryptionKey⟩

theorem KeySet.cleanse_cleanse (keySet : KeySet) :
    keySet.cleanse.cleanse = keySet.cleanse := by
  simp [KeySet.cleanse, KeyProvider.cleanse]

/-- `ParticipantKeyHandler`: slot `i` of the ring names a cell of the heap of key
    sets. -/
structure KeyHandler where
  ring : List (Option Nat)
  hasValidKey : Bool
deriving DecidableEq, Repr

/-- The cell that slot `index` refers to. -/
def KeyHandler.slot (handler : KeyHandler) (index : Nat) : Option Nat :=
  handler.ring[index]?.join

def KeyHandler.getKeySet (heap : List KeySet) (handler : KeyHandler) (index : Nat) :
    Option KeySet :=
  (handler.slot index).bind fun addr => heap[addr]?

def KeyHandler.new (keyRingSize : Nat) : KeyHandler :=
  ⟨List.replicate keyRingSize none, false⟩

/-- `SetKeyFromMaterial`: a fresh key set in one slot. -/
def KeyHandler.setKeyFromMaterial (kdf : KeyDerivation) (heap : List KeySet)
    (handler : KeyHandler) (material : Bytes) (index : Nat) : List KeySet × KeyHandler :=
  (heap ++ [⟨material, kdf.deriveKey material⟩],
   { handler with ring := handler.ring.set index (some heap.length) })

/-- `SetKey`: `SetKeyFromMaterial` and `SetHasValidKey`. -/
def KeyHandler.setKey (kdf : KeyDerivation) (heap : List KeySet)
    (handler : KeyHandler) (material : Bytes) (index : Nat) : List KeySet × KeyHandler :=
  let (heap, handler) := handler.setKeyFromMaterial kdf heap material index
  (heap, { handler with hasValidKey := true })

/-- `RatchetKey`: the next material goes into the slot and is returned. -/
def KeyHandler.ratchetKey (kdf : KeyDerivation) (heap : List KeySet)
    (handler : KeyHandler) (index : Nat) : Bytes × List KeySet × KeyHandler :=
  match handler.getKeySet heap index with
  | none => ([], heap, handler)
  | some keySet =>
    let material := kdf.ratchetKeyMaterial keySet.material
    if material.isEmpty then ([], heap, handler)
    else (material, handler.setKey kdf heap material index)

/-! ## 2. The native provider -/

abbrev HandlerMap := ExtTreeMap String KeyHandler

/-- `NativeKeyProvider`; `heap` holds every key set that was ever created. -/
structure NativeKeyProvider where
  keyRingSize : Nat
  heap : List KeySet
  shared : Option KeyHandler
  participantKeys : HandlerMap
  sharedClones : HandlerMap

namespace NativeKeyProvider

variable (kdf : KeyDerivation)

def new (keyRingSize : Nat) : NativeKeyProvider := ⟨keyRingSize, [], none, ∅, ∅⟩

def validIndex (p : NativeKeyProvider) (index : Nat) : Bool := decide (index < p.keyRingSize)

/-- `Export`: a null handler and an empty slot both give the empty key. -/
def exportFrom (p : NativeKeyProvider) (handler : Option KeyHandler) (index : Nat) : E2eeKey :=
  match handler with
  | none => []
  | some handler =>
    if p.validIndex index then
      match handler.getKeySet p.heap index with
      | some keySet => keySet.material
      | none => []
    else []

/-- The cells that `CleanseHandler` visits. -/
def handlerCells (keyRingSize : Nat) (handler : KeyHandler) : List Nat :=
  (List.range keyRingSize).filterMap handler.slot

/-- `CleanseHandler`: overwrite every key set of the ring in place. -/
def cleanseHandler (p : NativeKeyProvider) (handler : KeyHandler) : NativeKeyProvider :=
  { p with heap := CellHeap.updateAll KeySet.cleanse (handlerCells p.keyRingSize handler) p.heap }

/-- `CleanseMap`. -/
def cleanseMap (p : NativeKeyProvider) (handlers : HandlerMap) : NativeKeyProvider :=
  handlers.toList.foldl (fun p entry => p.cleanseHandler entry.2) p

/-- The loop `entry.second->SetKey(key, key_index)` over the shared clones. -/
def setCloneKeys (p : NativeKeyProvider) (key : E2eeKey) (index : Nat) : NativeKeyProvider :=
  p.sharedClones.toList.foldl (fun p entry =>
    let (heap, handler) := entry.2.setKey kdf p.heap key index
    { p with heap := heap, sharedClones := p.sharedClones.insert entry.1 handler }) p

/-- `SetSharedKey`. -/
def setSharedKey (p : NativeKeyProvider) (index : Nat) (key : E2eeKey) :
    Bool × NativeKeyProvider :=
  if !p.validIndex index || key.isEmpty then (false, p)
  else
    let shared := p.shared.getD (KeyHandler.new p.keyRingSize)
    let (heap, shared) := shared.setKey kdf p.heap key index
    (true, setCloneKeys kdf { p with heap := heap, shared := some shared } key index)

/-- `GetSharedKey`: the explicit handler, else the clone, else a new clone. -/
def getSharedKey (p : NativeKeyProvider) (participantId : String) :
    Option KeyHandler × NativeKeyProvider :=
  match p.participantKeys[participantId]? with
  | some handler => (some handler, p)
  | none =>
    match p.sharedClones[participantId]? with
    | some clone => (some clone, p)
    | none =>
      match p.shared with
      | none => (none, p)
      | some shared =>
        (some shared, { p with sharedClones := p.sharedClones.insert participantId shared })

/-- `RatchetSharedKey`. -/
def ratchetSharedKey (p : NativeKeyProvider) (index : Nat) : E2eeKey × NativeKeyProvider :=
  if !p.validIndex index then ([], p)
  else
    match p.shared with
    | none => ([], p)
    | some shared =>
      let (key, heap, shared) := shared.ratchetKey kdf p.heap index
      let p := { p with heap := heap, shared := some shared }
      if key.isEmpty then ([], p) else (key, setCloneKeys kdf p key index)

def exportSharedKey (p : NativeKeyProvider) (index : Nat) : E2eeKey := p.exportFrom p.shared index

/-- `RemoveAndCleanse(participant_keys_, identity)`. -/
def removeParticipantKeysEntry (p : NativeKeyProvider) (identity : String) :
    Bool × NativeKeyProvider :=
  match p.participantKeys[identity]? with
  | none => (false, p)
  | some handler =>
    let p := p.cleanseHandler handler
    (true, { p with participantKeys := p.participantKeys.erase identity })

/-- `RemoveAndCleanse(shared_clones_, identity)`. -/
def removeSharedClone (p : NativeKeyProvider) (identity : String) : Bool × NativeKeyProvider :=
  match p.sharedClones[identity]? with
  | none => (false, p)
  | some handler =>
    let p := p.cleanseHandler handler
    (true, { p with sharedClones := p.sharedClones.erase identity })

/-- `SetKey`. -/
def setKey (p : NativeKeyProvider) (participantId : String) (index : Nat) (key : E2eeKey) :
    Bool × NativeKeyProvider :=
  if participantId.isEmpty || !p.validIndex index || key.isEmpty then (false, p)
  else
    let p := (p.removeSharedClone participantId).2
    let handler := (p.participantKeys[participantId]?).getD (KeyHandler.new p.keyRingSize)
    let (heap, handler) := handler.setKey kdf p.heap key index
    (true, { p with heap := heap,
                    participantKeys := p.participantKeys.insert participantId handler })

/-- The handler that `RatchetKey` works on: the explicit one, else the clone (made
    from the shared handler if need be), which then becomes explicit. -/
def promote (p : NativeKeyProvider) (participantId : String) :
    Option KeyHandler × NativeKeyProvider :=
  match p.participantKeys[participantId]? with
  | some handler => (some handler, p)
  | none =>
    match p.sharedClones[participantId]? <|> p.shared with
    | none => (none, p)
    | some clone =>
      (some clone, { p with participantKeys := p.participantKeys.insert participantId clone,
                            sharedClones := p.sharedClones.erase participantId })

/-- `RatchetKey`. -/
def ratchetKey (p : NativeKeyProvider) (participantId : String) (index : Nat) :
    E2eeKey × NativeKeyProvider :=
  if participantId.isEmpty || !p.validIndex index then ([], p)
  else
    match p.promote participantId with
    | (none, p) => ([], p)
    | (some handler, p) =>
      let (key, heap, handler) := handler.ratchetKey kdf p.heap index
      (key, { p with heap := heap,
                     participantKeys := p.participantKeys.insert participantId handler })

/-- The handler whose slots `ExportKey` reads. -/
def exportHandler (p : NativeKeyProvider) (participantId : String) : Option KeyHandler :=
  match p.participantKeys[participantId]? with
  | some handler => some handler
  | none => p.sharedClones[participantId]?

def exportKey (p : NativeKeyProvider) (participantId : String) (index : Nat) : E2eeKey :=
  p.exportFrom (p.exportHandler participantId) index

/-- One turn of the loop of `RebuildWithout`. -/
def rebuildSlot (p : NativeKeyProvider) (oldHandler : KeyHandler) (removedIndex : Nat)
    (acc : List KeySet × KeyHandler) (index : Nat) : List KeySet × KeyHandler :=
  let material := ({ p with heap := acc.1 }).exportFrom (some oldHandler) index
  if index = removedIndex || material.isEmpty then acc
  else acc.2.setKey kdf acc.1 material index

/-- `RebuildWithout`: a new handler with the other slots' materials; the old handler
    is cleansed. -/
def rebuildWithout (p : NativeKeyProvider) (oldHandler : KeyHandler) (removedIndex : Nat) :
    KeyHandler × NativeKeyProvider :=
  let (heap, replacement) := (List.range p.keyRingSize).foldl
    (rebuildSlot kdf p oldHandler removedIndex) (p.heap, KeyHandler.new p.keyRingSize)
  (replacement, ({ p with heap := heap }).cleanseHandler oldHandler)

/-- `RemoveSharedKey`. -/
def removeSharedKey (p : NativeKeyProvider) (index : Nat) : Bool × NativeKeyProvider :=
  match p.shared with
  | none => (false, p)
  | some shared =>
    if !p.validIndex index || (p.exportFrom (some shared) index).isEmpty then (false, p)
    else
      let (replacement, p) := rebuildWithout kdf p shared index
      let p := { p with shared := some replacement }
      let p := p.cleanseMap p.sharedClones
      (true, { p with sharedClones := ∅ })

/-- `RemoveKey`. -/
def removeKey (p : NativeKeyProvider) (participantId : String) (index : Nat) :
    Bool × NativeKeyProvider :=
  if participantId.isEmpty || !p.validIndex index then (false, p)
  else
    match p.participantKeys[participantId]? with
    | none => (false, p)
    | some handler =>
      if (p.exportFrom (some handler) index).isEmpty then (false, p)
      else
        let (replacement, p) := rebuildWithout kdf p handler index
        (true, { p with participantKeys := p.participantKeys.insert participantId replacement })

/-- `RemoveParticipantKeys`. -/
def removeParticipantKeys (p : NativeKeyProvider) (participantId : String) :
    Bool × NativeKeyProvider :=
  let (explicitRemoved, p) := p.removeParticipantKeysEntry participantId
  let (cloneRemoved, p) := p.removeSharedClone participantId
  (explicitRemoved || cloneRemoved, p)

/-- `Clear`. -/
def clear (p : NativeKeyProvider) : NativeKeyProvider :=
  let p := match p.shared with
    | none => p
    | some shared => p.cleanseHandler shared
  let p := p.cleanseMap p.participantKeys
  let p := p.cleanseMap p.sharedClones
  { p with shared := none, participantKeys := ∅, sharedClones := ∅ }

/-- A decryptor that found a ratcheted key (or restores the old one) calls
    `SetKeyFromMaterial` on the handler `GetSharedKey` gave it. -/
def setKeyFromMaterial (p : NativeKeyProvider) (participantId : String) (material : Bytes)
    (index : Nat) : NativeKeyProvider :=
  match p.participantKeys[participantId]? with
  | some handler =>
    let (heap, handler) := handler.setKeyFromMaterial kdf p.heap material index
    { p with heap := heap, participantKeys := p.participantKeys.insert participantId handler }
  | none =>
    match p.sharedClones[participantId]? with
    | some handler =>
      let (heap, handler) := handler.setKeyFromMaterial kdf p.heap material index
      { p with heap := heap, sharedClones := p.sharedClones.insert participantId handler }
    | none => p

end NativeKeyProvider

/-! ## 3. The public provider -/

inductive KeyProviderErrorCode where
  | invalidKeyIndex
  | emptyKey
  | emptyParticipantIdentity
  | keyNotFound
  | cryptoFailure
deriving DecidableEq, Repr

structure KeyProviderError where
  code : KeyProviderErrorCode
  message : String
deriving DecidableEq, Repr

structure KeyOperationResult where
  key : E2eeKey
  error : Option KeyProviderError
deriving DecidableEq, Repr

def KeyOperationResult.success (key : E2eeKey := []) : KeyOperationResult := ⟨key, none⟩

def KeyOperationResult.failure (code : KeyProviderErrorCode) (message : String) :
    KeyOperationResult := ⟨[], some ⟨code, message⟩⟩

def missingKeyError : KeyProviderError := ⟨.keyNotFound, "The requested E2EE key is not set"⟩

/-- `ValidateKeyIndex`: the error to return, if any. -/
def validateKeyIndex (p : NativeKeyProvider) (keyIndex : Nat) : Option KeyOperationResult :=
  if keyIndex < p.keyRingSize then none
  else some (.failure .invalidKeyIndex "E2EE key index is outside the configured key ring")

def emptyIdentityError : KeyOperationResult :=
  .failure .emptyParticipantIdentity "Participant identity must not be empty"

def emptyKeyError : KeyOperationResult := .failure .emptyKey "E2EE keys must not be empty"

/-- An empty exported or ratcheted key is reported as a missing one. -/
def keyResult (key : E2eeKey) : KeyOperationResult :=
  if key.isEmpty then ⟨[], some missingKeyError⟩ else .success key

def removedResult (removed : Bool) : KeyOperationResult :=
  if removed then .success else ⟨[], some missingKeyError⟩

/-- The operations of `KeyProvider` that change it. -/
inductive Op where
  | setSharedKey (key : E2eeKey) (keyIndex : Nat)
  | ratchetSharedKey (keyIndex : Nat)
  | removeSharedKey (keyIndex : Nat)
  | setKey (participantIdentity : String) (key : E2eeKey) (keyIndex : Nat)
  | ratchetKey (participantIdentity : String) (keyIndex : Nat)
  | removeKey (participantIdentity : String) (keyIndex : Nat)
  | removeParticipantKeys (participantIdentity : String)
deriving DecidableEq, Repr

section PublicProvider

variable (kdf : KeyDerivation)

def setSharedKey (p : NativeKeyProvider) (key : E2eeKey) (keyIndex : Nat) :
    KeyOperationResult × NativeKeyProvider :=
  match validateKeyIndex p keyIndex with
  | some error => (error, p)
  | none =>
    if key.isEmpty then (emptyKeyError, p)
    else
      let (ok, p) := p.setSharedKey kdf keyIndex key
      (if ok then .success else .failure .cryptoFailure "Failed to derive the E2EE shared key", p)

def exportSharedKey (p : NativeKeyProvider) (keyIndex : Nat) : KeyOperationResult :=
  (validateKeyIndex p keyIndex).getD (keyResult (p.exportSharedKey keyIndex))

def ratchetSharedKey (p : NativeKeyProvider) (keyIndex : Nat) :
    KeyOperationResult × NativeKeyProvider :=
  match validateKeyIndex p keyIndex with
  | some error => (error, p)
  | none =>
    let (key, p) := p.ratchetSharedKey kdf keyIndex
    (keyResult key, p)

def removeSharedKey (p : NativeKeyProvider) (keyIndex : Nat) :
    KeyOperationResult × NativeKeyProvider :=
  match validateKeyIndex p keyIndex with
  | some error => (error, p)
  | none =>
    let (removed, p) := p.removeSharedKey kdf keyIndex
    (removedResult removed, p)

def setKey (p : NativeKeyProvider) (identity : String) (key : E2eeKey) (keyIndex : Nat) :
    KeyOperationResult × NativeKeyProvider :=
  if identity.isEmpty then (emptyIdentityError, p)
  else
    match validateKeyIndex p keyIndex with
    | some error => (error, p)
    | none =>
      if key.isEmpty then (emptyKeyError, p)
      else
        let (ok, p) := p.setKey kdf identity keyIndex key
        (if ok then .success
         else .failure .cryptoFailure "Failed to derive the participant E2EE key", p)

def exportKey (p : NativeKeyProvider) (identity : String) (keyIndex : Nat) :
    KeyOperationResult :=
  if identity.isEmpty then emptyIdentityError
  else (validateKeyIndex p keyIndex).getD (keyResult (p.exportKey identity keyIndex))

def ratchetKey (p : NativeKeyProvider) (identity : String) (keyIndex : Nat) :
    KeyOperationResult × NativeKeyProvider :=
  if identity.isEmpty then (emptyIdentityError, p)
  else
    match validateKeyIndex p keyIndex with
    | some error => (error, p)
    | none =>
      let (key, p) := p.ratchetKey kdf identity keyIndex
      (keyResult key, p)

def removeKey (p : NativeKeyProvider) (identity : String) (keyIndex : Nat) :
    KeyOperationResult × NativeKeyProvider :=
  if identity.isEmpty then (emptyIdentityError, p)
  else
    match validateKeyIndex p keyIndex with
    | some error => (error, p)
    | none =>
      let (removed, p) := p.removeKey kdf identity keyIndex
      (removedResult removed, p)

def removeParticipantKeys (p : NativeKeyProvider) (identity : String) :
    KeyOperationResult × NativeKeyProvider :=
  if identity.isEmpty then (emptyIdentityError, p)
  else
    let (removed, p) := p.removeParticipantKeys identity
    (removedResult removed, p)

/-- Run one public operation. -/
def apply (p : NativeKeyProvider) : Op → KeyOperationResult × NativeKeyProvider
  | .setSharedKey key keyIndex => setSharedKey kdf p key keyIndex
  | .ratchetSharedKey keyIndex => ratchetSharedKey kdf p keyIndex
  | .removeSharedKey keyIndex => removeSharedKey kdf p keyIndex
  | .setKey identity key keyIndex => setKey kdf p identity key keyIndex
  | .ratchetKey identity keyIndex => ratchetKey kdf p identity keyIndex
  | .removeKey identity keyIndex => removeKey kdf p identity keyIndex
  | .removeParticipantKeys identity => removeParticipantKeys p identity

/-- Everything that changes a provider: the public operations, `Clear`, and what
    the cryptors do to it (`GetSharedKey` at each frame, `SetKeyFromMaterial` at an
    automatic ratchet). -/
inductive Reachable : NativeKeyProvider → Prop
  | new (keyRingSize : Nat) (hpos : 0 < keyRingSize) (hmax : keyRingSize ≤ 256) :
      Reachable (.new keyRingSize)
  | op {p : NativeKeyProvider} (hp : Reachable p) (op : Op) : Reachable (apply kdf p op).2
  | getSharedKey {p : NativeKeyProvider} (hp : Reachable p) (participantId : String) :
      Reachable (p.getSharedKey participantId).2
  | setKeyFromMaterial {p : NativeKeyProvider} (hp : Reachable p) (participantId : String)
      (material : Bytes) (index : Nat) :
      Reachable (p.setKeyFromMaterial kdf participantId material index)
  | clear {p : NativeKeyProvider} (hp : Reachable p) : Reachable p.clear

end PublicProvider

/-! ## 4. Well-formed providers

Every slot of every handler refers to a cell of the heap.  Fresh cells are
appended, so this is what keeps them apart from the cells already in use. -/

/-- Every slot refers to one of the first `n` cells. -/
def KeyHandler.Below (n : Nat) (handler : KeyHandler) : Prop :=
  ∀ index addr, handler.slot index = some addr → addr < n

theorem KeyHandler.Below.mono {n m : Nat} {handler : KeyHandler} (h : handler.Below n)
    (hle : n ≤ m) : handler.Below m :=
  fun index addr hslot => Nat.lt_of_lt_of_le (h index addr hslot) hle

theorem KeyHandler.below_new (n keyRingSize : Nat) : (KeyHandler.new keyRingSize).Below n := by
  intro index addr hslot
  simp only [KeyHandler.slot, KeyHandler.new, List.getElem?_replicate] at hslot
  split at hslot <;> simp at hslot

/-- A slot after `SetKeyFromMaterial`: the fresh cell at `index`, else as before. -/
theorem KeyHandler.slot_set (handler : KeyHandler) (index addr : Nat) (valid : Bool) (j b : Nat)
    (hslot : (KeyHandler.mk (handler.ring.set index (some addr)) valid).slot j = some b) :
    b = addr ∨ handler.slot j = some b := by
  simp only [KeyHandler.slot, List.getElem?_set] at hslot
  split at hslot
  · split at hslot
    · left
      simpa using hslot.symm
    · simp at hslot
  · right
    exact hslot

theorem KeyHandler.Below.setKeyFromMaterial (kdf : KeyDerivation) {heap : List KeySet}
    {handler : KeyHandler} (h : handler.Below heap.length) (material : Bytes) (index : Nat) :
    (handler.setKeyFromMaterial kdf heap material index).2.Below
      (handler.setKeyFromMaterial kdf heap material index).1.length := by
  intro j b hslot
  simp only [KeyHandler.setKeyFromMaterial, List.length_append, List.length_singleton]
  rcases KeyHandler.slot_set handler index heap.length handler.hasValidKey j b hslot with hb | hb
  · omega
  · have := h j b hb
    omega

theorem KeyHandler.Below.setKey (kdf : KeyDerivation) {heap : List KeySet}
    {handler : KeyHandler} (h : handler.Below heap.length) (material : Bytes) (index : Nat) :
    (handler.setKey kdf heap material index).2.Below
      (handler.setKey kdf heap material index).1.length :=
  h.setKeyFromMaterial kdf material index

theorem KeyHandler.touched_setKey (kdf : KeyDerivation) (heap : List KeySet)
    (handler : KeyHandler) (material : Bytes) (index : Nat) :
    CellHeap.Touched KeySet.cleanse [] heap (handler.setKey kdf heap material index).1 :=
  CellHeap.Touched.alloc _ _ _

/-- `RatchetKey` allocates at most one cell and stays well-formed. -/
theorem KeyHandler.ratchetKey_spec (kdf : KeyDerivation) {heap : List KeySet}
    {handler : KeyHandler} (h : handler.Below heap.length) (index : Nat) :
    CellHeap.Touched KeySet.cleanse [] heap (handler.ratchetKey kdf heap index).2.1 ∧
      (handler.ratchetKey kdf heap index).2.2.Below
        (handler.ratchetKey kdf heap index).2.1.length := by
  unfold KeyHandler.ratchetKey
  split
  · exact ⟨CellHeap.Touched.refl _ _, h⟩
  · dsimp only
    split
    · exact ⟨CellHeap.Touched.refl _ _, h⟩
    · exact ⟨KeyHandler.touched_setKey kdf heap handler _ index, h.setKey kdf _ index⟩

namespace NativeKeyProvider

structure WellFormed (p : NativeKeyProvider) : Prop where
  shared : ∀ handler, p.shared = some handler → handler.Below p.heap.length
  participantKeys : ∀ (identity : String) (handler : KeyHandler),
    p.participantKeys[identity]? = some handler → handler.Below p.heap.length
  sharedClones : ∀ (identity : String) (handler : KeyHandler),
    p.sharedClones[identity]? = some handler → handler.Below p.heap.length

/-- A provider whose heap only grew, and whose handlers are old ones or below the
    new length, is well-formed again. -/
theorem WellFormed.of_handlers {p q : NativeKeyProvider} (hp : p.WellFormed)
    (hlen : p.heap.length ≤ q.heap.length)
    (hshared : ∀ handler, q.shared = some handler →
      p.shared = some handler ∨ handler.Below q.heap.length)
    (hparticipant : ∀ (identity : String) (handler : KeyHandler),
      q.participantKeys[identity]? = some handler →
        p.participantKeys[identity]? = some handler ∨ handler.Below q.heap.length)
    (hclones : ∀ (identity : String) (handler : KeyHandler),
      q.sharedClones[identity]? = some handler →
        p.sharedClones[identity]? = some handler ∨ handler.Below q.heap.length) :
    q.WellFormed := by
  constructor
  · intro handler hh
    rcases hshared handler hh with h | h
    · exact (hp.shared handler h).mono hlen
    · exact h
  · intro identity handler hh
    rcases hparticipant identity handler hh with h | h
    · exact (hp.participantKeys identity handler h).mono hlen
    · exact h
  · intro identity handler hh
    rcases hclones identity handler hh with h | h
    · exact (hp.sharedClones identity handler h).mono hlen
    · exact h

theorem wellFormed_new (keyRingSize : Nat) : (new keyRingSize).WellFormed := by
  constructor <;> simp [new]

/-! ### What the helpers do -/

theorem touched_cleanseHandler (p : NativeKeyProvider) (handler : KeyHandler) :
    CellHeap.Touched KeySet.cleanse (handlerCells p.keyRingSize handler) p.heap
      (p.cleanseHandler handler).heap :=
  CellHeap.Touched.updateAll KeySet.cleanse_cleanse _ _

/-- The cells `CleanseMap` visits. -/
def mapCells (keyRingSize : Nat) (handlers : HandlerMap) : List Nat :=
  handlers.toList.flatMap fun entry => handlerCells keyRingSize entry.2

/-- Cleansing changes nothing but the heap. -/
theorem cleanseFold_spec (entries : List (String × KeyHandler)) (p : NativeKeyProvider) :
    CellHeap.Touched KeySet.cleanse
      (entries.flatMap fun entry => handlerCells p.keyRingSize entry.2) p.heap
      (entries.foldl (fun p entry => p.cleanseHandler entry.2) p).heap ∧
    entries.foldl (fun p entry => p.cleanseHandler entry.2) p =
      { p with heap := (entries.foldl (fun p entry => p.cleanseHandler entry.2) p).heap } := by
  induction entries generalizing p with
  | nil => exact ⟨CellHeap.Touched.refl _ _, rfl⟩
  | cons entry entries ih =>
    obtain ⟨htouched, hrest⟩ := ih (p.cleanseHandler entry.2)
    constructor
    · exact (p.touched_cleanseHandler entry.2).trans KeySet.cleanse_cleanse htouched
    · simpa [cleanseHandler] using hrest

theorem touched_cleanseMap (p : NativeKeyProvider) (handlers : HandlerMap) :
    CellHeap.Touched KeySet.cleanse (mapCells p.keyRingSize handlers) p.heap
      (p.cleanseMap handlers).heap :=
  (cleanseFold_spec handlers.toList p).1

theorem cleanseMap_eq (p : NativeKeyProvider) (handlers : HandlerMap) :
    p.cleanseMap handlers = { p with heap := (p.cleanseMap handlers).heap } :=
  (cleanseFold_spec handlers.toList p).2

/-! ### The effect of an operation

What an operation can do is said once, by one of two relations; every result
below is derived from them. -/

/-- An operation on the shared keys: the cells in `cells` are cleansed, and no
    explicit handler changes. -/
structure SharedEffect (cells : List Nat) (p q : NativeKeyProvider) : Prop where
  wellFormed : q.WellFormed
  keyRingSize : q.keyRingSize = p.keyRingSize
  heap : CellHeap.Touched KeySet.cleanse cells p.heap q.heap
  participantKeys : q.participantKeys = p.participantKeys

/-- An operation on the keys of `identity`: the cells in `cells` are cleansed, and
    neither the shared handler nor another participant's handler changes. -/
structure ParticipantEffect (identity : String) (cells : List Nat)
    (p q : NativeKeyProvider) : Prop where
  wellFormed : q.WellFormed
  keyRingSize : q.keyRingSize = p.keyRingSize
  heap : CellHeap.Touched KeySet.cleanse cells p.heap q.heap
  shared : q.shared = p.shared
  others : ∀ other, other ≠ identity → q.exportHandler other = p.exportHandler other

theorem SharedEffect.refl {p : NativeKeyProvider} (hp : p.WellFormed) : SharedEffect [] p p :=
  ⟨hp, rfl, CellHeap.Touched.refl _ _, rfl⟩

theorem SharedEffect.trans {as bs : List Nat} {p q r : NativeKeyProvider}
    (h₁ : SharedEffect as p q) (h₂ : SharedEffect bs q r) : SharedEffect (as ++ bs) p r where
  wellFormed := h₂.wellFormed
  keyRingSize := h₂.keyRingSize.trans h₁.keyRingSize
  heap := h₁.heap.trans KeySet.cleanse_cleanse h₂.heap
  participantKeys := h₂.participantKeys.trans h₁.participantKeys

theorem ParticipantEffect.refl {p : NativeKeyProvider} (hp : p.WellFormed) (identity : String) :
    ParticipantEffect identity [] p p :=
  ⟨hp, rfl, CellHeap.Touched.refl _ _, rfl, fun _ _ => rfl⟩

theorem ParticipantEffect.trans {identity : String} {as bs : List Nat}
    {p q r : NativeKeyProvider} (h₁ : ParticipantEffect identity as p q)
    (h₂ : ParticipantEffect identity bs q r) : ParticipantEffect identity (as ++ bs) p r where
  wellFormed := h₂.wellFormed
  keyRingSize := h₂.keyRingSize.trans h₁.keyRingSize
  heap := h₁.heap.trans KeySet.cleanse_cleanse h₂.heap
  shared := h₂.shared.trans h₁.shared
  others := fun other hne => (h₂.others other hne).trans (h₁.others other hne)

/-- The loop over the clones allocates one cell for each of them. -/
theorem setCloneKeys_effect (kdf : KeyDerivation) {p : NativeKeyProvider} (hp : p.WellFormed)
    (key : E2eeKey) (index : Nat) : SharedEffect [] p (setCloneKeys kdf p key index) := by
  -- the entries are those of `p`; each turn starts from a provider `q` that extends it
  have hloop : ∀ (entries : List (String × KeyHandler)) (q : NativeKeyProvider),
      (∀ entry ∈ entries, entry.2.Below p.heap.length) → SharedEffect [] p q →
      SharedEffect [] p (entries.foldl (fun q entry =>
        let (heap, handler) := entry.2.setKey kdf q.heap key index
        { q with heap := heap, sharedClones := q.sharedClones.insert entry.1 handler }) q) := by
    intro entries
    induction entries with
    | nil => exact fun q _ hq => hq
    | cons entry entries ih =>
      intro q hbelow hq
      have hentry : entry.2.Below q.heap.length :=
        (hbelow entry (by simp)).mono hq.heap.length_le
      have htouched := KeyHandler.touched_setKey kdf q.heap entry.2 key index
      apply ih _ (fun e he => hbelow e (by simp [he]))
      refine ⟨?_, hq.keyRingSize, hq.heap.after KeySet.cleanse_cleanse htouched,
        hq.participantKeys⟩
      refine hq.wellFormed.of_handlers htouched.length_le (fun _ h => Or.inl h)
        (fun _ _ h => Or.inl h) ?_
      intro identity handler hh
      simp only [ExtTreeMap.getElem?_insert] at hh
      split at hh
      · right
        cases hh
        exact hentry.setKey kdf key index
      · exact Or.inl hh
  refine hloop _ _ ?_ (SharedEffect.refl hp)
  intro entry hentry
  exact hp.sharedClones entry.1 entry.2 (ExtTreeMap.mem_toList_iff_getElem?_eq_some.mp hentry)

theorem setSharedKey_effect (kdf : KeyDerivation) {p : NativeKeyProvider} (hp : p.WellFormed)
    (index : Nat) (key : E2eeKey) : SharedEffect [] p (p.setSharedKey kdf index key).2 := by
  unfold setSharedKey
  split
  · exact SharedEffect.refl hp
  · dsimp only
    have hbelow : (p.shared.getD (KeyHandler.new p.keyRingSize)).Below p.heap.length := by
      cases hshared : p.shared with
      | none => exact KeyHandler.below_new _ _
      | some handler => exact hp.shared handler hshared
    have htouched := KeyHandler.touched_setKey kdf p.heap
      (p.shared.getD (KeyHandler.new p.keyRingSize)) key index
    have hfirst : SharedEffect [] p
        { p with heap := ((p.shared.getD (KeyHandler.new p.keyRingSize)).setKey kdf p.heap
                   key index).1,
                 shared := some ((p.shared.getD (KeyHandler.new p.keyRingSize)).setKey kdf
                   p.heap key index).2 } := by
      refine ⟨?_, rfl, htouched, rfl⟩
      refine hp.of_handlers htouched.length_le ?_ (fun _ _ h => Or.inl h) (fun _ _ h => Or.inl h)
      intro handler hh
      cases hh
      exact Or.inr (hbelow.setKey kdf key index)
    exact hfirst.trans (setCloneKeys_effect kdf hfirst.wellFormed key index)

theorem ratchetSharedKey_effect (kdf : KeyDerivation) {p : NativeKeyProvider}
    (hp : p.WellFormed) (index : Nat) : SharedEffect [] p (p.ratchetSharedKey kdf index).2 := by
  unfold ratchetSharedKey
  split
  · exact SharedEffect.refl hp
  · cases hshared : p.shared with
    | none => exact SharedEffect.refl hp
    | some shared =>
      obtain ⟨htouched, hbelow⟩ :=
        KeyHandler.ratchetKey_spec kdf (hp.shared shared hshared) index
      have hfirst : SharedEffect [] p
          { p with heap := (shared.ratchetKey kdf p.heap index).2.1,
                   shared := some (shared.ratchetKey kdf p.heap index).2.2 } := by
        refine ⟨?_, rfl, htouched, rfl⟩
        refine hp.of_handlers htouched.length_le ?_ (fun _ _ h => Or.inl h)
          (fun _ _ h => Or.inl h)
        intro handler hh
        cases hh
        exact Or.inr hbelow
      dsimp only
      split
      · exact hfirst
      · exact hfirst.trans (setCloneKeys_effect kdf hfirst.wellFormed _ index)

/-- `RebuildWithout`: fresh cells for the replacement, the old ring cleansed. -/
theorem rebuildWithout_spec (kdf : KeyDerivation) (p : NativeKeyProvider)
    (oldHandler : KeyHandler) (removedIndex : Nat) :
    (rebuildWithout kdf p oldHandler removedIndex).2 =
        { p with heap := (rebuildWithout kdf p oldHandler removedIndex).2.heap } ∧
      CellHeap.Touched KeySet.cleanse (handlerCells p.keyRingSize oldHandler) p.heap
        (rebuildWithout kdf p oldHandler removedIndex).2.heap ∧
      (rebuildWithout kdf p oldHandler removedIndex).1.Below
        (rebuildWithout kdf p oldHandler removedIndex).2.heap.length := by
  have hloop : ∀ (indices : List Nat) (acc : List KeySet × KeyHandler),
      CellHeap.Touched KeySet.cleanse [] p.heap acc.1 → acc.2.Below acc.1.length →
      CellHeap.Touched KeySet.cleanse [] p.heap
        (indices.foldl (rebuildSlot kdf p oldHandler removedIndex) acc).1 ∧
      (indices.foldl (rebuildSlot kdf p oldHandler removedIndex) acc).2.Below
        (indices.foldl (rebuildSlot kdf p oldHandler removedIndex) acc).1.length := by
    intro indices
    induction indices with
    | nil => exact fun acc htouched hbelow => ⟨htouched, hbelow⟩
    | cons index indices ih =>
      intro acc htouched hbelow
      rw [List.foldl_cons]
      apply ih
      · unfold rebuildSlot
        dsimp only
        split
        · exact htouched
        · exact htouched.after KeySet.cleanse_cleanse
            (KeyHandler.touched_setKey kdf acc.1 acc.2 _ index)
      · unfold rebuildSlot
        dsimp only
        split
        · exact hbelow
        · exact hbelow.setKey kdf _ index
  obtain ⟨htouched, hbelow⟩ := hloop (List.range p.keyRingSize)
    (p.heap, KeyHandler.new p.keyRingSize) (CellHeap.Touched.refl _ _) (KeyHandler.below_new _ _)
  refine ⟨rfl, ?_, ?_⟩
  · apply htouched.after KeySet.cleanse_cleanse
    exact CellHeap.Touched.updateAll KeySet.cleanse_cleanse _ _
  · simpa [rebuildWithout, cleanseHandler] using hbelow

/-- The cells that `RemoveSharedKey` cleanses. -/
def removeSharedCells (p : NativeKeyProvider) (index : Nat) : List Nat :=
  match p.shared with
  | none => []
  | some shared =>
    if !p.validIndex index || (p.exportFrom (some shared) index).isEmpty then []
    else handlerCells p.keyRingSize shared ++ mapCells p.keyRingSize p.sharedClones

/-- A new shared handler, and all clones cleansed and dropped. -/
theorem sharedEffect_replaceShared {p : NativeKeyProvider} (hp : p.WellFormed)
    {heap : List KeySet} {replacement : KeyHandler} {cells : List Nat}
    (htouched : CellHeap.Touched KeySet.cleanse cells p.heap heap)
    (hbelow : replacement.Below heap.length) :
    SharedEffect (cells ++ mapCells p.keyRingSize p.sharedClones) p
      { cleanseMap { p with heap := heap, shared := some replacement } p.sharedClones with
        sharedClones := ∅ } := by
  have hmap := touched_cleanseMap { p with heap := heap, shared := some replacement }
    p.sharedClones
  have hmapEq := cleanseMap_eq { p with heap := heap, shared := some replacement }
    p.sharedClones
  have hheap := htouched.trans KeySet.cleanse_cleanse hmap
  rw [hmapEq]
  refine ⟨?_, rfl, hheap, rfl⟩
  refine hp.of_handlers hheap.length_le ?_ (fun _ _ h => Or.inl h) (by simp)
  intro handler hh
  cases hh
  exact Or.inr (hbelow.mono hmap.length_le)

theorem removeSharedKey_effect (kdf : KeyDerivation) {p : NativeKeyProvider}
    (hp : p.WellFormed) (index : Nat) :
    SharedEffect (p.removeSharedCells index) p (p.removeSharedKey kdf index).2 := by
  unfold removeSharedKey removeSharedCells
  cases hshared : p.shared with
  | none => exact SharedEffect.refl hp
  | some shared =>
    dsimp only
    split
    · exact SharedEffect.refl hp
    · obtain ⟨hrest, htouched, hbelow⟩ := rebuildWithout_spec kdf p shared index
      rcases hrebuilt : rebuildWithout kdf p shared index with ⟨replacement, q⟩
      rw [hrebuilt] at hrest htouched hbelow
      dsimp only at hrest htouched hbelow ⊢
      rw [hrest]
      exact sharedEffect_replaceShared hp htouched hbelow

/-- The cells of the clone of `identity`. -/
def cloneCells (p : NativeKeyProvider) (identity : String) : List Nat :=
  match p.sharedClones[identity]? with
  | none => []
  | some handler => handlerCells p.keyRingSize handler

/-- The cells of the explicit handler of `identity`. -/
def explicitCells (p : NativeKeyProvider) (identity : String) : List Nat :=
  match p.participantKeys[identity]? with
  | none => []
  | some handler => handlerCells p.keyRingSize handler

theorem removeSharedClone_effect {p : NativeKeyProvider} (hp : p.WellFormed)
    (identity : String) :
    ParticipantEffect identity (p.cloneCells identity) p (p.removeSharedClone identity).2 := by
  unfold removeSharedClone cloneCells
  cases hclone : p.sharedClones[identity]? with
  | none => exact ParticipantEffect.refl hp identity
  | some handler =>
    have htouched := p.touched_cleanseHandler handler
    refine ⟨?_, rfl, htouched, rfl, ?_⟩
    · refine hp.of_handlers htouched.length_le (fun _ h => Or.inl h) (fun _ _ h => Or.inl h) ?_
      intro other h hh
      simp only [cleanseHandler, ExtTreeMap.getElem?_erase] at hh
      split at hh
      · simp at hh
      · exact Or.inl hh
    · intro other hne
      have hne' : ¬ identity = other := fun h => hne h.symm
      simp [exportHandler, cleanseHandler, ExtTreeMap.getElem?_erase, hne']

theorem removeParticipantKeysEntry_effect {p : NativeKeyProvider} (hp : p.WellFormed)
    (identity : String) :
    ParticipantEffect identity (p.explicitCells identity) p
      (p.removeParticipantKeysEntry identity).2 := by
  unfold removeParticipantKeysEntry explicitCells
  cases hkeys : p.participantKeys[identity]? with
  | none => exact ParticipantEffect.refl hp identity
  | some handler =>
    have htouched := p.touched_cleanseHandler handler
    refine ⟨?_, rfl, htouched, rfl, ?_⟩
    · refine hp.of_handlers htouched.length_le (fun _ h => Or.inl h) ?_ (fun _ _ h => Or.inl h)
      intro other h hh
      simp only [cleanseHandler, ExtTreeMap.getElem?_erase] at hh
      split at hh
      · simp at hh
      · exact Or.inl hh
    · intro other hne
      have hne' : ¬ identity = other := fun h => hne h.symm
      simp [exportHandler, cleanseHandler, ExtTreeMap.getElem?_erase, hne']

/-- Putting a well-formed handler in as the explicit one of `identity`. -/
theorem insertExplicit_effect {p : NativeKeyProvider} (hp : p.WellFormed) (identity : String)
    {heap : List KeySet} {handler : KeyHandler} {cells : List Nat}
    (htouched : CellHeap.Touched KeySet.cleanse cells p.heap heap)
    (hbelow : handler.Below heap.length) :
    ParticipantEffect identity cells p
      { p with heap := heap,
               participantKeys := p.participantKeys.insert identity handler } := by
  refine ⟨?_, rfl, htouched, rfl, ?_⟩
  · refine hp.of_handlers htouched.length_le (fun _ h => Or.inl h) ?_ (fun _ _ h => Or.inl h)
    intro other h hh
    simp only [ExtTreeMap.getElem?_insert] at hh
    split at hh
    · right
      cases hh
      exact hbelow
    · exact Or.inl hh
  · intro other hne
    have hne' : ¬ identity = other := fun h => hne h.symm
    simp [exportHandler, ExtTreeMap.getElem?_insert, hne']

/-- The cells that `SetKey` cleanses: those of the clone it replaces. -/
def setKeyCells (p : NativeKeyProvider) (identity : String) (index : Nat) (key : E2eeKey) :
    List Nat :=
  if identity.isEmpty || !p.validIndex index || key.isEmpty then [] else p.cloneCells identity

theorem setKey_effect (kdf : KeyDerivation) {p : NativeKeyProvider} (hp : p.WellFormed)
    (identity : String) (index : Nat) (key : E2eeKey) :
    ParticipantEffect identity (p.setKeyCells identity index key) p
      (p.setKey kdf identity index key).2 := by
  unfold setKey setKeyCells
  split
  · exact ParticipantEffect.refl hp identity
  · have hclone := removeSharedClone_effect hp identity
    set q := (p.removeSharedClone identity).2
    have hbelow : ((q.participantKeys[identity]?).getD (KeyHandler.new q.keyRingSize)).Below
        q.heap.length := by
      cases hkeys : q.participantKeys[identity]? with
      | none => exact KeyHandler.below_new _ _
      | some handler => exact hclone.wellFormed.participantKeys identity handler hkeys
    have hinsert := insertExplicit_effect hclone.wellFormed identity
      (KeyHandler.touched_setKey kdf q.heap _ key index) (hbelow.setKey kdf key index)
    have htotal := hclone.trans hinsert
    simpa using htotal

theorem promote_effect {p : NativeKeyProvider} (hp : p.WellFormed) (identity : String) :
    ParticipantEffect identity [] p (p.promote identity).2 ∧
      ∀ handler, (p.promote identity).1 = some handler → handler.Below p.heap.length := by
  unfold promote
  cases hkeys : p.participantKeys[identity]? with
  | some handler =>
    refine ⟨ParticipantEffect.refl hp identity, ?_⟩
    intro h hh
    cases hh
    exact hp.participantKeys identity handler hkeys
  | none =>
    dsimp only
    cases hclone : p.sharedClones[identity]? <|> p.shared with
    | none => exact ⟨ParticipantEffect.refl hp identity, by simp⟩
    | some clone =>
      -- the clone is the existing one, or the ring of the shared handler
      have hbelow : clone.Below p.heap.length := by
        cases hc : p.sharedClones[identity]? with
        | some existing =>
          rw [hc] at hclone
          have heq : existing = clone := by simpa using hclone
          exact heq ▸ hp.sharedClones identity existing hc
        | none =>
          rw [hc] at hclone
          exact hp.shared clone (by simpa using hclone)
      refine ⟨?_, ?_⟩
      · refine ⟨?_, rfl, CellHeap.Touched.refl _ _, rfl, ?_⟩
        · refine hp.of_handlers (Nat.le_refl _) (fun _ h => Or.inl h) ?_ ?_
          · intro other h hh
            simp only [ExtTreeMap.getElem?_insert] at hh
            split at hh
            · right
              cases hh
              exact hbelow
            · exact Or.inl hh
          · intro other h hh
            simp only [ExtTreeMap.getElem?_erase] at hh
            split at hh
            · simp at hh
            · exact Or.inl hh
        · intro other hne
          have hne' : ¬ identity = other := fun h => hne h.symm
          simp [exportHandler, ExtTreeMap.getElem?_insert, ExtTreeMap.getElem?_erase, hne']
      · intro h hh
        cases hh
        exact hbelow

theorem ratchetKey_effect (kdf : KeyDerivation) {p : NativeKeyProvider} (hp : p.WellFormed)
    (identity : String) (index : Nat) :
    ParticipantEffect identity [] p (p.ratchetKey kdf identity index).2 := by
  unfold ratchetKey
  split
  · exact ParticipantEffect.refl hp identity
  · obtain ⟨heffect, hbelow⟩ := promote_effect hp identity
    rcases hpromote : p.promote identity with ⟨handler, q⟩
    rw [hpromote] at heffect hbelow
    cases handler with
    | none => exact heffect
    | some handler =>
      have hq : handler.Below q.heap.length :=
        (hbelow handler rfl).mono heffect.heap.length_le
      obtain ⟨htouched, hnew⟩ := KeyHandler.ratchetKey_spec kdf hq index
      exact heffect.trans (insertExplicit_effect heffect.wellFormed identity htouched hnew)

/-- The cells that `RemoveKey` cleanses: the whole old ring of the participant. -/
def removeKeyCells (p : NativeKeyProvider) (identity : String) (index : Nat) : List Nat :=
  if identity.isEmpty || !p.validIndex index || (p.exportFrom p.participantKeys[identity]? index).isEmpty
  then [] else p.explicitCells identity

theorem removeKey_effect (kdf : KeyDerivation) {p : NativeKeyProvider} (hp : p.WellFormed)
    (identity : String) (index : Nat) :
    ParticipantEffect identity (p.removeKeyCells identity index) p
      (p.removeKey kdf identity index).2 := by
  unfold removeKey removeKeyCells explicitCells
  cases hguard : (identity.isEmpty || !p.validIndex index) with
  | true => simpa using ParticipantEffect.refl hp identity
  | false =>
    cases hkeys : p.participantKeys[identity]? with
    | none => simpa [exportFrom] using ParticipantEffect.refl hp identity
    | some handler =>
      cases hempty : (p.exportFrom (some handler) index).isEmpty with
      | true => simpa [hempty] using ParticipantEffect.refl hp identity
      | false =>
        obtain ⟨hrest, htouched, hbelow⟩ := rebuildWithout_spec kdf p handler index
        have hinsert := insertExplicit_effect hp identity htouched hbelow
        simp only [Bool.false_eq_true, Bool.or_self, if_false, hempty]
        rw [hrest]
        exact hinsert

theorem removeParticipantKeys_effect {p : NativeKeyProvider} (hp : p.WellFormed)
    (identity : String) :
    ParticipantEffect identity (p.explicitCells identity ++ p.cloneCells identity) p
      (p.removeParticipantKeys identity).2 := by
  have hexplicit := removeParticipantKeysEntry_effect hp identity
  have hclone := removeSharedClone_effect hexplicit.wellFormed identity
  have hcells : (p.removeParticipantKeysEntry identity).2.cloneCells identity =
      p.cloneCells identity := by
    unfold removeParticipantKeysEntry cloneCells
    cases p.participantKeys[identity]? <;> rfl
  have htotal := hexplicit.trans hclone
  rw [hcells] at htotal
  exact htotal

/-! ### The cryptors' accesses -/

theorem getSharedKey_wellFormed {p : NativeKeyProvider} (hp : p.WellFormed)
    (participantId : String) : (p.getSharedKey participantId).2.WellFormed := by
  unfold getSharedKey
  split
  · exact hp
  · split
    · exact hp
    · split
      · exact hp
      · rename_i shared hshared
        refine hp.of_handlers (Nat.le_refl _) (fun _ h => Or.inl h) (fun _ _ h => Or.inl h) ?_
        intro identity handler hh
        simp only [ExtTreeMap.getElem?_insert] at hh
        split at hh
        · right
          cases hh
          exact hp.shared _ hshared
        · exact Or.inl hh

theorem setKeyFromMaterial_wellFormed (kdf : KeyDerivation) {p : NativeKeyProvider}
    (hp : p.WellFormed) (participantId : String) (material : Bytes) (index : Nat) :
    (p.setKeyFromMaterial kdf participantId material index).WellFormed := by
  have hlen : ∀ handler : KeyHandler, p.heap.length ≤
      (handler.setKeyFromMaterial kdf p.heap material index).1.length := by
    intro handler
    simp [KeyHandler.setKeyFromMaterial]
  unfold setKeyFromMaterial
  split
  · rename_i handler hkeys
    refine hp.of_handlers (hlen handler) (fun _ h => Or.inl h) ?_ (fun _ _ h => Or.inl h)
    intro identity other hh
    simp only [ExtTreeMap.getElem?_insert] at hh
    split at hh
    · right
      cases hh
      exact (hp.participantKeys _ handler hkeys).setKeyFromMaterial kdf material index
    · exact Or.inl hh
  · split
    · rename_i handler hclone
      refine hp.of_handlers (hlen handler) (fun _ h => Or.inl h) (fun _ _ h => Or.inl h) ?_
      intro identity other hh
      simp only [ExtTreeMap.getElem?_insert] at hh
      split at hh
      · right
        cases hh
        exact (hp.sharedClones _ handler hclone).setKeyFromMaterial kdf material index
      · exact Or.inl hh
    · exact hp

theorem clear_wellFormed (p : NativeKeyProvider) : p.clear.WellFormed := by
  constructor <;> simp [clear]

end NativeKeyProvider

/-! ## 5. Independence of the keys

An operation on one participant's keys is meant to leave the shared keys and the
keys of the others alone, and an operation on the shared keys the explicit keys.
It does so exactly if none of the cells it cleanses is still read by one of those
exports, for a clone and a promoted handler share their cells with the handler
they were made from. -/

/-- The two queries of the public provider. -/
inductive Export where
  | sharedKey (keyIndex : Nat)
  | key (participantIdentity : String) (keyIndex : Nat)
deriving DecidableEq, Repr

/-- What the query returns. -/
def Export.result (p : NativeKeyProvider) : Export → KeyOperationResult
  | .sharedKey keyIndex => exportSharedKey p keyIndex
  | .key identity keyIndex => exportKey p identity keyIndex

/-- The handler the query reads. -/
def Export.handler (p : NativeKeyProvider) : Export → Option KeyHandler
  | .sharedKey _ => p.shared
  | .key identity _ => p.exportHandler identity

def Export.keyIndex : Export → Nat
  | .sharedKey keyIndex => keyIndex
  | .key _ keyIndex => keyIndex

/-- The query passes the provider's checks of its arguments. -/
def Export.Valid (p : NativeKeyProvider) : Export → Prop
  | .sharedKey keyIndex => keyIndex < p.keyRingSize
  | .key identity keyIndex => identity.isEmpty = false ∧ keyIndex < p.keyRingSize

/-- The query refers to the cell `addr`. -/
def Export.Reads (p : NativeKeyProvider) (query : Export) (addr : Nat) : Prop :=
  query.Valid p ∧ (query.handler p).bind (·.slot query.keyIndex) = some addr

/-- The participant whose keys the operation is about; none for the shared keys. -/
def Op.participant : Op → Option String
  | .setSharedKey _ _ => none
  | .ratchetSharedKey _ => none
  | .removeSharedKey _ => none
  | .setKey identity _ _ => some identity
  | .ratchetKey identity _ => some identity
  | .removeKey identity _ => some identity
  | .removeParticipantKeys identity => some identity

/-- The queries that are none of the operation's business: for an operation on a
    participant, the shared keys and every other participant; for an operation on
    the shared keys, every participant with explicit keys. -/
def Op.Protects (p : NativeKeyProvider) (op : Op) : Export → Prop
  | .sharedKey _ => op.participant.isSome
  | .key other _ =>
    match op.participant with
    | some identity => other ≠ identity
    | none => other ∈ p.participantKeys

/-- The cells that the operation cleanses. -/
def Op.cleansed (p : NativeKeyProvider) : Op → List Nat
  | .setSharedKey _ _ => []
  | .ratchetSharedKey _ => []
  | .removeSharedKey keyIndex => p.removeSharedCells keyIndex
  | .setKey identity key keyIndex => p.setKeyCells identity keyIndex key
  | .ratchetKey _ _ => []
  | .removeKey identity keyIndex => p.removeKeyCells identity keyIndex
  | .removeParticipantKeys identity =>
    if identity.isEmpty then [] else p.explicitCells identity ++ p.cloneCells identity

/-- Every byte of the material is zero. -/
def KeySet.Blank (keySet : KeySet) : Prop := ∀ byte ∈ keySet.material, byte = 0

theorem validIndex_of_error {p : NativeKeyProvider} {keyIndex : Nat} {error : KeyOperationResult}
    (herror : validateKeyIndex p keyIndex = some error) : p.validIndex keyIndex = false := by
  unfold validateKeyIndex at herror
  split at herror
  · simp at herror
  · rename_i hindex
    simpa [NativeKeyProvider.validIndex] using hindex

/-- The effect of one public operation. -/
def Op.Effect (op : Op) (p q : NativeKeyProvider) : Prop :=
  match op.participant with
  | none => NativeKeyProvider.SharedEffect (op.cleansed p) p q
  | some identity => NativeKeyProvider.ParticipantEffect identity (op.cleansed p) p q

theorem apply_effect (kdf : KeyDerivation) {p : NativeKeyProvider} (hp : p.WellFormed)
    (op : Op) : op.Effect p (apply kdf p op).2 := by
  cases op with
  | setSharedKey key keyIndex =>
    simp only [Op.Effect, Op.participant, Op.cleansed, apply, setSharedKey]
    split
    · exact .refl hp
    · split
      · exact .refl hp
      · exact NativeKeyProvider.setSharedKey_effect kdf hp keyIndex key
  | ratchetSharedKey keyIndex =>
    simp only [Op.Effect, Op.participant, Op.cleansed, apply, ratchetSharedKey]
    split
    · exact .refl hp
    · exact NativeKeyProvider.ratchetSharedKey_effect kdf hp keyIndex
  | removeSharedKey keyIndex =>
    have heffect := NativeKeyProvider.removeSharedKey_effect kdf hp keyIndex
    simp only [Op.Effect, Op.participant, Op.cleansed, apply, removeSharedKey]
    cases hindex : validateKeyIndex p keyIndex with
    | none => exact heffect
    | some error =>
      have hinvalid := validIndex_of_error hindex
      have hcells : p.removeSharedCells keyIndex = [] := by
        unfold NativeKeyProvider.removeSharedCells
        cases p.shared <;> simp [hinvalid]
      rw [hcells]
      exact .refl hp
  | setKey identity key keyIndex =>
    have heffect := NativeKeyProvider.setKey_effect kdf hp identity keyIndex key
    simp only [Op.Effect, Op.participant, Op.cleansed, apply, setKey]
    by_cases hidentity : identity.isEmpty
    · simpa [NativeKeyProvider.setKeyCells, hidentity] using .refl hp identity
    · cases hindex : validateKeyIndex p keyIndex with
      | some error =>
        have hinvalid := validIndex_of_error hindex
        simpa [NativeKeyProvider.setKeyCells, hidentity, hinvalid] using .refl hp identity
      | none =>
        by_cases hkey : key.isEmpty
        · simpa [NativeKeyProvider.setKeyCells, hidentity, hkey] using .refl hp identity
        · simpa [hidentity, hkey] using heffect
  | ratchetKey identity keyIndex =>
    simp only [Op.Effect, Op.participant, Op.cleansed, apply, ratchetKey]
    split
    · exact .refl hp identity
    · split
      · exact .refl hp identity
      · exact NativeKeyProvider.ratchetKey_effect kdf hp identity keyIndex
  | removeKey identity keyIndex =>
    have heffect := NativeKeyProvider.removeKey_effect kdf hp identity keyIndex
    simp only [Op.Effect, Op.participant, Op.cleansed, apply, removeKey]
    by_cases hidentity : identity.isEmpty
    · simpa [NativeKeyProvider.removeKeyCells, hidentity] using .refl hp identity
    · cases hindex : validateKeyIndex p keyIndex with
      | some error =>
        have hinvalid := validIndex_of_error hindex
        simpa [NativeKeyProvider.removeKeyCells, hidentity, hinvalid] using .refl hp identity
      | none => simpa [hidentity] using heffect
  | removeParticipantKeys identity =>
    have heffect := NativeKeyProvider.removeParticipantKeys_effect hp identity
    simp only [Op.Effect, Op.participant, Op.cleansed, apply, removeParticipantKeys]
    by_cases hidentity : identity.isEmpty
    · simpa [hidentity] using .refl hp identity
    · simpa [hidentity] using heffect

theorem Reachable.wellFormed {kdf : KeyDerivation} {p : NativeKeyProvider}
    (hp : Reachable kdf p) : p.WellFormed := by
  induction hp with
  | new keyRingSize => exact NativeKeyProvider.wellFormed_new keyRingSize
  | op hp op ih =>
    have heffect := apply_effect kdf ih op
    unfold Op.Effect at heffect
    split at heffect
    · exact heffect.wellFormed
    · exact heffect.wellFormed
  | getSharedKey hp participantId ih => exact NativeKeyProvider.getSharedKey_wellFormed ih _
  | setKeyFromMaterial hp participantId material index ih =>
    exact NativeKeyProvider.setKeyFromMaterial_wellFormed kdf ih _ _ _
  | clear hp ih => exact NativeKeyProvider.clear_wellFormed _

theorem KeySet.cleanse_material_eq_iff (keySet : KeySet) :
    keySet.cleanse.material = keySet.material ↔ keySet.Blank := by
  rw [KeySet.cleanse, KeyProvider.cleanse, KeySet.Blank]
  constructor
  · intro heq byte hbyte
    obtain ⟨other, -, hzero⟩ := List.mem_map.mp (heq ▸ hbyte)
    exact hzero.symm
  · intro hblank
    calc keySet.material.map (fun _ => 0) = keySet.material.map id :=
          List.map_congr_left fun byte hbyte => (hblank byte hbyte).symm
      _ = keySet.material := List.map_id _

/-- A report is not changed by cleansing exactly if the material was blank. -/
theorem KeySet.keyResult_cleanse_eq_iff (keySet : KeySet) :
    keyResult keySet.cleanse.material = keyResult keySet.material ↔ keySet.Blank := by
  rw [← KeySet.cleanse_material_eq_iff]
  constructor
  · intro hsame
    cases hmaterial : keySet.material with
    | nil => simp [KeySet.cleanse, KeyProvider.cleanse, hmaterial]
    | cons byte rest =>
      have hcleansed : keySet.cleanse.material = 0 :: rest.map fun _ => 0 := by
        simp [KeySet.cleanse, KeyProvider.cleanse, hmaterial]
      rw [hcleansed, hmaterial] at hsame
      rw [hcleansed]
      simpa [keyResult, KeyOperationResult.success] using hsame
  · intro hsame
    rw [hsame]

/-- A valid query reports the material of the cell it reads. -/
theorem Export.result_of_valid {p : NativeKeyProvider} {query : Export} (hvalid : query.Valid p) :
    query.result p = keyResult
      (((query.handler p).bind (·.slot query.keyIndex)).bind (p.heap[·]?)
        |>.elim [] KeySet.material) := by
  have hexport : ∀ (handler : Option KeyHandler) (index : Nat), index < p.keyRingSize →
      p.exportFrom handler index =
        ((handler.bind (·.slot index)).bind (p.heap[·]?) |>.elim [] KeySet.material) := by
    intro handler index hindex
    cases handler with
    | none => rfl
    | some handler =>
      simp only [NativeKeyProvider.exportFrom, NativeKeyProvider.validIndex, hindex, decide_true,
        if_true, KeyHandler.getKeySet, Option.bind_some]
      cases (handler.slot index).bind (p.heap[·]?) <;> rfl
  cases query with
  | sharedKey keyIndex =>
    have hindex : keyIndex < p.keyRingSize := hvalid
    simp only [Export.result, exportSharedKey, validateKeyIndex, hindex, if_true,
      Option.getD_none, NativeKeyProvider.exportSharedKey]
    rw [hexport _ _ hindex]
    rfl
  | key identity keyIndex =>
    obtain ⟨hidentity, hindex⟩ := hvalid
    simp only [Export.result, exportKey, hidentity, validateKeyIndex, hindex, if_true,
      Option.getD_none, NativeKeyProvider.exportKey, Bool.false_eq_true, if_false]
    rw [hexport _ _ hindex]
    rfl

/-- A query with bad arguments reports the same error in every state. -/
theorem Export.result_of_not_valid {p q : NativeKeyProvider} {query : Export}
    (hring : q.keyRingSize = p.keyRingSize) (hvalid : ¬ query.Valid p) :
    query.result q = query.result p := by
  cases query with
  | sharedKey keyIndex =>
    have hindex : ¬ keyIndex < p.keyRingSize := hvalid
    simp [Export.result, exportSharedKey, validateKeyIndex, hindex, hring]
  | key identity keyIndex =>
    cases hidentity : identity.isEmpty with
    | true => simp [Export.result, exportKey, hidentity]
    | false =>
      have hindex : ¬ keyIndex < p.keyRingSize := fun h => hvalid ⟨hidentity, h⟩
      simp [Export.result, exportKey, hidentity, validateKeyIndex, hindex, hring]

/-- For a query whose handler stays in place: the report stays the same exactly if
    the cell it reads is not cleansed, or was blank before. -/
theorem Export.result_eq_iff {p q : NativeKeyProvider} {query : Export} {cells : List Nat}
    (hring : q.keyRingSize = p.keyRingSize) (hhandler : query.handler q = query.handler p)
    (hheap : CellHeap.Touched KeySet.cleanse cells p.heap q.heap)
    (hbelow : ∀ handler, query.handler p = some handler → handler.Below p.heap.length) :
    query.result q = query.result p ↔
      ∀ addr ∈ cells, query.Reads p addr →
        ∀ keySet, p.heap[addr]? = some keySet → keySet.Blank := by
  by_cases hvalid : query.Valid p
  · have hvalid' : query.Valid q := by
      cases query <;> simpa [Export.Valid, hring] using hvalid
    rw [Export.result_of_valid hvalid, Export.result_of_valid hvalid', hhandler]
    cases hread : (query.handler p).bind (·.slot query.keyIndex) with
    | none => simp [Export.Reads, hread]
    | some addr =>
      obtain ⟨handler, hsome, hslot⟩ := Option.bind_eq_some_iff.mp hread
      have hlt : addr < p.heap.length := hbelow handler hsome _ addr hslot
      have hcell : p.heap[addr]? = some p.heap[addr] := List.getElem?_eq_getElem hlt
      have hreads : ∀ other, query.Reads p other ↔ other = addr := by
        intro other
        simp only [Export.Reads, hread, hvalid, true_and, Option.some.injEq]
        exact eq_comm
      simp only [Option.bind_some, hreads, hheap.cell addr hlt, hcell]
      by_cases hmem : addr ∈ cells
      · simp only [hmem, if_true, Option.map_some, Option.elim_some]
        rw [KeySet.keyResult_cleanse_eq_iff]
        constructor
        · intro hblank other _ hother keySet hkeySet
          subst hother
          cases hcell.symm.trans hkeySet
          exact hblank
        · intro hblank
          exact hblank addr hmem rfl _ hcell
      · simp only [hmem, if_false, Option.elim_some, true_iff]
        intro other hother heq
        exact absurd (heq ▸ hother) hmem
  · rw [Export.result_of_not_valid hring hvalid]
    simp [Export.Reads, hvalid]

/-- A protected query's handler stays in place. -/
theorem Op.Effect.handler_eq {op : Op} {p q : NativeKeyProvider} (heffect : op.Effect p q)
    {query : Export} (hprotects : op.Protects p query) :
    query.handler q = query.handler p ∧ q.keyRingSize = p.keyRingSize ∧
      CellHeap.Touched KeySet.cleanse (op.cleansed p) p.heap q.heap := by
  unfold Op.Effect at heffect
  cases hparticipant : op.participant with
  | none =>
    rw [hparticipant] at heffect
    refine ⟨?_, heffect.keyRingSize, heffect.heap⟩
    cases query with
    | sharedKey keyIndex => simp [Op.Protects, hparticipant] at hprotects
    | key other keyIndex =>
      have hmem : other ∈ p.participantKeys := by simpa [Op.Protects, hparticipant] using hprotects
      have hkeys := ExtTreeMap.getElem?_eq_some_getElem hmem
      simp only [Export.handler, NativeKeyProvider.exportHandler, heffect.participantKeys, hkeys]
  | some identity =>
    rw [hparticipant] at heffect
    refine ⟨?_, heffect.keyRingSize, heffect.heap⟩
    cases query with
    | sharedKey keyIndex => exact heffect.shared
    | key other keyIndex =>
      have hne : other ≠ identity := by simpa [Op.Protects, hparticipant] using hprotects
      exact heffect.others other hne

theorem Export.handler_below {p : NativeKeyProvider} (hp : p.WellFormed) {query : Export} :
    ∀ handler, query.handler p = some handler → handler.Below p.heap.length := by
  intro handler hhandler
  cases query with
  | sharedKey keyIndex => exact hp.shared handler hhandler
  | key identity keyIndex =>
    simp only [Export.handler, NativeKeyProvider.exportHandler] at hhandler
    split at hhandler
    · rename_i explicit hkeys
      cases hhandler
      exact hp.participantKeys identity handler hkeys
    · exact hp.sharedClones identity handler hhandler

/-- **Independence of the keys, and its exact limit.**  An operation leaves all the
    exports it should leave alone as they are if and only if no cell that it
    cleanses is read by one of them with material in it. -/
theorem apply_keeps_protected_exports_iff (kdf : KeyDerivation) {p : NativeKeyProvider}
    (hp : Reachable kdf p) (op : Op) :
    (∀ query, op.Protects p query → query.result (apply kdf p op).2 = query.result p) ↔
      ∀ query, op.Protects p query → ∀ addr ∈ op.cleansed p, query.Reads p addr →
        ∀ keySet, p.heap[addr]? = some keySet → keySet.Blank := by
  have heffect := apply_effect kdf hp.wellFormed op
  refine forall_congr' fun query => ?_
  refine imp_congr_right fun hprotects => ?_
  obtain ⟨hhandler, hring, hheap⟩ := heffect.handler_eq hprotects
  exact Export.result_eq_iff hring hhandler hheap (Export.handler_below hp.wellFormed)

/-- A derivation that can be run. -/
def rotatingDerivation : KeyDerivation := ⟨id, fun material => material.map (· + 1)⟩

/-- A provider with a shared key in slot 0 and an explicit key of alice. -/
def sharedAndExplicit : NativeKeyProvider :=
  (apply rotatingDerivation (apply rotatingDerivation (.new 2) (.setSharedKey [1, 2, 3] 0)).2
    (.setKey "alice" [4] 0)).2

theorem sharedAndExplicit_reachable : Reachable rotatingDerivation sharedAndExplicit :=
  .op (.op (.new 2 (by decide) (by decide)) _) _

/-- `RemoveKey` cleanses alice's ring, which nobody else refers to. -/
theorem removeKey_keeps_shared_export :
    Reachable rotatingDerivation sharedAndExplicit ∧
      Op.cleansed sharedAndExplicit (.removeKey "alice" 0) = [1] ∧
      exportSharedKey (apply rotatingDerivation sharedAndExplicit (.removeKey "alice" 0)).2 0 =
        .success [1, 2, 3] := by
  refine ⟨sharedAndExplicit_reachable, by decide, ?_⟩
  have hkeeps := (apply_keeps_protected_exports_iff rotatingDerivation
    sharedAndExplicit_reachable (.removeKey "alice" 0)).mpr ?_ (.sharedKey 0) rfl
  · exact hkeeps
  · intro query hprotects addr haddr hreads
    have hcell : addr = 1 := by
      have hcleansed : Op.cleansed sharedAndExplicit (.removeKey "alice" 0) = [1] := by decide
      simpa [hcleansed] using haddr
    exfalso
    subst hcell
    obtain ⟨hvalid, hslot⟩ := hreads
    cases query with
    | sharedKey keyIndex =>
      have hother : ∀ index < 2,
          sharedAndExplicit.shared.bind (·.slot index) ≠ some 1 := by decide
      exact hother keyIndex hvalid hslot
    | key other keyIndex =>
      have hne : ¬ "alice" = other := fun h => hprotects h.symm
      have hkeys : sharedAndExplicit.participantKeys =
          ExtTreeMap.insert ∅ "alice" ⟨[some 1, none], true⟩ := by decide
      have hclones : sharedAndExplicit.sharedClones = ∅ := by decide
      simp [Export.handler, NativeKeyProvider.exportHandler, hkeys, hclones,
        hne] at hslot

/-- Alice fetches the shared key, which clones the shared handler; setting a key of
    her own then zeroes the clone's ring and with it the shared key. -/
theorem setKey_zeroes_shared_key :
    ¬ ∀ (kdf : KeyDerivation) (p : NativeKeyProvider), Reachable kdf p → ∀ (op : Op)
        (query : Export), op.Protects p query →
          query.result (apply kdf p op).2 = query.result p := by
  intro hall
  have hreach : Reachable rotatingDerivation
      ((apply rotatingDerivation (.new 2) (.setSharedKey [1, 2, 3] 0)).2.getSharedKey "alice").2 :=
    .getSharedKey (.op (.new 2 (by decide) (by decide)) _) _
  have hsame := hall _ _ hreach (.setKey "alice" [4] 1) (.sharedKey 0) rfl
  revert hsame
  decide

end LivekitClient.KeyProvider
