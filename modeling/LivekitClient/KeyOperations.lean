/-
  LivekitClient/KeyOperations.lean
  ================================
  **What a failed key operation leaves behind** (`KeyProvider` in
  `src/core/e2ee/key_provider.cpp`).

  An operation that returns an error has checked its arguments and the keys it needs before it
  changed anything, with one exception.  `RatchetKey` first makes the clone of the shared
  handler the participant's own, and only then finds that there is nothing to ratchet.  From
  then on the participant no longer follows the shared key.
-/
import LivekitClient.SharedKeys

namespace LivekitClient.KeyOperations

open Std CellHeap LivekitClient.KeyProvider LivekitClient.SharedKeys

/-! ## 1. Calls and what they answer -/

/-- Everything that is called on a provider: the operations and exports of an application,
    `Clear`, and what the cryptors call. -/
inductive Call where
  | op (op : Op)
  | query (query : Export)
  | getSharedKey (participantId : String)
  | setKeyFromMaterial (participantId : String) (material : Bytes) (index : Nat)
  | clear
deriving DecidableEq, Repr

/-- A call of an application. -/
def Call.Public : Call → Prop
  | .op _ => True
  | .query _ => True
  | .getSharedKey _ => False
  | .setKeyFromMaterial _ _ _ => False
  | .clear => True

/-- What the caller sees; of a handler it sees the key sets and `HasValidKey`. -/
inductive Answer where
  | result (outcome : KeyOperationResult)
  | handler (keySets : Option (List (Option KeySet) × Bool))
  | done
deriving DecidableEq, Repr

def Answer.Failed : Answer → Prop
  | .result outcome => outcome.error ≠ none
  | .handler _ => False
  | .done => False

section Calls

variable (kdf : KeyDerivation)

def call (p : NativeKeyProvider) : Call → Answer × NativeKeyProvider
  | .op op => (.result (apply kdf p op).1, (apply kdf p op).2)
  | .query query => (.result (query.result p), p)
  | .getSharedKey participantId =>
    let (handler, p) := p.getSharedKey participantId
    let view := handler.map fun handler =>
      ((List.range p.keyRingSize).map (handler.getKeySet p.heap), handler.hasValidKey)
    (.handler view, p)
  | .setKeyFromMaterial participantId material index =>
    (.done, p.setKeyFromMaterial kdf participantId material index)
  | .clear => (.done, p.clear)

/-- What one call after the other answers. -/
def answers (p : NativeKeyProvider) : List Call → List Answer
  | [] => []
  | c :: calls => (call kdf p c).1 :: answers (call kdf p c).2 calls

end Calls

/-- `RatchetKey` makes a clone the participant's own. -/
def Promotes (p : NativeKeyProvider) : Call → Prop
  | .op (.ratchetKey identity keyIndex) =>
    identity.isEmpty = false ∧ keyIndex < p.keyRingSize ∧ p.participantKeys[identity]? = none ∧
      (p.sharedClones[identity]? <|> p.shared).isSome
  | _ => False

/-! ## 2. Operations that fail before they change anything -/

section Unchanged

variable {kdf : KeyDerivation} {p : NativeKeyProvider}

/-- A ratchet without a key to return has not touched the ring. -/
theorem handler_ratchetKey_of_empty {heap : List KeySet} {handler : KeyHandler} {index : Nat}
    (hempty : (handler.ratchetKey kdf heap index).1.isEmpty = true) :
    handler.ratchetKey kdf heap index = ([], heap, handler) := by
  rw [KeyHandler.ratchetKey] at hempty ⊢
  cases hset : handler.getKeySet heap index with
  | none => rfl
  | some keySet =>
    rw [hset] at hempty
    dsimp only at hempty ⊢
    by_cases hmaterial : (kdf.ratchetKeyMaterial keySet.material).isEmpty = true
    · rw [if_pos hmaterial]
    · rw [if_neg hmaterial] at hempty
      exact absurd hempty hmaterial

theorem insert_same {handlers : HandlerMap} {identity : String} {handler : KeyHandler}
    (hsame : handlers[identity]? = some handler) : handlers.insert identity handler = handlers := by
  apply ExtTreeMap.ext_getElem?
  intro other
  simp only [ExtTreeMap.getElem?_insert, LawfulEqOrd.compare_eq_iff_eq]
  split
  · rename_i heq
    rw [← heq, hsame]
  · rfl

theorem setSharedKey_of_false {index : Nat} {key : Bytes}
    (hfalse : (p.setSharedKey kdf index key).1 = false) :
    (p.setSharedKey kdf index key).2 = p := by
  rw [NativeKeyProvider.setSharedKey] at hfalse ⊢
  split at hfalse
  · rename_i hinvalid
    rw [if_pos hinvalid]
  · cases hfalse

theorem ratchetSharedKey_of_empty {index : Nat}
    (hempty : (p.ratchetSharedKey kdf index).1.isEmpty = true) :
    (p.ratchetSharedKey kdf index).2 = p := by
  rw [NativeKeyProvider.ratchetSharedKey] at hempty ⊢
  split
  · rfl
  · rename_i hvalid
    rw [if_neg hvalid] at hempty
    cases hshared : p.shared with
    | none => rfl
    | some handler =>
      rw [hshared] at hempty
      dsimp only at hempty ⊢
      by_cases hkey : (handler.ratchetKey kdf p.heap index).1.isEmpty = true
      · rw [if_pos hkey, handler_ratchetKey_of_empty hkey, ← hshared]
      · rw [if_neg hkey] at hempty
        exact absurd hempty hkey

theorem removeSharedKey_of_false {index : Nat} (hfalse : (p.removeSharedKey kdf index).1 = false) :
    (p.removeSharedKey kdf index).2 = p := by
  rw [NativeKeyProvider.removeSharedKey] at hfalse ⊢
  cases hshared : p.shared with
  | none => rfl
  | some handler =>
    rw [hshared] at hfalse
    dsimp only at hfalse ⊢
    split at hfalse
    · rename_i hinvalid
      rw [if_pos hinvalid]
    · cases hfalse

theorem setKey_of_false {identity : String} {index : Nat} {key : Bytes}
    (hfalse : (p.setKey kdf identity index key).1 = false) :
    (p.setKey kdf identity index key).2 = p := by
  rw [NativeKeyProvider.setKey] at hfalse ⊢
  split at hfalse
  · rename_i hinvalid
    rw [if_pos hinvalid]
  · cases hfalse

theorem removeKey_of_false {identity : String} {index : Nat}
    (hfalse : (p.removeKey kdf identity index).1 = false) :
    (p.removeKey kdf identity index).2 = p := by
  rw [NativeKeyProvider.removeKey] at hfalse ⊢
  split
  · rfl
  · rename_i hvalid
    rw [if_neg hvalid] at hfalse
    cases hexplicit : p.participantKeys[identity]? with
    | none => rfl
    | some handler =>
      rw [hexplicit] at hfalse
      dsimp only at hfalse ⊢
      split at hfalse
      · rename_i hmissing
        rw [if_pos hmissing]
      · cases hfalse

/-- Something is removed exactly if the participant has a handler. -/
theorem removeParticipantKeys_fst (identity : String) :
    (p.removeParticipantKeys identity).1 =
      (p.participantKeys[identity]?.isSome || p.sharedClones[identity]?.isSome) := by
  simp only [NativeKeyProvider.removeParticipantKeys, NativeKeyProvider.removeParticipantKeysEntry,
    NativeKeyProvider.removeSharedClone]
  cases p.participantKeys[identity]? with
  | some handler => rfl
  | none => cases p.sharedClones[identity]? <;> rfl

theorem removeParticipantKeys_of_false {identity : String}
    (hfalse : (p.removeParticipantKeys identity).1 = false) :
    (p.removeParticipantKeys identity).2 = p := by
  rw [removeParticipantKeys_fst, Bool.or_eq_false_iff, Option.isSome_eq_false_iff,
    Option.isSome_eq_false_iff, Option.isNone_iff_eq_none, Option.isNone_iff_eq_none] at hfalse
  simp only [NativeKeyProvider.removeParticipantKeys, NativeKeyProvider.removeParticipantKeysEntry,
    NativeKeyProvider.removeSharedClone, hfalse.1, hfalse.2]

/-- `RatchetKey` of a participant with explicit keys, or without any. -/
theorem ratchetKey_of_empty {identity : String} {index : Nat}
    (hpromotes : ¬ Promotes p (.op (.ratchetKey identity index)))
    (hempty : (p.ratchetKey kdf identity index).1.isEmpty = true) :
    (p.ratchetKey kdf identity index).2 = p := by
  rw [NativeKeyProvider.ratchetKey] at hempty ⊢
  split
  · rfl
  · rename_i hvalid
    rw [if_neg hvalid, NativeKeyProvider.promote] at hempty
    rw [NativeKeyProvider.promote]
    cases hexplicit : p.participantKeys[identity]? with
    | some handler =>
      rw [hexplicit] at hempty
      dsimp only at hempty ⊢
      rw [handler_ratchetKey_of_empty hempty, insert_same hexplicit]
    | none =>
      cases hclone : (p.sharedClones[identity]? <|> p.shared) with
      | none => rfl
      | some clone =>
        simp only [NativeKeyProvider.validIndex, Bool.or_eq_true, Bool.not_eq_true',
          decide_eq_false_iff_not, not_or, not_not, Bool.not_eq_true] at hvalid
        refine absurd ⟨hvalid.1, hvalid.2, hexplicit, ?_⟩ hpromotes
        rw [hclone]
        rfl

theorem isEmpty_of_keyResult {key : Bytes} (hfailed : (keyResult key).error ≠ none) :
    key.isEmpty = true := by
  by_contra hkey
  rw [keyResult, if_neg hkey] at hfailed
  exact hfailed rfl

theorem eq_false_of_removedResult {removed : Bool}
    (hfailed : (removedResult removed).error ≠ none) : removed = false := by
  cases removed with
  | false => rfl
  | true => exact absurd rfl hfailed

/-- A failed operation that does not promote a clone leaves the provider as it was. -/
theorem apply_of_failed (op : Op) (hpromotes : ¬ Promotes p (.op op))
    (hfailed : (apply kdf p op).1.error ≠ none) : (apply kdf p op).2 = p := by
  cases op with
  | setSharedKey key keyIndex =>
    simp only [apply, setSharedKey] at hfailed ⊢
    cases hvalid : validateKeyIndex p keyIndex with
    | some error => rfl
    | none =>
      rw [hvalid] at hfailed
      dsimp only at hfailed ⊢
      split
      · rfl
      · rename_i hkey
        rw [if_neg hkey] at hfailed
        apply setSharedKey_of_false
        by_contra hset
        rw [if_pos (Bool.not_eq_false _ ▸ hset)] at hfailed
        exact hfailed rfl
  | ratchetSharedKey keyIndex =>
    simp only [apply, ratchetSharedKey] at hfailed ⊢
    cases hvalid : validateKeyIndex p keyIndex with
    | some error => rfl
    | none =>
      rw [hvalid] at hfailed
      exact ratchetSharedKey_of_empty (isEmpty_of_keyResult hfailed)
  | removeSharedKey keyIndex =>
    simp only [apply, removeSharedKey] at hfailed ⊢
    cases hvalid : validateKeyIndex p keyIndex with
    | some error => rfl
    | none =>
      rw [hvalid] at hfailed
      exact removeSharedKey_of_false (eq_false_of_removedResult hfailed)
  | setKey identity key keyIndex =>
    simp only [apply, setKey] at hfailed ⊢
    split
    · rfl
    · rename_i hidentity
      rw [if_neg hidentity] at hfailed
      cases hvalid : validateKeyIndex p keyIndex with
      | some error => rfl
      | none =>
        rw [hvalid] at hfailed
        dsimp only at hfailed ⊢
        split
        · rfl
        · rename_i hkey
          rw [if_neg hkey] at hfailed
          apply setKey_of_false
          by_contra hset
          rw [if_pos (Bool.not_eq_false _ ▸ hset)] at hfailed
          exact hfailed rfl
  | ratchetKey identity keyIndex =>
    simp only [apply, ratchetKey] at hfailed ⊢
    split
    · rfl
    · rename_i hidentity
      rw [if_neg hidentity] at hfailed
      cases hvalid : validateKeyIndex p keyIndex with
      | some error => rfl
      | none =>
        rw [hvalid] at hfailed
        exact ratchetKey_of_empty hpromotes (isEmpty_of_keyResult hfailed)
  | removeKey identity keyIndex =>
    simp only [apply, removeKey] at hfailed ⊢
    split
    · rfl
    · rename_i hidentity
      rw [if_neg hidentity] at hfailed
      cases hvalid : validateKeyIndex p keyIndex with
      | some error => rfl
      | none =>
        rw [hvalid] at hfailed
        exact removeKey_of_false (eq_false_of_removedResult hfailed)
  | removeParticipantKeys identity =>
    simp only [apply, removeParticipantKeys] at hfailed ⊢
    split
    · rfl
    · rename_i hidentity
      rw [if_neg hidentity] at hfailed
      exact removeParticipantKeys_of_false (eq_false_of_removedResult hfailed)

theorem call_of_failed (c : Call) (hpromotes : ¬ Promotes p c)
    (hfailed : (call kdf p c).1.Failed) : (call kdf p c).2 = p := by
  cases c with
  | op op => exact apply_of_failed op hpromotes hfailed
  | query query => rfl
  | getSharedKey participantId => exact hfailed.elim
  | setKeyFromMaterial participantId material index => exact hfailed.elim
  | clear => exact hfailed.elim

end Unchanged

/-! ## 3. A ratchet that fails after the promotion -/

section Promoted

variable {kdf : KeyDerivation} {p : NativeKeyProvider} {identity : String} {index : Nat}

/-- The provider after the promotion: the handler is the participant's own. -/
def owned (p : NativeKeyProvider) (identity : String) (handler : KeyHandler) :
    NativeKeyProvider :=
  { p with participantKeys := p.participantKeys.insert identity handler,
           sharedClones := p.sharedClones.erase identity }

/-- A failed ratchet that promotes a clone leaves it with its participant. -/
theorem apply_ratchetKey_of_promotes (hpromotes : Promotes p (.op (.ratchetKey identity index)))
    (hfailed : (apply kdf p (.ratchetKey identity index)).1.error ≠ none) :
    ∃ handler, (p.sharedClones[identity]? <|> p.shared) = some handler ∧
      (apply kdf p (.ratchetKey identity index)).2 = owned p identity handler := by
  obtain ⟨hidentity, hindex, hexplicit, hhandler⟩ := hpromotes
  obtain ⟨handler, hhandler⟩ := Option.isSome_iff_exists.mp hhandler
  refine ⟨handler, hhandler, ?_⟩
  have hvalid : validateKeyIndex p index = none := if_pos hindex
  have hkept : (identity.isEmpty || !p.validIndex index) = false := by
    rw [hidentity, NativeKeyProvider.validIndex, decide_eq_true hindex]
    rfl
  have hnative : p.ratchetKey kdf identity index =
      ((handler.ratchetKey kdf p.heap index).1,
        { owned p identity handler with
          heap := (handler.ratchetKey kdf p.heap index).2.1,
          participantKeys := (p.participantKeys.insert identity handler).insert identity
            (handler.ratchetKey kdf p.heap index).2.2 }) := by
    simp only [NativeKeyProvider.ratchetKey, hkept, NativeKeyProvider.promote, hexplicit, hhandler,
      owned]
    rfl
  simp only [apply, ratchetKey, hidentity, hvalid, hnative] at hfailed ⊢
  rw [handler_ratchetKey_of_empty (isEmpty_of_keyResult hfailed), insert_same (by simp)]
  rfl

/-- What the participant's own handler has at a slot survives a new shared key. -/
theorem exportKey_setSharedKey_owned (hp : p.WellFormed) {handler : KeyHandler}
    (hexplicit : p.participantKeys[identity]? = some handler) (key : Bytes) (keyIndex : Nat) :
    exportKey (apply kdf p (.setSharedKey key keyIndex)).2 identity index =
      exportKey p identity index := by
  have heffect := apply_effect kdf hp (.setSharedKey key keyIndex)
  have hprotects : Op.Protects p (.setSharedKey key keyIndex) (.key identity index) := by
    change identity ∈ p.participantKeys
    rw [ExtTreeMap.mem_iff_isSome_getElem?, hexplicit]
    rfl
  obtain ⟨hhandler, hring, hheap⟩ := heffect.handler_eq hprotects
  have hsame := (Export.result_eq_iff hring hhandler hheap (Export.handler_below hp)).mpr ?_
  · exact hsame
  · intro addr haddr
    cases haddr

/-- A clone follows a new shared key. -/
theorem exportKey_setSharedKey_clone (h : Apart p) (hidentity : identity.isEmpty = false)
    (hindex : index < p.keyRingSize) (hexplicit : p.participantKeys[identity]? = none)
    (hclone : identity ∈ p.sharedClones) {key : Bytes} (hkey : key.isEmpty = false) :
    exportKey (apply kdf p (.setSharedKey key index)).2 identity index = .success key := by
  have hvalid : validateKeyIndex p index = none := if_pos hindex
  have happly : (apply kdf p (.setSharedKey key index)).2 = (p.setSharedKey kdf index key).2 := by
    simp only [apply, setSharedKey, hvalid, hkey]
    rfl
  have hset : (p.setSharedKey kdf index key).1 = true := by
    rw [NativeKeyProvider.setSharedKey, NativeKeyProvider.validIndex, decide_eq_true hindex, hkey]
    rfl
  obtain ⟨hring, hparticipant, hidentities⟩ := @setSharedKey_identities kdf p h index key
  obtain ⟨clone, hclone⟩ := Option.isSome_iff_exists.mp
    (ExtTreeMap.mem_iff_isSome_getElem?.mp ((hidentities identity).mpr hclone))
  have hcarries := ((setSharedKey_spec h index key).2 hset).clones identity clone hclone
  have hexport : (p.setSharedKey kdf index key).2.exportKey identity index = key := by
    rw [NativeKeyProvider.exportKey, NativeKeyProvider.exportHandler, hparticipant, hexplicit,
      hclone, NativeKeyProvider.exportFrom, NativeKeyProvider.validIndex, hring,
      decide_eq_true hindex, if_pos rfl, hcarries]
  have hvalid' : validateKeyIndex (p.setSharedKey kdf index key).2 index = none :=
    if_pos (hring ▸ hindex)
  rw [happly, exportKey, hidentity, if_neg Bool.false_ne_true, hvalid', Option.getD_none, hexport,
    keyResult, hkey, if_neg Bool.false_ne_true]

theorem keyResult_ne (material : Bytes) : keyResult material ≠ .success (material ++ [0]) := by
  rw [keyResult]
  split
  · simp [KeyOperationResult.success]
  · simp [KeyOperationResult.success]

/-- An application can tell that a participant was promoted. -/
theorem promotes_observed (hp : Reachable kdf p) {c : Call} (hpromotes : Promotes p c)
    (hfailed : (call kdf p c).1.Failed) :
    ∃ calls : List Call, (∀ next ∈ calls, next.Public) ∧
      answers kdf (call kdf p c).2 calls ≠ answers kdf p calls := by
  have hexists : ∃ (identity : String) (index : Nat), c = .op (.ratchetKey identity index) := by
    cases c with
    | op op =>
      cases op with
      | ratchetKey identity index => exact ⟨identity, index, rfl⟩
      | _ => exact hpromotes.elim
    | _ => exact hpromotes.elim
  obtain ⟨identity, index, rfl⟩ := hexists
  obtain ⟨handler, hhandler, howned⟩ := apply_ratchetKey_of_promotes hpromotes hfailed
  obtain ⟨hidentity, hindex, hexplicit, -⟩ := hpromotes
  have hreachable : Reachable kdf (owned p identity handler) := howned ▸ hp.op _
  have hown : (owned p identity handler).participantKeys[identity]? = some handler := by
    simp [owned]
  change ∃ calls : List Call, (∀ next ∈ calls, next.Public) ∧
    answers kdf (apply kdf p (.ratchetKey identity index)).2 calls ≠ answers kdf p calls
  rw [howned]
  by_cases hclone : identity ∈ p.sharedClones
  · -- the clone would have followed the next shared key
    let material := (owned p identity handler).exportKey identity index
    refine ⟨[.op (.setSharedKey (material ++ [0]) index), .query (.key identity index)], ?_, ?_⟩
    · simp [Call.Public]
    · intro hsame
      have hquery : exportKey (apply kdf (owned p identity handler)
            (.setSharedKey (material ++ [0]) index)).2 identity index =
          exportKey (apply kdf p (.setSharedKey (material ++ [0]) index)).2 identity index :=
        Answer.result.inj (List.cons.inj (List.cons.inj hsame).2).1
      rw [exportKey_setSharedKey_owned hreachable.wellFormed hown,
        exportKey_setSharedKey_clone (apart_of_reachable hp) hidentity hindex hexplicit hclone
          (by simp)] at hquery
      have hvalid : validateKeyIndex (owned p identity handler) index = none := if_pos hindex
      rw [exportKey, hidentity, if_neg Bool.false_ne_true, hvalid, Option.getD_none] at hquery
      exact keyResult_ne _ hquery
  · -- the participant would have had no keys to remove
    refine ⟨[.op (.removeParticipantKeys identity)], ?_, ?_⟩
    · simp [Call.Public]
    · intro hsame
      have hremove := Answer.result.inj (List.cons.inj hsame).1
      simp only [apply, removeParticipantKeys, hidentity, Bool.false_eq_true, if_false] at hremove
      have hnone : p.sharedClones[identity]? = none := ExtTreeMap.getElem?_eq_none hclone
      rw [removeParticipantKeys_fst, removeParticipantKeys_fst, hown, hexplicit, hnone] at hremove
      cases hremove

end Promoted

/-- **What a failed key operation leaves behind, and its exact limit.**  A call that returns an
    error changes nothing that any later calls answer, if and only if it is not a `RatchetKey` that
    promotes a clone of the shared handler. -/
theorem failed_changes_nothing_iff (kdf : KeyDerivation) {p : NativeKeyProvider}
    (hp : Reachable kdf p) (c : Call) (hfailed : (call kdf p c).1.Failed) :
    (∀ calls, answers kdf (call kdf p c).2 calls = answers kdf p calls) ↔ ¬ Promotes p c := by
  constructor
  · intro hsame hpromotes
    obtain ⟨calls, -, hdiffer⟩ := promotes_observed hp hpromotes hfailed
    exact hdiffer (hsame calls)
  · intro hpromotes calls
    rw [call_of_failed c hpromotes hfailed]

/-- A ratchet of an empty slot of alice, who has explicit keys, leaves no trace. -/
theorem failed_changes_nothing_alice :
    ¬ Promotes fetchedByBob (.op (.ratchetKey "alice" 1)) ∧
      ∀ calls, answers rotatingDerivation
          (call rotatingDerivation fetchedByBob (.op (.ratchetKey "alice" 1))).2 calls =
        answers rotatingDerivation fetchedByBob calls := by
  have hexplicit : ¬ Promotes fetchedByBob (.op (.ratchetKey "alice" 1)) := by
    rintro ⟨-, -, hmissing, -⟩
    revert hmissing
    decide
  refine ⟨hexplicit, (failed_changes_nothing_iff rotatingDerivation
    (.getSharedKey sharedAndExplicit_reachable "bob") (.op (.ratchetKey "alice" 1)) ?_).mpr
      hexplicit⟩
  change (apply rotatingDerivation fetchedByBob (.ratchetKey "alice" 1)).1.error ≠ none
  decide

/-- Bob has fetched the shared key in slot 0, and slot 1 is empty.  The failed ratchet of slot 1
    makes his handler explicit, and the shared key that is set next does not reach him. -/
theorem ratchetKey_promotes_bob :
    ¬ ∀ (kdf : KeyDerivation) (p : NativeKeyProvider), Reachable kdf p → ∀ c : Call,
        (call kdf p c).1.Failed →
          ∀ calls, answers kdf (call kdf p c).2 calls = answers kdf p calls := by
  intro hall
  have hfailed : (apply rotatingDerivation fetchedByBob (.ratchetKey "bob" 1)).1.error ≠ none := by
    decide
  have hsame := hall rotatingDerivation fetchedByBob
    (.getSharedKey sharedAndExplicit_reachable "bob") (.op (.ratchetKey "bob" 1)) hfailed
    [.op (.setSharedKey [5] 0), .query (.key "bob" 0)]
  revert hsame
  decide

end LivekitClient.KeyOperations
