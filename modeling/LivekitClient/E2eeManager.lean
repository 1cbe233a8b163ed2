/-
  LivekitClient/E2eeManager.lean
  ==============================
  **The E2EE manager** (`src/core/e2ee/e2ee_manager.cpp`): which RTP senders and
  receivers have a frame cryptor, and which of the cryptors are switched on.

  The manager has three views of a cryptor: the entry in `entries_` (under
  `entries_mutex_`), the info in `shared_state_->cryptors` (under the mutex of the
  shared state), and the transformer object, which the RTP sender or receiver
  holds as well and keeps after the entry is gone.  Every operation is put
  together from its lock-delimited sections, so that the sections can also be
  interleaved.
-/
import LivekitClient.FrameCryptor

namespace LivekitClient.E2eeManager

open Std
open LivekitClient.FrameCryptor

inductive FrameCryptorDirection where
  | sender
  | receiver
deriving DecidableEq, Repr

structure CryptorKey where
  direction : FrameCryptorDirection
  trackId : String
deriving DecidableEq, Repr

def CryptorKey.isReceiver (key : CryptorKey) : Bool := key.direction == .receiver

/-- `std::pair` compares the direction first. -/
instance : Ord CryptorKey :=
  ⟨compareLex (compareOn CryptorKey.isReceiver) (compareOn CryptorKey.trackId)⟩

instance : TransOrd CryptorKey :=
  inferInstanceAs
    (TransCmp (compareLex (compareOn CryptorKey.isReceiver) (compareOn CryptorKey.trackId)))

instance : LawfulEqOrd CryptorKey where
  eq_of_compare := by
    rintro ⟨direction, trackId⟩ ⟨direction', trackId'⟩ heq
    have hboth := compareLex_eq_eq.mp heq
    cases direction <;> cases direction' <;>
      simp_all [compareOn, CryptorKey.isReceiver]

structure FrameCryptorInfo where
  trackId : String := ""
  participantIdentity : String := ""
  kind : TrackKind := .unknown
  direction : FrameCryptorDirection := .sender
  enabled : Bool := false
  keyIndex : Nat := 0
  state : FrameCryptionState := .new
deriving DecidableEq, Repr

/-- An RTP sender or receiver of a peer connection. -/
inductive RtpEnd where
  | sender (id : Nat)
  | receiver (id : Nat)
deriving DecidableEq, Repr

/-- `E2EEManager::Impl::Entry`; the transformer is named by its place in
    `Manager.transformers`. -/
structure Entry where
  individuallyEnabled : Bool
  rtp : RtpEnd
  transformer : Nat
deriving DecidableEq, Repr

structure Manager where
  enabled : Bool
  cryptors : ExtTreeMap CryptorKey FrameCryptorInfo
  entries : ExtTreeMap CryptorKey Entry
  /-- Every transformer that was ever created. -/
  transformers : List FrameCryptorTransformer
  /-- The frame transformer of an RTP sender or receiver. -/
  installed : RtpEnd → Option Nat

def toNativeMediaType : TrackKind → MediaType
  | .video => .videoFrame
  | _ => .audioFrame

/-- A transformer as its constructor leaves it. -/
def newTransformer (participantId : String) (kind : TrackKind) : FrameCryptorTransformer where
  participantId := participantId
  type := toNativeMediaType kind
  enabledCryption := false
  keyIndex := 0
  sinkCallback := false
  sinkCallbacks := []
  lastEncError := .new
  lastDecError := .new
  sendCounts := fun _ => none

namespace Manager

def new (enabled : Bool) : Manager := ⟨enabled, ∅, ∅, [], fun _ => none⟩

/-! ## 1. The sections -/

/-- Under `entries_mutex_`: find the entry and take it out. -/
def takeEntry (m : Manager) (key : CryptorKey) : Option Entry × Manager :=
  (m.entries[key]?, { m with entries := m.entries.erase key })

/-- Under the shared mutex. -/
def eraseCryptor (m : Manager) (key : CryptorKey) : Manager :=
  { m with cryptors := m.cryptors.erase key }

def setTransformerEnabled (m : Manager) (transformer : Nat) (enabled : Bool) : Manager :=
  { m with
    transformers := m.transformers.modify transformer
      fun t => { t with enabledCryption := enabled } }

/-- `DetachEntry`: the transformer is disabled and stays on its sender or receiver. -/
def detachEntry (m : Manager) (entry : Entry) : Manager :=
  m.setTransformerEnabled entry.transformer false

/-- The part of `Attach` between its two locks: a new transformer, enabled as given,
    goes onto the sender or receiver. -/
def installTransformer (m : Manager) (participantIdentity : String) (kind : TrackKind)
    (rtp : RtpEnd) (enabled : Bool) : Entry × Manager :=
  (⟨true, rtp, m.transformers.length⟩,
   { m with
     transformers := m.transformers ++
       [{ newTransformer participantIdentity kind with enabledCryption := enabled }]
     installed := fun other =>
       if other = rtp then some m.transformers.length else m.installed other })

def putCryptor (m : Manager) (key : CryptorKey) (participantIdentity : String) (kind : TrackKind)
    (enabled : Bool) : Manager :=
  { m with
    cryptors := m.cryptors.insert key
      { trackId := key.trackId, participantIdentity := participantIdentity, kind := kind,
        direction := key.direction, enabled := enabled } }

/-- `entries_.emplace`: an entry that is there stays. -/
def emplaceEntry (m : Manager) (key : CryptorKey) (entry : Entry) : Manager :=
  { m with entries := m.entries.insertIfNew key entry }

/-- `shared_state_->cryptors[key].enabled = enabled`; `operator[]` makes a missing info. -/
def setCryptorEnabled (m : Manager) (key : CryptorKey) (enabled : Bool) : Manager :=
  { m with
    cryptors := m.cryptors.insert key
      { (m.cryptors[key]?).getD {} with enabled := enabled } }

def setIndividuallyEnabled (m : Manager) (key : CryptorKey) (enabled : Bool) : Manager :=
  { m with
    entries := m.entries.modify key
      fun entry => { entry with individuallyEnabled := enabled } }

/-- One turn of the loop of `SetEnabled`. -/
def applyEnabled (m : Manager) (enabled : Bool) (key : CryptorKey) : Manager :=
  match m.entries[key]? with
  | none => m
  | some entry =>
    let effective := enabled && entry.individuallyEnabled
    (m.setTransformerEnabled entry.transformer effective).setCryptorEnabled key effective

/-- One turn of the loop of `SetParticipantEnabled`, with the global flag read before. -/
def applyParticipantEnabled (m : Manager) (participantIdentity : String)
    (globallyEnabled enabled : Bool) (key : CryptorKey) : Manager :=
  match m.entries[key]? with
  | none => m
  | some entry =>
    let info := (m.cryptors[key]?).getD {}
    if info.participantIdentity ≠ participantIdentity then
      { m with cryptors := m.cryptors.insert key info }
    else
      ((m.setIndividuallyEnabled key enabled).setCryptorEnabled key
        (globallyEnabled && enabled)).setTransformerEnabled entry.transformer
        (globallyEnabled && enabled)

/-! ## 2. The operations -/

def detach (m : Manager) (key : CryptorKey) : Bool × Manager :=
  match m.takeEntry key with
  | (none, m) => (false, m)
  | (some entry, m) => (true, (m.eraseCryptor key).detachEntry entry)

def detachAll (m : Manager) : Manager :=
  m.entries.toList.foldl (fun m entry => m.detachEntry entry.2)
    { m with entries := ∅, cryptors := ∅ }

def attach (m : Manager) (key : CryptorKey) (participantIdentity : String) (kind : TrackKind)
    (rtp : RtpEnd) : Bool × Manager :=
  if key.trackId.isEmpty || participantIdentity.isEmpty || kind = .unknown then (false, m)
  else
    let m := (m.detach key).2
    let enabled := m.enabled
    let (entry, m) := m.installTransformer participantIdentity kind rtp enabled
    (true, (m.putCryptor key participantIdentity kind enabled).emplaceEntry key entry)

/-- `SetEnabled`; the room's callback, which republishes the local tracks, is made of
    other operations. -/
def setEnabled (m : Manager) (enabled : Bool) : Manager :=
  if m.enabled = enabled then m
  else m.entries.keys.foldl (fun m key => m.applyEnabled enabled key) { m with enabled := enabled }

def setFrameCryptorEnabled (m : Manager) (key : CryptorKey) (enabled : Bool) : Bool × Manager :=
  match m.entries[key]? with
  | none => (false, m)
  | some entry =>
    let effective := enabled && m.enabled
    (true, ((m.setIndividuallyEnabled key enabled).setTransformerEnabled entry.transformer
      effective).setCryptorEnabled key effective)

/-! ## 3. What the sections do to the flags

The flag of a transformer is what `encryptFrame` looks at.  Only the section that
switches it and the creation of a transformer touch it. -/

def flag (m : Manager) (transformer : Nat) : Option Bool :=
  (m.transformers[transformer]?).map (·.enabledCryption)

theorem flag_setTransformerEnabled (m : Manager) (transformer : Nat) (enabled : Bool)
    (other : Nat) :
    (m.setTransformerEnabled transformer enabled).flag other =
      if transformer = other then (m.flag other).map fun _ => enabled else m.flag other := by
  simp only [flag, setTransformerEnabled, List.getElem?_modify]
  split
  · cases m.transformers[other]? <;> rfl
  · cases m.transformers[other]? <;> rfl

@[simp] theorem flag_setCryptorEnabled (m : Manager) (key : CryptorKey) (enabled : Bool) :
    (m.setCryptorEnabled key enabled).flag = m.flag := rfl

@[simp] theorem flag_setIndividuallyEnabled (m : Manager) (key : CryptorKey) (enabled : Bool) :
    (m.setIndividuallyEnabled key enabled).flag = m.flag := rfl

theorem flag_installTransformer (m : Manager) (identity : String) (kind : TrackKind)
    (rtp : RtpEnd) (enabled : Bool) (transformer : Nat) :
    (m.installTransformer identity kind rtp enabled).2.flag transformer =
      if transformer = m.transformers.length then some enabled else m.flag transformer := by
  simp only [flag, installTransformer]
  split
  · rename_i heq
    subst heq
    simp
  · rename_i hne
    by_cases hlt : transformer < m.transformers.length
    · rw [List.getElem?_append_left hlt]
    · rw [List.getElem?_eq_none (by simp; omega), List.getElem?_eq_none (by omega)]

theorem detach_entries (m : Manager) (key : CryptorKey) :
    (m.detach key).2.entries = m.entries.erase key := by
  unfold detach takeEntry
  cases m.entries[key]? <;> rfl

theorem detach_flag {m : Manager} {key : CryptorKey} {transformer : Nat}
    (hother : ∀ entry, m.entries[key]? = some entry → entry.transformer ≠ transformer) :
    (m.detach key).2.flag transformer = m.flag transformer := by
  unfold detach takeEntry
  cases hentry : m.entries[key]? with
  | none => rfl
  | some entry =>
    have hne := hother entry hentry
    exact (flag_setTransformerEnabled _ _ _ _).trans (if_neg hne)

theorem detach_frame (m : Manager) (key : CryptorKey) :
    (m.detach key).2.enabled = m.enabled ∧ (m.detach key).2.installed = m.installed ∧
      (m.detach key).2.transformers.length = m.transformers.length := by
  unfold detach takeEntry
  cases m.entries[key]? with
  | none => exact ⟨rfl, rfl, rfl⟩
  | some entry => exact ⟨rfl, rfl, by simp [detachEntry, setTransformerEnabled, eraseCryptor]⟩

theorem entries_of_erase {m : Manager} {key key' : CryptorKey} {entry : Entry}
    (hentry : (m.entries.erase key)[key']? = some entry) :
    key ≠ key' ∧ m.entries[key']? = some entry := by
  simp only [ExtTreeMap.getElem?_erase, LawfulEqOrd.compare_eq_iff_eq] at hentry
  split at hentry
  · simp at hentry
  · rename_i hne
    exact ⟨hne, hentry⟩

theorem detachFold_frame (removed : List (CryptorKey × Entry)) (m : Manager) :
    (removed.foldl (fun m entry => m.detachEntry entry.2) m).entries = m.entries ∧
      (removed.foldl (fun m entry => m.detachEntry entry.2) m).enabled = m.enabled ∧
      (removed.foldl (fun m entry => m.detachEntry entry.2) m).installed = m.installed ∧
      (removed.foldl (fun m entry => m.detachEntry entry.2) m).transformers.length =
        m.transformers.length := by
  induction removed generalizing m with
  | nil => exact ⟨rfl, rfl, rfl, rfl⟩
  | cons entry removed ih =>
    obtain ⟨hentries, henabled, hinstalled, hlength⟩ := ih (m.detachEntry entry.2)
    refine ⟨hentries, henabled, hinstalled, hlength.trans ?_⟩
    simp [detachEntry, setTransformerEnabled]

theorem detachAll_frame (m : Manager) :
    m.detachAll.entries = ∅ ∧ m.detachAll.enabled = m.enabled ∧
      m.detachAll.installed = m.installed ∧
      m.detachAll.transformers.length = m.transformers.length :=
  detachFold_frame m.entries.toList { m with entries := ∅, cryptors := ∅ }

/-- The loop of `SetEnabled`, over any keys. -/
theorem applyEnabled_fold {m : Manager} (hdistinct : ∀ (key key' : CryptorKey)
      (entry entry' : Entry), m.entries[key]? = some entry → m.entries[key']? = some entry' →
      entry.transformer = entry'.transformer → key = key')
    (enabled : Bool) (keys : List CryptorKey) :
    (keys.foldl (fun m key => m.applyEnabled enabled key) m).entries = m.entries ∧
      (keys.foldl (fun m key => m.applyEnabled enabled key) m).enabled = m.enabled ∧
      (keys.foldl (fun m key => m.applyEnabled enabled key) m).installed = m.installed ∧
      (keys.foldl (fun m key => m.applyEnabled enabled key) m).transformers.length =
        m.transformers.length ∧
      ∀ (key : CryptorKey) (entry : Entry), m.entries[key]? = some entry →
        (keys.foldl (fun m key => m.applyEnabled enabled key) m).flag entry.transformer =
          if key ∈ keys then (m.flag entry.transformer).map
            fun _ => enabled && entry.individuallyEnabled
          else m.flag entry.transformer := by
  induction keys generalizing m with
  | nil => exact ⟨rfl, rfl, rfl, rfl, fun _ _ _ => rfl⟩
  | cons first keys ih =>
    rw [List.foldl_cons]
    cases hfirst : m.entries[first]? with
    | none =>
      have hskip : m.applyEnabled enabled first = m := by simp [applyEnabled, hfirst]
      rw [hskip]
      obtain ⟨hentries, henabled, hinstalled, hlength, hflag⟩ := ih hdistinct
      refine ⟨hentries, henabled, hinstalled, hlength, ?_⟩
      intro key entry hentry
      have hne : key ≠ first := by
        rintro rfl
        rw [hfirst] at hentry
        simp at hentry
      rw [hflag key entry hentry]
      simp [hne]
    | some switched =>
      have hstep : m.applyEnabled enabled first =
          (m.setTransformerEnabled switched.transformer
            (enabled && switched.individuallyEnabled)).setCryptorEnabled first
            (enabled && switched.individuallyEnabled) := by
        simp [applyEnabled, hfirst]
      rw [hstep]
      obtain ⟨hentries, henabled, hinstalled, hlength, hflag⟩ := ih (m := (m.setTransformerEnabled
        switched.transformer (enabled && switched.individuallyEnabled)).setCryptorEnabled first
        (enabled && switched.individuallyEnabled)) hdistinct
      refine ⟨hentries, henabled, hinstalled, hlength.trans ?_, ?_⟩
      · simp [setCryptorEnabled, setTransformerEnabled]
      · intro key entry hentry
        rw [hflag key entry hentry, flag_setCryptorEnabled, flag_setTransformerEnabled]
        by_cases heq : key = first
        · subst heq
          cases hfirst.symm.trans hentry
          by_cases hmem : key ∈ keys <;> cases m.flag switched.transformer <;> simp [hmem]
        · have hother : switched.transformer ≠ entry.transformer := by
            intro hsame
            exact heq (hdistinct first key switched entry hfirst hentry hsame).symm
          simp [hother, heq]

/-- What `SetFrameCryptorEnabled` does to an entry that is there. -/
theorem setFrameCryptorEnabled_found {m : Manager} {key : CryptorKey} {entry : Entry}
    (hentry : m.entries[key]? = some entry) (enabled : Bool) :
    (∀ key', (m.setFrameCryptorEnabled key enabled).2.entries[key']? =
        if key = key' then some { entry with individuallyEnabled := enabled }
        else m.entries[key']?) ∧
      (m.setFrameCryptorEnabled key enabled).2.enabled = m.enabled ∧
      (m.setFrameCryptorEnabled key enabled).2.installed = m.installed ∧
      (m.setFrameCryptorEnabled key enabled).2.transformers.length = m.transformers.length ∧
      ∀ transformer, (m.setFrameCryptorEnabled key enabled).2.flag transformer =
        if entry.transformer = transformer
        then (m.flag transformer).map fun _ => enabled && m.enabled else m.flag transformer := by
  simp only [setFrameCryptorEnabled, hentry]
  refine ⟨?_, rfl, rfl, ?_, ?_⟩
  · intro key'
    simp only [setCryptorEnabled, setTransformerEnabled, setIndividuallyEnabled,
      ExtTreeMap.getElem?_modify, LawfulEqOrd.compare_eq_iff_eq]
    by_cases heq : key = key'
    · subst heq
      simp [hentry]
    · simp [heq]
  · simp [setCryptorEnabled, setTransformerEnabled, setIndividuallyEnabled]
  · intro transformer
    rw [flag_setCryptorEnabled, flag_setTransformerEnabled, flag_setIndividuallyEnabled]

end Manager

end LivekitClient.E2eeManager
