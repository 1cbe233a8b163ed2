/-
  LivekitClient/E2eeInterleaving.lean
  ===================================
  **Concurrent calls of the E2EE manager**: `Attach`, `Detach`, `SetEnabled`,
  `SetFrameCryptorEnabled` and `SetParticipantEnabled`, each cut at its locks, in
  any interleaving of any number of threads.

  `SetFrameCryptorEnabled` and `SetParticipantEnabled` read the global flag with
  `entries_mutex_` in hand, so a `SetEnabled` that changes it in between still has
  its own loop to come.  `Attach` reads the flag before it takes the lock, and
  `SetEnabled` changes it before; what then has to be excluded is a loop that runs
  although a later change of the flag, or an `Attach` with an older one, is not
  followed by another loop.
-/
import LivekitClient.E2eeManager
import LivekitClient.Runs

namespace LivekitClient.E2eeInterleaving

open Std
open LivekitClient.E2eeManager

/-! ## 1. Threads -/

inductive Call where
  | attach (key : CryptorKey) (participantIdentity : String) (kind : TrackKind) (rtp : RtpEnd)
  | detach (key : CryptorKey)
  | setEnabled (enabled : Bool)
  | setFrameCryptorEnabled (key : CryptorKey) (enabled : Bool)
  | setParticipantEnabled (participantIdentity : String) (enabled : Bool)

/-- Where a thread is in its call: the section that comes next. -/
inductive Pc where
  | idle
  | attachErase (key : CryptorKey) (participantIdentity : String) (kind : TrackKind)
      (rtp : RtpEnd) (removed : Entry)
  | attachRead (key : CryptorKey) (participantIdentity : String) (kind : TrackKind) (rtp : RtpEnd)
  | attachPut (key : CryptorKey) (participantIdentity : String) (kind : TrackKind)
      (enabled : Bool) (entry : Entry)
  | attachEmplace (key : CryptorKey) (enabled : Bool) (entry : Entry)
  | detachErase (key : CryptorKey) (removed : Entry)
  /-- The flag is changed; `entries_mutex_` is to be taken. -/
  | enabledWait (enabled : Bool)
  | enabledLoop (enabled : Bool) (keys : List CryptorKey)
  | frameRead (key : CryptorKey) (enabled : Bool)
  | framePut (key : CryptorKey) (enabled effective : Bool)
  | participantRead (participantIdentity : String) (enabled : Bool)
  | participantLoop (participantIdentity : String) (globallyEnabled enabled : Bool)
      (keys : List CryptorKey)

/-- The thread is inside a section of `entries_mutex_` that has inner steps. -/
def Pc.HoldsLock : Pc → Prop
  | .enabledLoop _ _ => True
  | .frameRead _ _ => True
  | .framePut _ _ _ => True
  | .participantRead _ _ => True
  | .participantLoop _ _ _ _ => True
  | _ => False

/-- The transformer that only this call refers to. -/
def Pc.transformer : Pc → Option Nat
  | .attachErase _ _ _ _ removed => some removed.transformer
  | .attachPut _ _ _ _ entry => some entry.transformer
  | .attachEmplace _ _ entry => some entry.transformer
  | .detachErase _ removed => some removed.transformer
  | _ => none

/-- The key whose cryptor info the call is about to erase. -/
def Pc.erases : Pc → Option CryptorKey
  | .attachErase key _ _ _ _ => some key
  | .detachErase key _ => some key
  | _ => none

/-- The key whose entry the call is about to put in, its info being there. -/
def Pc.emplaces : Pc → Option CryptorKey
  | .attachEmplace key _ _ => some key
  | _ => none

/-- The global flag as an `Attach` has read it, with its new entry. -/
def Pc.attached : Pc → Option (Bool × Entry)
  | .attachPut _ _ _ enabled entry => some (enabled, entry)
  | .attachEmplace _ enabled entry => some (enabled, entry)
  | _ => none

structure State (T : Type) where
  manager : Manager
  lock : Option T
  pc : T → Pc

variable {T : Type} [DecidableEq T]

def State.init (T : Type) (enabled : Bool) : State T := ⟨.new enabled, none, fun _ => .idle⟩

/-- Thread `t` moves on, leaving the manager as `m`. -/
def State.goto (s : State T) (t : T) (m : Manager) (pc : Pc) : State T :=
  { s with manager := m, pc := fun other => if other = t then pc else s.pc other }

def State.acquire (s : State T) (t : T) : State T := { s with lock := some t }

def State.release (s : State T) : State T := { s with lock := none }

inductive Action (T : Type) where
  | start (t : T) (call : Call)
  | go (t : T)

inductive Step : State T → Action T → State T → Prop
  | attachNone {s : State T} {t : T} {key : CryptorKey} {identity : String} {kind : TrackKind}
      {rtp : RtpEnd} (hpc : s.pc t = .idle) (hlock : s.lock = none)
      (hentry : s.manager.entries[key]? = none) :
      Step s (.start t (.attach key identity kind rtp))
        (s.goto t s.manager (.attachRead key identity kind rtp))
  | attachSome {s : State T} {t : T} {key : CryptorKey} {identity : String} {kind : TrackKind}
      {rtp : RtpEnd} {removed : Entry} (hpc : s.pc t = .idle) (hlock : s.lock = none)
      (hentry : s.manager.entries[key]? = some removed) :
      Step s (.start t (.attach key identity kind rtp))
        (s.goto t (s.manager.takeEntry key).2 (.attachErase key identity kind rtp removed))
  | attachErase {s : State T} {t : T} {key : CryptorKey} {identity : String} {kind : TrackKind}
      {rtp : RtpEnd} {removed : Entry} (hpc : s.pc t = .attachErase key identity kind rtp removed) :
      Step s (.go t) (s.goto t ((s.manager.eraseCryptor key).detachEntry removed)
        (.attachRead key identity kind rtp))
  | attachRead {s : State T} {t : T} {key : CryptorKey} {identity : String} {kind : TrackKind}
      {rtp : RtpEnd} (hpc : s.pc t = .attachRead key identity kind rtp) :
      Step s (.go t) (s.goto t
        (s.manager.installTransformer identity kind rtp s.manager.enabled).2
        (.attachPut key identity kind s.manager.enabled
          (s.manager.installTransformer identity kind rtp s.manager.enabled).1))
  | attachPut {s : State T} {t : T} {key : CryptorKey} {identity : String} {kind : TrackKind}
      {enabled : Bool} {entry : Entry} (hpc : s.pc t = .attachPut key identity kind enabled entry) :
      Step s (.go t) (s.goto t (s.manager.putCryptor key identity kind enabled)
        (.attachEmplace key enabled entry))
  | attachEmplace {s : State T} {t : T} {key : CryptorKey} {enabled : Bool} {entry : Entry}
      (hpc : s.pc t = .attachEmplace key enabled entry) (hlock : s.lock = none) :
      Step s (.go t) (s.goto t (s.manager.emplaceEntry key entry) .idle)
  | detachNone {s : State T} {t : T} {key : CryptorKey} (hpc : s.pc t = .idle)
      (hlock : s.lock = none) (hentry : s.manager.entries[key]? = none) :
      Step s (.start t (.detach key)) s
  | detachSome {s : State T} {t : T} {key : CryptorKey} {removed : Entry} (hpc : s.pc t = .idle)
      (hlock : s.lock = none) (hentry : s.manager.entries[key]? = some removed) :
      Step s (.start t (.detach key))
        (s.goto t (s.manager.takeEntry key).2 (.detachErase key removed))
  | detachErase {s : State T} {t : T} {key : CryptorKey} {removed : Entry}
      (hpc : s.pc t = .detachErase key removed) :
      Step s (.go t) (s.goto t ((s.manager.eraseCryptor key).detachEntry removed) .idle)
  | enabledSame {s : State T} {t : T} {enabled : Bool} (hpc : s.pc t = .idle)
      (hsame : s.manager.enabled = enabled) : Step s (.start t (.setEnabled enabled)) s
  | enabledChange {s : State T} {t : T} {enabled : Bool} (hpc : s.pc t = .idle)
      (hchange : s.manager.enabled ≠ enabled) :
      Step s (.start t (.setEnabled enabled))
        (s.goto t { s.manager with enabled := enabled } (.enabledWait enabled))
  | enabledAcquire {s : State T} {t : T} {enabled : Bool} (hpc : s.pc t = .enabledWait enabled)
      (hlock : s.lock = none) :
      Step s (.go t)
        ((s.goto t s.manager (.enabledLoop enabled s.manager.entries.keys)).acquire t)
  | enabledTurn {s : State T} {t : T} {enabled : Bool} {key : CryptorKey}
      {keys : List CryptorKey} (hpc : s.pc t = .enabledLoop enabled (key :: keys)) :
      Step s (.go t) (s.goto t (s.manager.applyEnabled enabled key) (.enabledLoop enabled keys))
  | enabledDone {s : State T} {t : T} {enabled : Bool} (hpc : s.pc t = .enabledLoop enabled []) :
      Step s (.go t) (s.goto t s.manager .idle).release
  | frameNone {s : State T} {t : T} {key : CryptorKey} {enabled : Bool} (hpc : s.pc t = .idle)
      (hlock : s.lock = none) (hentry : s.manager.entries[key]? = none) :
      Step s (.start t (.setFrameCryptorEnabled key enabled)) s
  | frameSome {s : State T} {t : T} {key : CryptorKey} {enabled : Bool} {entry : Entry}
      (hpc : s.pc t = .idle) (hlock : s.lock = none)
      (hentry : s.manager.entries[key]? = some entry) :
      Step s (.start t (.setFrameCryptorEnabled key enabled))
        ((s.goto t (s.manager.setIndividuallyEnabled key enabled)
          (.frameRead key enabled)).acquire t)
  | frameRead {s : State T} {t : T} {key : CryptorKey} {enabled : Bool} {entry : Entry}
      (hpc : s.pc t = .frameRead key enabled) (hentry : s.manager.entries[key]? = some entry) :
      Step s (.go t) (s.goto t
        (s.manager.setTransformerEnabled entry.transformer (enabled && s.manager.enabled))
        (.framePut key enabled (enabled && s.manager.enabled)))
  | framePut {s : State T} {t : T} {key : CryptorKey} {enabled effective : Bool}
      (hpc : s.pc t = .framePut key enabled effective) :
      Step s (.go t) (s.goto t (s.manager.setCryptorEnabled key effective) .idle).release
  | participantAcquire {s : State T} {t : T} {identity : String} {enabled : Bool}
      (hpc : s.pc t = .idle) (hlock : s.lock = none) :
      Step s (.start t (.setParticipantEnabled identity enabled))
        ((s.goto t s.manager (.participantRead identity enabled)).acquire t)
  | participantRead {s : State T} {t : T} {identity : String} {enabled : Bool}
      (hpc : s.pc t = .participantRead identity enabled) :
      Step s (.go t) (s.goto t s.manager
        (.participantLoop identity s.manager.enabled enabled s.manager.entries.keys))
  | participantTurn {s : State T} {t : T} {identity : String} {globallyEnabled enabled : Bool}
      {key : CryptorKey} {keys : List CryptorKey}
      (hpc : s.pc t = .participantLoop identity globallyEnabled enabled (key :: keys)) :
      Step s (.go t) (s.goto t
        (s.manager.applyParticipantEnabled identity globallyEnabled enabled key)
        (.participantLoop identity globallyEnabled enabled keys))
  | participantDone {s : State T} {t : T} {identity : String} {globallyEnabled enabled : Bool}
      (hpc : s.pc t = .participantLoop identity globallyEnabled enabled []) :
      Step s (.go t) (s.goto t s.manager .idle).release

/-! ## 2. What is to hold, and when -/

/-- The three views agree: the same keys, and the transformer and the info of every
    entry switched as the two settings say. -/
structure Agree (m : Manager) : Prop where
  keys : ∀ key, key ∈ m.entries ↔ key ∈ m.cryptors
  synced : ∀ (key : CryptorKey) (entry : Entry), m.entries[key]? = some entry →
    m.flag entry.transformer = some (m.enabled && entry.individuallyEnabled) ∧
      (m.cryptors[key]?).map (·.enabled) = some (m.enabled && entry.individuallyEnabled)

/-- The condition on a step.  A loop of `SetEnabled` starts only if another one for
    the present flag is still to come, or it is itself for the present flag and no
    `Attach` under way has read another.  An info is erased or put in only while there
    is no entry under its key and no other `Attach` about to put one in. -/
def Orderly (s : State T) : Action T → Prop
  | .start _ _ => True
  | .go t =>
    match s.pc t with
    | .enabledWait enabled =>
      (∃ other, other ≠ t ∧ s.pc other = .enabledWait s.manager.enabled) ∨
        (enabled = s.manager.enabled ∧ ∀ other read entry,
          (s.pc other).attached = some (read, entry) → read = s.manager.enabled)
    | .attachErase key _ _ _ _ =>
      key ∉ s.manager.entries ∧ ∀ other, (s.pc other).emplaces ≠ some key
    | .detachErase key _ =>
      key ∉ s.manager.entries ∧ ∀ other, (s.pc other).emplaces ≠ some key
    | .attachPut key _ _ _ _ =>
      key ∉ s.manager.entries ∧ ∀ other, (s.pc other).emplaces ≠ some key
    | _ => True

/-! ## 3. The lock and the owners of the transformers -/

@[simp] theorem goto_pc_self (s : State T) (t : T) (m : Manager) (pc : Pc) :
    (s.goto t m pc).pc t = pc := by
  simp [State.goto]

theorem goto_pc_other (s : State T) {t other : T} (m : Manager) (pc : Pc) (hne : other ≠ t) :
    (s.goto t m pc).pc other = s.pc other := by
  simp [State.goto, hne]

@[simp] theorem goto_manager (s : State T) (t : T) (m : Manager) (pc : Pc) :
    (s.goto t m pc).manager = m := rfl

@[simp] theorem goto_lock (s : State T) (t : T) (m : Manager) (pc : Pc) :
    (s.goto t m pc).lock = s.lock := rfl

omit [DecidableEq T] in
@[simp] theorem acquire_pc (s : State T) (t : T) : (s.acquire t).pc = s.pc := rfl

omit [DecidableEq T] in
@[simp] theorem acquire_manager (s : State T) (t : T) : (s.acquire t).manager = s.manager := rfl

omit [DecidableEq T] in
@[simp] theorem release_pc (s : State T) : s.release.pc = s.pc := rfl

omit [DecidableEq T] in
@[simp] theorem release_manager (s : State T) : s.release.manager = s.manager := rfl

/-- Whoever is inside a section of `entries_mutex_` holds it. -/
def Locked (s : State T) : Prop := ∀ t, (s.pc t).HoldsLock → s.lock = some t

omit [DecidableEq T] in
theorem Locked.free {s : State T} (hs : Locked s) (hlock : s.lock = none) (t : T) :
    ¬ (s.pc t).HoldsLock := by
  intro hholds
  rw [hs t hholds] at hlock
  simp at hlock

omit [DecidableEq T] in
/-- Two threads are never inside at once. -/
theorem Locked.unique {s : State T} (hs : Locked s) {t other : T} (ht : (s.pc t).HoldsLock)
    (hother : (s.pc other).HoldsLock) : other = t := by
  have hsame := (hs t ht).symm.trans (hs other hother)
  exact (Option.some.inj hsame).symm

/-- A step to a program counter outside. -/
theorem Locked.goto_outside {s : State T} (hs : Locked s) {t : T} {m : Manager} {pc : Pc}
    (hpc : ¬ pc.HoldsLock) : Locked (s.goto t m pc) := by
  intro other hother
  by_cases heq : other = t
  · subst heq
    rw [goto_pc_self] at hother
    exact absurd hother hpc
  · rw [goto_pc_other s m pc heq] at hother
    exact hs other hother

/-- A step inside. -/
theorem Locked.goto_inside {s : State T} (hs : Locked s) {t : T} {m : Manager} {pc : Pc}
    (ht : (s.pc t).HoldsLock) : Locked (s.goto t m pc) := by
  intro other hother
  by_cases heq : other = t
  · rw [heq]
    exact hs t ht
  · rw [goto_pc_other s m pc heq] at hother
    exact hs other hother

theorem Locked.acquire {s : State T} (hs : Locked s) (hlock : s.lock = none) {t : T}
    {m : Manager} {pc : Pc} : Locked ((s.goto t m pc).acquire t) := by
  intro other hother
  rw [acquire_pc] at hother
  by_cases heq : other = t
  · rw [heq]
    rfl
  · rw [goto_pc_other s m pc heq] at hother
    exact absurd hother (hs.free hlock other)

theorem Locked.release {s : State T} (hs : Locked s) {t : T} {m : Manager}
    (ht : (s.pc t).HoldsLock) : Locked (s.goto t m .idle).release := by
  intro other hother
  rw [release_pc] at hother
  by_cases heq : other = t
  · subst heq
    rw [goto_pc_self] at hother
    exact absurd hother id
  · rw [goto_pc_other s m .idle heq] at hother
    exact absurd (hs.unique ht hother) heq

theorem Locked.step {s s' : State T} {action : Action T} (hs : Locked s)
    (hstep : Step s action s') : Locked s' := by
  cases hstep with
  | detachNone | enabledSame | frameNone => exact hs
  | attachNone | attachSome | attachErase | attachRead | attachPut | attachEmplace | detachSome
  | detachErase | enabledChange => exact hs.goto_outside id
  | enabledAcquire _ hlock | frameSome _ hlock | participantAcquire _ hlock =>
    exact hs.acquire hlock
  | enabledTurn hpc | frameRead hpc | participantRead hpc | participantTurn hpc =>
    exact hs.goto_inside (by rw [hpc]; trivial)
  | enabledDone hpc | framePut hpc | participantDone hpc =>
    exact hs.release (by rw [hpc]; trivial)

/-- A transformer belongs to an entry or to a call under way. -/
inductive Owner (T : Type) where
  | entry (key : CryptorKey)
  | thread (t : T)

def Owns (s : State T) : Owner T → Nat → Prop
  | .entry key, transformer => ∃ entry, s.manager.entries[key]? = some entry ∧
      entry.transformer = transformer
  | .thread t, transformer => (s.pc t).transformer = some transformer

structure Owned (s : State T) : Prop where
  lt : ∀ owner transformer, Owns s owner transformer →
    transformer < s.manager.transformers.length
  unique : ∀ owner owner' transformer, Owns s owner transformer → Owns s owner' transformer →
    owner = owner'

omit [DecidableEq T] in
/-- Nobody gains a transformer. -/
theorem Owned.keep {s s' : State T} (hs : Owned s)
    (hlength : s.manager.transformers.length ≤ s'.manager.transformers.length)
    (howns : ∀ owner transformer, Owns s' owner transformer → Owns s owner transformer) :
    Owned s' := by
  constructor
  · intro owner transformer hown
    exact Nat.lt_of_lt_of_le (hs.lt owner transformer (howns _ _ hown)) hlength
  · intro owner owner' transformer hown hown'
    exact hs.unique owner owner' transformer (howns _ _ hown) (howns _ _ hown')

omit [DecidableEq T] in
/-- `source` hands its transformer to `target`. -/
theorem Owned.move {s s' : State T} (hs : Owned s) (source target : Owner T)
    (hlength : s.manager.transformers.length ≤ s'.manager.transformers.length)
    (howns : ∀ owner transformer, Owns s' owner transformer →
      (owner ≠ source ∧ Owns s owner transformer) ∨
        (owner = target ∧ Owns s source transformer)) : Owned s' := by
  constructor
  · intro owner transformer hown
    rcases howns owner transformer hown with ⟨-, hold⟩ | ⟨-, hold⟩
    · exact Nat.lt_of_lt_of_le (hs.lt _ _ hold) hlength
    · exact Nat.lt_of_lt_of_le (hs.lt _ _ hold) hlength
  · intro owner owner' transformer hown hown'
    rcases howns owner transformer hown with ⟨hne, hold⟩ | ⟨htarget, hold⟩
    · rcases howns owner' transformer hown' with ⟨-, hold'⟩ | ⟨-, hold'⟩
      · exact hs.unique _ _ _ hold hold'
      · exact absurd (hs.unique _ _ _ hold hold') hne
    · rcases howns owner' transformer hown' with ⟨hne', hold'⟩ | ⟨htarget', -⟩
      · exact absurd (hs.unique _ _ _ hold' hold) hne'
      · rw [htarget, htarget']

omit [DecidableEq T] in
/-- `owner` gets a new transformer. -/
theorem Owned.alloc {s s' : State T} (hs : Owned s) (target : Owner T)
    (hlength : s'.manager.transformers.length = s.manager.transformers.length + 1)
    (howns : ∀ owner transformer, Owns s' owner transformer →
      (Owns s owner transformer ∧ owner ≠ target) ∨
        (owner = target ∧ transformer = s.manager.transformers.length)) : Owned s' := by
  constructor
  · intro owner transformer hown
    rcases howns owner transformer hown with ⟨hold, -⟩ | ⟨-, hnew⟩
    · have := hs.lt _ _ hold
      omega
    · omega
  · intro owner owner' transformer hown hown'
    rcases howns owner transformer hown with ⟨hold, -⟩ | ⟨htarget, hnew⟩
    · rcases howns owner' transformer hown' with ⟨hold', -⟩ | ⟨-, hnew'⟩
      · exact hs.unique _ _ _ hold hold'
      · have := hs.lt _ _ hold
        omega
    · rcases howns owner' transformer hown' with ⟨hold', -⟩ | ⟨htarget', -⟩
      · have := hs.lt _ _ hold'
        omega
      · rw [htarget, htarget']

omit [DecidableEq T] in
theorem Owned.acquire {s : State T} (hs : Owned s) (t : T) : Owned (s.acquire t) :=
  ⟨hs.lt, hs.unique⟩

omit [DecidableEq T] in
theorem Owned.release {s : State T} (hs : Owned s) : Owned s.release := ⟨hs.lt, hs.unique⟩

/-! ### The sections and the entries -/

theorem length_setTransformerEnabled (m : Manager) (transformer : Nat) (enabled : Bool) :
    (m.setTransformerEnabled transformer enabled).transformers.length = m.transformers.length := by
  simp [Manager.setTransformerEnabled]

theorem applyEnabled_length (m : Manager) (enabled : Bool) (key : CryptorKey) :
    (m.applyEnabled enabled key).transformers.length = m.transformers.length := by
  unfold Manager.applyEnabled
  split
  · rfl
  · exact length_setTransformerEnabled _ _ _

theorem applyEnabled_entries (m : Manager) (enabled : Bool) (key : CryptorKey) :
    (m.applyEnabled enabled key).entries = m.entries := by
  unfold Manager.applyEnabled
  split <;> rfl

theorem applyParticipantEnabled_length (m : Manager) (identity : String)
    (globallyEnabled enabled : Bool) (key : CryptorKey) :
    (m.applyParticipantEnabled identity globallyEnabled enabled key).transformers.length =
      m.transformers.length := by
  unfold Manager.applyParticipantEnabled
  split
  · rfl
  · dsimp only
    split
    · rfl
    · exact length_setTransformerEnabled _ _ _

/-- Setting an individual switch changes nothing else of the entries. -/
theorem setIndividuallyEnabled_entries (m : Manager) (key : CryptorKey) (enabled : Bool)
    (other : CryptorKey) :
    (m.setIndividuallyEnabled key enabled).entries[other]? =
      if key = other then (m.entries[other]?).map fun entry =>
        { entry with individuallyEnabled := enabled }
      else m.entries[other]? := by
  simp only [Manager.setIndividuallyEnabled, ExtTreeMap.getElem?_modify,
    LawfulEqOrd.compare_eq_iff_eq]
  by_cases heq : key = other
  · rw [if_pos heq, if_pos heq, heq]
  · rw [if_neg heq, if_neg heq]

/-- The same entries up to their individual switches. -/
def SameTransformers (m m' : Manager) : Prop :=
  ∀ (key : CryptorKey) (entry : Entry), m'.entries[key]? = some entry →
    ∃ old, m.entries[key]? = some old ∧ old.transformer = entry.transformer

theorem sameTransformers_setIndividuallyEnabled (m : Manager) (key : CryptorKey)
    (enabled : Bool) : SameTransformers m (m.setIndividuallyEnabled key enabled) := by
  intro other entry hentry
  rw [setIndividuallyEnabled_entries] at hentry
  split at hentry
  · obtain ⟨old, hold, rfl⟩ := Option.map_eq_some_iff.mp hentry
    exact ⟨old, hold, rfl⟩
  · exact ⟨entry, hentry, rfl⟩

theorem sameTransformers_applyParticipantEnabled (m : Manager) (identity : String)
    (globallyEnabled enabled : Bool) (key : CryptorKey) :
    SameTransformers m (m.applyParticipantEnabled identity globallyEnabled enabled key) := by
  unfold Manager.applyParticipantEnabled
  split
  · exact fun _ entry hentry => ⟨entry, hentry, rfl⟩
  · dsimp only
    split
    · exact fun _ entry hentry => ⟨entry, hentry, rfl⟩
    · exact sameTransformers_setIndividuallyEnabled m key enabled

theorem Owned.keep_same {s : State T} (hs : Owned s) {t : T} {m : Manager} {pc : Pc}
    (hlength : m.transformers.length = s.manager.transformers.length)
    (hsame : SameTransformers s.manager m)
    (hpc : ∀ transformer, pc.transformer = some transformer →
      (s.pc t).transformer = some transformer) : Owned (s.goto t m pc) := by
  apply hs.keep (Nat.le_of_eq hlength.symm)
  intro owner transformer hown
  cases owner with
  | entry key =>
    obtain ⟨entry, hentry, rfl⟩ := hown
    exact hsame key entry hentry
  | thread other =>
    by_cases heq : other = t
    · subst heq
      rw [Owns, goto_pc_self] at hown
      exact hpc transformer hown
    · rw [Owns, goto_pc_other s m pc heq] at hown
      exact hown

/-- An entry is taken out by a call that keeps it. -/
theorem Owned.take {s : State T} (hs : Owned s) {t : T} {key : CryptorKey} {removed : Entry}
    {pc : Pc} (hidle : s.pc t = .idle) (hentry : s.manager.entries[key]? = some removed)
    (hpc : pc.transformer = some removed.transformer) :
    Owned (s.goto t (s.manager.takeEntry key).2 pc) := by
  refine hs.move (.entry key) (.thread t) (Nat.le_refl _) ?_
  intro owner transformer hown
  cases owner with
  | entry other =>
    left
    obtain ⟨entry, hentry', rfl⟩ := hown
    obtain ⟨hne, hold⟩ := Manager.entries_of_erase hentry'
    exact ⟨fun h => hne (Owner.entry.inj h).symm, entry, hold, rfl⟩
  | thread other =>
    by_cases heq : other = t
    · subst heq
      right
      rw [Owns, goto_pc_self, hpc] at hown
      exact ⟨rfl, removed, hentry, Option.some.inj hown⟩
    · left
      rw [Owns, goto_pc_other s _ pc heq] at hown
      exact ⟨by simp, hown⟩

theorem Owned.step {s s' : State T} {action : Action T} (hs : Owned s)
    (hstep : Step s action s') : Owned s' := by
  have hrefl : ∀ m : Manager, SameTransformers m m := fun _ _ entry hentry => ⟨entry, hentry, rfl⟩
  cases hstep with
  | detachNone | enabledSame | frameNone => exact hs
  | attachNone => exact hs.keep_same rfl (hrefl _) (by simp [Pc.transformer])
  | attachSome hpc _ hentry => exact hs.take hpc hentry rfl
  | detachSome hpc _ hentry => exact hs.take hpc hentry rfl
  | attachErase | detachErase =>
    exact hs.keep_same (length_setTransformerEnabled _ _ _) (hrefl _) (by simp [Pc.transformer])
  | @attachRead t =>
    apply hs.alloc (.thread t) (by simp [Manager.installTransformer])
    intro owner transformer hown
    cases owner with
    | entry key => exact Or.inl ⟨hown, by simp⟩
    | thread other =>
      by_cases heq : other = t
      · subst heq
        right
        rw [Owns, goto_pc_self] at hown
        exact ⟨rfl, (Option.some.inj hown).symm⟩
      · left
        rw [Owns, goto_pc_other s _ _ heq] at hown
        exact ⟨hown, by simpa using heq⟩
  | attachPut hpc => exact hs.keep_same rfl (hrefl _) (by rw [hpc]; simp [Pc.transformer])
  | @attachEmplace t key _ entry hpc =>
    refine hs.move (.thread t) (.entry key) (Nat.le_refl _) ?_
    intro owner transformer hown
    cases owner with
    | entry other =>
      obtain ⟨found, hfound, rfl⟩ := hown
      simp only [goto_manager, Manager.emplaceEntry, ExtTreeMap.getElem?_insertIfNew,
        LawfulEqOrd.compare_eq_iff_eq] at hfound
      split at hfound
      · rename_i hnew
        right
        cases hfound
        exact ⟨by rw [hnew.1], by rw [Owns, hpc]; rfl⟩
      · exact Or.inl ⟨by simp, found, hfound, rfl⟩
    | thread other =>
      left
      by_cases heq : other = t
      · subst heq
        rw [Owns, goto_pc_self] at hown
        simp [Pc.transformer] at hown
      · rw [Owns, goto_pc_other s _ _ heq] at hown
        exact ⟨by simpa using heq, hown⟩
  | enabledChange => exact hs.keep_same rfl (hrefl _) (by simp [Pc.transformer])
  | enabledAcquire | participantAcquire =>
    refine Owned.acquire ?_ _
    exact hs.keep_same rfl (hrefl _) (by simp [Pc.transformer])
  | frameSome =>
    refine Owned.acquire ?_ _
    exact hs.keep_same rfl (sameTransformers_setIndividuallyEnabled _ _ _)
      (by simp [Pc.transformer])
  | enabledTurn =>
    refine hs.keep_same (applyEnabled_length _ _ _) ?_ (by simp [Pc.transformer])
    intro key entry hentry
    rw [applyEnabled_entries] at hentry
    exact ⟨entry, hentry, rfl⟩
  | enabledDone | participantDone | framePut =>
    apply Owned.release
    exact hs.keep_same rfl (hrefl _) (by simp [Pc.transformer])
  | frameRead =>
    exact hs.keep_same (length_setTransformerEnabled _ _ _) (hrefl _) (by simp [Pc.transformer])
  | participantRead => exact hs.keep_same rfl (hrefl _) (by simp [Pc.transformer])
  | participantTurn =>
    exact hs.keep_same (applyParticipantEnabled_length _ _ _ _ _)
      (sameTransformers_applyParticipantEnabled _ _ _ _ _) (by simp [Pc.transformer])

/-! ## 4. The invariant -/

/-- The entry that a `SetFrameCryptorEnabled` under way has switched, and how. -/
def Pc.switches : Pc → Option (CryptorKey × Bool)
  | .frameRead key enabled => some (key, enabled)
  | .framePut key enabled _ => some (key, enabled)
  | _ => none

/-- The thread has yet to bring the entry under `key` up to date. -/
def Pc.Pending (key : CryptorKey) : Pc → Prop
  | .enabledLoop _ keys => key ∈ keys
  | .frameRead key' _ => key = key'
  | .framePut key' _ _ => key = key'
  | _ => False

/-- What the thread still works with agrees with the present flag. -/
def Pc.Current (m : Manager) : Pc → Prop
  | .attachPut _ _ _ read _ => read = m.enabled
  | .attachEmplace _ read _ => read = m.enabled
  | .enabledLoop enabled _ => enabled = m.enabled
  | .participantLoop _ globallyEnabled _ _ => globallyEnabled = m.enabled
  | .framePut key enabled effective => effective = (enabled && m.enabled) ∧
      ∀ entry, m.entries[key]? = some entry → m.flag entry.transformer = some effective
  | _ => True

def Synced (m : Manager) (key : CryptorKey) (entry : Entry) : Prop :=
  m.flag entry.transformer = some (m.enabled && entry.individuallyEnabled) ∧
    (m.cryptors[key]?).map (·.enabled) = some (m.enabled && entry.individuallyEnabled)

/-- Every entry is up to date, or some thread is about to bring it there with the
    present flag. -/
structure Settled (s : State T) : Prop where
  current : ∀ t, (s.pc t).Current s.manager
  synced : ∀ (key : CryptorKey) (entry : Entry), s.manager.entries[key]? = some entry →
    (∀ t, ¬ (s.pc t).Pending key) → Synced s.manager key entry

structure Inv (s : State T) : Prop where
  locked : Locked s
  owned : Owned s
  covered : ∀ key, key ∈ s.manager.entries → key ∈ s.manager.cryptors
  known : ∀ key, key ∈ s.manager.cryptors → key ∈ s.manager.entries ∨
    (∃ t, (s.pc t).emplaces = some key) ∨ ∃ t, (s.pc t).erases = some key
  emplace : ∀ t key read entry, s.pc t = .attachEmplace key read entry →
    key ∉ s.manager.entries ∧ (s.manager.cryptors[key]?).map (·.enabled) = some read
  emplaceUnique : ∀ t t' key, (s.pc t).emplaces = some key → (s.pc t').emplaces = some key →
    t = t'
  attached : ∀ t read entry, (s.pc t).attached = some (read, entry) →
    s.manager.flag entry.transformer = some read ∧ entry.individuallyEnabled = true
  switched : ∀ t key enabled, (s.pc t).switches = some (key, enabled) →
    ∃ entry, s.manager.entries[key]? = some entry ∧ entry.individuallyEnabled = enabled
  settled : (∃ t, s.pc t = .enabledWait s.manager.enabled) ∨ Settled s

theorem holdsLock_of_switches {pc : Pc} {key : CryptorKey} {enabled : Bool}
    (hswitch : pc.switches = some (key, enabled)) : pc.HoldsLock := by
  cases pc <;> simp_all [Pc.switches, Pc.HoldsLock]

theorem transformer_of_attached {pc : Pc} {read : Bool} {entry : Entry}
    (hattached : pc.attached = some (read, entry)) : pc.transformer = some entry.transformer := by
  cases pc <;> simp_all [Pc.attached, Pc.transformer]

/-- Outside the lock only the flag as `Attach` has read it matters. -/
theorem Pc.Current.of_outside {pc : Pc} {m m' : Manager} (hcurrent : pc.Current m)
    (houtside : ¬ pc.HoldsLock) (henabled : m'.enabled = m.enabled) : pc.Current m' := by
  cases pc with
  | attachPut | attachEmplace => exact Eq.trans hcurrent henabled.symm
  | enabledLoop | participantLoop | framePut => exact absurd trivial houtside
  | _ => trivial

theorem holdsLock_of_pending {pc : Pc} {key : CryptorKey} (hpending : pc.Pending key) :
    pc.HoldsLock := by
  cases pc <;> simp_all [Pc.Pending, Pc.HoldsLock]

omit [DecidableEq T] in
theorem inv_init (enabled : Bool) : Inv (State.init T enabled) := by
  refine ⟨?_, ⟨?_, ?_⟩, ?_, ?_, ?_, ?_, ?_, ?_, Or.inr ⟨?_, ?_⟩⟩
  · intro t hholds
    exact absurd hholds id
  · rintro (key | t) transformer hown
    · obtain ⟨entry, hentry, -⟩ := hown
      simp [State.init, Manager.new] at hentry
    · simp [Owns, State.init, Pc.transformer] at hown
  · rintro (key | t) owner transformer hown
    · obtain ⟨entry, hentry, -⟩ := hown
      simp [State.init, Manager.new] at hentry
    · simp [Owns, State.init, Pc.transformer] at hown
  · simp [State.init, Manager.new]
  · simp [State.init, Manager.new]
  · simp [State.init]
  · simp [State.init, Pc.emplaces]
  · simp [State.init, Pc.attached]
  · simp [State.init, Pc.switches]
  · intro t
    trivial
  · simp [State.init, Manager.new]

omit [DecidableEq T] in
/-- At rest the three views agree. -/
theorem Inv.agree {s : State T} (hs : Inv s) (hidle : ∀ t, s.pc t = .idle) : Agree s.manager := by
  have hsettled : Settled s := by
    rcases hs.settled with ⟨t, hwait⟩ | hsettled
    · rw [hidle t] at hwait
      simp at hwait
    · exact hsettled
  constructor
  · intro key
    refine ⟨hs.covered key, fun hmem => ?_⟩
    rcases hs.known key hmem with hentry | ⟨t, hpc⟩ | ⟨t, hpc⟩
    · exact hentry
    · simp [hidle t, Pc.emplaces] at hpc
    · simp [hidle t, Pc.erases] at hpc
  · intro key entry hentry
    refine hsettled.synced key entry hentry fun t hpending => ?_
    rw [hidle t] at hpending
    exact hpending

/-! ### Steps that leave the manager as it is -/

/-- The thread has nothing in hand that others rely on. -/
structure Pc.Quiet (pc : Pc) : Prop where
  erases : pc.erases = none
  emplaces : pc.emplaces = none
  attached : pc.attached = none
  switches : pc.switches = none

omit [DecidableEq T] in
/-- What a thread has in hand it still has after the step of another one. -/
theorem inHand_of_others {s s' : State T} {t other : T}
    (hothers : ∀ other, other ≠ t → s'.pc other = s.pc other) {β : Type} {f : Pc → Option β} {b : β}
    (hmoved : f (s.pc t) ≠ some b) (hother : f (s.pc other) = some b) :
    f (s'.pc other) = some b := by
  have hne : other ≠ t := by
    rintro rfl
    exact hmoved hother
  rw [hothers other hne]
  exact hother

/-- A step of a quiet thread; its lock and the global flag may change. -/
theorem Inv.pass {s s' : State T} (hs : Inv s) {t : T} {pc : Pc} {enabled : Bool}
    (hlocked : Locked s') (howned : Owned s')
    (hmanager : s'.manager = { s.manager with enabled := enabled })
    (hself : s'.pc t = pc) (hothers : ∀ other, other ≠ t → s'.pc other = s.pc other)
    (hold : (s.pc t).Quiet) (hnew : pc.Quiet)
    (hsettled : (∃ t, s'.pc t = .enabledWait enabled) ∨ Settled s') : Inv s' := by
  -- a thread with something in hand is another one, and has not moved
  have hkeep : ∀ {β : Type} (f : Pc → Option β) (other : T) (b : β), f pc = none →
      f (s'.pc other) = some b → f (s.pc other) = some b := by
    intro β f other b hnone hsome
    by_cases heq : other = t
    · subst heq
      rw [hself, hnone] at hsome
      simp at hsome
    · rwa [hothers other heq] at hsome
  refine ⟨hlocked, howned, ?_, ?_, ?_, ?_, ?_, ?_, ?_⟩
  · rw [hmanager]
    exact hs.covered
  · intro key hmem
    rw [hmanager] at hmem ⊢
    rcases hs.known key hmem with hentry | ⟨other, hpc⟩ | ⟨other, hpc⟩
    · exact Or.inl hentry
    · exact Or.inr (Or.inl ⟨other, inHand_of_others hothers (by simp [hold.emplaces]) hpc⟩)
    · exact Or.inr (Or.inr ⟨other, inHand_of_others hothers (by simp [hold.erases]) hpc⟩)
  · intro other key read entry hpc
    rw [hmanager]
    have hemplaces := hkeep Pc.emplaces other key hnew.emplaces (by rw [hpc]; rfl)
    have hne : other ≠ t := by
      rintro rfl
      rw [hold.emplaces] at hemplaces
      simp at hemplaces
    exact hs.emplace other key read entry (by rw [← hothers other hne]; exact hpc)
  · intro other other' key hpc hpc'
    exact hs.emplaceUnique other other' key (hkeep _ _ _ hnew.emplaces hpc)
      (hkeep _ _ _ hnew.emplaces hpc')
  · intro other read entry hpc
    rw [hmanager]
    exact hs.attached other read entry (hkeep _ _ _ hnew.attached hpc)
  · intro other key switched hpc
    rw [hmanager]
    exact hs.switched other key switched (hkeep _ _ _ hnew.switches hpc)
  · rw [hmanager]
    exact hsettled

/-- The settled part of such a step: nothing that was pending may be forgotten. -/
theorem settled_pass {s s' : State T} {t : T} {pc : Pc}
    (hs : (∃ t, s.pc t = .enabledWait s.manager.enabled) ∨ Settled s)
    (hmanager : s'.manager = s.manager) (hself : s'.pc t = pc)
    (hothers : ∀ other, other ≠ t → s'.pc other = s.pc other)
    (hwait : ∀ enabled, s.pc t ≠ .enabledWait enabled)
    (hcurrent : (s.pc t).Current s.manager → pc.Current s.manager)
    (hpending : ∀ key, (s.pc t).Pending key → key ∈ s.manager.entries → pc.Pending key) :
    (∃ t, s'.pc t = .enabledWait s.manager.enabled) ∨ Settled s' := by
  rcases hs with ⟨other, hother⟩ | hsettled
  · left
    refine ⟨other, ?_⟩
    rw [hothers other ?_]
    · exact hother
    · rintro rfl
      exact hwait _ hother
  · right
    constructor
    · intro other
      rw [hmanager]
      by_cases heq : other = t
      · subst heq
        rw [hself]
        exact hcurrent (hsettled.current other)
      · rw [hothers other heq]
        exact hsettled.current other
    · intro key entry hentry hnone
      rw [hmanager] at hentry ⊢
      refine hsettled.synced key entry hentry fun other hother => ?_
      by_cases heq : other = t
      · subst heq
        have hmem : key ∈ s.manager.entries :=
          ExtTreeMap.mem_iff_isSome_getElem?.mpr (by rw [hentry]; rfl)
        exact hnone other (by rw [hself]; exact hpending key hother hmem)
      · exact hnone other (by rw [hothers other heq]; exact hother)

/-! ### Steps of a lock holder on one entry -/

/-- `m'` differs from `m` only in the entry under `key`, its transformer's flag and
    its info. -/
structure TouchesOnly (m m' : Manager) (key : CryptorKey) (entry : Entry) : Prop where
  entry_eq : m.entries[key]? = some entry
  entry_new : ∃ entry', m'.entries[key]? = some entry' ∧ entry'.transformer = entry.transformer
  entries : ∀ other, other ≠ key → m'.entries[other]? = m.entries[other]?
  info_new : key ∈ m'.cryptors
  cryptors : ∀ other, other ≠ key → m'.cryptors[other]? = m.cryptors[other]?
  enabled : m'.enabled = m.enabled
  flag : ∀ transformer, transformer ≠ entry.transformer → m'.flag transformer = m.flag transformer

theorem mem_of_getElem? {α : Type} {map : ExtTreeMap CryptorKey α} {key : CryptorKey} {a : α}
    (h : map[key]? = some a) : key ∈ map :=
  ExtTreeMap.mem_iff_isSome_getElem?.mpr (by rw [h]; rfl)

theorem getElem?_of_mem {α : Type} {map : ExtTreeMap CryptorKey α} {key : CryptorKey}
    (h : key ∈ map) : ∃ a, map[key]? = some a :=
  Option.isSome_iff_exists.mp (ExtTreeMap.mem_iff_isSome_getElem?.mp h)

theorem TouchesOnly.mem_entries {m m' : Manager} {key : CryptorKey} {entry : Entry}
    (h : TouchesOnly m m' key entry) (other : CryptorKey) :
    other ∈ m'.entries ↔ other ∈ m.entries := by
  by_cases heq : other = key
  · subst heq
    obtain ⟨entry', hentry', -⟩ := h.entry_new
    exact ⟨fun _ => mem_of_getElem? h.entry_eq, fun _ => mem_of_getElem? hentry'⟩
  · rw [ExtTreeMap.mem_iff_isSome_getElem?, ExtTreeMap.mem_iff_isSome_getElem?,
      h.entries other heq]

theorem TouchesOnly.mem_cryptors {m m' : Manager} {key : CryptorKey} {entry : Entry}
    (h : TouchesOnly m m' key entry) {other : CryptorKey} (hne : other ≠ key) :
    other ∈ m'.cryptors ↔ other ∈ m.cryptors := by
  rw [ExtTreeMap.mem_iff_isSome_getElem?, ExtTreeMap.mem_iff_isSome_getElem?,
    h.cryptors other hne]

/-- The thread that holds the lock, or takes it in this very step, works on one entry. -/
theorem Inv.touch {s s' : State T} (hs : Inv s) {t : T} {pc : Pc} {key : CryptorKey}
    {entry : Entry} (hlocked : Locked s') (howned : Owned s')
    (htouch : TouchesOnly s.manager s'.manager key entry)
    (hself : s'.pc t = pc) (hothers : ∀ other, other ≠ t → s'.pc other = s.pc other)
    (hholds : (s.pc t).HoldsLock ∨ s.lock = none)
    (holdEmplaces : (s.pc t).emplaces = none) (holdErases : (s.pc t).erases = none)
    (hwait : ∀ enabled, s.pc t ≠ .enabledWait enabled)
    (hemplaces : pc.emplaces = none) (hattached : pc.attached = none)
    (hswitches : ∀ key' enabled, pc.switches = some (key', enabled) →
      ∃ entry, s'.manager.entries[key']? = some entry ∧ entry.individuallyEnabled = enabled)
    (hcurrent : Settled s → pc.Current s'.manager)
    (hpending : ∀ other, other ≠ key → (s.pc t).Pending other → pc.Pending other)
    (hsynced : Settled s → ∀ entry', s'.manager.entries[key]? = some entry' → ¬ pc.Pending key →
      Synced s'.manager key entry') : Inv s' := by
  -- no other thread is inside
  have houtside : ∀ other, other ≠ t → ¬ (s.pc other).HoldsLock := by
    intro other hne hother
    rcases hholds with ht | hlock
    · exact hne (hs.locked.unique ht hother)
    · exact hs.locked.free hlock other hother
  have hne_of_emplaces : ∀ other key', (s'.pc other).emplaces = some key' → other ≠ t := by
    rintro other key' hpc rfl
    rw [hself, hemplaces] at hpc
    simp at hpc
  have hentryMem : key ∈ s.manager.entries := mem_of_getElem? htouch.entry_eq
  refine ⟨hlocked, howned, ?_, ?_, ?_, ?_, ?_, ?_, ?_⟩
  · intro other hmem
    by_cases heq : other = key
    · rw [heq]
      exact htouch.info_new
    · rw [htouch.mem_cryptors heq]
      exact hs.covered other ((htouch.mem_entries other).mp hmem)
  · intro other hmem
    rw [htouch.mem_entries]
    by_cases heq : other = key
    · rw [heq]
      exact Or.inl hentryMem
    · rcases hs.known other ((htouch.mem_cryptors heq).mp hmem) with hentry | ⟨u, hpc⟩ | ⟨u, hpc⟩
      · exact Or.inl hentry
      · right
        left
        exact ⟨u, inHand_of_others hothers (by simp [holdEmplaces]) hpc⟩
      · right
        right
        exact ⟨u, inHand_of_others hothers (by simp [holdErases]) hpc⟩
  · intro u key' read entry' hpc
    have hne := hne_of_emplaces u key' (by rw [hpc]; rfl)
    rw [hothers u hne] at hpc
    obtain ⟨hfree, hinfo⟩ := hs.emplace u key' read entry' hpc
    have hkey : key' ≠ key := by
      rintro rfl
      exact hfree hentryMem
    rw [htouch.mem_entries, htouch.cryptors key' hkey]
    exact ⟨hfree, hinfo⟩
  · intro u u' key' hpc hpc'
    have hne := hne_of_emplaces u key' hpc
    have hne' := hne_of_emplaces u' key' hpc'
    rw [hothers u hne] at hpc
    rw [hothers u' hne'] at hpc'
    exact hs.emplaceUnique u u' key' hpc hpc'
  · intro u read entry' hpc
    have hne : u ≠ t := by
      rintro rfl
      rw [hself, hattached] at hpc
      simp at hpc
    rw [hothers u hne] at hpc
    obtain ⟨hflag, hindividual⟩ := hs.attached u read entry' hpc
    refine ⟨?_, hindividual⟩
    -- its transformer is its own
    rw [htouch.flag, hflag]
    intro hsame
    have howns : Owns s (.thread u) entry'.transformer := transformer_of_attached hpc
    have hother : Owns s (.entry key) entry'.transformer :=
      ⟨entry, htouch.entry_eq, hsame.symm⟩
    simpa using hs.owned.unique _ _ _ howns hother
  · intro u key' enabled hpc
    by_cases heq : u = t
    · subst heq
      rw [hself] at hpc
      exact hswitches key' enabled hpc
    · rw [hothers u heq] at hpc
      exact absurd (holdsLock_of_switches hpc) (houtside u heq)
  · rw [htouch.enabled]
    rcases hs.settled with ⟨u, hu⟩ | hsettled
    · left
      refine ⟨u, ?_⟩
      rw [hothers u ?_]
      · exact hu
      · rintro rfl
        exact hwait _ hu
    · right
      constructor
      · intro u
        by_cases heq : u = t
        · subst heq
          rw [hself]
          exact hcurrent hsettled
        · rw [hothers u heq]
          exact (hsettled.current u).of_outside (houtside u heq) htouch.enabled
      · intro other entry' hentry' hnone
        by_cases heq : other = key
        · subst heq
          apply hsynced hsettled entry' hentry'
          rw [← hself]
          exact hnone t
        · rw [htouch.entries other heq] at hentry'
          have hold := hsettled.synced other entry' hentry' (fun u hu => ?_)
          · have hdiff : entry'.transformer ≠ entry.transformer := by
              intro hsame
              have h₁ : Owns s (.entry other) entry'.transformer := ⟨entry', hentry', rfl⟩
              have h₂ : Owns s (.entry key) entry'.transformer :=
                ⟨entry, htouch.entry_eq, hsame.symm⟩
              exact heq (Owner.entry.inj (hs.owned.unique _ _ _ h₁ h₂))
            rw [Synced, htouch.flag _ hdiff, htouch.cryptors other heq, htouch.enabled]
            exact hold
          · by_cases hut : u = t
            · subst hut
              exact hnone u (by rw [hself]; exact hpending other heq hu)
            · exact hnone u (by rw [hothers u hut]; exact hu)

section Sections

variable {m : Manager} {key : CryptorKey} {entry : Entry}
  (hentry : m.entries[key]? = some entry)
include hentry

theorem touches_setTransformerEnabled (hinfo : key ∈ m.cryptors) (enabled : Bool) :
    TouchesOnly m (m.setTransformerEnabled entry.transformer enabled) key entry where
  entry_eq := hentry
  entry_new := ⟨entry, hentry, rfl⟩
  entries := fun _ _ => rfl
  info_new := hinfo
  cryptors := fun _ _ => rfl
  enabled := rfl
  flag := fun transformer hne => by
    rw [Manager.flag_setTransformerEnabled, if_neg (Ne.symm hne)]

theorem touches_setCryptorEnabled (enabled : Bool) :
    TouchesOnly m (m.setCryptorEnabled key enabled) key entry where
  entry_eq := hentry
  entry_new := ⟨entry, hentry, rfl⟩
  entries := fun _ _ => rfl
  info_new := by simp [Manager.setCryptorEnabled]
  cryptors := fun other hne => by
    simp [Manager.setCryptorEnabled, ExtTreeMap.getElem?_insert, Ne.symm hne]
  enabled := rfl
  flag := fun _ _ => rfl

theorem touches_setIndividuallyEnabled (hinfo : key ∈ m.cryptors) (enabled : Bool) :
    TouchesOnly m (m.setIndividuallyEnabled key enabled) key entry where
  entry_eq := hentry
  entry_new := ⟨{ entry with individuallyEnabled := enabled },
    by rw [setIndividuallyEnabled_entries, if_pos rfl, hentry]; rfl, rfl⟩
  entries := fun other hne => by
    rw [setIndividuallyEnabled_entries, if_neg (Ne.symm hne)]
  info_new := hinfo
  cryptors := fun _ _ => rfl
  enabled := rfl
  flag := fun _ _ => rfl

end Sections

theorem TouchesOnly.trans {m m' m'' : Manager} {key : CryptorKey} {entry entry' : Entry}
    (h : TouchesOnly m m' key entry) (h' : TouchesOnly m' m'' key entry')
    (hsame : entry'.transformer = entry.transformer) : TouchesOnly m m'' key entry where
  entry_eq := h.entry_eq
  entry_new := by
    obtain ⟨new, hnew, htransformer⟩ := h'.entry_new
    exact ⟨new, hnew, htransformer.trans hsame⟩
  entries := fun other hne => (h'.entries other hne).trans (h.entries other hne)
  info_new := h'.info_new
  cryptors := fun other hne => (h'.cryptors other hne).trans (h.cryptors other hne)
  enabled := h'.enabled.trans h.enabled
  flag := fun transformer hne =>
    (h'.flag transformer (by rw [hsame]; exact hne)).trans (h.flag transformer hne)

theorem setCryptorEnabled_info (m : Manager) (key : CryptorKey) (enabled : Bool) :
    ((m.setCryptorEnabled key enabled).cryptors[key]?).map (·.enabled) = some enabled := by
  simp [Manager.setCryptorEnabled]

/-- A transformer with an owner exists, so switching it has an effect. -/
theorem flag_setTransformerEnabled_self {m : Manager} {transformer : Nat}
    (hlt : transformer < m.transformers.length) (enabled : Bool) :
    (m.setTransformerEnabled transformer enabled).flag transformer = some enabled := by
  rw [Manager.flag_setTransformerEnabled, if_pos rfl, Manager.flag,
    List.getElem?_eq_getElem hlt]
  rfl

omit [DecidableEq T] in
theorem Inv.lt_length {s : State T} (hs : Inv s) {key : CryptorKey} {entry : Entry}
    (hentry : s.manager.entries[key]? = some entry) :
    entry.transformer < s.manager.transformers.length :=
  hs.owned.lt (.entry key) _ ⟨entry, hentry, rfl⟩

/-- One turn of the loop of `SetEnabled`. -/
theorem Inv.enabledTurn {s : State T} (hs : Inv s) {t : T} {enabled : Bool} {key : CryptorKey}
    {keys : List CryptorKey} (hpc : s.pc t = .enabledLoop enabled (key :: keys))
    (hlocked : Locked (s.goto t (s.manager.applyEnabled enabled key) (.enabledLoop enabled keys)))
    (howned : Owned (s.goto t (s.manager.applyEnabled enabled key) (.enabledLoop enabled keys))) :
    Inv (s.goto t (s.manager.applyEnabled enabled key) (.enabledLoop enabled keys)) := by
  cases hentry : s.manager.entries[key]? with
  | none =>
    have hskip : s.manager.applyEnabled enabled key = s.manager := by
      simp [Manager.applyEnabled, hentry]
    rw [hskip] at hlocked howned ⊢
    refine hs.pass hlocked howned rfl (goto_pc_self _ _ _ _) (fun _ hne => goto_pc_other _ _ _ hne)
      (by rw [hpc]; constructor <;> rfl) (by constructor <;> rfl) ?_
    refine settled_pass hs.settled rfl (goto_pc_self _ _ _ _)
      (fun _ hne => goto_pc_other _ _ _ hne) (by simp [hpc]) (by rw [hpc]; exact id) ?_
    intro other hpending hmem
    rw [hpc] at hpending
    rcases List.mem_cons.mp hpending with rfl | hrest
    · obtain ⟨entry, hsome⟩ := getElem?_of_mem hmem
      rw [hentry] at hsome
      simp at hsome
    · exact hrest
  | some entry =>
    have hstep : s.manager.applyEnabled enabled key =
        (s.manager.setTransformerEnabled entry.transformer
          (enabled && entry.individuallyEnabled)).setCryptorEnabled key
          (enabled && entry.individuallyEnabled) := by
      simp [Manager.applyEnabled, hentry]
    have htouch : TouchesOnly s.manager (s.manager.applyEnabled enabled key) key entry := by
      rw [hstep]
      have hinfo := hs.covered key (mem_of_getElem? hentry)
      exact (touches_setTransformerEnabled hentry hinfo _).trans
        (touches_setCryptorEnabled (m := s.manager.setTransformerEnabled _ _) hentry _) rfl
    refine hs.touch hlocked howned htouch (goto_pc_self _ _ _ _)
      (fun _ hne => goto_pc_other _ _ _ hne) (Or.inl (by rw [hpc]; trivial)) (by rw [hpc]; rfl)
      (by rw [hpc]; rfl) (by simp [hpc]) rfl rfl (by simp [Pc.switches]) ?_ ?_ ?_
    · intro hsettled
      have hcurrent := hsettled.current t
      rw [hpc] at hcurrent
      exact hcurrent.trans htouch.enabled.symm
    · intro other hne hpending
      rw [hpc] at hpending
      rcases List.mem_cons.mp hpending with rfl | hrest
      · exact absurd rfl hne
      · exact hrest
    · intro hsettled entry' hentry' _
      have hcurrent := hsettled.current t
      rw [hpc] at hcurrent
      have hsame : entry' = entry := by
        rw [goto_manager, applyEnabled_entries, hentry] at hentry'
        exact (Option.some.inj hentry').symm
      have henabled : enabled = s.manager.enabled := hcurrent
      rw [hsame, goto_manager, hstep, henabled]
      exact ⟨flag_setTransformerEnabled_self (hs.lt_length hentry) _, setCryptorEnabled_info _ _ _⟩

/-- One turn of the loop of `SetParticipantEnabled`. -/
theorem Inv.participantTurn {s : State T} (hs : Inv s) {t : T} {identity : String}
    {globallyEnabled enabled : Bool} {key : CryptorKey} {keys : List CryptorKey}
    (hpc : s.pc t = .participantLoop identity globallyEnabled enabled (key :: keys))
    (hlocked : Locked (s.goto t
      (s.manager.applyParticipantEnabled identity globallyEnabled enabled key)
      (.participantLoop identity globallyEnabled enabled keys)))
    (howned : Owned (s.goto t
      (s.manager.applyParticipantEnabled identity globallyEnabled enabled key)
      (.participantLoop identity globallyEnabled enabled keys))) :
    Inv (s.goto t (s.manager.applyParticipantEnabled identity globallyEnabled enabled key)
      (.participantLoop identity globallyEnabled enabled keys)) := by
  -- the turns that change nothing
  have hskip : s.manager.applyParticipantEnabled identity globallyEnabled enabled key = s.manager →
      Inv (s.goto t (s.manager.applyParticipantEnabled identity globallyEnabled enabled key)
        (.participantLoop identity globallyEnabled enabled keys)) := by
    intro hsame
    rw [hsame] at hlocked howned ⊢
    refine hs.pass hlocked howned rfl (goto_pc_self _ _ _ _) (fun _ hne => goto_pc_other _ _ _ hne)
      (by rw [hpc]; constructor <;> rfl) (by constructor <;> rfl) ?_
    exact settled_pass hs.settled rfl (goto_pc_self _ _ _ _)
      (fun _ hne => goto_pc_other _ _ _ hne) (by simp [hpc]) (by rw [hpc]; exact id)
      (by rw [hpc]; simp [Pc.Pending])
  cases hentry : s.manager.entries[key]? with
  | none => exact hskip (by simp [Manager.applyParticipantEnabled, hentry])
  | some entry =>
    obtain ⟨info, hinfo⟩ := getElem?_of_mem (hs.covered key (mem_of_getElem? hentry))
    by_cases hidentity : info.participantIdentity = identity
    · have hstep : s.manager.applyParticipantEnabled identity globallyEnabled enabled key =
          ((s.manager.setIndividuallyEnabled key enabled).setCryptorEnabled key
            (globallyEnabled && enabled)).setTransformerEnabled entry.transformer
            (globallyEnabled && enabled) := by
        simp [Manager.applyParticipantEnabled, hentry, hinfo, hidentity]
      have hnew : (s.manager.setIndividuallyEnabled key enabled).entries[key]? =
          some { entry with individuallyEnabled := enabled } := by
        rw [setIndividuallyEnabled_entries, if_pos rfl, hentry]
        rfl
      have htouch : TouchesOnly s.manager
          (s.manager.applyParticipantEnabled identity globallyEnabled enabled key) key entry := by
        rw [hstep]
        have h₁ := touches_setIndividuallyEnabled hentry (mem_of_getElem? hinfo) enabled
        have h₂ := touches_setCryptorEnabled hnew (globallyEnabled && enabled)
        have h₃ := touches_setTransformerEnabled
          (m := (s.manager.setIndividuallyEnabled key enabled).setCryptorEnabled key
            (globallyEnabled && enabled)) hnew h₂.info_new (globallyEnabled && enabled)
        exact (h₁.trans h₂ rfl).trans h₃ rfl
      refine hs.touch hlocked howned htouch (goto_pc_self _ _ _ _)
        (fun _ hne => goto_pc_other _ _ _ hne) (Or.inl (by rw [hpc]; trivial)) (by rw [hpc]; rfl)
        (by rw [hpc]; rfl) (by simp [hpc]) rfl rfl (by simp [Pc.switches]) ?_ ?_ ?_
      · intro hsettled
        have hcurrent := hsettled.current t
        rw [hpc] at hcurrent
        exact hcurrent.trans htouch.enabled.symm
      · intro other _ hpending
        rw [hpc] at hpending
        exact hpending
      · intro hsettled entry' hentry' _
        have hcurrent := hsettled.current t
        rw [hpc] at hcurrent
        have henabled : globallyEnabled = s.manager.enabled := hcurrent
        rw [goto_manager, hstep] at hentry' ⊢
        have hsame : entry' = { entry with individuallyEnabled := enabled } :=
          Option.some.inj (hentry'.symm.trans hnew)
        rw [hsame, henabled]
        exact ⟨flag_setTransformerEnabled_self (hs.lt_length hentry) _,
          setCryptorEnabled_info _ _ _⟩
    · apply hskip
      have hinsert : s.manager.cryptors.insert key info = s.manager.cryptors := by
        apply ExtTreeMap.ext_getElem?
        intro other
        by_cases heq : key = other
        · subst heq
          simp [hinfo]
        · simp [ExtTreeMap.getElem?_insert, heq]
      simp [Manager.applyParticipantEnabled, hentry, hinfo, hidentity, hinsert]

/-! ### The steps of `Attach` and `Detach` -/

omit [DecidableEq T] in
/-- With the lock free nobody is inside. -/
theorem Inv.none_pending {s : State T} (hs : Inv s) (hlock : s.lock = none) (t : T)
    (key : CryptorKey) : ¬ (s.pc t).Pending key :=
  fun hpending => hs.locked.free hlock t (holdsLock_of_pending hpending)

/-- An entry is taken out; its info is still there. -/
theorem Inv.take {s : State T} (hs : Inv s) {t : T} {key : CryptorKey} {removed : Entry} {pc : Pc}
    (hidle : s.pc t = .idle) (hlock : s.lock = none)
    (hentry : s.manager.entries[key]? = some removed) (herases : pc.erases = some key)
    (htransformer : pc.transformer = some removed.transformer)
    (houtside : ¬ pc.HoldsLock) (hemplaces : pc.emplaces = none) (hattached : pc.attached = none)
    (hcurrent : ∀ m, pc.Current m) : Inv (s.goto t (s.manager.takeEntry key).2 pc) := by
  have hself := goto_pc_self s t (s.manager.takeEntry key).2 pc
  have hothers : ∀ other, other ≠ t →
      (s.goto t (s.manager.takeEntry key).2 pc).pc other = s.pc other :=
    fun _ hne => goto_pc_other s _ pc hne
  have hmem : ∀ other, other ∈ (s.manager.takeEntry key).2.entries ↔
      key ≠ other ∧ other ∈ s.manager.entries := by
    intro other
    simp [Manager.takeEntry, ExtTreeMap.mem_erase]
  refine ⟨hs.locked.goto_outside houtside, hs.owned.take hidle hentry htransformer, ?_, ?_, ?_, ?_,
    ?_, ?_, ?_⟩
  · intro other hother
    exact hs.covered other ((hmem other).mp hother).2
  · intro other hother
    rcases hs.known other hother with hin | ⟨u, hpc⟩ | ⟨u, hpc⟩
    · by_cases heq : key = other
      · subst heq
        exact Or.inr (Or.inr ⟨t, by rw [hself]; exact herases⟩)
      · exact Or.inl ((hmem other).mpr ⟨heq, hin⟩)
    · exact Or.inr (Or.inl ⟨u, inHand_of_others hothers (by simp [hidle, Pc.emplaces]) hpc⟩)
    · exact Or.inr (Or.inr ⟨u, inHand_of_others hothers (by simp [hidle, Pc.erases]) hpc⟩)
  · intro u key' read entry hpc
    have hne : u ≠ t := by
      rintro rfl
      rw [hself] at hpc
      simp [hpc, Pc.emplaces] at hemplaces
    rw [hothers u hne] at hpc
    obtain ⟨hfree, hinfo⟩ := hs.emplace u key' read entry hpc
    exact ⟨fun hin => hfree ((hmem key').mp hin).2, hinfo⟩
  · intro u u' key' hpc hpc'
    have hne : ∀ v, ((s.goto t (s.manager.takeEntry key).2 pc).pc v).emplaces = some key' →
        v ≠ t := by
      rintro v hv rfl
      rw [hself, hemplaces] at hv
      simp at hv
    rw [hothers u (hne u hpc)] at hpc
    rw [hothers u' (hne u' hpc')] at hpc'
    exact hs.emplaceUnique u u' key' hpc hpc'
  · intro u read entry hpc
    have hne : u ≠ t := by
      rintro rfl
      rw [hself, hattached] at hpc
      simp at hpc
    rw [hothers u hne] at hpc
    exact hs.attached u read entry hpc
  · intro u key' enabled hpc
    have hne : u ≠ t := by
      rintro rfl
      rw [hself] at hpc
      exact houtside (holdsLock_of_switches hpc)
    rw [hothers u hne] at hpc
    exact absurd (holdsLock_of_switches hpc) (hs.locked.free hlock u)
  · rcases hs.settled with ⟨u, hu⟩ | hsettled
    · have hne : u ≠ t := by
        rintro rfl
        simp [hidle] at hu
      exact Or.inl ⟨u, by rw [hothers u hne]; exact hu⟩
    · right
      constructor
      · intro u
        by_cases heq : u = t
        · subst heq
          rw [hself]
          exact hcurrent _
        · rw [hothers u heq]
          exact (hsettled.current u).of_outside (hs.locked.free hlock u) rfl
      · intro other entry hentry' _
        obtain ⟨-, hold⟩ := Manager.entries_of_erase hentry'
        exact hsettled.synced other entry hold fun u => hs.none_pending hlock u other

/-- The info is erased and the transformer, which only this call refers to, disabled. -/
theorem Inv.erase {s : State T} (hs : Inv s) {t : T} {key : CryptorKey} {removed : Entry} {pc : Pc}
    (hunlocked : ¬ (s.pc t).HoldsLock) (herases : (s.pc t).erases = some key)
    (htransformer : (s.pc t).transformer = some removed.transformer)
    (holdEmplaces : (s.pc t).emplaces = none) (hwait : ∀ enabled, s.pc t ≠ .enabledWait enabled)
    (hfree : key ∉ s.manager.entries) (hothersFree : ∀ other, (s.pc other).emplaces ≠ some key)
    (hquiet : pc.Quiet) (hnone : pc.transformer = none) (houtside : ¬ pc.HoldsLock)
    (hcurrent : ∀ m, pc.Current m) :
    Inv (s.goto t ((s.manager.eraseCryptor key).detachEntry removed) pc) := by
  have hself := goto_pc_self s t ((s.manager.eraseCryptor key).detachEntry removed) pc
  have hothers : ∀ other, other ≠ t →
      (s.goto t ((s.manager.eraseCryptor key).detachEntry removed) pc).pc other = s.pc other :=
    fun _ hne => goto_pc_other s _ pc hne
  have hcryptors : ∀ other, key ≠ other →
      ((s.manager.eraseCryptor key).detachEntry removed).cryptors[other]? =
        s.manager.cryptors[other]? := by
    intro other hne
    simp [Manager.detachEntry, Manager.setTransformerEnabled, Manager.eraseCryptor,
      ExtTreeMap.getElem?_erase, hne]
  have hmem : ∀ other, other ∈ ((s.manager.eraseCryptor key).detachEntry removed).cryptors ↔
      key ≠ other ∧ other ∈ s.manager.cryptors := by
    intro other
    simp [Manager.detachEntry, Manager.setTransformerEnabled, Manager.eraseCryptor,
      ExtTreeMap.mem_erase]
  -- the flags of all transformers with another owner stay
  have hflag : ∀ owner transformer, owner ≠ .thread t → Owns s owner transformer →
      ((s.manager.eraseCryptor key).detachEntry removed).flag transformer =
        s.manager.flag transformer := by
    intro owner transformer hne hown
    have hdiff : removed.transformer ≠ transformer := by
      intro hsame
      exact hne (hs.owned.unique _ _ _ hown (by rw [Owns, htransformer, hsame]))
    exact (Manager.flag_setTransformerEnabled _ _ _ _).trans (if_neg hdiff)
  have hkeyNe : ∀ other, other ∈ s.manager.entries → key ≠ other := by
    rintro other hin rfl
    exact hfree hin
  refine ⟨hs.locked.goto_outside houtside, ?_, ?_, ?_, ?_, ?_, ?_, ?_, ?_⟩
  · exact hs.owned.keep_same (length_setTransformerEnabled _ _ _)
      (fun _ entry hentry => ⟨entry, hentry, rfl⟩) (by simp [hnone])
  · intro other hother
    exact (hmem other).mpr ⟨hkeyNe other hother, hs.covered other hother⟩
  · intro other hother
    obtain ⟨hne, hin⟩ := (hmem other).mp hother
    rcases hs.known other hin with hentry | ⟨u, hpc⟩ | ⟨u, hpc⟩
    · exact Or.inl hentry
    · exact Or.inr (Or.inl ⟨u, inHand_of_others hothers (by simp [holdEmplaces]) hpc⟩)
    · have hmoved : (s.pc t).erases ≠ some other := by
        rw [herases]
        exact fun h => hne (Option.some.inj h)
      exact Or.inr (Or.inr ⟨u, inHand_of_others hothers hmoved hpc⟩)
  · intro u key' read entry hpc
    have hut : u ≠ t := by
      rintro rfl
      rw [hself] at hpc
      have := hquiet.emplaces
      simp [hpc, Pc.emplaces] at this
    rw [hothers u hut] at hpc
    have hne : key ≠ key' := by
      rintro rfl
      exact hothersFree u (by rw [hpc]; rfl)
    obtain ⟨hfree', hinfo⟩ := hs.emplace u key' read entry hpc
    exact ⟨hfree', by rw [goto_manager, hcryptors key' hne]; exact hinfo⟩
  · intro u u' key' hpc hpc'
    have hne : ∀ v, ((s.goto t ((s.manager.eraseCryptor key).detachEntry removed) pc).pc
        v).emplaces = some key' → v ≠ t := by
      rintro v hv rfl
      rw [hself, hquiet.emplaces] at hv
      simp at hv
    rw [hothers u (hne u hpc)] at hpc
    rw [hothers u' (hne u' hpc')] at hpc'
    exact hs.emplaceUnique u u' key' hpc hpc'
  · intro u read entry hpc
    have hut : u ≠ t := by
      rintro rfl
      rw [hself, hquiet.attached] at hpc
      simp at hpc
    rw [hothers u hut] at hpc
    obtain ⟨hold, hindividual⟩ := hs.attached u read entry hpc
    refine ⟨?_, hindividual⟩
    rw [goto_manager, hflag (.thread u) entry.transformer (by simpa using hut) ?_]
    · exact hold
    · exact transformer_of_attached hpc
  · intro u key' enabled hpc
    have hut : u ≠ t := by
      rintro rfl
      rw [hself, hquiet.switches] at hpc
      simp at hpc
    rw [hothers u hut] at hpc
    exact hs.switched u key' enabled hpc
  · rcases hs.settled with ⟨u, hu⟩ | hsettled
    · have hut : u ≠ t := by
        rintro rfl
        exact hwait _ hu
      exact Or.inl ⟨u, by rw [hothers u hut]; exact hu⟩
    · right
      constructor
      · intro u
        by_cases heq : u = t
        · subst heq
          rw [hself]
          exact hcurrent _
        · rw [hothers u heq]
          have hcur := hsettled.current u
          cases hupc : s.pc u with
          | framePut key' enabled effective =>
            rw [hupc] at hcur
            refine ⟨hcur.1, fun entry hentry => ?_⟩
            rw [goto_manager, hflag (.entry key') entry.transformer (by simp) ⟨entry, hentry, rfl⟩]
            exact hcur.2 entry hentry
          | _ =>
            rw [hupc] at hcur
            exact hcur
      · intro other entry hentry hnone'
        have hold := hsettled.synced other entry hentry fun u hu => by
          by_cases heq : u = t
          · subst heq
            exact hunlocked (holdsLock_of_pending hu)
          · exact hnone' u (by rw [hothers u heq]; exact hu)
        rw [Synced, goto_manager,
          hflag (.entry other) entry.transformer (by simp) ⟨entry, hentry, rfl⟩,
          hcryptors other (hkeyNe other (mem_of_getElem? hentry))]
        exact hold

/-- A new transformer, switched as the flag says now, that only this call refers to. -/
theorem Inv.install {s : State T} (hs : Inv s) {t : T} {key : CryptorKey} {identity : String}
    {kind : TrackKind} {rtp : RtpEnd} (hpc : s.pc t = .attachRead key identity kind rtp)
    (howned : Owned (s.goto t (s.manager.installTransformer identity kind rtp s.manager.enabled).2
      (.attachPut key identity kind s.manager.enabled
        (s.manager.installTransformer identity kind rtp s.manager.enabled).1))) :
    Inv (s.goto t (s.manager.installTransformer identity kind rtp s.manager.enabled).2
      (.attachPut key identity kind s.manager.enabled
        (s.manager.installTransformer identity kind rtp s.manager.enabled).1)) := by
  set m := (s.manager.installTransformer identity kind rtp s.manager.enabled).2 with hm
  set entry := (s.manager.installTransformer identity kind rtp s.manager.enabled).1 with hentryDef
  have hself := goto_pc_self s t m (.attachPut key identity kind s.manager.enabled entry)
  have hothers : ∀ other, other ≠ t →
      (s.goto t m (.attachPut key identity kind s.manager.enabled entry)).pc other = s.pc other :=
    fun _ hne => goto_pc_other s m _ hne
  have hflag : ∀ owner transformer, Owns s owner transformer →
      m.flag transformer = s.manager.flag transformer := by
    intro owner transformer hown
    have hlt := hs.owned.lt owner transformer hown
    rw [hm, Manager.flag_installTransformer, if_neg (by omega)]
  refine ⟨hs.locked.goto_outside id, howned, hs.covered, ?_, ?_, ?_, ?_, ?_, ?_⟩
  · intro other hother
    rcases hs.known other hother with hin | ⟨u, hu⟩ | ⟨u, hu⟩
    · exact Or.inl hin
    · exact Or.inr (Or.inl ⟨u, inHand_of_others hothers (by simp [hpc, Pc.emplaces]) hu⟩)
    · exact Or.inr (Or.inr ⟨u, inHand_of_others hothers (by simp [hpc, Pc.erases]) hu⟩)
  · intro u key' read entry' hu
    have hut : u ≠ t := by
      rintro rfl
      rw [hself] at hu
      simp at hu
    rw [hothers u hut] at hu
    exact hs.emplace u key' read entry' hu
  · intro u u' key' hu hu'
    have hne : ∀ v, ((s.goto t m (.attachPut key identity kind s.manager.enabled entry)).pc
        v).emplaces = some key' → v ≠ t := by
      rintro v hv rfl
      rw [hself] at hv
      simp [Pc.emplaces] at hv
    rw [hothers u (hne u hu)] at hu
    rw [hothers u' (hne u' hu')] at hu'
    exact hs.emplaceUnique u u' key' hu hu'
  · intro u read entry' hu
    by_cases hut : u = t
    · subst hut
      rw [hself] at hu
      cases hu
      refine ⟨?_, rfl⟩
      rw [goto_manager, hm, Manager.flag_installTransformer]
      exact if_pos rfl
    · rw [hothers u hut] at hu
      obtain ⟨hold, hindividual⟩ := hs.attached u read entry' hu
      refine ⟨?_, hindividual⟩
      rw [goto_manager, hflag (.thread u) entry'.transformer ?_]
      · exact hold
      · exact transformer_of_attached hu
  · intro u key' enabled hu
    have hut : u ≠ t := by
      rintro rfl
      rw [hself] at hu
      simp [Pc.switches] at hu
    rw [hothers u hut] at hu
    exact hs.switched u key' enabled hu
  · rcases hs.settled with ⟨u, hu⟩ | hsettled
    · have hut : u ≠ t := by
        rintro rfl
        simp [hpc] at hu
      exact Or.inl ⟨u, by rw [hothers u hut]; exact hu⟩
    · right
      constructor
      · intro u
        by_cases hut : u = t
        · subst hut
          rw [hself]
          rfl
        · rw [hothers u hut]
          have hcur := hsettled.current u
          cases hupc : s.pc u with
          | framePut key' enabled effective =>
            rw [hupc] at hcur
            refine ⟨hcur.1, fun entry' hentry' => ?_⟩
            rw [goto_manager, hflag (.entry key') entry'.transformer ⟨entry', hentry', rfl⟩]
            exact hcur.2 entry' hentry'
          | _ =>
            rw [hupc] at hcur
            exact hcur
      · intro other entry' hentry' hnone
        have hold := hsettled.synced other entry' hentry' fun u hu => by
          by_cases hut : u = t
          · subst hut
            rw [hpc] at hu
            exact hu
          · exact hnone u (by rw [hothers u hut]; exact hu)
        rw [Synced, goto_manager,
          hflag (.entry other) entry'.transformer ⟨entry', hentry', rfl⟩]
        exact hold

/-- The info is put in before the entry. -/
theorem Inv.put {s : State T} (hs : Inv s) {t : T} {key : CryptorKey} {identity : String}
    {kind : TrackKind} {enabled : Bool} {entry : Entry}
    (hpc : s.pc t = .attachPut key identity kind enabled entry)
    (hfree : key ∉ s.manager.entries) (hothersFree : ∀ other, (s.pc other).emplaces ≠ some key)
    (howned : Owned (s.goto t (s.manager.putCryptor key identity kind enabled)
      (.attachEmplace key enabled entry))) :
    Inv (s.goto t (s.manager.putCryptor key identity kind enabled)
      (.attachEmplace key enabled entry)) := by
  set m := s.manager.putCryptor key identity kind enabled with hm
  have hself := goto_pc_self s t m (.attachEmplace key enabled entry)
  have hothers : ∀ other, other ≠ t →
      (s.goto t m (.attachEmplace key enabled entry)).pc other = s.pc other :=
    fun _ hne => goto_pc_other s m _ hne
  have hcryptors : ∀ other, key ≠ other → m.cryptors[other]? = s.manager.cryptors[other]? := by
    intro other hne
    simp [hm, Manager.putCryptor, ExtTreeMap.getElem?_insert, hne]
  have hinfo : (m.cryptors[key]?).map (·.enabled) = some enabled := by
    simp [hm, Manager.putCryptor]
  refine ⟨hs.locked.goto_outside id, howned, ?_, ?_, ?_, ?_, ?_, ?_, ?_⟩
  · intro other hother
    simp [hm, Manager.putCryptor, ExtTreeMap.mem_insert, hs.covered other hother]
  · intro other hother
    by_cases heq : key = other
    · subst heq
      exact Or.inr (Or.inl ⟨t, by rw [hself]; rfl⟩)
    · have hin : other ∈ s.manager.cryptors := by
        rw [ExtTreeMap.mem_iff_isSome_getElem?] at hother ⊢
        rwa [goto_manager, hcryptors other heq] at hother
      rcases hs.known other hin with hentry | ⟨u, hu⟩ | ⟨u, hu⟩
      · exact Or.inl hentry
      · exact Or.inr (Or.inl ⟨u, inHand_of_others hothers (by simp [hpc, Pc.emplaces]) hu⟩)
      · exact Or.inr (Or.inr ⟨u, inHand_of_others hothers (by simp [hpc, Pc.erases]) hu⟩)
  · intro u key' read entry' hu
    by_cases hut : u = t
    · subst hut
      rw [hself] at hu
      cases hu
      exact ⟨hfree, hinfo⟩
    · rw [hothers u hut] at hu
      have hne : key ≠ key' := by
        rintro rfl
        exact hothersFree u (by rw [hu]; rfl)
      obtain ⟨hfree', hinfo'⟩ := hs.emplace u key' read entry' hu
      exact ⟨hfree', by rw [goto_manager, hcryptors key' hne]; exact hinfo'⟩
  · -- this thread is the only one about to put an entry in under its key
    have hcases : ∀ v key', ((s.goto t m (.attachEmplace key enabled entry)).pc v).emplaces =
        some key' → (v = t ∧ key' = key) ∨ (v ≠ t ∧ key' ≠ key ∧
          (s.pc v).emplaces = some key') := by
      intro v key' hv
      by_cases hvt : v = t
      · subst hvt
        rw [hself] at hv
        exact Or.inl ⟨rfl, (Option.some.inj hv).symm⟩
      · rw [hothers v hvt] at hv
        refine Or.inr ⟨hvt, ?_, hv⟩
        rintro rfl
        exact hothersFree v hv
    intro u u' key' hu hu'
    rcases hcases u key' hu with ⟨rfl, rfl⟩ | ⟨-, hne, hold⟩
    · rcases hcases u' key' hu' with ⟨rfl, -⟩ | ⟨-, hne', -⟩
      · rfl
      · exact absurd rfl hne'
    · rcases hcases u' key' hu' with ⟨-, rfl⟩ | ⟨-, -, hold'⟩
      · exact absurd rfl hne
      · exact hs.emplaceUnique u u' key' hold hold'
  · intro u read entry' hu
    apply hs.attached u read entry'
    by_cases hut : u = t
    · subst hut
      rw [hself] at hu
      rw [hpc]
      exact hu
    · rwa [hothers u hut] at hu
  · intro u key' enabled' hu
    have hut : u ≠ t := by
      rintro rfl
      rw [hself] at hu
      simp [Pc.switches] at hu
    rw [hothers u hut] at hu
    exact hs.switched u key' enabled' hu
  · rcases hs.settled with ⟨u, hu⟩ | hsettled
    · have hut : u ≠ t := by
        rintro rfl
        simp [hpc] at hu
      exact Or.inl ⟨u, by rw [hothers u hut]; exact hu⟩
    · right
      constructor
      · intro u
        have hcur := hsettled.current u
        by_cases hut : u = t
        · subst hut
          rw [hself]
          rw [hpc] at hcur
          exact hcur
        · rw [hothers u hut]
          exact hcur
      · intro other entry' hentry' hnone
        have hold := hsettled.synced other entry' hentry' fun u hu => by
          by_cases hut : u = t
          · subst hut
            rw [hpc] at hu
            exact hu
          · exact hnone u (by rw [hothers u hut]; exact hu)
        have hne : key ≠ other := by
          rintro rfl
          exact hfree (mem_of_getElem? hentry')
        rw [Synced, goto_manager, hcryptors other hne]
        exact hold

/-- The entry is put in; nothing stood under its key. -/
theorem Inv.emplaced {s : State T} (hs : Inv s) {t : T} {key : CryptorKey} {enabled : Bool}
    {entry : Entry} (hpc : s.pc t = .attachEmplace key enabled entry) (hlock : s.lock = none)
    (howned : Owned (s.goto t (s.manager.emplaceEntry key entry) .idle)) :
    Inv (s.goto t (s.manager.emplaceEntry key entry) .idle) := by
  set m := s.manager.emplaceEntry key entry with hm
  have hself := goto_pc_self s t m .idle
  have hothers : ∀ other, other ≠ t → (s.goto t m .idle).pc other = s.pc other :=
    fun _ hne => goto_pc_other s m _ hne
  obtain ⟨hfree, hinfo⟩ := hs.emplace t key enabled entry hpc
  obtain ⟨hflag, hindividual⟩ := hs.attached t enabled entry (by rw [hpc]; rfl)
  have hentries : ∀ other, m.entries[other]? =
      if key = other then some entry else s.manager.entries[other]? := by
    intro other
    simp only [hm, Manager.emplaceEntry, ExtTreeMap.getElem?_insertIfNew,
      LawfulEqOrd.compare_eq_iff_eq]
    by_cases heq : key = other <;> simp [heq, hfree]
    subst heq
    simp [hfree]
  have hmem : ∀ other, other ∈ m.entries ↔ key = other ∨ other ∈ s.manager.entries := by
    intro other
    rw [ExtTreeMap.mem_iff_isSome_getElem?, ExtTreeMap.mem_iff_isSome_getElem?, hentries]
    by_cases heq : key = other <;> simp [heq]
  refine ⟨hs.locked.goto_outside id, howned, ?_, ?_, ?_, ?_, ?_, ?_, ?_⟩
  · intro other hother
    rcases (hmem other).mp hother with rfl | hin
    · apply ExtTreeMap.mem_iff_isSome_getElem?.mpr
      rw [goto_manager, hm]
      show (s.manager.cryptors[key]?).isSome = true
      cases hsome : s.manager.cryptors[key]? with
      | none => simp [hsome] at hinfo
      | some info => rfl
    · exact hs.covered other hin
  · intro other hother
    rcases hs.known other hother with hin | ⟨u, hu⟩ | ⟨u, hu⟩
    · exact Or.inl ((hmem other).mpr (Or.inr hin))
    · by_cases hut : u = t
      · subst hut
        rw [hpc] at hu
        exact Or.inl ((hmem other).mpr (Or.inl (Option.some.inj hu)))
      · exact Or.inr (Or.inl ⟨u, by rw [hothers u hut]; exact hu⟩)
    · exact Or.inr (Or.inr ⟨u, inHand_of_others hothers (by simp [hpc, Pc.erases]) hu⟩)
  · intro u key' read entry' hu
    have hut : u ≠ t := by
      rintro rfl
      rw [hself] at hu
      simp at hu
    rw [hothers u hut] at hu
    obtain ⟨hfree', hinfo'⟩ := hs.emplace u key' read entry' hu
    refine ⟨fun hin => ?_, hinfo'⟩
    rcases (hmem key').mp hin with rfl | hin
    · exact hut (hs.emplaceUnique u t key (by rw [hu]; rfl) (by rw [hpc]; rfl))
    · exact hfree' hin
  · intro u u' key' hu hu'
    have hne : ∀ v, ((s.goto t m .idle).pc v).emplaces = some key' → v ≠ t := by
      rintro v hv rfl
      rw [hself] at hv
      simp [Pc.emplaces] at hv
    rw [hothers u (hne u hu)] at hu
    rw [hothers u' (hne u' hu')] at hu'
    exact hs.emplaceUnique u u' key' hu hu'
  · intro u read entry' hu
    have hut : u ≠ t := by
      rintro rfl
      rw [hself] at hu
      simp [Pc.attached] at hu
    rw [hothers u hut] at hu
    exact hs.attached u read entry' hu
  · intro u key' enabled' hu
    have hut : u ≠ t := by
      rintro rfl
      rw [hself] at hu
      simp [Pc.switches] at hu
    rw [hothers u hut] at hu
    exact absurd (holdsLock_of_switches hu) (hs.locked.free hlock u)
  · rcases hs.settled with ⟨u, hu⟩ | hsettled
    · have hut : u ≠ t := by
        rintro rfl
        simp [hpc] at hu
      exact Or.inl ⟨u, by rw [hothers u hut]; exact hu⟩
    · right
      constructor
      · intro u
        by_cases hut : u = t
        · subst hut
          rw [hself]
          trivial
        · rw [hothers u hut]
          exact (hsettled.current u).of_outside (hs.locked.free hlock u) rfl
      · intro other entry' hentry' _
        rw [goto_manager, hentries] at hentry'
        by_cases heq : key = other
        · subst heq
          rw [if_pos rfl] at hentry'
          cases hentry'
          have hread : enabled = s.manager.enabled := by
            have hcur := hsettled.current t
            rw [hpc] at hcur
            exact hcur
          have heffective : (s.manager.enabled && entry.individuallyEnabled) = enabled := by
            rw [hindividual, Bool.and_true, hread]
          refine ⟨?_, ?_⟩
          · show s.manager.flag entry.transformer = some (s.manager.enabled && _)
            rw [heffective]
            exact hflag
          · show (s.manager.cryptors[key]?).map _ = some (s.manager.enabled && _)
            rw [heffective]
            exact hinfo
        · rw [if_neg heq] at hentry'
          exact hsettled.synced other entry' hentry' fun u => hs.none_pending hlock u other

/-! ### The other steps -/

/-- The flag is changed; the thread that changed it waits with its value. -/
theorem Inv.enabledChange {s : State T} (hs : Inv s) {t : T} {enabled : Bool}
    (hpc : s.pc t = .idle)
    (howned : Owned (s.goto t { s.manager with enabled := enabled } (.enabledWait enabled))) :
    Inv (s.goto t { s.manager with enabled := enabled } (.enabledWait enabled)) :=
  hs.pass (hs.locked.goto_outside id) howned rfl (goto_pc_self _ _ _ _)
    (fun _ hne => goto_pc_other _ _ _ hne) (by rw [hpc]; constructor <;> rfl)
    (by constructor <;> rfl) (Or.inl ⟨t, goto_pc_self _ _ _ _⟩)

/-- A loop of `SetEnabled` begins: every entry is pending. -/
theorem Inv.enabledAcquire {s : State T} (hs : Inv s) {t : T} {enabled : Bool}
    (hpc : s.pc t = .enabledWait enabled) (hlock : s.lock = none)
    (horderly : (∃ other, other ≠ t ∧ s.pc other = .enabledWait s.manager.enabled) ∨
      (enabled = s.manager.enabled ∧ ∀ other read entry,
        (s.pc other).attached = some (read, entry) → read = s.manager.enabled))
    (howned : Owned ((s.goto t s.manager
      (.enabledLoop enabled s.manager.entries.keys)).acquire t)) :
    Inv ((s.goto t s.manager (.enabledLoop enabled s.manager.entries.keys)).acquire t) := by
  have hself := goto_pc_self s t s.manager (.enabledLoop enabled s.manager.entries.keys)
  refine hs.pass (hs.locked.acquire hlock) howned rfl hself
    (fun _ hne => goto_pc_other s s.manager _ hne) (by rw [hpc]; constructor <;> rfl)
    (by constructor <;> rfl) ?_
  rcases horderly with ⟨other, hne, hwait⟩ | ⟨rfl, hread⟩
  · exact Or.inl ⟨other, (goto_pc_other s s.manager _ hne).trans hwait⟩
  · right
    constructor
    · intro u
      rw [acquire_pc]
      by_cases heq : u = t
      · subst heq
        rw [hself]
        rfl
      · rw [goto_pc_other _ _ _ heq]
        have hout := hs.locked.free hlock u
        have hattached := hread u
        cases hupc : s.pc u with
        | attachPut | attachEmplace => exact hattached _ _ (by rw [hupc]; rfl)
        | enabledLoop | participantLoop | framePut => exact absurd (by rw [hupc]; trivial) hout
        | _ => trivial
    · intro key entry hentry hnone
      refine absurd ?_ (hnone t)
      rw [acquire_pc, hself]
      exact ExtTreeMap.mem_keys.mpr (mem_of_getElem? hentry)

/-- A step of a quiet thread to a place where it has as much to do as before. -/
theorem Inv.quiet {s s' : State T} (hs : Inv s) {t : T} {pc : Pc} (hlocked : Locked s')
    (howned : Owned s') (hmanager : s'.manager = s.manager) (hself : s'.pc t = pc)
    (hothers : ∀ other, other ≠ t → s'.pc other = s.pc other)
    (hold : (s.pc t).Quiet) (hnew : pc.Quiet)
    (hwait : ∀ enabled, s.pc t ≠ .enabledWait enabled)
    (hcurrent : (s.pc t).Current s.manager → pc.Current s.manager)
    (hpending : ∀ key, (s.pc t).Pending key → key ∈ s.manager.entries → pc.Pending key) :
    Inv s' :=
  hs.pass hlocked howned hmanager hself hothers hold hnew
    (settled_pass hs.settled hmanager hself hothers hwait hcurrent hpending)

/-- `SetFrameCryptorEnabled` sets the individual switch. -/
theorem Inv.frameSome {s : State T} (hs : Inv s) {t : T} {key : CryptorKey} {enabled : Bool}
    {entry : Entry} (hpc : s.pc t = .idle) (hlock : s.lock = none)
    (hentry : s.manager.entries[key]? = some entry)
    (howned : Owned ((s.goto t (s.manager.setIndividuallyEnabled key enabled)
      (.frameRead key enabled)).acquire t)) :
    Inv ((s.goto t (s.manager.setIndividuallyEnabled key enabled)
      (.frameRead key enabled)).acquire t) := by
  have hinfo := hs.covered key (mem_of_getElem? hentry)
  refine hs.touch (hs.locked.acquire hlock) howned
    (touches_setIndividuallyEnabled hentry hinfo enabled)
    (goto_pc_self s t (s.manager.setIndividuallyEnabled key enabled) _)
    (fun _ hne => goto_pc_other s (s.manager.setIndividuallyEnabled key enabled) _ hne)
    (Or.inr hlock) (by rw [hpc]; rfl) (by rw [hpc]; rfl)
    (by simp [hpc]) rfl rfl ?_ (fun _ => trivial) (by rw [hpc]; simp [Pc.Pending]) ?_
  · intro key' enabled' hswitch
    cases hswitch
    exact ⟨{ entry with individuallyEnabled := enabled },
      by simp [setIndividuallyEnabled_entries, hentry], rfl⟩
  · intro _ _ _ hpending
    exact absurd rfl hpending

/-- It reads the flag with the lock in hand and switches the transformer. -/
theorem Inv.frameRead {s : State T} (hs : Inv s) {t : T} {key : CryptorKey} {enabled : Bool}
    {entry : Entry} (hpc : s.pc t = .frameRead key enabled)
    (hentry : s.manager.entries[key]? = some entry)
    (howned : Owned (s.goto t
      (s.manager.setTransformerEnabled entry.transformer (enabled && s.manager.enabled))
      (.framePut key enabled (enabled && s.manager.enabled)))) :
    Inv (s.goto t
      (s.manager.setTransformerEnabled entry.transformer (enabled && s.manager.enabled))
      (.framePut key enabled (enabled && s.manager.enabled))) := by
  have hholds : (s.pc t).HoldsLock := by
    rw [hpc]
    trivial
  have hinfo := hs.covered key (mem_of_getElem? hentry)
  refine hs.touch (hs.locked.goto_inside hholds) howned
    (touches_setTransformerEnabled hentry hinfo _) (goto_pc_self _ _ _ _)
    (fun _ hne => goto_pc_other _ _ _ hne) (Or.inl hholds) (by rw [hpc]; rfl) (by rw [hpc]; rfl)
    (by simp [hpc]) rfl rfl ?_ ?_ ?_ ?_
  · intro key' enabled' hswitch
    exact hs.switched t key' enabled' (by rw [hpc]; exact hswitch)
  · intro _
    refine ⟨rfl, fun entry' hentry' => ?_⟩
    have hsame : entry' = entry := Option.some.inj (hentry'.symm.trans hentry)
    rw [hsame]
    exact flag_setTransformerEnabled_self (hs.lt_length hentry) _
  · intro other hne hpending
    rw [hpc] at hpending
    exact absurd hpending hne
  · intro _ _ _ hpending
    exact absurd rfl hpending

/-- It writes the info and lets the lock go. -/
theorem Inv.framePut {s : State T} (hs : Inv s) {t : T} {key : CryptorKey}
    {enabled effective : Bool} (hpc : s.pc t = .framePut key enabled effective)
    (howned : Owned (s.goto t (s.manager.setCryptorEnabled key effective) .idle).release) :
    Inv (s.goto t (s.manager.setCryptorEnabled key effective) .idle).release := by
  have hholds : (s.pc t).HoldsLock := by
    rw [hpc]
    trivial
  obtain ⟨entry, hentry, hindividual⟩ := hs.switched t key enabled (by rw [hpc]; rfl)
  refine hs.touch (hs.locked.release hholds) howned (touches_setCryptorEnabled hentry effective)
    (goto_pc_self s t (s.manager.setCryptorEnabled key effective) _)
    (fun _ hne => goto_pc_other s (s.manager.setCryptorEnabled key effective) _ hne)
    (Or.inl hholds)
    (by rw [hpc]; rfl) (by rw [hpc]; rfl) (by simp [hpc]) rfl rfl (by simp [Pc.switches])
    (fun _ => trivial) ?_ ?_
  · intro other hne hpending
    rw [hpc] at hpending
    exact absurd hpending hne
  · intro hsettled entry' hentry' _
    have hcurrent := hsettled.current t
    rw [hpc] at hcurrent
    obtain ⟨heffective, hflag⟩ := hcurrent
    have hsame : entry' = entry := Option.some.inj (hentry'.symm.trans hentry)
    have hvalue : (s.manager.enabled && entry.individuallyEnabled) = effective := by
      rw [hindividual, heffective, Bool.and_comm]
    rw [hsame]
    refine ⟨?_, ?_⟩
    · show s.manager.flag entry.transformer = some (s.manager.enabled && _)
      rw [hvalue]
      exact hflag entry hentry
    · show ((s.manager.setCryptorEnabled key effective).cryptors[key]?).map _ =
        some (s.manager.enabled && _)
      rw [hvalue]
      exact setCryptorEnabled_info _ _ _

/-! ## 5. Runs -/

theorem Inv.step {s s' : State T} {action : Action T} (hs : Inv s)
    (hstep : Runs.Guarded Orderly Step s action s') : Inv s' := by
  obtain ⟨horderly, hstep⟩ := hstep
  have howned := hs.owned.step hstep
  have hlocked := hs.locked.step hstep
  cases hstep with
  | detachNone | enabledSame | frameNone => exact hs
  | attachNone hpc =>
    exact hs.quiet hlocked howned rfl (goto_pc_self s _ _ _)
      (fun _ hne => goto_pc_other s _ _ hne) (by rw [hpc]; constructor <;> rfl)
      (by constructor <;> rfl) (by simp [hpc]) (fun _ => trivial) (by simp [hpc, Pc.Pending])
  | attachSome hpc hlock hentry =>
    exact hs.take hpc hlock hentry rfl rfl id rfl rfl fun _ => trivial
  | detachSome hpc hlock hentry =>
    exact hs.take hpc hlock hentry rfl rfl id rfl rfl fun _ => trivial
  | attachErase hpc =>
    simp only [Orderly, hpc] at horderly
    exact hs.erase (by rw [hpc]; exact id) (by rw [hpc]; rfl) (by rw [hpc]; rfl)
      (by rw [hpc]; rfl) (by simp [hpc]) horderly.1 horderly.2 (by constructor <;> rfl) rfl id
      fun _ => trivial
  | detachErase hpc =>
    simp only [Orderly, hpc] at horderly
    exact hs.erase (by rw [hpc]; exact id) (by rw [hpc]; rfl) (by rw [hpc]; rfl)
      (by rw [hpc]; rfl) (by simp [hpc]) horderly.1 horderly.2 (by constructor <;> rfl) rfl id
      fun _ => trivial
  | attachRead hpc => exact hs.install hpc howned
  | attachPut hpc =>
    simp only [Orderly, hpc] at horderly
    exact hs.put hpc horderly.1 horderly.2 howned
  | attachEmplace hpc hlock => exact hs.emplaced hpc hlock howned
  | enabledChange hpc => exact hs.enabledChange hpc howned
  | enabledAcquire hpc hlock =>
    simp only [Orderly, hpc] at horderly
    exact hs.enabledAcquire hpc hlock horderly howned
  | enabledTurn hpc => exact hs.enabledTurn hpc hlocked howned
  | enabledDone hpc =>
    exact hs.quiet hlocked howned rfl (goto_pc_self s _ s.manager _)
      (fun _ hne => goto_pc_other s s.manager _ hne) (by rw [hpc]; constructor <;> rfl)
      (by constructor <;> rfl) (by simp [hpc]) (fun _ => trivial) (by simp [hpc, Pc.Pending])
  | frameSome hpc hlock hentry => exact hs.frameSome hpc hlock hentry howned
  | frameRead hpc hentry => exact hs.frameRead hpc hentry howned
  | framePut hpc => exact hs.framePut hpc howned
  | participantAcquire hpc =>
    exact hs.quiet hlocked howned rfl (goto_pc_self s _ s.manager _)
      (fun _ hne => goto_pc_other s s.manager _ hne) (by rw [hpc]; constructor <;> rfl)
      (by constructor <;> rfl) (by simp [hpc]) (fun _ => trivial) (by simp [hpc, Pc.Pending])
  | participantRead hpc =>
    exact hs.quiet hlocked howned rfl (goto_pc_self s _ s.manager _)
      (fun _ hne => goto_pc_other s s.manager _ hne) (by rw [hpc]; constructor <;> rfl)
      (by constructor <;> rfl) (by simp [hpc]) (fun _ => rfl) (by simp [hpc, Pc.Pending])
  | participantTurn hpc => exact hs.participantTurn hpc hlocked howned
  | participantDone hpc =>
    exact hs.quiet hlocked howned rfl (goto_pc_self s _ s.manager _)
      (fun _ hne => goto_pc_other s s.manager _ hne) (by rw [hpc]; constructor <;> rfl)
      (by constructor <;> rfl) (by simp [hpc]) (fun _ => trivial) (by simp [hpc, Pc.Pending])

/-- In every orderly run the three views agree whenever no call is under way. -/
theorem agree_at_rest {enabled : Bool} {actions : List (Action T)} {s : State T}
    (hexec : Runs.Exec (Runs.Guarded Orderly Step) (State.init T enabled) actions s)
    (hidle : ∀ t, s.pc t = .idle) : Agree s.manager :=
  (hexec.invariant (fun _ _ _ hs hstep => Inv.step hs hstep) (inv_init enabled)).agree hidle

section Traces

/-- The key of a published camera, under which the threads below attach it. -/
def cameraKey : CryptorKey := ⟨.sender, "camera"⟩

/-- A camera is attached, and then encryption is switched off. -/
def attachThenDisable : List (Action Bool) :=
  [.start true (.attach cameraKey "alice" .video (.sender 0)), .go true, .go true, .go true,
    .start false (.setEnabled false), .go false, .go false, .go false]

theorem agree_attachThenDisable : ∃ s : State Bool,
    Runs.Exec (Runs.Guarded Orderly Step) (State.init Bool true) attachThenDisable s ∧
      (∀ t, s.pc t = .idle) ∧ cameraKey ∈ s.manager.entries ∧ Agree s.manager := by
  have hexec : ∃ s : State Bool,
      Runs.Exec (Runs.Guarded Orderly Step) (State.init Bool true) attachThenDisable s ∧
        (∀ t, s.pc t = .idle) ∧ cameraKey ∈ s.manager.entries := by
    refine ⟨_, .cons ⟨trivial, .attachNone rfl rfl rfl⟩ (.cons ⟨trivial, .attachRead rfl⟩
      (.cons ⟨?_, .attachPut rfl⟩ (.cons ⟨trivial, .attachEmplace rfl rfl⟩
      (.cons ⟨trivial, .enabledChange rfl (by decide)⟩ (.cons ⟨?_, .enabledAcquire rfl rfl⟩
      (.cons ⟨trivial, .enabledTurn rfl⟩ (.cons ⟨trivial, .enabledDone rfl⟩ (.nil _)))))))), ?_, ?_⟩
    · refine ⟨by decide, ?_⟩
      rintro (_ | _) <;> simp [State.goto, State.init, Pc.emplaces]
    · refine Or.inr ⟨rfl, ?_⟩
      rintro (_ | _) read entry hread <;> simp [State.goto, State.init, Pc.attached] at hread
    · rintro (_ | _) <;> rfl
    · decide
  obtain ⟨s, hexec, hidle, hmem⟩ := hexec
  exact ⟨s, hexec, hidle, hmem, agree_at_rest hexec hidle⟩

/-- `Attach` reads the flag; encryption is switched off, and the loop finds no entry;
    then `Attach` puts its entry in. -/
def disableDuringAttach : List (Action Bool) :=
  [.start true (.attach cameraKey "alice" .video (.sender 0)), .go true,
    .start false (.setEnabled false), .go false, .go false, .go true, .go true]

theorem disable_during_attach_disagrees :
    ¬ ∀ (actions : List (Action Bool)) (s : State Bool),
      Runs.Exec Step (State.init Bool true) actions s → (∀ t, s.pc t = .idle) →
        Agree s.manager := by
  intro hall
  have hagree := hall disableDuringAttach _
    (.cons (.attachNone rfl rfl rfl) (.cons (.attachRead rfl)
      (.cons (.enabledChange rfl (by decide)) (.cons (.enabledAcquire rfl rfl)
      (.cons (.enabledDone rfl) (.cons (.attachPut rfl) (.cons (.attachEmplace rfl rfl)
      (.nil _)))))))) (by rintro (_ | _) <;> rfl)
  have hflag := (hagree.synced cameraKey ⟨true, .sender 0, 0⟩ rfl).1
  exact absurd hflag (by decide)

end Traces

end LivekitClient.E2eeInterleaving
