/-
  LivekitClient/TrackPreferences.lean
  ===================================
  **The preferences of a remote track** (`src/core/track/remote_track_publication.cpp`, and
  `Room::ResendRemoteTrackPreferences` in `src/core/room.cpp`).

  Whether a track is subscribed to and how it is to be sent are told to the server and kept
  here, to be told again after a reconnect.  A call looks at the publication under its
  mutex, sends through the handler without it, and stores under it again.
-/
import Mathlib.Data.List.InsertIdx
import LivekitClient.SendThenStore
import LivekitClient.Types

namespace LivekitClient.TrackPreferences

open Runs

/-! ## 1. The publication -/

inductive VideoQuality where
  | low
  | medium
  | high
  | off
deriving DecidableEq

structure TrackDimensions where
  width : UInt32 := 0
  height : UInt32 := 0
deriving DecidableEq

structure RemoteTrackSettings where
  enabled : Bool := true
  videoQuality : Option VideoQuality := none
  videoDimensions : Option TrackDimensions := none
  videoFps : UInt32 := 0
  priority : UInt32 := 0
deriving DecidableEq

/-- What a `RemoteTrackPublication` knows of the user's wishes; the handlers are there or
    not.  Its info and its track are in `RoomStore`. -/
structure RemoteTrackPublication where
  kind : TrackKind
  subscriptionDesired : Bool
  subscriptionHandler : Bool := true
  settingsHandler : Bool := true
  statusHandler : Bool := true
  subscriptionOverridden : Bool := false
  trackAttached : Bool := false
  settingsOverridden : Bool := false
  settings : RemoteTrackSettings := {}
deriving DecidableEq

/-- `IsValidSettings`. -/
def isValidSettings (kind : TrackKind) (settings : RemoteTrackSettings) : Bool :=
  if settings.videoQuality.isSome && settings.videoDimensions.isSome then false
  else if settings.videoDimensions.any fun dimensions =>
      dimensions.width == 0 || dimensions.height == 0 then false
  else if decide (kind ≠ .video) && (settings.videoQuality.isSome ||
      settings.videoDimensions.isSome || settings.videoFps != 0) then false
  else true

namespace RemoteTrackPublication

def subscriptionStatus (publication : RemoteTrackPublication) : TrackSubscriptionStatus :=
  .of publication.subscriptionDesired publication.trackAttached

def setTrackAttached (publication : RemoteTrackPublication) (attached : Bool) :
    RemoteTrackPublication :=
  { publication with trackAttached := attached }

/-- The end of `SetSubscribed`. -/
def storeSubscribed (publication : RemoteTrackPublication) (subscribed : Bool) :
    RemoteTrackPublication :=
  { publication with subscriptionDesired := subscribed, subscriptionOverridden := true }

/-- The beginning of `UpdateRemoteTrackSettings`: the settings may be sent.  Two settings are
    compared field by field. -/
def acceptsSettings (publication : RemoteTrackPublication) (settings : RemoteTrackSettings) :
    Bool :=
  publication.subscriptionDesired && publication.settingsHandler &&
    isValidSettings publication.kind settings && decide (publication.settings ≠ settings)

/-- The end of `UpdateRemoteTrackSettings`. -/
def storeSettings (publication : RemoteTrackPublication) (settings : RemoteTrackSettings) :
    RemoteTrackPublication :=
  { publication with settings := settings, settingsOverridden := true }

end RemoteTrackPublication

/-! ## 2. Calls under way -/

/-- A `SetSubscribed` after it has read the status. -/
structure SubscribeCall where
  subscribed : Bool
  previous : TrackSubscriptionStatus
  sent : Bool := false
deriving DecidableEq

/-- An `UpdateRemoteTrackSettings` whose settings have been accepted. -/
structure UpdateCall where
  settings : RemoteTrackSettings
  sent : Bool := false
deriving DecidableEq

/-- A publication with the calls under way, what was sent last through either handler, and
    what the status handler was told. -/
structure Execution where
  publication : RemoteTrackPublication
  subscribeCalls : List SubscribeCall := []
  updateCalls : List UpdateCall := []
  sentSubscription : Option Bool := none
  sentSettings : Option RemoteTrackSettings := none
  statusEvents : List (TrackSubscriptionStatus × TrackSubscriptionStatus) := []
deriving DecidableEq

/-- A step of a thread; calls are named by their place. -/
inductive Act where
  | setSubscribed (subscribed : Bool)
  | sendSubscription (k : Nat) (accepted : Bool)
  | storeSubscription (k : Nat)
  | updateRemoteTrackSettings (settings : RemoteTrackSettings)
  | sendSettings (k : Nat) (accepted : Bool)
  | storeSettings (k : Nat)
  | setTrackAttached (attached : Bool)
deriving DecidableEq

namespace Execution

/-- Without a handler the call returns false. -/
def setSubscribed (e : Execution) (subscribed : Bool) : Execution :=
  if !e.publication.subscriptionHandler then e
  else
    { e with subscribeCalls := e.subscribeCalls ++
        [{ subscribed := subscribed, previous := e.publication.subscriptionStatus }] }

def sendSubscription (e : Execution) (k : Nat) (accepted : Bool) : Execution :=
  match e.subscribeCalls[k]? with
  | none => e
  | some call =>
    if call.sent then e
    else if accepted then
      { e with
        sentSubscription := some call.subscribed
        subscribeCalls := e.subscribeCalls.set k { call with sent := true } }
    else { e with subscribeCalls := e.subscribeCalls.eraseIdx k }

/-- The call returns, after it has told the status handler of a change. -/
def storeSubscription (e : Execution) (k : Nat) : Execution :=
  match e.subscribeCalls[k]? with
  | none => e
  | some call =>
    if call.sent then
      let publication := e.publication.storeSubscribed call.subscribed
      let current := publication.subscriptionStatus
      { e with
        publication := publication
        subscribeCalls := e.subscribeCalls.eraseIdx k
        statusEvents :=
          if decide (current ≠ call.previous) && publication.statusHandler then
            e.statusEvents ++ [(current, call.previous)]
          else e.statusEvents }
    else e

def updateRemoteTrackSettings (e : Execution) (settings : RemoteTrackSettings) : Execution :=
  if e.publication.acceptsSettings settings then
    { e with updateCalls := e.updateCalls ++ [{ settings := settings }] }
  else e

def sendSettings (e : Execution) (k : Nat) (accepted : Bool) : Execution :=
  match e.updateCalls[k]? with
  | none => e
  | some call =>
    if call.sent then e
    else if accepted then
      { e with
        sentSettings := some call.settings
        updateCalls := e.updateCalls.set k { call with sent := true } }
    else { e with updateCalls := e.updateCalls.eraseIdx k }

def storeSettings (e : Execution) (k : Nat) : Execution :=
  match e.updateCalls[k]? with
  | none => e
  | some call =>
    if call.sent then
      { e with
        publication := e.publication.storeSettings call.settings
        updateCalls := e.updateCalls.eraseIdx k }
    else e

def step (e : Execution) : Act → Execution
  | .setSubscribed subscribed => e.setSubscribed subscribed
  | .sendSubscription k accepted => e.sendSubscription k accepted
  | .storeSubscription k => e.storeSubscription k
  | .updateRemoteTrackSettings settings => e.updateRemoteTrackSettings settings
  | .sendSettings k accepted => e.sendSettings k accepted
  | .storeSettings k => e.storeSettings k
  | .setTrackAttached attached =>
    { e with publication := e.publication.setTrackAttached attached }

end Execution

/-- When all calls have returned, the publication has what the server was told last. -/
def Told (e : Execution) : Prop :=
  e.subscribeCalls = [] → e.updateCalls = [] →
    (∀ subscribed ∈ e.sentSubscription, e.publication.subscriptionDesired = subscribed) ∧
      ∀ settings ∈ e.sentSettings, e.publication.settings = settings

/-- The calls under way go on, and nothing more is sent. -/
def Finishing : Act → Prop
  | .sendSubscription _ accepted => accepted = false
  | .sendSettings _ accepted => accepted = false
  | .storeSubscription _ => True
  | .storeSettings _ => True
  | _ => False

/-- However the calls under way go on, the publication has in the end what was sent last. -/
def Settles (e : Execution) : Prop :=
  ∀ acts : List Act, (∀ act ∈ acts, Finishing act) → Told (acts.foldl Execution.step e)

/-- **The condition**: nothing is sent while another call of its kind, with another value,
    stands between its send and its store. -/
def Clear (e : Execution) : Act → Prop
  | .sendSubscription k true => ∀ call ∈ e.subscribeCalls[k]?, call.sent = false →
      ∀ other ∈ e.subscribeCalls, other.sent = true → other.subscribed = call.subscribed
  | .sendSettings k true => ∀ call ∈ e.updateCalls[k]?, call.sent = false →
      ∀ other ∈ e.updateCalls, other.sent = true → other.settings = call.settings
  | _ => True

/-! ## 3. The two cells -/

def SubscribeCall.toCall (call : SubscribeCall) : SendThenStore.Call Bool :=
  { value := call.subscribed, sent := call.sent }

def UpdateCall.toCall (call : UpdateCall) : SendThenStore.Call RemoteTrackSettings :=
  { value := call.settings, sent := call.sent }

def Execution.subscriptionCell (e : Execution) : SendThenStore.Cell Bool where
  stored := e.publication.subscriptionDesired
  lastSent := e.sentSubscription
  calls := e.subscribeCalls.map SubscribeCall.toCall

def Execution.settingsCell (e : Execution) : SendThenStore.Cell RemoteTrackSettings where
  stored := e.publication.settings
  lastSent := e.sentSettings
  calls := e.updateCalls.map UpdateCall.toCall

/-- What a step does to the subscription; `none` is nothing. -/
def Execution.subscriptionAct (e : Execution) : Act → Option (SendThenStore.Act Bool)
  | .setSubscribed subscribed =>
    if e.publication.subscriptionHandler then some (.start subscribed) else none
  | .sendSubscription k accepted => some (.send k accepted)
  | .storeSubscription k => some (.store k)
  | _ => none

def Execution.settingsAct (e : Execution) : Act → Option (SendThenStore.Act RemoteTrackSettings)
  | .updateRemoteTrackSettings settings =>
    if e.publication.acceptsSettings settings then some (.start settings) else none
  | .sendSettings k accepted => some (.send k accepted)
  | .storeSettings k => some (.store k)
  | _ => none

/-- A step of the cell, if there is one. -/
def stepCell {α : Type} (cell : SendThenStore.Cell α) : Option (SendThenStore.Act α) →
    SendThenStore.Cell α
  | none => cell
  | some act => cell.step act

section Simulation

variable {e : Execution}

theorem subscriptionCell_send (k : Nat) (accepted : Bool) :
    (e.sendSubscription k accepted).subscriptionCell = e.subscriptionCell.send k accepted := by
  have hcells : e.subscriptionCell.calls[k]? = e.subscribeCalls[k]?.map SubscribeCall.toCall :=
    List.getElem?_map
  rw [Execution.sendSubscription, SendThenStore.Cell.send, hcells]
  cases hcall : e.subscribeCalls[k]? with
  | none => rfl
  | some call =>
    simp only [Option.map_some, SubscribeCall.toCall]
    cases hsent : call.sent with
    | true => rfl
    | false =>
      cases accepted with
      | true => simp [Execution.subscriptionCell, List.map_set, SubscribeCall.toCall]
      | false => simp [Execution.subscriptionCell, List.eraseIdx_map]

theorem subscriptionCell_store (k : Nat) :
    (e.storeSubscription k).subscriptionCell = e.subscriptionCell.store k := by
  have hcells : e.subscriptionCell.calls[k]? = e.subscribeCalls[k]?.map SubscribeCall.toCall :=
    List.getElem?_map
  rw [Execution.storeSubscription, SendThenStore.Cell.store, hcells]
  cases hcall : e.subscribeCalls[k]? with
  | none => rfl
  | some call =>
    simp only [Option.map_some, SubscribeCall.toCall]
    cases hsent : call.sent with
    | true =>
      simp [Execution.subscriptionCell, List.eraseIdx_map, RemoteTrackPublication.storeSubscribed]
    | false => rfl

theorem settingsCell_send (k : Nat) (accepted : Bool) :
    (e.sendSettings k accepted).settingsCell = e.settingsCell.send k accepted := by
  have hcells : e.settingsCell.calls[k]? = e.updateCalls[k]?.map UpdateCall.toCall :=
    List.getElem?_map
  rw [Execution.sendSettings, SendThenStore.Cell.send, hcells]
  cases hcall : e.updateCalls[k]? with
  | none => rfl
  | some call =>
    simp only [Option.map_some, UpdateCall.toCall]
    cases hsent : call.sent with
    | true => rfl
    | false =>
      cases accepted with
      | true => simp [Execution.settingsCell, List.map_set, UpdateCall.toCall]
      | false => simp [Execution.settingsCell, List.eraseIdx_map]

theorem settingsCell_store (k : Nat) :
    (e.storeSettings k).settingsCell = e.settingsCell.store k := by
  have hcells : e.settingsCell.calls[k]? = e.updateCalls[k]?.map UpdateCall.toCall :=
    List.getElem?_map
  rw [Execution.storeSettings, SendThenStore.Cell.store, hcells]
  cases hcall : e.updateCalls[k]? with
  | none => rfl
  | some call =>
    simp only [Option.map_some, UpdateCall.toCall]
    cases hsent : call.sent with
    | true => simp [Execution.settingsCell, List.eraseIdx_map, RemoteTrackPublication.storeSettings]
    | false => rfl

/-! ### The other cell -/

@[simp] theorem settingsCell_sendSubscription (k : Nat) (accepted : Bool) :
    (e.sendSubscription k accepted).settingsCell = e.settingsCell := by
  rw [Execution.sendSubscription]
  split
  · rfl
  · split
    · rfl
    · split <;> rfl

@[simp] theorem settingsCell_storeSubscription (k : Nat) :
    (e.storeSubscription k).settingsCell = e.settingsCell := by
  rw [Execution.storeSubscription]
  split
  · rfl
  · split <;> rfl

@[simp] theorem subscriptionCell_sendSettings (k : Nat) (accepted : Bool) :
    (e.sendSettings k accepted).subscriptionCell = e.subscriptionCell := by
  rw [Execution.sendSettings]
  split
  · rfl
  · split
    · rfl
    · split <;> rfl

@[simp] theorem subscriptionCell_storeSettings (k : Nat) :
    (e.storeSettings k).subscriptionCell = e.subscriptionCell := by
  rw [Execution.storeSettings]
  split
  · rfl
  · split <;> rfl

/-- A step of the publication is a step of either cell. -/
theorem subscriptionCell_step (act : Act) :
    (e.step act).subscriptionCell = stepCell e.subscriptionCell (e.subscriptionAct act) := by
  cases act with
  | setSubscribed subscribed =>
    rw [Execution.step, Execution.setSubscribed, Execution.subscriptionAct]
    cases e.publication.subscriptionHandler with
    | false => rfl
    | true =>
      simp [stepCell, SendThenStore.Cell.step, Execution.subscriptionCell, SubscribeCall.toCall]
  | sendSubscription k accepted => exact subscriptionCell_send k accepted
  | storeSubscription k => exact subscriptionCell_store k
  | updateRemoteTrackSettings settings =>
    rw [Execution.step, Execution.updateRemoteTrackSettings]
    split <;> rfl
  | sendSettings k accepted => exact subscriptionCell_sendSettings k accepted
  | storeSettings k => exact subscriptionCell_storeSettings k
  | setTrackAttached attached => rfl

theorem settingsCell_step (act : Act) :
    (e.step act).settingsCell = stepCell e.settingsCell (e.settingsAct act) := by
  cases act with
  | setSubscribed subscribed =>
    rw [Execution.step, Execution.setSubscribed]
    split <;> rfl
  | sendSubscription k accepted => exact settingsCell_sendSubscription k accepted
  | storeSubscription k => exact settingsCell_storeSubscription k
  | updateRemoteTrackSettings settings =>
    rw [Execution.step, Execution.updateRemoteTrackSettings, Execution.settingsAct]
    cases e.publication.acceptsSettings settings with
    | false => rfl
    | true => simp [stepCell, SendThenStore.Cell.step, Execution.settingsCell, UpdateCall.toCall]
  | sendSettings k accepted => exact settingsCell_send k accepted
  | storeSettings k => exact settingsCell_store k
  | setTrackAttached attached => rfl

end Simulation

/-! ## 4. What is stored in the end -/

/-- Either cell keeps its invariant. -/
structure Inv (e : Execution) : Prop where
  subscription : SendThenStore.Inv e.subscriptionCell
  settings : SendThenStore.Inv e.settingsCell

section Runs

variable {e : Execution}

theorem Inv.told (h : Inv e) : Told e := by
  intro hsubscribe hupdate
  constructor
  · exact h.subscription.settled (congrArg (List.map SubscribeCall.toCall) hsubscribe)
  · exact h.settings.settled (congrArg (List.map UpdateCall.toCall) hupdate)

theorem clear_sendSubscription {k : Nat} :
    Clear e (.sendSubscription k true) ↔
      SendThenStore.Clear e.subscriptionCell (.send k true) := by
  have hcells : e.subscriptionCell.calls[k]? = e.subscribeCalls[k]?.map SubscribeCall.toCall :=
    List.getElem?_map
  simp only [Clear, SendThenStore.Clear, hcells]
  cases e.subscribeCalls[k]? with
  | none => simp
  | some call => simp [Execution.subscriptionCell, SubscribeCall.toCall]

theorem clear_sendSettings {k : Nat} :
    Clear e (.sendSettings k true) ↔ SendThenStore.Clear e.settingsCell (.send k true) := by
  have hcells : e.settingsCell.calls[k]? = e.updateCalls[k]?.map UpdateCall.toCall :=
    List.getElem?_map
  simp only [Clear, SendThenStore.Clear, hcells]
  cases e.updateCalls[k]? with
  | none => simp
  | some call => simp [Execution.settingsCell, UpdateCall.toCall]

/-- The condition is that of either cell. -/
theorem clear_iff {act : Act} :
    Clear e act ↔
      (∀ cellAct ∈ e.subscriptionAct act, SendThenStore.Clear e.subscriptionCell cellAct) ∧
        ∀ cellAct ∈ e.settingsAct act, SendThenStore.Clear e.settingsCell cellAct := by
  cases act with
  | setSubscribed subscribed =>
    simp only [Execution.subscriptionAct, Execution.settingsAct]
    split <;> simp [Clear, SendThenStore.Clear]
  | sendSubscription k accepted =>
    simp only [Execution.subscriptionAct, Execution.settingsAct]
    cases accepted with
    | false => simp [Clear, SendThenStore.Clear]
    | true => simp [clear_sendSubscription]
  | storeSubscription k =>
    simp [Execution.subscriptionAct, Execution.settingsAct, Clear, SendThenStore.Clear]
  | updateRemoteTrackSettings settings =>
    simp only [Execution.subscriptionAct, Execution.settingsAct]
    split <;> simp [Clear, SendThenStore.Clear]
  | sendSettings k accepted =>
    simp only [Execution.subscriptionAct, Execution.settingsAct]
    cases accepted with
    | false => simp [Clear, SendThenStore.Clear]
    | true => simp [clear_sendSettings]
  | storeSettings k =>
    simp [Execution.subscriptionAct, Execution.settingsAct, Clear, SendThenStore.Clear]
  | setTrackAttached attached =>
    simp [Execution.subscriptionAct, Execution.settingsAct, Clear]

theorem inv_stepCell {α : Type} {cell : SendThenStore.Cell α} (h : SendThenStore.Inv cell)
    {act : Option (SendThenStore.Act α)}
    (hclear : ∀ cellAct ∈ act, SendThenStore.Clear cell cellAct) :
    SendThenStore.Inv (stepCell cell act) := by
  cases act with
  | none => exact h
  | some cellAct => exact h.step (hclear cellAct rfl)

theorem Inv.step (h : Inv e) {act : Act} (hclear : Clear e act) : Inv (e.step act) := by
  obtain ⟨hsubscription, hsettings⟩ := clear_iff.mp hclear
  constructor
  · rw [subscriptionCell_step]
    exact inv_stepCell h.subscription hsubscription
  · rw [settingsCell_step]
    exact inv_stepCell h.settings hsettings

theorem clear_of_finishing {act : Act} (hact : Finishing act) : Clear e act := by
  cases act with
  | sendSubscription k accepted =>
    cases accepted with
    | false => trivial
    | true => cases hact
  | sendSettings k accepted =>
    cases accepted with
    | false => trivial
    | true => cases hact
  | _ => trivial

theorem Inv.settles (h : Inv e) : Settles e := by
  intro acts hacts
  induction acts generalizing e with
  | nil => exact h.told
  | cons act acts ih =>
    obtain ⟨hact, hacts⟩ := List.forall_mem_cons.mp hacts
    exact ih (h.step (clear_of_finishing hact)) hacts

/-! ### A way to finish -/

/-- The step of the publication that does this to the subscription. -/
def subscriptionStep : SendThenStore.Act Bool → Act
  | .start subscribed => .setSubscribed subscribed
  | .send k accepted => .sendSubscription k accepted
  | .store k => .storeSubscription k

def settingsStep : SendThenStore.Act RemoteTrackSettings → Act
  | .start settings => .updateRemoteTrackSettings settings
  | .send k accepted => .sendSettings k accepted
  | .store k => .storeSettings k

theorem foldl_subscriptionStep {acts : List (SendThenStore.Act Bool)}
    (hacts : ∀ act ∈ acts, SendThenStore.Finishing act) :
    ((acts.map subscriptionStep).foldl Execution.step e).subscriptionCell =
        acts.foldl SendThenStore.Cell.step e.subscriptionCell ∧
      ((acts.map subscriptionStep).foldl Execution.step e).settingsCell = e.settingsCell ∧
      ∀ act ∈ acts.map subscriptionStep, Finishing act := by
  induction acts generalizing e with
  | nil => exact ⟨rfl, rfl, List.forall_mem_nil _⟩
  | cons act acts ih =>
    obtain ⟨hact, hacts⟩ := List.forall_mem_cons.mp hacts
    obtain ⟨hcell, hother, hfinish⟩ : (e.step (subscriptionStep act)).subscriptionCell =
        e.subscriptionCell.step act ∧
          (e.step (subscriptionStep act)).settingsCell = e.settingsCell ∧
          Finishing (subscriptionStep act) := by
      cases act with
      | start value => exact hact.elim
      | send k accepted =>
        exact ⟨subscriptionCell_send k accepted, settingsCell_sendSubscription k accepted, hact⟩
      | store k => exact ⟨subscriptionCell_store k, settingsCell_storeSubscription k, trivial⟩
    obtain ⟨hrest, hothers, hfinishing⟩ := @ih (e.step (subscriptionStep act)) hacts
    rw [List.map_cons, List.foldl_cons, List.foldl_cons, hrest, hothers, hcell, hother,
      List.forall_mem_cons]
    exact ⟨rfl, rfl, hfinish, hfinishing⟩

theorem foldl_settingsStep {acts : List (SendThenStore.Act RemoteTrackSettings)}
    (hacts : ∀ act ∈ acts, SendThenStore.Finishing act) :
    ((acts.map settingsStep).foldl Execution.step e).settingsCell =
        acts.foldl SendThenStore.Cell.step e.settingsCell ∧
      ((acts.map settingsStep).foldl Execution.step e).subscriptionCell = e.subscriptionCell ∧
      ∀ act ∈ acts.map settingsStep, Finishing act := by
  induction acts generalizing e with
  | nil => exact ⟨rfl, rfl, List.forall_mem_nil _⟩
  | cons act acts ih =>
    obtain ⟨hact, hacts⟩ := List.forall_mem_cons.mp hacts
    obtain ⟨hcell, hother, hfinish⟩ : (e.step (settingsStep act)).settingsCell =
        e.settingsCell.step act ∧
          (e.step (settingsStep act)).subscriptionCell = e.subscriptionCell ∧
          Finishing (settingsStep act) := by
      cases act with
      | start value => exact hact.elim
      | send k accepted =>
        exact ⟨settingsCell_send k accepted, subscriptionCell_sendSettings k accepted, hact⟩
      | store k => exact ⟨settingsCell_store k, subscriptionCell_storeSettings k, trivial⟩
    obtain ⟨hrest, hothers, hfinishing⟩ := @ih (e.step (settingsStep act)) hacts
    rw [List.map_cons, List.foldl_cons, List.foldl_cons, hrest, hothers, hcell, hother,
      List.forall_mem_cons]
    exact ⟨rfl, rfl, hfinish, hfinishing⟩

/-- When one cell can end up wrong, the other one can be let finish first. -/
theorem not_settles_of_subscription {acts : List (SendThenStore.Act Bool)}
    (hacts : ∀ act ∈ acts, SendThenStore.Finishing act)
    (hnot : ¬ SendThenStore.Settled (acts.foldl SendThenStore.Cell.step e.subscriptionCell)) :
    ¬ Settles e := by
  intro hsettles
  obtain ⟨others, hothers, hnone, -⟩ := SendThenStore.exists_finish e.settingsCell
  obtain ⟨hsettings, hsame, hfinishOthers⟩ := @foldl_settingsStep e _ hothers
  obtain ⟨hsubscription, hkept, hfinish⟩ :=
    @foldl_subscriptionStep ((others.map settingsStep).foldl Execution.step e) _ hacts
  have htold := hsettles (others.map settingsStep ++ acts.map subscriptionStep)
    (List.forall_mem_append.mpr ⟨hfinishOthers, hfinish⟩)
  rw [List.foldl_append] at htold
  apply hnot
  rw [← hsame, ← hsubscription]
  intro hcalls
  apply (htold (List.map_eq_nil_iff.mp hcalls) _).1
  apply List.map_eq_nil_iff.mp
  exact (congrArg SendThenStore.Cell.calls (hkept.trans hsettings)).trans hnone

theorem not_settles_of_settings {acts : List (SendThenStore.Act RemoteTrackSettings)}
    (hacts : ∀ act ∈ acts, SendThenStore.Finishing act)
    (hnot : ¬ SendThenStore.Settled (acts.foldl SendThenStore.Cell.step e.settingsCell)) :
    ¬ Settles e := by
  intro hsettles
  obtain ⟨others, hothers, hnone, -⟩ := SendThenStore.exists_finish e.subscriptionCell
  obtain ⟨hsubscription, hsame, hfinishOthers⟩ := @foldl_subscriptionStep e _ hothers
  obtain ⟨hsettings, hkept, hfinish⟩ :=
    @foldl_settingsStep ((others.map subscriptionStep).foldl Execution.step e) _ hacts
  have htold := hsettles (others.map subscriptionStep ++ acts.map settingsStep)
    (List.forall_mem_append.mpr ⟨hfinishOthers, hfinish⟩)
  rw [List.foldl_append] at htold
  apply hnot
  rw [← hsame, ← hsettings]
  intro hcalls
  apply (htold _ (List.map_eq_nil_iff.mp hcalls)).2
  apply List.map_eq_nil_iff.mp
  exact (congrArg SendThenStore.Cell.calls (hkept.trans hsubscription)).trans hnone

theorem clear_of_settles {act : Act} (hsettles : Settles (e.step act)) : Clear e act := by
  by_contra hnot
  cases act with
  | sendSubscription k accepted =>
    cases accepted with
    | false => exact hnot trivial
    | true =>
      rw [clear_sendSubscription] at hnot
      obtain ⟨acts, hacts, hunsettled⟩ := SendThenStore.exists_unsettled hnot
      rw [SendThenStore.Cell.step, ← subscriptionCell_send] at hunsettled
      exact not_settles_of_subscription hacts hunsettled hsettles
  | sendSettings k accepted =>
    cases accepted with
    | false => exact hnot trivial
    | true =>
      rw [clear_sendSettings] at hnot
      obtain ⟨acts, hacts, hunsettled⟩ := SendThenStore.exists_unsettled hnot
      rw [SendThenStore.Cell.step, ← settingsCell_send] at hunsettled
      exact not_settles_of_settings hacts hunsettled hsettles
  | _ => exact hnot trivial

end Runs

/-- **The preferences are what the server was told**, however the calls under way finish, in
    every state of an execution exactly if nothing is sent while another value waits to be
    stored. -/
theorem settles_iff_along (publication : RemoteTrackPublication) (acts : List Act) :
    (∀ n, Settles ((acts.take n).foldl Execution.step { publication := publication })) ↔
      Along Clear Execution.step { publication := publication } acts := by
  have hsettles : ∀ e, Inv e → Settles e := fun _ h => h.settles
  apply forall_take_iff_along hsettles
  · exact fun _ _ h hclear => h.step hclear
  · exact fun _ _ _ hafter => clear_of_settles hafter
  · exact ⟨SendThenStore.inv_start _, SendThenStore.inv_start _⟩

/-- A publication that is subscribed to automatically. -/
def camera : RemoteTrackPublication where
  kind := .video
  subscriptionDesired := true

/-- The server is told last to unsubscribe, and the publication is desired. -/
theorem camera_not_told :
    ¬ Told ([Act.setSubscribed true, .setSubscribed false, .sendSubscription 0 true,
      .sendSubscription 1 true, .storeSubscription 1, .storeSubscription 0].foldl Execution.step
        { publication := camera }) := by
  intro htold
  have hlast := (htold (by decide) (by decide)).1 false (by decide)
  exact absurd hlast (by decide)

/-! ## 5. Full reconnects -/

/-- What the handlers send. -/
inductive Message where
  | subscription (subscribed : Bool)
  | settings (settings : RemoteTrackSettings)
deriving DecidableEq

namespace RemoteTrackPublication

/-- `SetSubscribed`; `accepted` is the handler's result. -/
def setSubscribed (publication : RemoteTrackPublication) (subscribed accepted : Bool) :
    Bool × RemoteTrackPublication :=
  if !publication.subscriptionHandler then (false, publication)
  else if !accepted then (false, publication)
  else (true, publication.storeSubscribed subscribed)

/-- `UpdateRemoteTrackSettings`. -/
def updateRemoteTrackSettings (publication : RemoteTrackPublication)
    (settings : RemoteTrackSettings) (accepted : Bool) : Bool × RemoteTrackPublication :=
  if !publication.acceptsSettings settings then (false, publication)
  else if !accepted then (false, publication)
  else (true, publication.storeSettings settings)

/-- `ResendPreferences`: what it sends. -/
def resendPreferences (publication : RemoteTrackPublication) : List Message :=
  (if publication.subscriptionOverridden && publication.subscriptionHandler then
    [.subscription publication.subscriptionDesired] else []) ++
  (if publication.settingsOverridden && publication.subscriptionDesired &&
    publication.settingsHandler then [.settings publication.settings] else [])

end RemoteTrackPublication

/-- A publication and the settings that the server has for it. -/
structure Session where
  publication : RemoteTrackPublication
  serverSettings : Option RemoteTrackSettings := none
deriving DecidableEq

/-- The server keeps the settings it was sent last. -/
def receive (serverSettings : Option RemoteTrackSettings) :
    Message → Option RemoteTrackSettings
  | .subscription _ => serverSettings
  | .settings settings => some settings

/-- The calls as one step each, and a full reconnect with what is sent after it. -/
inductive SessionAct where
  | setSubscribed (subscribed : Bool)
  | updateRemoteTrackSettings (settings : RemoteTrackSettings)
  | fullReconnect
deriving DecidableEq

def Session.step (session : Session) : SessionAct → Session
  | .setSubscribed subscribed =>
    { session with publication := (session.publication.setSubscribed subscribed true).2 }
  | .updateRemoteTrackSettings settings =>
    match session.publication.updateRemoteTrackSettings settings true with
    | (false, publication) => { session with publication := publication }
    | (true, publication) =>
      { publication := publication
        serverSettings := receive session.serverSettings (.settings settings) }
  | .fullReconnect =>
    { session with serverSettings := session.publication.resendPreferences.foldl receive none }

/-- The server has the settings of a desired track that the user has changed. -/
def Held (session : Session) : Prop :=
  session.publication.subscriptionDesired = true →
    session.publication.settingsOverridden = true →
      session.serverSettings = some session.publication.settings

/-- **The condition**: a track with changed settings is subscribed to again only if there
    was no full reconnect since the settings were sent. -/
def Remembered (session : Session) : SessionAct → Prop
  | .setSubscribed true => session.publication.subscriptionHandler = true →
      session.publication.subscriptionDesired = false →
        session.publication.settingsOverridden = true → session.serverSettings ≠ none
  | _ => True

structure SessionInv (session : Session) : Prop where
  held : Held session
  last : ∀ settings ∈ session.serverSettings, session.publication.settings = settings
  handler : session.publication.settingsOverridden = true →
    session.publication.settingsHandler = true

section Sessions

variable {session : Session}

theorem SessionInv.setSubscribed (h : SessionInv session) {subscribed : Bool}
    (hremembered : Remembered session (.setSubscribed subscribed)) :
    SessionInv (session.step (.setSubscribed subscribed)) := by
  rw [Session.step, RemoteTrackPublication.setSubscribed]
  cases hhandler : session.publication.subscriptionHandler with
  | false => exact h
  | true =>
    refine ⟨?_, h.last, h.handler⟩
    intro hdesired hoverridden
    cases subscribed with
    | false => cases hdesired
    | true =>
      by_cases hbefore : session.publication.subscriptionDesired = true
      · exact h.held hbefore hoverridden
      · have hsome := hremembered hhandler (Bool.not_eq_true _ ▸ hbefore) hoverridden
        obtain ⟨settings, hsettings⟩ := Option.ne_none_iff_exists'.mp hsome
        dsimp only at hsettings ⊢
        rw [hsettings]
        exact congrArg some (h.last settings hsettings).symm

theorem SessionInv.updateRemoteTrackSettings (h : SessionInv session)
    (settings : RemoteTrackSettings) :
    SessionInv (session.step (.updateRemoteTrackSettings settings)) := by
  rw [Session.step, RemoteTrackPublication.updateRemoteTrackSettings]
  cases haccepts : session.publication.acceptsSettings settings with
  | false => exact h
  | true =>
    simp only [RemoteTrackPublication.acceptsSettings, Bool.and_eq_true] at haccepts
    constructor
    · exact fun _ _ => rfl
    · intro other hother
      exact Option.some.inj hother
    · exact fun _ => haccepts.1.1.2

theorem serverSettings_fullReconnect :
    (session.step .fullReconnect).serverSettings =
      if session.publication.settingsOverridden && session.publication.subscriptionDesired &&
        session.publication.settingsHandler then some session.publication.settings else none := by
  rw [Session.step, RemoteTrackPublication.resendPreferences]
  split <;> split <;> rfl

theorem SessionInv.fullReconnect (h : SessionInv session) :
    SessionInv (session.step .fullReconnect) := by
  constructor
  · intro hdesired hoverridden
    have hd : session.publication.subscriptionDesired = true := hdesired
    have ho : session.publication.settingsOverridden = true := hoverridden
    rw [serverSettings_fullReconnect, hd, ho, h.handler ho]
    rfl
  · intro settings hsettings
    rw [serverSettings_fullReconnect] at hsettings
    split at hsettings
    · exact Option.some.inj hsettings
    · cases hsettings
  · exact h.handler

theorem SessionInv.step (h : SessionInv session) {act : SessionAct}
    (hremembered : Remembered session act) : SessionInv (session.step act) := by
  cases act with
  | setSubscribed subscribed => exact h.setSubscribed hremembered
  | updateRemoteTrackSettings settings => exact h.updateRemoteTrackSettings settings
  | fullReconnect => exact h.fullReconnect

theorem remembered_of_held {act : SessionAct} (hheld : Held (session.step act)) :
    Remembered session act := by
  cases act with
  | setSubscribed subscribed =>
    cases subscribed with
    | false => trivial
    | true =>
      intro hhandler _ hoverridden hnone
      have hsubscribed : session.step (.setSubscribed true) =
          { session with publication := session.publication.storeSubscribed true } := by
        rw [Session.step, RemoteTrackPublication.setSubscribed, hhandler]
        rfl
      rw [hsubscribed] at hheld
      have hsome := hheld rfl hoverridden
      rw [hnone] at hsome
      cases hsome
  | _ => trivial

end Sessions

/-- `RemoteTrackPublication`'s constructor. -/
def RemoteTrackPublication.new (kind : TrackKind) (autoSubscribe subscriptionHandler
    settingsHandler statusHandler : Bool) : RemoteTrackPublication where
  kind := kind
  subscriptionDesired := autoSubscribe
  subscriptionHandler := subscriptionHandler
  settingsHandler := settingsHandler
  statusHandler := statusHandler

/-- **The server has the user's settings** in every state exactly if a track with changed
    settings is never subscribed to again after the server has forgotten them. -/
theorem held_iff_along (kind : TrackKind)
    (autoSubscribe subscriptionHandler settingsHandler statusHandler : Bool)
    (acts : List SessionAct) :
    let publication := RemoteTrackPublication.new kind autoSubscribe subscriptionHandler
      settingsHandler statusHandler
    (∀ n, Held ((acts.take n).foldl Session.step { publication := publication })) ↔
      Along Remembered Session.step { publication := publication } acts := by
  intro publication
  have hheld : ∀ session, SessionInv session → Held session := fun _ h => h.held
  apply forall_take_iff_along hheld
  · exact fun _ _ h hremembered => h.step hremembered
  · exact fun _ _ _ hafter => remembered_of_held hafter
  · constructor
    · intro _ hoverridden
      cases hoverridden
    · intro settings hsettings
      cases hsettings
    · intro hoverridden
      cases hoverridden

/-- The settings of a track that is not wanted for a while. -/
def pausedActs : List SessionAct :=
  [.updateRemoteTrackSettings { videoFps := 24 }, .setSubscribed false, .fullReconnect,
    .setSubscribed true]

/-- They are gone, and cannot be sent again: they have not changed. -/
theorem pausedActs_not_held :
    ¬ Held (pausedActs.foldl Session.step { publication := camera }) ∧
      ((pausedActs.foldl Session.step { publication := camera }).publication
        |>.updateRemoteTrackSettings { videoFps := 24 } true).1 = false := by
  constructor
  · intro hheld
    exact absurd (hheld (by decide) (by decide)) (by decide)
  · decide

end LivekitClient.TrackPreferences
