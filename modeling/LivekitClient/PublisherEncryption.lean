/-
  LivekitClient/PublisherEncryption.lean
  ======================================
  **Encryption of the published media** over whole runs of a room: publishing,
  the user's switches, detaching, reconnects, disconnects, the teardown of the
  publisher connection, and the frames that the encoders produce meanwhile.

  A detached transformer is disabled but stays on its RTP sender, and a disabled
  transformer passes frames on as they are.  So media stay encrypted only as long
  as nothing detaches an entry whose sender still belongs to the publisher
  connection.  `UnpublishTrack` removes the sender first and detaches afterwards;
  `Disconnect` and `ReconnectingEvent(true)` detach first.

  `SetEnabled` stores the global flag and goes through the entries later, and
  `Attach` reads it before it puts its entry in.  So these two are cut at their
  locks, and other calls and frames come in between.  The remaining calls switch a
  transformer with `entries_mutex_` in hand, or one that they have taken out of the
  manager, and are one step.
-/
import LivekitClient.E2eeManager
import LivekitClient.Runs

namespace LivekitClient.PublisherEncryption

open Std
open LivekitClient.KeyProvider LivekitClient.FrameCryptor LivekitClient.E2eeManager

/-! ## 1. Frames of an enabled transformer -/

/-- `out` is `frame` with everything behind the clear prefix sealed. -/
def Encrypted (lib : Native) (t : FrameCryptorTransformer) (frame out : TransformableFrame) :
    Prop :=
  ∃ key sealed,
    lib.aead.sealData key (t.makeIv frame.ssrc frame.timestamp).1
      (frame.data.take (getUnencryptedBytes lib.h264 t.type frame))
      (frame.data.drop (getUnencryptedBytes lib.h264 t.type frame)) = some sealed ∧
    out = sealedFrame lib.h264 t frame sealed

theorem reportEnc_enabledCryption (t : FrameCryptorTransformer) (state : FrameCryptionState) :
    (t.reportEnc state).1.enabledCryption = t.enabledCryption := by
  unfold FrameCryptorTransformer.reportEnc
  split <;> rfl

theorem dropEnc_enabledCryption (t : FrameCryptorTransformer) (p : NativeKeyProvider)
    (state : FrameCryptionState) :
    (t.dropEnc p state).transformer.enabledCryption = t.enabledCryption :=
  reportEnc_enabledCryption t state

/-- Handling a frame does not switch the transformer. -/
theorem encryptFrame_enabledCryption (lib : Native) (t : FrameCryptorTransformer)
    (p : NativeKeyProvider) (frame : TransformableFrame) :
    (t.encryptFrame lib p frame).transformer.enabledCryption = t.enabledCryption := by
  unfold FrameCryptorTransformer.encryptFrame
  split
  · exact dropEnc_enabledCryption _ _ _
  · split
    · rfl
    · split
      · rfl
      · dsimp only
        split
        · exact dropEnc_enabledCryption _ _ _
        · split
          · exact dropEnc_enabledCryption _ _ _
          · split
            · exact dropEnc_enabledCryption _ _ _
            · exact reportEnc_enabledCryption _ _

/-- An enabled transformer forwards nothing but encrypted frames. -/
theorem encryptFrame_encrypts {lib : Native} {t : FrameCryptorTransformer}
    {p : NativeKeyProvider} {frame out : TransformableFrame} (henabled : t.enabledCryption = true)
    (hforwarded : (t.encryptFrame lib p frame).forwarded = some out) :
    Encrypted lib t frame out := by
  unfold FrameCryptorTransformer.encryptFrame at hforwarded
  split at hforwarded
  · simp [FrameCryptorTransformer.dropEnc] at hforwarded
  · split at hforwarded
    · simp at hforwarded
    · rw [henabled] at hforwarded
      simp only [Bool.not_true, Bool.false_eq_true, if_false] at hforwarded
      split at hforwarded
      · simp [FrameCryptorTransformer.dropEnc] at hforwarded
      · split at hforwarded
        · simp [FrameCryptorTransformer.dropEnc] at hforwarded
        · split at hforwarded
          · simp [FrameCryptorTransformer.dropEnc] at hforwarded
          · rename_i sealed hsealed
            simp only [Option.some.injEq] at hforwarded
            unfold Aead.encrypt at hsealed
            split at hsealed
            · exact ⟨_, sealed, hsealed, hforwarded.symm⟩
            · simp at hsealed

/-! ## 2. The room and its publisher connection -/

/-- An `AttachSender` under way, after its `Detach`: before it reads the flag and puts
    the transformer onto the sender, before it puts the info in, and before the entry. -/
inductive Attaching where
  | install (key : CryptorKey) (participantIdentity : String) (kind : TrackKind) (sender : Nat)
  | put (key : CryptorKey) (participantIdentity : String) (kind : TrackKind) (enabled : Bool)
      (entry : Entry)
  | emplace (key : CryptorKey) (enabled : Bool) (entry : Entry)

/-- The entry that the call has made, with the flag as it has read it. -/
def Attaching.made : Attaching → Option (Bool × Entry)
  | .install _ _ _ _ => none
  | .put _ _ _ enabled entry | .emplace _ enabled entry => some (enabled, entry)

/-- A frame as it left, with the transformer that handled it. -/
structure Handed where
  transformer : FrameCryptorTransformer
  frame : TransformableFrame
  out : TransformableFrame

structure World where
  manager : Manager
  keys : NativeKeyProvider
  /-- The RTP senders that are part of the publisher connection. -/
  publisher : List Nat := []
  nextSender : Nat := 0
  fullReconnectPrepared : Bool := false
  /-- The room is `Disconnecting` or `Disconnected`. -/
  leaving : Bool := false
  attaching : List Attaching := []
  /-- The calls of `SetEnabled` that have stored their flag and not gone through the
      entries. -/
  switching : List Bool := []
  /-- History: the transformers whose track the user has individually disabled. -/
  userDisabled : List Nat := []
  /-- History: the frames of the publisher connection that left while encryption was
      enabled and the user had not disabled their track. -/
  handed : List Handed := []

def World.new (enabled : Bool) (keys : NativeKeyProvider) : World :=
  { manager := .new enabled, keys := keys }

inductive Event where
  /-- `RtcEngine::CreateSender`. -/
  | createSender
  | attachSender (trackId participantIdentity : String) (kind : TrackKind) (sender : Nat)
  /-- The next section of an `AttachSender`. -/
  | attach (i : Nat)
  | setEnabled (enabled : Bool)
  /-- The loop of a `SetEnabled`. -/
  | applyEnabled (i : Nat)
  | setFrameCryptorEnabled (key : CryptorKey) (enabled : Bool)
  | detach (key : CryptorKey)
  | detachAll
  /-- `Room::ReconnectingEvent`. -/
  | reconnecting (fullReconnect : Bool)
  /-- `Room::ReconnectedEvent`. -/
  | reconnected
  /-- `Room::Disconnect` up to the engine's teardown. -/
  | disconnect
  | connect
  /-- `RtcEngine::RemoveSender`. -/
  | removeSender (sender : Nat)
  /-- The engine tears the publisher connection down. -/
  | resetTransport
  | registerSink (transformer : Nat) (ssrc : UInt32)
  | keyOperation (op : KeyProvider.Op)
  /-- An encoder hands a frame to the transformer of its sender. -/
  | frame (sender : Nat) (frame : TransformableFrame)

def registerSink (t : FrameCryptorTransformer) (ssrc : UInt32) : FrameCryptorTransformer :=
  match t.type with
  | .audioFrame => { t with sinkCallback := true }
  | .videoFrame => { t with sinkCallbacks := ssrc :: t.sinkCallbacks }

def modifyTransformer (m : Manager) (transformer : Nat)
    (f : FrameCryptorTransformer → FrameCryptorTransformer) : Manager :=
  { m with transformers := m.transformers.modify transformer f }

/-- The arguments that `Attach` accepts, and a sender. -/
def accepts (w : World) (trackId participantIdentity : String) (kind : TrackKind) (sender : Nat) :
    Bool :=
  sender < w.nextSender && !trackId.isEmpty && !participantIdentity.isEmpty && kind != .unknown

/-- The next section of the `i`-th `AttachSender`. -/
def attachStep (w : World) (i : Nat) : Attaching → World
  | .install key participantIdentity kind sender =>
    let enabled := w.manager.enabled
    let installed :=
      w.manager.installTransformer participantIdentity kind (.sender sender) enabled
    { w with
      manager := installed.2
      attaching := w.attaching.set i (.put key participantIdentity kind enabled installed.1) }
  | .put key participantIdentity kind enabled entry =>
    { w with
      manager := w.manager.putCryptor key participantIdentity kind enabled
      attaching := w.attaching.set i (.emplace key enabled entry) }
  | .emplace key _ entry =>
    { w with
      manager := w.manager.emplaceEntry key entry
      attaching := w.attaching.eraseIdx i }

/-- The loop of `SetEnabled`, under `entries_mutex_`. -/
def applyEnabled (m : Manager) (enabled : Bool) : Manager :=
  m.entries.keys.foldl (fun m key => m.applyEnabled enabled key) m

/-- `encryptFrame` of the transformer that is on the sender. -/
def handFrame (lib : Native) (w : World) (sender : Nat) (frame : TransformableFrame) : World :=
  match w.manager.installed (.sender sender) with
  | none => w
  | some transformer =>
    match w.manager.transformers[transformer]? with
    | none => w
    | some t =>
      let handled := t.encryptFrame lib w.keys frame
      { w with
        manager := modifyTransformer w.manager transformer fun _ => handled.transformer
        keys := handled.provider
        handed :=
          if sender ∈ w.publisher ∧ w.manager.enabled = true ∧ transformer ∉ w.userDisabled then
            w.handed ++ handled.forwarded.toList.map fun out => ⟨t, frame, out⟩
          else w.handed }

def step (lib : Native) (w : World) : Event → World
  | .createSender =>
    { w with publisher := w.nextSender :: w.publisher, nextSender := w.nextSender + 1 }
  | .attachSender trackId participantIdentity kind sender =>
    if accepts w trackId participantIdentity kind sender then
      { w with
        manager := (w.manager.detach ⟨.sender, trackId⟩).2
        attaching :=
          w.attaching ++ [.install ⟨.sender, trackId⟩ participantIdentity kind sender] }
    else w
  | .attach i =>
    match w.attaching[i]? with
    | none => w
    | some call => attachStep w i call
  | .setEnabled enabled =>
    if w.manager.enabled = enabled then w
    else
      { w with
        manager := { w.manager with enabled := enabled }
        switching := w.switching ++ [enabled] }
  | .applyEnabled i =>
    match w.switching[i]? with
    | none => w
    | some enabled =>
      { w with
        manager := applyEnabled w.manager enabled
        switching := w.switching.eraseIdx i }
  | .setFrameCryptorEnabled key enabled =>
    { w with
      manager := (w.manager.setFrameCryptorEnabled key enabled).2
      userDisabled := match w.manager.entries[key]? with
        | none => w.userDisabled
        | some entry =>
          if enabled then w.userDisabled.filter (· ≠ entry.transformer)
          else entry.transformer :: w.userDisabled }
  | .detach key => { w with manager := (w.manager.detach key).2 }
  | .detachAll => { w with manager := w.manager.detachAll }
  | .reconnecting fullReconnect =>
    if fullReconnect && !w.fullReconnectPrepared then
      { w with fullReconnectPrepared := true, manager := w.manager.detachAll }
    else w
  | .reconnected => { w with fullReconnectPrepared := false }
  | .disconnect =>
    if w.leaving then w else { w with leaving := true, manager := w.manager.detachAll }
  | .connect => { w with leaving := false, fullReconnectPrepared := false }
  | .removeSender sender => { w with publisher := w.publisher.filter (· ≠ sender) }
  | .resetTransport => { w with publisher := [] }
  | .registerSink transformer ssrc =>
    { w with manager := modifyTransformer w.manager transformer (registerSink · ssrc) }
  | .keyOperation op => { w with keys := (KeyProvider.apply lib.kdf w.keys op).2 }
  | .frame sender frame => handFrame lib w sender frame

/-- With nothing in between, the sections of an `AttachSender` are `Attach`. -/
theorem sections_attach (lib : Native) (w : World) {trackId participantIdentity : String}
    {kind : TrackKind} {sender : Nat} (hidle : w.attaching = [])
    (haccepts : accepts w trackId participantIdentity kind sender = true) :
    [.attachSender trackId participantIdentity kind sender, .attach 0, .attach 0,
        .attach 0].foldl (step lib) w =
      { w with manager := (w.manager.attach ⟨.sender, trackId⟩ participantIdentity kind
          (.sender sender)).2 } := by
  have hargs : ¬ (trackId.isEmpty || participantIdentity.isEmpty ||
      decide (kind = .unknown)) = true := by
    simp only [accepts, Bool.and_eq_true, Bool.not_eq_true', bne_iff_ne] at haccepts
    obtain ⟨⟨⟨-, htrackId⟩, hidentity⟩, hkind⟩ := haccepts
    simp [htrackId, hidentity, hkind]
  obtain ⟨henabled, -, -⟩ := w.manager.detach_frame ⟨.sender, trackId⟩
  simp only [List.foldl_cons, List.foldl_nil, step, haccepts, if_true, hidle, List.nil_append,
    List.getElem?_cons_zero, attachStep, List.set_cons_zero, List.eraseIdx_cons_zero,
    Manager.attach, if_neg hargs, henabled]

/-- And so are those of a `SetEnabled`. -/
theorem sections_setEnabled (lib : Native) (w : World) (enabled : Bool)
    (hidle : w.switching = []) :
    [.setEnabled enabled, .applyEnabled 0].foldl (step lib) w =
      { w with manager := w.manager.setEnabled enabled } := by
  simp only [List.foldl_cons, List.foldl_nil, step, Manager.setEnabled]
  by_cases hsame : w.manager.enabled = enabled
  · have hnone : w.switching[0]? = none := by simp only [hidle, List.getElem?_nil]
    simp only [if_pos hsame, hnone]
  · simp only [if_neg hsame, hidle, List.nil_append, List.getElem?_cons_zero, applyEnabled,
      List.eraseIdx_cons_zero]

/-! ## 3. The steps that may make encryption lapse -/

/-- The step takes the entry under `key` out of the manager. -/
def Event.removes (w : World) : Event → CryptorKey → Prop
  | .attachSender trackId participantIdentity kind sender, key =>
    key = ⟨.sender, trackId⟩ ∧ accepts w trackId participantIdentity kind sender = true
  | .detach key', key => key = key'
  | .detachAll, _ => True
  | .reconnecting fullReconnect, _ => fullReconnect = true ∧ w.fullReconnectPrepared = false
  | .disconnect, _ => w.leaving = false
  | _, _ => False

/-- The entry's sender is part of the publisher connection and still has the entry's
    transformer, which the user has not disabled. -/
def World.InUse (w : World) (entry : Entry) : Prop :=
  entry.individuallyEnabled = true ∧ ∃ sender ∈ w.publisher, entry.rtp = .sender sender ∧
    w.manager.installed (.sender sender) = some entry.transformer

/-- Encryption is enabled, and no `SetEnabled` that has switched it on has yet to go
    through the entries. -/
def World.Settled (w : World) : Prop := w.manager.enabled = true ∧ true ∉ w.switching

/-- What the calls of `AttachSender` under way have made, with the flags they have read. -/
def World.made (w : World) : List (Bool × Entry) := w.attaching.filterMap Attaching.made

def Attaching.InOrder (w : World) : Attaching → Prop
  | .emplace key enabled _ => enabled = true ∨ (key ∉ w.manager.entries ∧ ¬ w.Settled)
  | _ => True

/-- No `SetEnabled` switches the transformers off after a later one has switched them
    on, and no `AttachSender` puts an entry in with a flag that has been switched on
    since, or beside another entry; and a frame comes when neither is under way. -/
def InOrder (w : World) : Event → Prop
  | .applyEnabled i => w.switching[i]? = some false → ¬ w.Settled
  | .attach i => ∀ call ∈ w.attaching[i]?, call.InOrder w
  | .frame sender _ => w.manager.enabled = true → true ∉ w.switching ∧
      ∀ item ∈ w.made, item.1 = false →
        w.manager.installed (.sender sender) ≠ some item.2.transformer
  | _ => True

/-- No entry is taken out while its sender is in use. -/
def Careful (w : World) (event : Event) : Prop :=
  (∀ (key : CryptorKey) (entry : Entry), w.manager.entries[key]? = some entry →
    event.removes w key → ¬ w.InUse entry) ∧ InOrder w event

instance (w : World) (entry : Entry) : Decidable (w.InUse entry) :=
  inferInstanceAs (Decidable (_ ∧ ∃ sender ∈ w.publisher, _ ∧ _))

instance (w : World) : Decidable w.Settled := inferInstanceAs (Decidable (_ ∧ _))

instance (w : World) (key : CryptorKey) : (event : Event) → Decidable (event.removes w key)
  | .attachSender _ _ _ _ | .reconnecting _ => inferInstanceAs (Decidable (_ ∧ _))
  | .detach _ | .disconnect => inferInstanceAs (Decidable (_ = _))
  | .detachAll => inferInstanceAs (Decidable True)
  | .createSender | .attach _ | .setEnabled _ | .applyEnabled _ | .setFrameCryptorEnabled _ _
  | .reconnected | .connect | .removeSender _ | .resetTransport | .registerSink _ _
  | .keyOperation _ | .frame _ _ => inferInstanceAs (Decidable False)

instance (w : World) : (call : Attaching) → Decidable (call.InOrder w)
  | .emplace _ _ _ => inferInstanceAs (Decidable (_ ∨ _))
  | .install _ _ _ _ | .put _ _ _ _ _ => inferInstanceAs (Decidable True)

instance (w : World) : (event : Event) → Decidable (InOrder w event)
  | .applyEnabled _ => inferInstanceAs (Decidable (_ → _))
  | .attach i => inferInstanceAs (Decidable (∀ call ∈ w.attaching[i]?, _))
  | .frame _ _ => inferInstanceAs (Decidable (_ → _ ∧ ∀ item ∈ w.made, _ → _))
  | .createSender | .attachSender _ _ _ _ | .setEnabled _ | .setFrameCryptorEnabled _ _
  | .detach _ | .detachAll | .reconnecting _ | .reconnected | .disconnect | .connect
  | .removeSender _ | .resetTransport | .registerSink _ _ | .keyOperation _ =>
    inferInstanceAs (Decidable True)

/-- The entries of the manager are those of a list. -/
theorem careful_iff {w : World} {event : Event} :
    (∀ item ∈ w.manager.entries.toList, event.removes w item.1 → ¬ w.InUse item.2) ∧
      InOrder w event ↔ Careful w event := by
  refine and_congr_left fun _ => ⟨?_, ?_⟩
  · intro h key entry hentry
    exact h (key, entry) (ExtTreeMap.mem_toList_iff_getElem?_eq_some.2 hentry)
  · intro h item hitem
    exact h item.1 item.2 (ExtTreeMap.mem_toList_iff_getElem?_eq_some.1 hitem)

instance (w : World) (event : Event) : Decidable (Careful w event) :=
  decidable_of_iff _ careful_iff

/-- No frame of the publisher connection has left in clear while encryption was enabled
    and the user had not disabled its track. -/
def NoLapse (lib : Native) (w : World) : Prop :=
  ∀ handed ∈ w.handed, Encrypted lib handed.transformer handed.frame handed.out

/-! ## 4. The invariant -/

/-- An entry that is on its way into the manager. -/
structure Made (w : World) (enabled : Bool) (entry : Entry) : Prop where
  individually : entry.individuallyEnabled = true
  lt : entry.transformer < w.manager.transformers.length
  notDisabled : entry.transformer ∉ w.userDisabled
  free : ∀ (key : CryptorKey) (other : Entry), w.manager.entries[key]? = some other →
    other.transformer ≠ entry.transformer
  on : enabled = true → w.manager.flag entry.transformer = some true
  rtp : ∀ sender, w.manager.installed (.sender sender) = some entry.transformer →
    entry.rtp = .sender sender

/-- The transformer is one that the user has disabled, or that of an entry in the
    manager or on its way there; or it stays on. -/
def World.Covered (w : World) (transformer : Nat) : Prop :=
  transformer ∈ w.userDisabled ∨
    (∃ (key : CryptorKey) (entry : Entry), w.manager.entries[key]? = some entry ∧
      entry.transformer = transformer) ∨
    (∃ item ∈ w.made, item.2.transformer = transformer) ∨
    w.manager.flag transformer = some true

structure Inv (w : World) : Prop where
  entry_lt : ∀ (key : CryptorKey) (entry : Entry), w.manager.entries[key]? = some entry →
    entry.transformer < w.manager.transformers.length
  distinct : ∀ (key key' : CryptorKey) (entry entry' : Entry),
    w.manager.entries[key]? = some entry → w.manager.entries[key']? = some entry' →
      entry.transformer = entry'.transformer → key = key'
  flags : w.Settled → ∀ (key : CryptorKey) (entry : Entry),
    w.manager.entries[key]? = some entry → entry.individuallyEnabled = true →
      w.manager.flag entry.transformer = some true
  disabled_iff : ∀ (key : CryptorKey) (entry : Entry), w.manager.entries[key]? = some entry →
    (entry.individuallyEnabled = false ↔ entry.transformer ∈ w.userDisabled)
  disabled_lt : ∀ transformer ∈ w.userDisabled, transformer < w.manager.transformers.length
  publisher_lt : ∀ sender ∈ w.publisher, sender < w.nextSender
  installed_lt : ∀ sender transformer,
    w.manager.installed (.sender sender) = some transformer →
    sender < w.nextSender ∧ transformer < w.manager.transformers.length
  rtp_eq : ∀ (key : CryptorKey) (entry : Entry), w.manager.entries[key]? = some entry →
    ∀ sender, w.manager.installed (.sender sender) = some entry.transformer →
      entry.rtp = .sender sender
  installs : ∀ (key : CryptorKey) (identity : String) (kind : TrackKind) (sender : Nat),
    .install key identity kind sender ∈ w.attaching → sender < w.nextSender
  made : ∀ item ∈ w.made, Made w item.1 item.2
  unique : (w.made.map fun item => item.2.transformer).Nodup
  covered : ∀ sender ∈ w.publisher, ∀ transformer,
    w.manager.installed (.sender sender) = some transformer → w.Covered transformer

theorem inv_new (enabled : Bool) (keys : NativeKeyProvider) : Inv (World.new enabled keys) := by
  constructor <;> simp [World.new, Manager.new, World.made]

/-- A transformer that is on a sender of the publisher connection is on, unless the
    user has disabled it or something is under way. -/
theorem Inv.on {w : World} (hw : Inv w) {sender transformer : Nat}
    (hsender : sender ∈ w.publisher)
    (hinstalled : w.manager.installed (.sender sender) = some transformer)
    (henabled : w.manager.enabled = true) (hdisabled : transformer ∉ w.userDisabled)
    (horder : true ∉ w.switching ∧ ∀ item ∈ w.made, item.1 = false →
      w.manager.installed (.sender sender) ≠ some item.2.transformer) :
    w.manager.flag transformer = some true := by
  obtain ⟨hsettled, hread⟩ := horder
  rcases hw.covered sender hsender transformer hinstalled with
    hbad | ⟨key, entry, hentry, rfl⟩ | ⟨item, hitem, rfl⟩ | hon
  · exact absurd hbad hdisabled
  · refine hw.flags ⟨henabled, hsettled⟩ key entry hentry ?_
    by_contra hoff
    exact hdisabled ((hw.disabled_iff key entry hentry).mp (by simpa using hoff))
  · refine (hw.made item hitem).on ?_
    by_contra hoff
    exact hread item hitem (by simpa using hoff) hinstalled
  · exact hon

/-- Steps that leave the manager's settings and the calls alone and let no sender appear. -/
theorem Inv.of_same {w w' : World} (hw : Inv w)
    (hentries : w'.manager.entries = w.manager.entries)
    (henabled : w'.manager.enabled = w.manager.enabled)
    (hinstalled : w'.manager.installed = w.manager.installed)
    (hlength : w'.manager.transformers.length = w.manager.transformers.length)
    (hflag : w'.manager.flag = w.manager.flag)
    (hdisabled : w'.userDisabled = w.userDisabled) (hnext : w'.nextSender = w.nextSender)
    (hattaching : w'.attaching = w.attaching) (hswitching : w'.switching = w.switching)
    (hpublisher : ∀ sender ∈ w'.publisher, sender ∈ w.publisher) : Inv w' := by
  have hmade : w'.made = w.made := by simp only [World.made, hattaching]
  refine ⟨?_, ?_, ?_, ?_, ?_, ?_, ?_, ?_, ?_, ?_, ?_, ?_⟩
  · simpa only [hentries, hlength] using hw.entry_lt
  · simpa only [hentries] using hw.distinct
  · simpa only [World.Settled, hentries, hflag, henabled, hswitching] using hw.flags
  · simpa only [hentries, hdisabled] using hw.disabled_iff
  · simpa only [hdisabled, hlength] using hw.disabled_lt
  · intro sender hsender
    simpa only [hnext] using hw.publisher_lt sender (hpublisher sender hsender)
  · simpa only [hinstalled, hnext, hlength] using hw.installed_lt
  · simpa only [hentries, hinstalled] using hw.rtp_eq
  · simpa only [hattaching, hnext] using hw.installs
  · intro item hitem
    have hold := hw.made item (hmade ▸ hitem)
    exact ⟨hold.individually, hlength ▸ hold.lt, hdisabled ▸ hold.notDisabled,
      hentries ▸ hold.free, hflag ▸ hold.on, hinstalled ▸ hold.rtp⟩
  · simpa only [hmade] using hw.unique
  · intro sender hsender transformer hinst
    have hold := hw.covered sender (hpublisher sender hsender) transformer (hinstalled ▸ hinst)
    simpa only [World.Covered, hdisabled, hentries, hmade, hflag] using hold

/-- An entry that a sender's transformer belongs to is in use, unless the user has
    disabled it. -/
theorem Inv.disabled_of_not_inUse {w : World} (hw : Inv w) {key : CryptorKey} {entry : Entry}
    (hentry : w.manager.entries[key]? = some entry) {sender : Nat}
    (hsender : sender ∈ w.publisher)
    (hinstalled : w.manager.installed (.sender sender) = some entry.transformer)
    (hfree : ¬ w.InUse entry) : entry.transformer ∈ w.userDisabled := by
  refine (hw.disabled_iff key entry hentry).1 ?_
  by_contra hon
  refine hfree ⟨by simpa using hon, sender, hsender, ?_, hinstalled⟩
  exact hw.rtp_eq key entry hentry sender hinstalled

/-- Steps that only take entries out, none of them in use, and switch nothing but their
    transformers. -/
theorem Inv.of_removed {w : World} (hw : Inv w) {m : Manager}
    (henabled : m.enabled = w.manager.enabled) (hinstalled : m.installed = w.manager.installed)
    (hlength : m.transformers.length = w.manager.transformers.length)
    (hsub : ∀ (key : CryptorKey) (entry : Entry), m.entries[key]? = some entry →
      w.manager.entries[key]? = some entry)
    (hremoved : ∀ (key : CryptorKey) (entry : Entry), w.manager.entries[key]? = some entry →
      m.entries[key]? = some entry ∨ ¬ w.InUse entry)
    (hflag : ∀ transformer, (∀ (key : CryptorKey) (entry : Entry),
      w.manager.entries[key]? = some entry → entry.transformer = transformer →
        m.entries[key]? = some entry) → m.flag transformer = w.manager.flag transformer) :
    Inv { w with manager := m } := by
  refine ⟨?_, ?_, ?_, ?_, ?_, hw.publisher_lt, ?_, ?_, hw.installs, ?_, hw.unique, ?_⟩
  · intro key entry hentry
    simpa only [hlength] using hw.entry_lt key entry (hsub key entry hentry)
  · intro key key' entry entry' hentry hentry'
    exact hw.distinct key key' entry entry' (hsub key entry hentry) (hsub key' entry' hentry')
  · intro hsettled key entry hentry hindividual
    have hold := hsub key entry hentry
    have hstays : m.flag entry.transformer = w.manager.flag entry.transformer := by
      apply hflag
      intro key' entry' hentry' hsame
      obtain rfl := hw.distinct key' key entry' entry hentry' hold hsame
      exact (hentry'.symm.trans hold) ▸ hentry
    have hbefore : w.Settled := ⟨henabled ▸ hsettled.1, hsettled.2⟩
    exact hstays.trans (hw.flags hbefore key entry hold hindividual)
  · intro key entry hentry
    exact hw.disabled_iff key entry (hsub key entry hentry)
  · simpa only [hlength] using hw.disabled_lt
  · simpa only [hinstalled, hlength] using hw.installed_lt
  · intro key entry hentry
    simpa only [hinstalled] using hw.rtp_eq key entry (hsub key entry hentry)
  · intro item hitem
    have hold := hw.made item hitem
    refine ⟨hold.individually, hlength ▸ hold.lt, hold.notDisabled, ?_, ?_, hinstalled ▸ hold.rtp⟩
    · intro key other hother
      exact hold.free key other (hsub key other hother)
    · intro henabled'
      refine (hflag _ ?_).trans (hold.on henabled')
      intro key entry hentry hsame
      exact absurd hsame (hold.free key entry hentry)
  · intro sender hsender transformer hinst
    have hinst' : w.manager.installed (.sender sender) = some transformer := hinstalled ▸ hinst
    rcases hw.covered sender hsender transformer hinst' with hdis | ⟨key, entry, hentry, rfl⟩ |
      hcalls | hon
    · exact Or.inl hdis
    · rcases hremoved key entry hentry with hstays | hfree
      · exact Or.inr (Or.inl ⟨key, entry, hstays, rfl⟩)
      · exact Or.inl (hw.disabled_of_not_inUse hentry hsender hinst' hfree)
    · exact Or.inr (Or.inr (Or.inl hcalls))
    · -- it stays on, unless its entry is taken out
      by_cases howned : ∃ (key : CryptorKey) (entry : Entry),
          w.manager.entries[key]? = some entry ∧ entry.transformer = transformer
      · obtain ⟨key, entry, hentry, rfl⟩ := howned
        rcases hremoved key entry hentry with hstays | hfree
        · exact Or.inr (Or.inl ⟨key, entry, hstays, rfl⟩)
        · exact Or.inl (hw.disabled_of_not_inUse hentry hsender hinst' hfree)
      · refine Or.inr (Or.inr (Or.inr ((hflag transformer ?_).trans hon)))
        intro key entry hentry hsame
        exact absurd ⟨key, entry, hentry, hsame⟩ howned

theorem Inv.detach {w : World} (hw : Inv w) {key : CryptorKey}
    (hfree : ∀ entry, w.manager.entries[key]? = some entry → ¬ w.InUse entry) :
    Inv { w with manager := (w.manager.detach key).2 } := by
  obtain ⟨henabled, hinstalled, hlength⟩ := w.manager.detach_frame key
  refine hw.of_removed henabled hinstalled hlength ?_ ?_ ?_
  · intro key' entry hentry
    simp only [Manager.detach_entries] at hentry
    exact (Manager.entries_of_erase hentry).2
  · intro key' entry hentry
    by_cases heq : key' = key
    · subst heq
      exact Or.inr (hfree entry hentry)
    · left
      simpa [Manager.detach_entries, ExtTreeMap.getElem?_erase, Ne.symm heq] using hentry
  · intro transformer hstays
    apply Manager.detach_flag
    intro entry hentry hsame
    have hgone := hstays key entry hentry hsame
    simp [Manager.detach_entries] at hgone

/-- The loop of `detachAll` switches nothing but the transformers that it is given. -/
theorem detachFold_flag {removed : List (CryptorKey × Entry)} {transformer : Nat}
    (hother : ∀ item ∈ removed, item.2.transformer ≠ transformer) (m : Manager) :
    (removed.foldl (fun m entry => m.detachEntry entry.2) m).flag transformer =
      m.flag transformer := by
  induction removed generalizing m with
  | nil => rfl
  | cons item removed ih =>
    have hfirst := hother item (List.mem_cons_self ..)
    refine (ih (fun other hmem => hother other (List.mem_cons_of_mem _ hmem)) _).trans ?_
    exact (Manager.flag_setTransformerEnabled _ _ _ _).trans (if_neg hfirst)

theorem Inv.detachAll {w : World} (hw : Inv w)
    (hfree : ∀ (key : CryptorKey) (entry : Entry), w.manager.entries[key]? = some entry →
      ¬ w.InUse entry) : Inv { w with manager := w.manager.detachAll } := by
  obtain ⟨hentries, henabled, hinstalled, hlength⟩ := w.manager.detachAll_frame
  refine hw.of_removed henabled hinstalled hlength ?_ ?_ ?_
  · intro key entry hentry
    simp [hentries] at hentry
  · intro key entry hentry
    exact Or.inr (hfree key entry hentry)
  · intro transformer hstays
    refine detachFold_flag ?_ _
    intro item hitem hsame
    have hgone := hstays item.1 item.2 (ExtTreeMap.mem_toList_iff_getElem?_eq_some.1 hitem) hsame
    simp [hentries] at hgone

/-! ### A call of `AttachSender` -/

theorem made_append_install (w : World) (key : CryptorKey) (identity : String) (kind : TrackKind)
    (sender : Nat) :
    (w.attaching ++ [Attaching.install key identity kind sender]).filterMap Attaching.made =
      w.made := by
  simp [World.made, List.filterMap_append, Attaching.made]

theorem Inv.attachSender {w : World} (hw : Inv w) (lib : Native) {trackId identity : String}
    {kind : TrackKind} {sender : Nat}
    (hcareful : Careful w (.attachSender trackId identity kind sender)) :
    Inv (step lib w (.attachSender trackId identity kind sender)) := by
  unfold step
  dsimp only
  split
  · rename_i haccepts
    have hlt : sender < w.nextSender := by
      simp only [accepts, Bool.and_eq_true, decide_eq_true_eq] at haccepts
      exact haccepts.1.1.1
    have hdetached := hw.detach fun entry hentry =>
      hcareful.1 ⟨.sender, trackId⟩ entry hentry ⟨rfl, haccepts⟩
    have hmade := made_append_install w ⟨.sender, trackId⟩ identity kind sender
    refine ⟨hdetached.entry_lt, hdetached.distinct, hdetached.flags, hdetached.disabled_iff,
      hdetached.disabled_lt, hdetached.publisher_lt, hdetached.installed_lt, hdetached.rtp_eq,
      ?_, ?_, ?_, ?_⟩
    · intro key identity' kind' other hmem
      rcases List.mem_append.1 hmem with hold | hnew
      · exact hdetached.installs key identity' kind' other hold
      · cases List.mem_singleton.1 hnew
        exact hlt
    · intro item hitem
      have hold := hdetached.made item (hmade ▸ hitem)
      exact ⟨hold.individually, hold.lt, hold.notDisabled, hold.free, hold.on, hold.rtp⟩
    · simpa only [World.made, hmade] using hdetached.unique
    · intro other hother transformer hinst
      have hold := hdetached.covered other hother transformer hinst
      simpa only [World.Covered, World.made, hmade] using hold
  · exact hw

/-- The transformer that is created is on no other sender and of no other entry. -/
theorem Inv.install {w : World} (hw : Inv w) {i : Nat} {key : CryptorKey} {identity : String}
    {kind : TrackKind} {sender : Nat}
    (hcall : w.attaching[i]? = some (.install key identity kind sender)) :
    Inv (attachStep w i (.install key identity kind sender)) := by
  obtain ⟨before, after, hbefore, -, hset⟩ := Runs.split_of_getElem? hcall
  have hlt := hw.installs key identity kind sender (List.mem_of_getElem? hcall)
  have hmade : w.made = before.filterMap Attaching.made ++ after.filterMap Attaching.made := by
    simp only [World.made, hbefore, List.filterMap_append, List.filterMap_cons, Attaching.made]
  let enabled := w.manager.enabled
  let entry : Entry := ⟨true, .sender sender, w.manager.transformers.length⟩
  let after' := attachStep w i (.install key identity kind sender)
  have hmade' : after'.made = before.filterMap Attaching.made ++
      (enabled, entry) :: after.filterMap Attaching.made := by
    simp only [World.made, after', attachStep, hset, List.filterMap_append, List.filterMap_cons,
      Attaching.made]
    rfl
  have hmem : ∀ item, item ∈ after'.made ↔ item = (enabled, entry) ∨ item ∈ w.made := by
    intro item
    simp only [hmade', hmade, List.mem_append, List.mem_cons]
    tauto
  have hlength : after'.manager.transformers.length = w.manager.transformers.length + 1 := by
    simp [after', attachStep, Manager.installTransformer]
  have hflag : ∀ transformer, after'.manager.flag transformer =
      if transformer = w.manager.transformers.length then some enabled
      else w.manager.flag transformer :=
    Manager.flag_installTransformer w.manager identity kind (.sender sender) enabled
  have hinstalled : ∀ other transformer,
      after'.manager.installed (.sender other) = some transformer →
        (other = sender ∧ transformer = w.manager.transformers.length) ∨
          (other ≠ sender ∧ w.manager.installed (.sender other) = some transformer) := by
    intro other transformer hinst
    simp only [after', attachStep, Manager.installTransformer, RtpEnd.sender.injEq] at hinst
    split at hinst
    · rename_i heq
      exact Or.inl ⟨heq, (Option.some.inj hinst).symm⟩
    · rename_i hne
      exact Or.inr ⟨hne, hinst⟩
  have hflag_old : ∀ transformer, transformer < w.manager.transformers.length →
      after'.manager.flag transformer = w.manager.flag transformer := by
    intro transformer hold
    exact (hflag transformer).trans (if_neg (by omega))
  change Inv after'
  refine ⟨?_, hw.distinct, ?_, hw.disabled_iff, ?_, hw.publisher_lt, ?_, ?_, ?_, ?_, ?_, ?_⟩
  · intro key' entry' hentry'
    have hold := hw.entry_lt key' entry' hentry'
    omega
  · intro hsettled key' entry' hentry' hindividual
    have hold := hw.flags hsettled key' entry' hentry' hindividual
    exact (hflag_old _ (hw.entry_lt key' entry' hentry')).trans hold
  · intro transformer hdisabled
    have hold := hw.disabled_lt transformer hdisabled
    omega
  · intro other transformer hinst
    rcases hinstalled other transformer hinst with ⟨rfl, rfl⟩ | ⟨-, hold⟩
    · exact ⟨hlt, by omega⟩
    · obtain ⟨hother, htransformer⟩ := hw.installed_lt other transformer hold
      exact ⟨hother, by omega⟩
  · intro key' entry' hentry' other hinst
    rcases hinstalled other _ hinst with ⟨-, hnew⟩ | ⟨-, hold⟩
    · have hold := hw.entry_lt key' entry' hentry'
      omega
    · exact hw.rtp_eq key' entry' hentry' other hold
  · intro key' identity' kind' other hother
    rcases List.mem_or_eq_of_mem_set hother with hold | hnew
    · exact hw.installs key' identity' kind' other hold
    · cases hnew
  · intro item hitem
    rcases (hmem item).1 hitem with rfl | hold
    · refine ⟨rfl, by simp only [entry]; omega, ?_, ?_, ?_, ?_⟩
      · intro hdisabled
        exact Nat.lt_irrefl _ (hw.disabled_lt _ hdisabled)
      · intro key' other hother hsame
        have hold := hw.entry_lt key' other hother
        simp only [entry] at hsame
        omega
      · intro hon
        simp only [entry, hflag, if_true]
        exact congrArg some hon
      · intro other hinst
        rcases hinstalled other _ hinst with ⟨rfl, -⟩ | ⟨-, hold⟩
        · rfl
        · exact absurd (hw.installed_lt other _ hold).2 (Nat.lt_irrefl _)
    · have hitemOld := hw.made item hold
      refine ⟨hitemOld.individually, ?_, hitemOld.notDisabled, hitemOld.free, ?_, ?_⟩
      · have := hitemOld.lt
        omega
      · intro hon
        exact (hflag_old _ hitemOld.lt).trans (hitemOld.on hon)
      · intro other hinst
        rcases hinstalled other _ hinst with ⟨-, hnew⟩ | ⟨-, hbefore⟩
        · have := hitemOld.lt
          omega
        · exact hitemOld.rtp other hbefore
  · have hfresh : entry.transformer ∉ w.made.map fun item => item.2.transformer := by
      intro hold
      obtain ⟨item, hitem, hsame⟩ := List.mem_map.1 hold
      have := (hw.made item hitem).lt
      simp only [entry] at hsame
      omega
    have hunique := hw.unique
    simp only [hmade, List.map_append] at hunique hfresh
    simp only [hmade', List.map_append, List.map_cons]
    exact List.nodup_middle.2 (List.nodup_cons.2 ⟨hfresh, hunique⟩)
  · intro other hother transformer hinst
    rcases hinstalled other transformer hinst with ⟨-, rfl⟩ | ⟨-, hold⟩
    · exact Or.inr (Or.inr (Or.inl ⟨(enabled, entry), (hmem _).2 (Or.inl rfl), rfl⟩))
    · have hlt' := (hw.installed_lt other transformer hold).2
      rcases hw.covered other hother transformer hold with
        hdis | hentry | ⟨item, hitem, hsame⟩ | hon
      · exact Or.inl hdis
      · exact Or.inr (Or.inl hentry)
      · exact Or.inr (Or.inr (Or.inl ⟨item, (hmem item).2 (Or.inr hitem), hsame⟩))
      · exact Or.inr (Or.inr (Or.inr ((hflag_old transformer hlt').trans hon)))

theorem Inv.put {w : World} (hw : Inv w) {i : Nat} {key : CryptorKey} {identity : String}
    {kind : TrackKind} {enabled : Bool} {entry : Entry}
    (hcall : w.attaching[i]? = some (.put key identity kind enabled entry)) :
    Inv (attachStep w i (.put key identity kind enabled entry)) := by
  obtain ⟨before, after, hbefore, -, hset⟩ := Runs.split_of_getElem? hcall
  let after' := attachStep w i (.put key identity kind enabled entry)
  have hmade : after'.made = w.made := by
    simp only [World.made, after', attachStep, hset]
    simp only [hbefore, List.filterMap_append, List.filterMap_cons, Attaching.made]
  change Inv after'
  refine ⟨hw.entry_lt, hw.distinct, hw.flags, hw.disabled_iff, hw.disabled_lt, hw.publisher_lt,
    hw.installed_lt, hw.rtp_eq, ?_, ?_, ?_, ?_⟩
  · intro key' identity' kind' other hother
    rcases List.mem_or_eq_of_mem_set hother with hold | hnew
    · exact hw.installs key' identity' kind' other hold
    · cases hnew
  · intro item hitem
    have hold := hw.made item (hmade ▸ hitem)
    exact ⟨hold.individually, hold.lt, hold.notDisabled, hold.free, hold.on, hold.rtp⟩
  · simpa only [hmade] using hw.unique
  · intro other hother transformer hinst
    have hold := hw.covered other hother transformer hinst
    simp only [World.Covered, hmade]
    exact hold

/-- The entry goes in, or its transformer stays on without it. -/
theorem Inv.emplace {w : World} (hw : Inv w) {i : Nat} {key : CryptorKey} {enabled : Bool}
    {entry : Entry} (hcall : w.attaching[i]? = some (.emplace key enabled entry))
    (horder : enabled = true ∨ (key ∉ w.manager.entries ∧ ¬ w.Settled)) :
    Inv (attachStep w i (.emplace key enabled entry)) := by
  obtain ⟨before, after, hbefore, herase, -⟩ := Runs.split_of_getElem? hcall
  let after' := attachStep w i (.emplace key enabled entry)
  have hmade : w.made = before.filterMap Attaching.made ++
      (enabled, entry) :: after.filterMap Attaching.made := by
    simp only [World.made, hbefore, List.filterMap_append, List.filterMap_cons, Attaching.made]
  have hmade' : after'.made =
      before.filterMap Attaching.made ++ after.filterMap Attaching.made := by
    simp only [World.made, after', attachStep, herase, List.filterMap_append]
  have hmem : ∀ item, item ∈ w.made ↔ item = (enabled, entry) ∨ item ∈ after'.made := by
    intro item
    simp only [hmade', hmade, List.mem_append, List.mem_cons]
    tauto
  have hnew : Made w enabled entry := hw.made (enabled, entry) ((hmem _).2 (Or.inl rfl))
  have hunique := hw.unique
  simp only [hmade, List.map_append, List.map_cons] at hunique
  obtain ⟨hothers, hunique'⟩ := List.nodup_cons.1 (List.nodup_middle.1 hunique)
  -- an entry is the new one, where there was none, or an old one
  have hcases : ∀ (key' : CryptorKey) (entry' : Entry),
      after'.manager.entries[key']? = some entry' →
        (key' = key ∧ entry' = entry ∧ key ∉ w.manager.entries) ∨
          w.manager.entries[key']? = some entry' := by
    intro key' entry' hentry'
    simp only [after', attachStep, Manager.emplaceEntry, ExtTreeMap.getElem?_insertIfNew,
      LawfulEqOrd.compare_eq_iff_eq] at hentry'
    split at hentry'
    · rename_i hfree
      exact Or.inl ⟨hfree.1.symm, (Option.some.inj hentry').symm, hfree.2⟩
    · exact Or.inr hentry'
  have hkept : ∀ (key' : CryptorKey) (entry' : Entry),
      w.manager.entries[key']? = some entry' → after'.manager.entries[key']? = some entry' := by
    intro key' entry' hentry'
    simp only [after', attachStep, Manager.emplaceEntry, ExtTreeMap.getElem?_insertIfNew,
      LawfulEqOrd.compare_eq_iff_eq]
    refine (if_neg ?_).trans hentry'
    rintro ⟨rfl, hfree⟩
    exact hfree (ExtTreeMap.mem_iff_isSome_getElem?.2 (by simp [hentry']))
  have hput : key ∉ w.manager.entries → after'.manager.entries[key]? = some entry := by
    intro hfree
    simp only [after', attachStep, Manager.emplaceEntry]
    refine ExtTreeMap.getElem?_insertIfNew.trans (if_pos ?_)
    simpa using hfree
  change Inv after'
  refine ⟨?_, ?_, ?_, ?_, hw.disabled_lt, hw.publisher_lt, hw.installed_lt, ?_, ?_, ?_, ?_, ?_⟩
  · intro key' entry' hentry'
    rcases hcases key' entry' hentry' with ⟨-, rfl, -⟩ | hold
    · exact hnew.lt
    · exact hw.entry_lt key' entry' hold
  · intro key₁ key₂ entry₁ entry₂ h₁ h₂ hsame
    rcases hcases key₁ entry₁ h₁ with ⟨rfl, rfl, -⟩ | hold₁
    · rcases hcases key₂ entry₂ h₂ with ⟨rfl, -, -⟩ | hold₂
      · rfl
      · exact absurd hsame.symm (hnew.free key₂ entry₂ hold₂)
    · rcases hcases key₂ entry₂ h₂ with ⟨rfl, rfl, -⟩ | hold₂
      · exact absurd hsame (hnew.free key₁ entry₁ hold₁)
      · exact hw.distinct key₁ key₂ entry₁ entry₂ hold₁ hold₂ hsame
  · intro hsettled key' entry' hentry' hindividual
    rcases hcases key' entry' hentry' with ⟨-, rfl, -⟩ | hold
    · rcases horder with hread | ⟨-, hunsettled⟩
      · exact hnew.on hread
      · exact absurd hsettled hunsettled
    · exact hw.flags hsettled key' entry' hold hindividual
  · intro key' entry' hentry'
    rcases hcases key' entry' hentry' with ⟨-, rfl, -⟩ | hold
    · simp only [hnew.individually, Bool.true_eq_false, false_iff]
      exact hnew.notDisabled
    · exact hw.disabled_iff key' entry' hold
  · intro key' entry' hentry' other hinst
    rcases hcases key' entry' hentry' with ⟨-, rfl, -⟩ | hold
    · exact hnew.rtp other hinst
    · exact hw.rtp_eq key' entry' hold other hinst
  · intro key' identity' kind' other hother
    exact hw.installs key' identity' kind' other (List.mem_of_mem_eraseIdx hother)
  · intro item hitem
    have hold := hw.made item ((hmem item).2 (Or.inr hitem))
    refine ⟨hold.individually, hold.lt, hold.notDisabled, ?_, hold.on, hold.rtp⟩
    intro key' other hother hsame
    rcases hcases key' other hother with ⟨-, rfl, -⟩ | hbefore'
    · have hsecond : item.2.transformer ∈ after'.made.map fun item => item.2.transformer :=
        List.mem_map_of_mem hitem
      simp only [hmade', List.map_append] at hsecond
      exact hothers (hsame.symm ▸ hsecond)
    · exact hold.free key' other hbefore' hsame
  · simpa only [hmade', List.map_append] using hunique'
  · intro other hother transformer hinst
    rcases hw.covered other hother transformer hinst with
      hdis | ⟨key', entry', hentry', rfl⟩ | ⟨item, hitem, rfl⟩ | hon
    · exact Or.inl hdis
    · exact Or.inr (Or.inl ⟨key', entry', hkept key' entry' hentry', rfl⟩)
    · rcases (hmem item).1 hitem with rfl | hold
      · rcases horder with hread | ⟨hfree, -⟩
        · exact Or.inr (Or.inr (Or.inr (hnew.on hread)))
        · exact Or.inr (Or.inl ⟨key, entry, hput hfree, rfl⟩)
      · exact Or.inr (Or.inr (Or.inl ⟨item, hold, rfl⟩))
    · exact Or.inr (Or.inr (Or.inr hon))

/-! ### The switches -/

/-- The loop of a `SetEnabled` switches the entries as it says, and nothing else. -/
theorem applyEnabled_flag_other {m : Manager} {enabled : Bool} {transformer : Nat}
    (hother : ∀ (key : CryptorKey) (entry : Entry), m.entries[key]? = some entry →
      entry.transformer ≠ transformer) (keys : List CryptorKey) :
    (keys.foldl (fun m key => m.applyEnabled enabled key) m).flag transformer =
      m.flag transformer := by
  induction keys generalizing m with
  | nil => rfl
  | cons first keys ih =>
    simp only [List.foldl_cons]
    cases hfirst : m.entries[first]? with
    | none =>
      have hskip : m.applyEnabled enabled first = m := by simp [Manager.applyEnabled, hfirst]
      simpa only [hskip] using ih hother
    | some switched =>
      have hstep : m.applyEnabled enabled first =
          (m.setTransformerEnabled switched.transformer
            (enabled && switched.individuallyEnabled)).setCryptorEnabled first
            (enabled && switched.individuallyEnabled) := by
        simp [Manager.applyEnabled, hfirst]
      simp only [hstep]
      refine (ih (m := (m.setTransformerEnabled switched.transformer
        (enabled && switched.individuallyEnabled)).setCryptorEnabled first
          (enabled && switched.individuallyEnabled)) hother).trans ?_
      exact (Manager.flag_setTransformerEnabled _ _ _ _).trans
        (if_neg (hother first switched hfirst))

theorem Inv.applyEnabled {w : World} (hw : Inv w) {i : Nat} {enabled : Bool}
    (hcall : w.switching[i]? = some enabled)
    (horder : enabled = false → ¬ w.Settled) :
    Inv { w with
      manager := applyEnabled w.manager enabled
      switching := w.switching.eraseIdx i } := by
  obtain ⟨before, after, hbefore, herase, -⟩ := Runs.split_of_getElem? hcall
  obtain ⟨hentries, henabled, hinstalled, hlength, hflag⟩ :=
    Manager.applyEnabled_fold hw.distinct enabled w.manager.entries.keys
  have hswitched : ∀ (key : CryptorKey) (entry : Entry), w.manager.entries[key]? = some entry →
      (PublisherEncryption.applyEnabled w.manager enabled).flag entry.transformer =
        some (enabled && entry.individuallyEnabled) := by
    intro key entry hentry
    have hmem : key ∈ w.manager.entries.keys :=
      ExtTreeMap.mem_keys.2 (ExtTreeMap.mem_iff_isSome_getElem?.2 (by simp [hentry]))
    obtain ⟨t, ht⟩ : ∃ t, w.manager.transformers[entry.transformer]? = some t :=
      ⟨_, List.getElem?_eq_getElem (hw.entry_lt key entry hentry)⟩
    refine (hflag key entry hentry).trans ((if_pos hmem).trans ?_)
    simp only [Manager.flag, ht, Option.map_some]
  have hother : ∀ transformer, (∀ (key : CryptorKey) (entry : Entry),
      w.manager.entries[key]? = some entry → entry.transformer ≠ transformer) →
        (PublisherEncryption.applyEnabled w.manager enabled).flag transformer =
          w.manager.flag transformer :=
    fun transformer hfree => applyEnabled_flag_other hfree _
  have hentries' : (PublisherEncryption.applyEnabled w.manager enabled).entries =
      w.manager.entries := hentries
  have hlength' : (PublisherEncryption.applyEnabled w.manager enabled).transformers.length =
      w.manager.transformers.length := hlength
  have hinstalled' : (PublisherEncryption.applyEnabled w.manager enabled).installed =
      w.manager.installed := hinstalled
  refine ⟨?_, ?_, ?_, ?_, ?_, hw.publisher_lt, ?_, ?_, hw.installs, ?_, hw.unique, ?_⟩
  · simpa only [hentries', hlength'] using hw.entry_lt
  · simpa only [hentries'] using hw.distinct
  · rintro ⟨hon, hnone⟩ key entry hentry hindividual
    have hentry' : w.manager.entries[key]? = some entry := hentries' ▸ hentry
    refine (hswitched key entry hentry').trans ?_
    cases enabled with
    | true => simp only [hindividual, Bool.and_self]
    | false =>
      -- a loop that switches them on has yet to come
      have hlater : true ∈ w.switching := by
        by_contra hlate
        exact horder rfl ⟨henabled.symm.trans hon, hlate⟩
      have hkept : true ∈ before ++ after := by simpa [hbefore] using hlater
      exact absurd (herase.symm ▸ hkept) hnone
  · simpa only [hentries'] using hw.disabled_iff
  · simpa only [hlength'] using hw.disabled_lt
  · simpa only [hinstalled', hlength'] using hw.installed_lt
  · simpa only [hentries', hinstalled'] using hw.rtp_eq
  · intro item hitem
    have hold := hw.made item hitem
    refine ⟨hold.individually, hlength' ▸ hold.lt, hold.notDisabled, hentries' ▸ hold.free, ?_,
      hinstalled' ▸ hold.rtp⟩
    intro hread
    exact (hother _ hold.free).trans (hold.on hread)
  · intro sender hsender transformer hinst
    by_cases howned : ∃ (key : CryptorKey) (entry : Entry),
        w.manager.entries[key]? = some entry ∧ entry.transformer = transformer
    · exact Or.inr (Or.inl (hentries' ▸ howned))
    · rcases hw.covered sender hsender transformer (hinstalled' ▸ hinst) with
        hdis | hentry | hcalls | hon
      · exact Or.inl hdis
      · exact absurd hentry howned
      · exact Or.inr (Or.inr (Or.inl hcalls))
      · refine Or.inr (Or.inr (Or.inr ((hother transformer ?_).trans hon)))
        intro key entry hentry hsame
        exact howned ⟨key, entry, hentry, hsame⟩

theorem Inv.setFrameCryptorEnabled {w : World} (hw : Inv w) (lib : Native) (key : CryptorKey)
    (enabled : Bool) : Inv (step lib w (.setFrameCryptorEnabled key enabled)) := by
  cases hentry : w.manager.entries[key]? with
  | none =>
    have hsame : step lib w (.setFrameCryptorEnabled key enabled) = w := by
      simp [step, hentry, Manager.setFrameCryptorEnabled]
    simpa only [hsame] using hw
  | some entry =>
    obtain ⟨hentries, henabled, hinstalled, hlength, hflag⟩ :=
      Manager.setFrameCryptorEnabled_found hentry enabled
    let after := step lib w (.setFrameCryptorEnabled key enabled)
    have hmade : after.made = w.made := rfl
    -- the history changes for this transformer only
    have hself : entry.transformer ∈ after.userDisabled ↔ enabled = false := by
      cases enabled <;> simp [after, step, hentry]
    have hother : ∀ transformer, transformer ≠ entry.transformer →
        (transformer ∈ after.userDisabled ↔ transformer ∈ w.userDisabled) := by
      intro transformer hne
      cases enabled <;> simp [after, step, hentry, hne]
    have hflag_other : ∀ transformer, transformer ≠ entry.transformer →
        after.manager.flag transformer = w.manager.flag transformer := by
      intro transformer hne
      exact (hflag transformer).trans (if_neg hne.symm)
    -- an entry is the switched one, or an old one with another transformer
    have hcases : ∀ (key' : CryptorKey) (entry' : Entry),
        after.manager.entries[key']? = some entry' →
          (key' = key ∧ entry' = { entry with individuallyEnabled := enabled }) ∨
            (w.manager.entries[key']? = some entry' ∧
              entry'.transformer ≠ entry.transformer) := by
      intro key' entry' hentry'
      have hlookup := (hentries key').symm.trans hentry'
      by_cases heq : key = key'
      · left
        exact ⟨heq.symm, by simpa [heq, eq_comm] using hlookup⟩
      · right
        simp only [if_neg heq] at hlookup
        refine ⟨hlookup, fun hsame => heq ?_⟩
        exact (hw.distinct key' key entry' entry hlookup hentry hsame).symm
    -- and every old one is there, switched or not
    have hkept : ∀ (key' : CryptorKey) (entry' : Entry), w.manager.entries[key']? = some entry' →
        ∃ found, after.manager.entries[key']? = some found ∧
          found.transformer = entry'.transformer := by
      intro key' entry' hentry'
      by_cases heq : key = key'
      · subst heq
        obtain rfl := Option.some.inj (hentry.symm.trans hentry')
        exact ⟨{ entry with individuallyEnabled := enabled }, (hentries key).trans (if_pos rfl),
          rfl⟩
      · exact ⟨entry', (hentries key').trans ((if_neg heq).trans hentry'), rfl⟩
    change Inv after
    refine ⟨?_, ?_, ?_, ?_, ?_, hw.publisher_lt, ?_, ?_, hw.installs, ?_, hw.unique, ?_⟩
    · intro key' entry' hentry'
      change entry'.transformer <
        (w.manager.setFrameCryptorEnabled key enabled).2.transformers.length
      rcases hcases key' entry' hentry' with ⟨-, rfl⟩ | ⟨hold, -⟩
      · simpa only [hlength] using hw.entry_lt key entry hentry
      · simpa only [hlength] using hw.entry_lt key' entry' hold
    · intro key₁ key₂ entry₁ entry₂ h₁ h₂ hsame
      rcases hcases key₁ entry₁ h₁ with ⟨rfl, rfl⟩ | ⟨hold₁, hne₁⟩
      · rcases hcases key₂ entry₂ h₂ with ⟨rfl, -⟩ | ⟨-, hne₂⟩
        · rfl
        · exact absurd hsame.symm hne₂
      · rcases hcases key₂ entry₂ h₂ with ⟨rfl, rfl⟩ | ⟨hold₂, -⟩
        · exact absurd hsame hne₁
        · exact hw.distinct key₁ key₂ entry₁ entry₂ hold₁ hold₂ hsame
    · intro hsettled key' entry' hentry' hindividual
      have hbefore : w.Settled := ⟨henabled.symm.trans hsettled.1, hsettled.2⟩
      rcases hcases key' entry' hentry' with ⟨-, rfl⟩ | ⟨hold, hne⟩
      · obtain ⟨t, ht⟩ : ∃ t, w.manager.transformers[entry.transformer]? = some t :=
          ⟨_, List.getElem?_eq_getElem (hw.entry_lt key entry hentry)⟩
        refine (hflag entry.transformer).trans ((if_pos rfl).trans ?_)
        simp only [Manager.flag, ht, Option.map_some, hbefore.1, Bool.and_true]
        exact congrArg some hindividual
      · exact (hflag_other _ hne).trans (hw.flags hbefore key' entry' hold hindividual)
    · intro key' entry' hentry'
      rcases hcases key' entry' hentry' with ⟨-, rfl⟩ | ⟨hold, hne⟩
      · exact hself.symm
      · exact (hw.disabled_iff key' entry' hold).trans (hother _ hne).symm
    · intro transformer hmem
      change transformer < (w.manager.setFrameCryptorEnabled key enabled).2.transformers.length
      simp only [hlength]
      by_cases heq : transformer = entry.transformer
      · exact heq ▸ hw.entry_lt key entry hentry
      · exact hw.disabled_lt transformer ((hother transformer heq).1 hmem)
    · intro sender transformer hinst
      change _ ∧ transformer < (w.manager.setFrameCryptorEnabled key enabled).2.transformers.length
      simp only [hlength]
      exact hw.installed_lt sender transformer (hinstalled ▸ hinst)
    · intro key' entry' hentry' sender hinst
      have hinst' : w.manager.installed (.sender sender) = some entry'.transformer :=
        hinstalled ▸ hinst
      rcases hcases key' entry' hentry' with ⟨-, rfl⟩ | ⟨hold, -⟩
      · exact hw.rtp_eq key entry hentry sender hinst'
      · exact hw.rtp_eq key' entry' hold sender hinst'
    · intro item hitem
      have hold := hw.made item hitem
      have hne : item.2.transformer ≠ entry.transformer := (hold.free key entry hentry).symm
      refine ⟨hold.individually, ?_, ?_, ?_, ?_, hinstalled ▸ hold.rtp⟩
      · change _ < (w.manager.setFrameCryptorEnabled key enabled).2.transformers.length
        simpa only [hlength] using hold.lt
      · exact fun hdis => hold.notDisabled ((hother _ hne).1 hdis)
      · intro key' other hother'
        rcases hcases key' other hother' with ⟨-, rfl⟩ | ⟨hbefore, -⟩
        · exact hne.symm
        · exact hold.free key' other hbefore
      · exact fun hread => (hflag_other _ hne).trans (hold.on hread)
    · intro sender hsender transformer hinst
      by_cases heq : transformer = entry.transformer
      · obtain ⟨found, hfound, hsame⟩ := hkept key entry hentry
        exact Or.inr (Or.inl ⟨key, found, hfound, hsame.trans heq.symm⟩)
      · rcases hw.covered sender hsender transformer (hinstalled ▸ hinst) with
          hdis | ⟨key', entry', hold, rfl⟩ | hcalls | hon
        · exact Or.inl ((hother transformer heq).2 hdis)
        · obtain ⟨found, hfound, hsame⟩ := hkept key' entry' hold
          exact Or.inr (Or.inl ⟨key', found, hfound, hsame⟩)
        · exact Or.inr (Or.inr (Or.inl hcalls))
        · exact Or.inr (Or.inr (Or.inr ((hflag_other transformer heq).trans hon)))

/-! ### The other steps -/

theorem modifyTransformer_flag {m : Manager} {transformer : Nat}
    {f : FrameCryptorTransformer → FrameCryptorTransformer}
    (hf : ∀ t, m.transformers[transformer]? = some t →
      (f t).enabledCryption = t.enabledCryption) :
    (modifyTransformer m transformer f).flag = m.flag := by
  funext other
  simp only [Manager.flag, modifyTransformer, List.getElem?_modify]
  split
  · rename_i heq
    subst heq
    cases ht : m.transformers[transformer]? with
    | none => rfl
    | some t => exact congrArg some (hf t ht)
  · cases m.transformers[other]? <;> rfl

theorem registerSink_enabledCryption (t : FrameCryptorTransformer) (ssrc : UInt32) :
    (registerSink t ssrc).enabledCryption = t.enabledCryption := by
  unfold registerSink
  split <;> rfl

theorem Inv.handFrame {w : World} (hw : Inv w) (lib : Native) (sender : Nat)
    (frame : TransformableFrame) : Inv (handFrame lib w sender frame) := by
  unfold PublisherEncryption.handFrame
  split
  · exact hw
  · split
    · exact hw
    · rename_i transformer _ t ht
      refine hw.of_same rfl rfl rfl (by simp [modifyTransformer])
        (modifyTransformer_flag ?_) rfl rfl rfl rfl fun _ h => h
      intro other hother
      obtain rfl := Option.some.inj (ht.symm.trans hother)
      exact encryptFrame_enabledCryption lib t w.keys frame

theorem Inv.step {lib : Native} {w : World} (hw : Inv w) {event : Event}
    (hcareful : Careful w event) : Inv (step lib w event) := by
  cases event with
  | createSender =>
    refine
      { hw with
        publisher_lt := ?_
        installed_lt := ?_
        installs := ?_
        made := ?_
        covered := ?_ }
    · intro sender hsender
      simp only [PublisherEncryption.step, List.mem_cons] at hsender ⊢
      rcases hsender with rfl | hold
      · omega
      · have := hw.publisher_lt sender hold
        omega
    · intro sender transformer hinst
      have hold := hw.installed_lt sender transformer hinst
      exact ⟨Nat.lt_succ_of_lt hold.1, hold.2⟩
    · intro key identity kind sender hmem
      exact Nat.lt_succ_of_lt (hw.installs key identity kind sender hmem)
    · intro item hitem
      have hold := hw.made item hitem
      exact ⟨hold.individually, hold.lt, hold.notDisabled, hold.free, hold.on, hold.rtp⟩
    · intro sender hsender transformer hinst
      simp only [PublisherEncryption.step, List.mem_cons] at hsender
      rcases hsender with rfl | hold
      · exact absurd (hw.installed_lt _ transformer hinst).1 (Nat.lt_irrefl _)
      · exact hw.covered sender hold transformer hinst
  | attachSender trackId identity kind sender => exact hw.attachSender lib hcareful
  | attach i =>
    unfold PublisherEncryption.step
    dsimp only
    split
    · exact hw
    · rename_i call hcall
      cases call with
      | install key identity kind sender => exact hw.install hcall
      | put key identity kind enabled entry => exact hw.put hcall
      | emplace key enabled entry => exact hw.emplace hcall (hcareful.2 _ hcall)
  | setEnabled enabled =>
    unfold PublisherEncryption.step
    dsimp only
    split
    · exact hw
    · refine { hw with flags := ?_, made := ?_ }
      · -- the loop is still to come, or the flag is off
        rintro ⟨hon, hnone⟩
        have hlast : enabled = true := hon
        exact absurd (List.mem_append_right _ (List.mem_singleton.2 hlast.symm)) hnone
      · intro item hitem
        have hold := hw.made item hitem
        exact ⟨hold.individually, hold.lt, hold.notDisabled, hold.free, hold.on, hold.rtp⟩
  | applyEnabled i =>
    unfold PublisherEncryption.step
    dsimp only
    split
    · exact hw
    · rename_i enabled hcall
      exact hw.applyEnabled hcall fun hoff => hcareful.2 (hoff ▸ hcall)
  | setFrameCryptorEnabled key enabled => exact hw.setFrameCryptorEnabled lib key enabled
  | detach key => exact hw.detach fun entry hentry => hcareful.1 key entry hentry rfl
  | detachAll => exact hw.detachAll fun key entry hentry => hcareful.1 key entry hentry trivial
  | reconnecting fullReconnect =>
    unfold PublisherEncryption.step
    dsimp only
    split
    · rename_i hdetach
      simp only [Bool.and_eq_true, Bool.not_eq_true'] at hdetach
      have hdetached := hw.detachAll fun key entry hentry => hcareful.1 key entry hentry hdetach
      exact hdetached.of_same rfl rfl rfl rfl rfl rfl rfl rfl rfl fun _ h => h
    · exact hw
  | disconnect =>
    unfold PublisherEncryption.step
    dsimp only
    split
    · exact hw
    · rename_i hstay
      have hdetached := hw.detachAll fun key entry hentry =>
        hcareful.1 key entry hentry (by simpa [Event.removes] using hstay)
      exact hdetached.of_same rfl rfl rfl rfl rfl rfl rfl rfl rfl fun _ h => h
  | removeSender sender =>
    exact hw.of_same rfl rfl rfl rfl rfl rfl rfl rfl rfl
      fun other hother => (List.mem_filter.mp hother).1
  | resetTransport =>
    exact hw.of_same rfl rfl rfl rfl rfl rfl rfl rfl rfl (by simp [PublisherEncryption.step])
  | registerSink transformer ssrc =>
    exact hw.of_same rfl rfl rfl (by simp [PublisherEncryption.step, modifyTransformer])
      (modifyTransformer_flag fun t _ => registerSink_enabledCryption t ssrc) rfl rfl rfl rfl
      fun _ h => h
  | frame sender frame => exact hw.handFrame lib sender frame
  | reconnected => exact hw.of_same rfl rfl rfl rfl rfl rfl rfl rfl rfl fun _ h => h
  | connect => exact hw.of_same rfl rfl rfl rfl rfl rfl rfl rfl rfl fun _ h => h
  | keyOperation op => exact hw.of_same rfl rfl rfl rfl rfl rfl rfl rfl rfl fun _ h => h

/-! ## 5. Runs -/

/-- A frame that is handed over in order is encrypted or dropped. -/
theorem NoLapse.handFrame {lib : Native} {w : World} (h : NoLapse lib w) (hw : Inv w)
    {sender : Nat} {frame : TransformableFrame} (horder : InOrder w (.frame sender frame)) :
    NoLapse lib (handFrame lib w sender frame) := by
  unfold PublisherEncryption.handFrame
  split
  · exact h
  · rename_i transformer hinstalled
    split
    · exact h
    · rename_i t ht
      intro handed hmem
      dsimp only at hmem
      split at hmem
      · rename_i hwatched
        obtain ⟨hsender, henabled, hdisabled⟩ := hwatched
        rcases List.mem_append.1 hmem with hold | hnew
        · exact h handed hold
        · obtain ⟨out, hout, rfl⟩ := List.mem_map.1 hnew
          have hflag := hw.on hsender hinstalled henabled hdisabled (horder henabled)
          have hon : t.enabledCryption = true := by simpa [Manager.flag, ht] using hflag
          exact encryptFrame_encrypts hon (Option.mem_toList.1 hout)
      · exact h handed hmem

theorem NoLapse.step {lib : Native} {w : World} (h : NoLapse lib w) (hw : Inv w) {event : Event}
    (hcareful : Careful w event) : NoLapse lib (step lib w event) := by
  cases event with
  | frame sender frame => exact h.handFrame hw hcareful.2
  | attachSender trackId identity kind sender =>
    unfold PublisherEncryption.step
    dsimp only
    split <;> exact h
  | attach i =>
    unfold PublisherEncryption.step
    dsimp only
    split
    · exact h
    · rename_i call _
      cases call <;> exact h
  | setEnabled enabled =>
    unfold PublisherEncryption.step
    dsimp only
    split <;> exact h
  | applyEnabled i =>
    unfold PublisherEncryption.step
    dsimp only
    split <;> exact h
  | reconnecting fullReconnect =>
    unfold PublisherEncryption.step
    dsimp only
    split <;> exact h
  | disconnect =>
    unfold PublisherEncryption.step
    dsimp only
    split <;> exact h
  | _ => exact h

/-- **Encryption does not lapse** in a run whose steps take no entry out while its
    sender is in use and come in order: every frame of the publisher connection is
    encrypted or dropped while encryption is enabled and the user has not disabled
    its track. -/
theorem noLapse_of_careful (lib : Native) (enabled : Bool) (keys : NativeKeyProvider)
    (events : List Event) (w : World)
    (hrun : Runs.Exec (Runs.Guarded Careful fun w event w' => w' = step lib w event)
      (World.new enabled keys) events w) : NoLapse lib w := by
  have hinv : Inv w ∧ NoLapse lib w := by
    refine @Runs.Exec.invariant _ _ _ (fun w => Inv w ∧ NoLapse lib w) ?_ _ _ _ hrun ?_
    · rintro w event _ ⟨hw, hlapse⟩ ⟨hcareful, rfl⟩
      exact ⟨hw.step hcareful, hlapse.step hw hcareful⟩
    · exact ⟨inv_new enabled keys, by simp [NoLapse, World.new]⟩
  exact hinv.2

def audioFrame (ssrc : UInt32) : TransformableFrame := ⟨[1, 2], .generic, false, ssrc, 960⟩

/-- Two tracks are published at once, and the first sends before its entry is in;
    encryption is switched off and on; then the first track is unpublished as
    `UnpublishTrack` does it, its sender removed before it is detached. -/
def unpublishRun : List Event :=
  [.createSender, .attachSender "mic" "alice" .audio 0, .createSender,
   .attachSender "cam" "alice" .audio 1, .attach 1, .attach 0, .registerSink 0 8,
   .registerSink 1 7, .attach 0, .frame 0 (audioFrame 7), .attach 1, .attach 0, .attach 0,
   .setEnabled false, .applyEnabled 0, .setEnabled true, .applyEnabled 0,
   .frame 0 (audioFrame 7), .removeSender 0, .detach ⟨.sender, "mic"⟩, .frame 1 (audioFrame 8)]

theorem noLapse_after_unpublish :
    NoLapse runnable (unpublishRun.foldl (step runnable) (World.new true sharedKeys)) ∧
      (unpublishRun.foldl (step runnable) (World.new true sharedKeys)).handed.length = 3 ∧
      (unpublishRun.foldl (step runnable) (World.new true sharedKeys)).publisher = [1] :=
  ⟨noLapse_of_careful runnable true sharedKeys unpublishRun _
    (Runs.exec_guarded (by decide +kernel)), by decide +kernel, by decide +kernel⟩

/-- A track is published. -/
def publishMic : List Event :=
  [.createSender, .attachSender "mic" "alice" .audio 0, .attach 0, .attach 0, .attach 0,
   .registerSink 0 7]

/-- `Disconnect` detaches while the sender is still in the publisher connection: the
    next frame leaves as it is. -/
theorem disconnect_makes_encryption_lapse :
    ¬ ∀ (lib : Native) (enabled : Bool) (keys : NativeKeyProvider) (events : List Event)
        (w : World),
      Runs.Exec (fun w event w' => w' = step lib w event) (World.new enabled keys) events w →
        NoLapse lib w := by
  intro hall
  have hlapse := hall runnable true sharedKeys
    (publishMic ++ [.disconnect, .frame 0 (audioFrame 7)]) _
    (Runs.exec_foldl (step runnable) _ _)
    ⟨{ newTransformer "alice" .audio with sinkCallback := true }, audioFrame 7, audioFrame 7⟩
    (List.mem_singleton.2 rfl)
  obtain ⟨key, sealed, hsealed, hout⟩ := hlapse
  have hlength := congrArg (fun frame => frame.data.length) hout
  cases hsealed
  simp [audioFrame, sealedFrame, sealedBody, dataWithoutHeader, frameIsH264, newTransformer,
    toNativeMediaType, checksumTag, getUnencryptedBytes] at hlength

end LivekitClient.PublisherEncryption
