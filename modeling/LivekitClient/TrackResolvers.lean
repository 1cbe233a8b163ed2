/-
  LivekitClient/TrackResolvers.lean
  =================================
  **Waiting for the server's answer to `AddTrack`** (`RtcEngine::AddTrack`,
  `OnLocalTrackPublished` and `ResetTransport` in `src/core/detail/rtc_engine.cpp`).

  A call puts its promise under the cid of the track and waits at the future.  A response
  takes the promise out and sets it, a reset destroys all of them.  A call that times out
  or fails erases what is under its cid, and that is its own promise only as long as
  nobody has taken that out and put another one there.

  The sections under the mutex and the returns of `wait_for` are the steps.  A promise is
  named by its call, which has it only once.
-/
import LivekitClient.CellHeap
import LivekitClient.Runs
import LivekitClient.PublishTrack

namespace LivekitClient.TrackResolvers

open Std Runs CellHeap
open LivekitClient.PublishTrack (TrackInfo)

/-! ## 1. The engine -/

/-- What the future of a call sees.  `broken` is a promise that was destroyed. -/
inductive Promise where
  | pending
  | value (info : TrackInfo)
  | broken
deriving DecidableEq

/-- Where `AddTrack` is: before the section that puts the promise into the map, before
    `SendAddTrack` is through, at `wait_for`, before the section that erases after the
    timeout or in the `catch`, and back. -/
inductive Stage where
  | entered
  | sending
  | waiting
  | timedOut
  | failed (what : String)
  | returned (info : Option TrackInfo)
  | threw (what : String)
deriving DecidableEq

structure Call where
  cid : String
  stage : Stage := .entered
  promise : Promise := .pending
deriving DecidableEq

/-- The promise is destroyed; a value that is set stays. -/
def Call.abandon (call : Call) : Call :=
  { call with promise := if call.promise = .pending then .broken else call.promise }

structure Engine where
  signalClient : Bool := false
  pendingTrackResolvers : ExtTreeMap String Nat := ∅
  calls : List Call := []

inductive Act where
  | connect
  | resetTransport
  | addTrack (cid : String)
  | install (i : Nat)
  | send (i : Nat) (error : Option String)
  | wake (i : Nat)
  | timeout (i : Nat)
  | cleanup (i : Nat)
  | onLocalTrackPublished (cid : String) (info : TrackInfo)
deriving DecidableEq

namespace Engine

def setStage (engine : Engine) (i : Nat) (stage : Stage) : Engine :=
  { engine with calls := engine.calls.modify i fun call => { call with stage := stage } }

/-- `AddTrack` before its section: the checks that need no lock. -/
def addTrack (engine : Engine) (cid : String) : Engine :=
  let stage : Stage :=
    if cid.isEmpty then .threw "cid is empty"
    else if !engine.signalClient then .threw "signal client is not connected"
    else .entered
  { engine with calls := engine.calls ++ [{ cid := cid, stage := stage }] }

def install (engine : Engine) (i : Nat) : Engine :=
  match engine.calls[i]? with
  | some ⟨cid, .entered, _⟩ =>
    if engine.pendingTrackResolvers[cid]?.isSome then
      engine.setStage i (.threw "a track with the same ID has already been published")
    else
      { engine with
        pendingTrackResolvers := engine.pendingTrackResolvers.insert cid i
        calls := engine.calls.modify i fun call =>
          { call with stage := .sending, promise := .pending } }
  | _ => engine

def send (engine : Engine) (i : Nat) (error : Option String) : Engine :=
  match engine.calls[i]? with
  | some ⟨_, .sending, _⟩ =>
    match error with
    | none => engine.setStage i .waiting
    | some what => engine.setStage i (.failed what)
  | _ => engine

/-- `wait_for` finds the future ready, and `get` gives the value or throws. -/
def wake (engine : Engine) (i : Nat) : Engine :=
  match engine.calls[i]? with
  | some ⟨_, .waiting, .value info⟩ => engine.setStage i (.returned (some info))
  | some ⟨_, .waiting, .broken⟩ => engine.setStage i (.failed "broken promise")
  | _ => engine

def timeout (engine : Engine) (i : Nat) : Engine :=
  match engine.calls[i]? with
  | some ⟨_, .waiting, .pending⟩ => engine.setStage i .timedOut
  | _ => engine

/-- `pending_track_resolvers_.erase`: whoever's promise it is, it is destroyed. -/
def erase (engine : Engine) (cid : String) : Engine :=
  match engine.pendingTrackResolvers[cid]? with
  | none => engine
  | some i =>
    { engine with
      pendingTrackResolvers := engine.pendingTrackResolvers.erase cid
      calls := engine.calls.modify i Call.abandon }

def cleanup (engine : Engine) (i : Nat) : Engine :=
  match engine.calls[i]? with
  | some ⟨cid, .timedOut, _⟩ => (engine.erase cid).setStage i (.returned none)
  | some ⟨cid, .failed what, _⟩ => (engine.erase cid).setStage i (.threw what)
  | _ => engine

def resetTransport (engine : Engine) : Engine where
  signalClient := false
  pendingTrackResolvers := ∅
  calls := CellHeap.updateAll Call.abandon (engine.pendingTrackResolvers.toList.map Prod.snd)
    engine.calls

def onLocalTrackPublished (engine : Engine) (cid : String) (info : TrackInfo) : Engine :=
  match engine.pendingTrackResolvers[cid]? with
  | none => engine
  | some i =>
    { engine with
      pendingTrackResolvers := engine.pendingTrackResolvers.erase cid
      calls := engine.calls.modify i fun call => { call with promise := .value info } }

def step (engine : Engine) : Act → Engine
  | .connect => { engine with signalClient := true }
  | .resetTransport => engine.resetTransport
  | .addTrack cid => engine.addTrack cid
  | .install i => engine.install i
  | .send i error => engine.send i error
  | .wake i => engine.wake i
  | .timeout i => engine.timeout i
  | .cleanup i => engine.cleanup i
  | .onLocalTrackPublished cid info => engine.onLocalTrackPublished cid info

end Engine

/-! ## 2. What the calls owe each other -/

/-- The call has put its promise into the map, and nothing has come of it yet. -/
def Call.Waits (call : Call) : Prop :=
  (call.stage = .sending ∨ call.stage = .waiting) ∧ call.promise = .pending

/-- The call may still come to its section that erases. -/
def Call.mayCleanUp (call : Call) : Bool :=
  match call.stage with
  | .sending | .timedOut | .failed _ => true
  | .waiting => call.promise = .broken
  | _ => false

/-- What a step must do: a response goes to the call that waits for it, what a call has
    been given is what it returns, and a call erases no promise of another. -/
structure Keeps (engine : Engine) (act : Act) : Prop where
  delivers : ∀ cid info, act = .onLocalTrackPublished cid info →
    ∀ (i : Nat) (call : Call), engine.calls[i]? = some call → call.cid = cid → call.Waits →
      (engine.step act).calls[i]? = some { call with promise := .value info }
  returns : ∀ (i : Nat) (call : Call) (info : TrackInfo), engine.calls[i]? = some call →
    call.stage = .waiting → call.promise = .value info →
      (engine.step act).calls[i]? = some call ∨
        (engine.step act).calls[i]? = some { call with stage := .returned (some info) }
  erases : ∀ i, act = .cleanup i → ∀ (cid : String) (j : Nat),
    engine.pendingTrackResolvers[cid]? = some j → j ≠ i →
      (engine.step act).pendingTrackResolvers[cid]? = some j

/-- A call puts its promise under a cid only when no other call may still erase there. -/
def Sound (engine : Engine) : Act → Prop
  | .install i => ∀ call ∈ engine.calls[i]?, call.stage = .entered →
      engine.pendingTrackResolvers[call.cid]? = none →
      ∀ other ∈ engine.calls, other.cid = call.cid → other.mayCleanUp = false
  | _ => True

/-- A run in which no further promise is put into the map: the calls under way end. -/
def Ending (acts : List Act) : Prop := ∀ i, .install i ∉ acts

/-! ## 3. The invariant -/

structure Inv (engine : Engine) : Prop where
  /-- A promise in the map is not set, and its call has not gone. -/
  owner : ∀ (cid : String) (i : Nat), engine.pendingTrackResolvers[cid]? = some i →
    ∃ call, engine.calls[i]? = some call ∧ call.cid = cid ∧ call.promise = .pending ∧
      (call.mayCleanUp = true ∨ call.stage = .waiting)
  waits : ∀ (i : Nat) (call : Call), engine.calls[i]? = some call → call.Waits →
    engine.pendingTrackResolvers[call.cid]? = some i
  sole : ∀ (i j : Nat) (call : Call), engine.calls[i]? = some call → call.mayCleanUp = true →
    engine.pendingTrackResolvers[call.cid]? = some j → j = i

theorem Call.abandon_abandon (call : Call) : call.abandon.abandon = call.abandon := by
  obtain ⟨cid, stage, promise⟩ := call
  cases promise <;> rfl

namespace Inv

variable {engine : Engine}

/-- A call moves on, and the map stays. -/
theorem setStage (h : Inv engine) {i : Nat} {call : Call} (hcall : engine.calls[i]? = some call)
    (stage : Stage)
    (howner : engine.pendingTrackResolvers[call.cid]? = some i →
      { call with stage := stage }.mayCleanUp = true ∨ stage = .waiting)
    (hwaits : { call with stage := stage }.Waits → call.Waits)
    (hsole : { call with stage := stage }.mayCleanUp = true →
      ∀ j, engine.pendingTrackResolvers[call.cid]? = some j → j = i) :
    Inv (engine.setStage i stage) := by
  refine ⟨?_, ?_, ?_⟩
  · intro cid j hj
    obtain ⟨other, hother, hcid, hpending, hstage⟩ := h.owner cid j hj
    by_cases hij : i = j
    · subst hij
      rw [hcall] at hother
      cases hother
      subst hcid
      exact ⟨_, getElem?_modify_eq_some.mpr ⟨call, hcall, (if_pos rfl).symm⟩, rfl, hpending,
        howner hj⟩
    · exact ⟨other, getElem?_modify_eq_some.mpr ⟨other, hother, (if_neg hij).symm⟩, hcid, hpending,
        hstage⟩
  · intro j other hother hwait
    obtain ⟨old, hold, heq⟩ := getElem?_modify_eq_some.mp hother
    by_cases hij : i = j
    · subst hij
      rw [hcall] at hold
      cases hold
      rw [if_pos rfl] at heq
      subst heq
      exact h.waits i call hcall (hwaits hwait)
    · rw [if_neg hij] at heq
      subst heq
      exact h.waits j other hold hwait
  · intro j k other hother hclean hk
    obtain ⟨old, hold, heq⟩ := getElem?_modify_eq_some.mp hother
    by_cases hij : i = j
    · subst hij
      rw [hcall] at hold
      cases hold
      rw [if_pos rfl] at heq
      subst heq
      exact hsole hclean k hk
    · rw [if_neg hij] at heq
      subst heq
      exact h.sole j k other hold hclean hk

/-- A promise leaves the map, set or destroyed. -/
theorem takeOut (h : Inv engine) {cid : String} {i : Nat}
    (hi : engine.pendingTrackResolvers[cid]? = some i) {f : Call → Call}
    (hcid : ∀ call, (f call).cid = call.cid) (hpromise : ∀ call, (f call).promise ≠ .pending) :
    Inv { engine with
      pendingTrackResolvers := engine.pendingTrackResolvers.erase cid
      calls := engine.calls.modify i f } := by
  obtain ⟨owner, howner, hownerCid, -, -⟩ := h.owner cid i hi
  refine ⟨?_, ?_, ?_⟩
  · intro other j hj
    simp only [ExtTreeMap.getElem?_erase, LawfulEqOrd.compare_eq_iff_eq] at hj
    split at hj
    · cases hj
    · rename_i hne
      obtain ⟨call, hcall, hcallCid, hrest⟩ := h.owner other j hj
      have hij : i ≠ j := by
        intro hij
        subst hij
        rw [howner] at hcall
        cases hcall
        exact hne (hownerCid.symm.trans hcallCid)
      exact ⟨call, getElem?_modify_eq_some.mpr ⟨call, hcall, (if_neg hij).symm⟩, hcallCid, hrest⟩
  · intro j call hcall hwait
    obtain ⟨old, hold, heq⟩ := getElem?_modify_eq_some.mp hcall
    by_cases hij : i = j
    · rw [if_pos hij] at heq
      rw [heq] at hwait
      exact absurd hwait.2 (hpromise old)
    · rw [if_neg hij] at heq
      subst heq
      have hj := h.waits j call hold hwait
      have hne : cid ≠ call.cid := by
        intro hsame
        rw [← hsame, hi] at hj
        exact hij (Option.some.inj hj)
      simp only [ExtTreeMap.getElem?_erase, LawfulEqOrd.compare_eq_iff_eq]
      rw [if_neg hne]
      exact hj
  · intro j k call hcall hclean hk
    simp only [ExtTreeMap.getElem?_erase, LawfulEqOrd.compare_eq_iff_eq] at hk
    split at hk
    · cases hk
    · rename_i hne
      obtain ⟨old, hold, heq⟩ := getElem?_modify_eq_some.mp hcall
      by_cases hij : i = j
      · subst hij
        rw [howner] at hold
        cases hold
        rw [if_pos rfl] at heq
        rw [heq, hcid, hownerCid] at hne
        exact absurd rfl hne
      · rw [if_neg hij] at heq
        subst heq
        exact h.sole j k call hold hclean hk

theorem erase (h : Inv engine) (cid : String) : Inv (engine.erase cid) := by
  unfold Engine.erase
  split
  · exact h
  · rename_i i hi
    refine h.takeOut hi (fun _ => rfl) ?_
    intro call
    unfold Call.abandon
    split
    · simp
    · assumption

theorem onLocalTrackPublished (h : Inv engine) (cid : String) (info : TrackInfo) :
    Inv (engine.onLocalTrackPublished cid info) := by
  unfold Engine.onLocalTrackPublished
  split
  · exact h
  · rename_i i hi
    exact h.takeOut hi (fun _ => rfl) (by simp)

theorem addTrack (h : Inv engine) (cid : String) : Inv (engine.addTrack cid) := by
  -- the new call has nothing in the map, neither waits nor erases
  have hnew : ∃ stage,
      (engine.addTrack cid).calls = engine.calls ++ [{ cid := cid, stage := stage }] ∧
      ¬ ({ cid := cid, stage := stage } : Call).Waits ∧
      ({ cid := cid, stage := stage } : Call).mayCleanUp = false := by
    refine ⟨_, rfl, ?_⟩
    split
    · simp [Call.Waits, Call.mayCleanUp]
    · split <;> simp [Call.Waits, Call.mayCleanUp]
  obtain ⟨stage, hcalls, hwaits, hclean⟩ := hnew
  have hold : ∀ (i : Nat) (call : Call), (engine.addTrack cid).calls[i]? = some call →
      engine.calls[i]? = some call ∨ call = { cid := cid, stage := stage } := by
    intro i call hcall
    rw [hcalls] at hcall
    by_cases hi : i < engine.calls.length
    · rw [List.getElem?_append_left hi] at hcall
      exact .inl hcall
    · rw [List.getElem?_append_right (Nat.le_of_not_lt hi)] at hcall
      exact .inr (List.mem_singleton.mp (List.mem_of_getElem? hcall))
  refine ⟨?_, ?_, ?_⟩
  · intro other i hi
    obtain ⟨call, hcall, hrest⟩ := h.owner other i hi
    refine ⟨call, ?_, hrest⟩
    rw [hcalls, List.getElem?_append_left (List.getElem?_eq_some_iff.mp hcall).1]
    exact hcall
  · intro i call hcall hwait
    rcases hold i call hcall with hcall | rfl
    · exact h.waits i call hcall hwait
    · exact absurd hwait hwaits
  · intro i j call hcall hmay
    rcases hold i call hcall with hcall | rfl
    · exact h.sole i j call hcall hmay
    · rw [hclean] at hmay
      cases hmay

theorem send (h : Inv engine) (i : Nat) (error : Option String) : Inv (engine.send i error) := by
  unfold Engine.send
  split
  · rename_i cid promise hcall
    cases error with
    | none =>
      refine h.setStage hcall _ (fun _ => .inr rfl) ?_ ?_
      · rintro ⟨-, hpending⟩
        exact ⟨.inl rfl, hpending⟩
      · intro _ j hj
        exact h.sole i j _ hcall rfl hj
    | some what =>
      refine h.setStage hcall _ (fun _ => .inl rfl) ?_ ?_
      · simp [Call.Waits]
      · intro _ j hj
        exact h.sole i j _ hcall rfl hj
  · exact h

theorem wake (h : Inv engine) (i : Nat) : Inv (engine.wake i) := by
  unfold Engine.wake
  split
  · rename_i cid info hcall
    refine h.setStage hcall _ ?_ (by simp [Call.Waits]) (by simp [Call.mayCleanUp])
    intro hi
    obtain ⟨owner, howner, -, hpending, -⟩ := h.owner cid i hi
    rw [hcall] at howner
    cases howner
    cases hpending
  · rename_i cid hcall
    apply h.setStage hcall _ (fun _ => .inl rfl) (by simp [Call.Waits])
    intro _ j hj
    exact h.sole i j _ hcall rfl hj
  · exact h

theorem timeout (h : Inv engine) (i : Nat) : Inv (engine.timeout i) := by
  unfold Engine.timeout
  split
  · rename_i cid hcall
    apply h.setStage hcall _ (fun _ => .inl rfl) (by simp [Call.Waits])
    intro _ j hj
    rw [h.waits i _ hcall ⟨.inr rfl, rfl⟩] at hj
    exact (Option.some.inj hj).symm
  · exact h

end Inv

/-- What is under the cid goes, and nothing else. -/
theorem Engine.erase_pendingTrackResolvers (engine : Engine) (cid other : String) :
    (engine.erase cid).pendingTrackResolvers[other]? =
      if cid = other then none else engine.pendingTrackResolvers[other]? := by
  unfold Engine.erase
  split
  · rename_i hnone
    by_cases heq : cid = other
    · rw [if_pos heq, ← heq]
      exact hnone
    · rw [if_neg heq]
  · simp only [ExtTreeMap.getElem?_erase, LawfulEqOrd.compare_eq_iff_eq]

theorem Engine.erase_calls {engine : Engine} (cid : String) {i : Nat} {call : Call}
    (hcall : engine.calls[i]? = some call) :
    ∃ promise, (engine.erase cid).calls[i]? = some { call with promise := promise } := by
  unfold Engine.erase
  split
  · exact ⟨_, hcall⟩
  · rename_i j _
    by_cases hji : j = i
    · exact ⟨_, getElem?_modify_eq_some.mpr ⟨call, hcall, (if_pos hji).symm⟩⟩
    · exact ⟨_, getElem?_modify_eq_some.mpr ⟨call, hcall, (if_neg hji).symm⟩⟩

namespace Inv

variable {engine : Engine}

/-- A call erases and is gone. -/
theorem erase_setStage (h : Inv engine) {i : Nat} {call : Call}
    (hcall : engine.calls[i]? = some call) {stage : Stage}
    (hgone : ∀ promise, ¬ (⟨call.cid, stage, promise⟩ : Call).Waits ∧
      (⟨call.cid, stage, promise⟩ : Call).mayCleanUp = false) :
    Inv ((engine.erase call.cid).setStage i stage) := by
  obtain ⟨promise, herased⟩ := Engine.erase_calls call.cid hcall
  have hnone : (engine.erase call.cid).pendingTrackResolvers[call.cid]? = none := by
    rw [Engine.erase_pendingTrackResolvers, if_pos rfl]
  refine (h.erase call.cid).setStage herased stage ?_ ?_ ?_
  · intro hsome
    rw [hnone] at hsome
    cases hsome
  · intro hwait
    exact absurd hwait (hgone promise).1
  · intro hmay
    rw [(hgone promise).2] at hmay
    cases hmay

theorem cleanup (h : Inv engine) (i : Nat) : Inv (engine.cleanup i) := by
  unfold Engine.cleanup
  split
  · rename_i hcall
    exact h.erase_setStage hcall fun _ => ⟨by simp [Call.Waits], rfl⟩
  · rename_i hcall
    exact h.erase_setStage hcall fun _ => ⟨by simp [Call.Waits], rfl⟩
  · exact h

theorem resetTransport (h : Inv engine) : Inv engine.resetTransport := by
  refine ⟨by simp [Engine.resetTransport], ?_, by simp [Engine.resetTransport]⟩
  intro i call hcall hwait
  simp only [Engine.resetTransport, CellHeap.getElem?_updateAll Call.abandon_abandon] at hcall
  split at hcall
  · obtain ⟨old, -, rfl⟩ := Option.map_eq_some_iff.mp hcall
    have hpending := hwait.2
    unfold Call.abandon at hpending
    split at hpending
    · cases hpending
    · exact absurd hpending (by assumption)
  · rename_i hnot
    have hi := h.waits i call hcall hwait
    exact absurd (List.mem_map.mpr ⟨_, ExtTreeMap.mem_toList_iff_getElem?_eq_some.mpr hi, rfl⟩) hnot

theorem install (h : Inv engine) {i : Nat} (hsound : Sound engine (.install i)) :
    Inv (engine.install i) := by
  unfold Engine.install
  split
  · rename_i cid promise hcall
    split
    · exact h.setStage hcall _ (fun hi => by
        obtain ⟨owner, howner, -, -, hstage⟩ := h.owner cid i hi
        rw [hcall] at howner
        cases howner
        simp [Call.mayCleanUp] at hstage) (by simp [Call.Waits]) (by simp [Call.mayCleanUp])
    · rename_i hsome
      have hnone : engine.pendingTrackResolvers[cid]? = none := by simpa using hsome
      have hothers := hsound _ hcall rfl hnone
      have hget (other : String) : (engine.pendingTrackResolvers.insert cid i)[other]? =
          if cid = other then some i else engine.pendingTrackResolvers[other]? := by
        simp only [ExtTreeMap.getElem?_insert, LawfulEqOrd.compare_eq_iff_eq]
      refine ⟨?_, ?_, ?_⟩
      · intro other j hj
        rw [hget] at hj
        split at hj
        · rename_i heq
          cases hj
          exact ⟨_, getElem?_modify_eq_some.mpr ⟨_, hcall, (if_pos rfl).symm⟩, heq, rfl, .inl rfl⟩
        · obtain ⟨call, hother, hcid, hpending, hstage⟩ := h.owner other j hj
          have hij : i ≠ j := by
            intro hij
            subst hij
            rw [hcall] at hother
            cases hother
            simp [Call.mayCleanUp] at hstage
          exact ⟨call, getElem?_modify_eq_some.mpr ⟨call, hother, (if_neg hij).symm⟩, hcid,
            hpending, hstage⟩
      · intro j call hmem hwait
        obtain ⟨old, hold, heq⟩ := getElem?_modify_eq_some.mp hmem
        rw [hget]
        by_cases hij : i = j
        · rw [if_pos hij] at heq
          subst hij
          rw [hcall] at hold
          cases hold
          rw [heq, if_pos rfl]
        · rw [if_neg hij] at heq
          subst heq
          have hj := h.waits j call hold hwait
          have hne : cid ≠ call.cid := by
            intro hsame
            rw [← hsame, hnone] at hj
            cases hj
          rw [if_neg hne]
          exact hj
      · intro j k call hmem hmay hk
        obtain ⟨old, hold, heq⟩ := getElem?_modify_eq_some.mp hmem
        rw [hget] at hk
        by_cases hij : i = j
        · rw [if_pos hij] at heq
          subst hij
          rw [hcall] at hold
          cases hold
          rw [heq, if_pos rfl] at hk
          exact (Option.some.inj hk).symm
        · rw [if_neg hij] at heq
          subst heq
          have hne : cid ≠ call.cid := by
            intro hsame
            rw [hothers call (List.mem_of_getElem? hold) hsame.symm] at hmay
            cases hmay
          rw [if_neg hne] at hk
          exact h.sole j k call hold hmay hk
  · exact h

theorem step (h : Inv engine) {act : Act} (hsound : Sound engine act) : Inv (engine.step act) := by
  cases act with
  | connect => exact ⟨h.owner, h.waits, h.sole⟩
  | resetTransport => exact h.resetTransport
  | addTrack cid => exact h.addTrack cid
  | install i => exact h.install hsound
  | send i error => exact h.send i error
  | wake i => exact h.wake i
  | timeout i => exact h.timeout i
  | cleanup i => exact h.cleanup i
  | onLocalTrackPublished cid info => exact h.onLocalTrackPublished cid info

end Inv

theorem inv_new : Inv {} := by
  refine ⟨?_, ?_, ?_⟩
  · simp
  · simp
  · simp

/-! ## 4. What a step does where the invariant holds -/

section Keeps

variable {engine : Engine} {i : Nat} {call : Call}

theorem Inv.delivers (h : Inv engine) (hcall : engine.calls[i]? = some call) (hwait : call.Waits)
    (info : TrackInfo) :
    (engine.onLocalTrackPublished call.cid info).calls[i]? =
      some { call with promise := .value info } := by
  simp only [Engine.onLocalTrackPublished, h.waits i call hcall hwait]
  exact getElem?_modify_eq_some.mpr ⟨call, hcall, (if_pos rfl).symm⟩

theorem Inv.erases (h : Inv engine) {cid : String} {j : Nat}
    (hj : engine.pendingTrackResolvers[cid]? = some j) (hne : j ≠ i) :
    (engine.cleanup i).pendingTrackResolvers[cid]? = some j := by
  -- what the call erases is under its own cid, and there is nobody else's promise
  have herase : ∀ call, engine.calls[i]? = some call → call.mayCleanUp = true →
      (engine.erase call.cid).pendingTrackResolvers[cid]? = some j := by
    intro call hcall hmay
    rw [Engine.erase_pendingTrackResolvers]
    split
    · rename_i heq
      rw [← heq] at hj
      exact absurd (h.sole i j call hcall hmay hj) hne
    · exact hj
  unfold Engine.cleanup
  split
  · rename_i hcall
    exact herase _ hcall rfl
  · rename_i hcall
    exact herase _ hcall rfl
  · exact hj

theorem setStage_calls_of_ne {j : Nat} {stage : Stage} (hne : j ≠ i) :
    (engine.setStage j stage).calls[i]? = engine.calls[i]? :=
  List.getElem?_modify_ne _ _ hne

theorem ne_of_stage {j : Nat} {other : Call} (hcall : engine.calls[i]? = some call)
    (hother : engine.calls[j]? = some other) (hstage : other.stage ≠ call.stage) : j ≠ i := by
  rintro rfl
  rw [hcall] at hother
  cases hother
  exact hstage rfl

theorem abandon_of_value {info : TrackInfo} (hvalue : call.promise = .value info) :
    call.abandon = call := by
  obtain ⟨cid, stage, promise⟩ := call
  subst hvalue
  rfl

theorem erase_calls_of_value {info : TrackInfo} (hcall : engine.calls[i]? = some call)
    (hvalue : call.promise = .value info) (cid : String) :
    (engine.erase cid).calls[i]? = some call := by
  unfold Engine.erase
  split
  · exact hcall
  · rename_i j _
    refine getElem?_modify_eq_some.mpr ⟨call, hcall, ?_⟩
    rw [abandon_of_value hvalue, ite_self]

theorem Inv.returns (h : Inv engine) {info : TrackInfo} (hcall : engine.calls[i]? = some call)
    (hstage : call.stage = .waiting) (hvalue : call.promise = .value info) (act : Act) :
    (engine.step act).calls[i]? = some call ∨
      (engine.step act).calls[i]? = some { call with stage := .returned (some info) } := by
  have hnot : ∀ {j : Nat} {other : Call}, engine.calls[j]? = some other →
      other.stage ≠ .waiting → j ≠ i := by
    intro j other hother hne
    apply ne_of_stage hcall hother
    rw [hstage]
    exact hne
  cases act with
  | connect => exact .inl hcall
  | resetTransport =>
    left
    simp only [Engine.step, Engine.resetTransport,
      CellHeap.getElem?_updateAll Call.abandon_abandon, hcall, Option.map_some,
      abandon_of_value hvalue, ite_self]
  | addTrack cid =>
    left
    rw [← hcall]
    exact List.getElem?_append_left (List.getElem?_eq_some_iff.mp hcall).1
  | install j =>
    left
    simp only [Engine.step, Engine.install]
    split
    · rename_i hother
      split
      · rw [setStage_calls_of_ne (hnot hother (by simp))]
        exact hcall
      · rw [← hcall]
        exact List.getElem?_modify_ne _ _ (hnot hother (by simp))
    · exact hcall
  | send j error =>
    left
    simp only [Engine.step, Engine.send]
    split
    · rename_i hother
      split
      · rw [setStage_calls_of_ne (hnot hother (by simp))]
        exact hcall
      · rw [setStage_calls_of_ne (hnot hother (by simp))]
        exact hcall
    · exact hcall
  | wake j =>
    by_cases hji : j = i
    · right
      subst hji
      obtain ⟨cid, stage, promise⟩ := call
      subst hstage hvalue
      simp only [Engine.step, Engine.wake, hcall]
      exact getElem?_modify_eq_some.mpr ⟨_, hcall, (if_pos rfl).symm⟩
    · left
      simp only [Engine.step, Engine.wake]
      split
      · rw [setStage_calls_of_ne hji]
        exact hcall
      · rw [setStage_calls_of_ne hji]
        exact hcall
      · exact hcall
  | timeout j =>
    left
    simp only [Engine.step, Engine.timeout]
    split
    · rename_i hother
      have hji : j ≠ i := by
        rintro rfl
        rw [hcall] at hother
        cases hother
        cases hvalue
      rw [setStage_calls_of_ne hji]
      exact hcall
    · exact hcall
  | cleanup j =>
    left
    simp only [Engine.step, Engine.cleanup]
    split
    · rename_i hother
      rw [setStage_calls_of_ne (hnot hother (by simp))]
      exact erase_calls_of_value hcall hvalue _
    · rename_i hother
      rw [setStage_calls_of_ne (hnot hother (by simp))]
      exact erase_calls_of_value hcall hvalue _
    · exact hcall
  | onLocalTrackPublished cid other =>
    left
    simp only [Engine.step, Engine.onLocalTrackPublished]
    split
    · exact hcall
    · rename_i j hj
      obtain ⟨owner, howner, -, hpending, -⟩ := h.owner cid j hj
      have hji : j ≠ i := by
        rintro rfl
        rw [hcall] at howner
        cases howner
        rw [hvalue] at hpending
        cases hpending
      rw [← hcall]
      exact List.getElem?_modify_ne _ _ hji

end Keeps

theorem Inv.keeps {engine : Engine} (h : Inv engine) (act : Act) : Keeps engine act where
  delivers := by
    rintro cid info rfl i call hcall rfl hwait
    exact h.delivers hcall hwait info
  returns := by
    intro i call info hcall hstage hvalue
    exact h.returns hcall hstage hvalue act
  erases := by
    rintro i rfl cid j hj hne
    exact h.erases hj hne

/-! ## 5. A promise that is put where another call may erase can be lost -/

/-- A call that may erase can be led to its section, with the map as it is. -/
theorem exists_ending {engine : Engine} {i : Nat} {call : Call}
    (hcall : engine.calls[i]? = some call) (hmay : call.mayCleanUp = true) :
    ∃ acts, Ending acts ∧
      (acts.foldl Engine.step engine).pendingTrackResolvers = engine.pendingTrackResolvers ∧
      ∃ stage, (stage = .timedOut ∨ ∃ what, stage = .failed what) ∧
        (acts.foldl Engine.step engine).calls[i]? = some { call with stage := stage } := by
  obtain ⟨cid, stage, promise⟩ := call
  cases stage with
  | sending =>
    refine ⟨[.send i (some "not sent")], by simp [Ending], ?_, _, .inr ⟨"not sent", rfl⟩, ?_⟩
    · simp only [List.foldl_cons, List.foldl_nil, Engine.step, Engine.send, hcall]
      rfl
    · simp only [List.foldl_cons, List.foldl_nil, Engine.step, Engine.send, hcall]
      exact getElem?_modify_eq_some.mpr ⟨_, hcall, (if_pos rfl).symm⟩
  | waiting =>
    have hbroken : promise = .broken := by simpa [Call.mayCleanUp] using hmay
    subst hbroken
    refine ⟨[.wake i], by simp [Ending], ?_, _, .inr ⟨"broken promise", rfl⟩, ?_⟩
    · simp only [List.foldl_cons, List.foldl_nil, Engine.step, Engine.wake, hcall]
      rfl
    · simp only [List.foldl_cons, List.foldl_nil, Engine.step, Engine.wake, hcall]
      exact getElem?_modify_eq_some.mpr ⟨_, hcall, (if_pos rfl).symm⟩
  | timedOut => exact ⟨[], by simp [Ending], rfl, _, .inl rfl, hcall⟩
  | failed what => exact ⟨[], by simp [Ending], rfl, _, .inr ⟨what, rfl⟩, hcall⟩
  | entered => cases hmay
  | returned info => cases hmay
  | threw what => cases hmay

theorem not_keeps_cleanup {engine : Engine} {i j : Nat} {call : Call}
    (hcall : engine.calls[i]? = some call)
    (hstage : call.stage = .timedOut ∨ ∃ what, call.stage = .failed what)
    (hj : engine.pendingTrackResolvers[call.cid]? = some j) (hne : j ≠ i) :
    ¬ Keeps engine (.cleanup i) := by
  intro hkeeps
  have hkept := hkeeps.erases i rfl call.cid j hj hne
  have hnone : (engine.cleanup i).pendingTrackResolvers[call.cid]? = none := by
    have herased := engine.erase_pendingTrackResolvers call.cid call.cid
    rw [if_pos rfl] at herased
    obtain ⟨cid, stage, promise⟩ := call
    simp only at hstage herased ⊢
    rcases hstage with hstage | ⟨what, hstage⟩
    · subst hstage
      simp only [Engine.cleanup, hcall]
      exact herased
    · subst hstage
      simp only [Engine.cleanup, hcall]
      exact herased
  rw [Engine.step, hnone] at hkept
  cases hkept

theorem exists_lost {engine : Engine} {act : Act} (hunsound : ¬ Sound engine act) :
    ∃ more, Ending more ∧ ¬ Along Keeps Engine.step engine (act :: more) := by
  cases act with
  | install j =>
    simp only [Sound, not_forall] at hunsound
    obtain ⟨call, hcall, hentered, hnone, other, hother, hcid, hmay⟩ := hunsound
    obtain ⟨i, hi⟩ := List.mem_iff_getElem?.mp hother
    simp only [Bool.not_eq_false] at hmay
    obtain ⟨cid, stage, promise⟩ := call
    simp only at hentered hnone hcid
    subst hentered
    have hji : j ≠ i := by
      rintro rfl
      rw [hcall] at hi
      cases hi
      cases hmay
    have hinstalled : (engine.install j).calls[i]? = some other ∧
        (engine.install j).pendingTrackResolvers[cid]? = some j := by
      simp only [Option.mem_def] at hcall
      simp only [Engine.install, hcall, hnone]
      refine ⟨?_, by simp⟩
      rw [← hi]
      exact List.getElem?_modify_ne _ _ hji
    obtain ⟨hi, hj⟩ := hinstalled
    obtain ⟨acts, hending, hmap, stage, hstage, hends⟩ := exists_ending hi hmay
    refine ⟨acts ++ [.cleanup i], ?_, ?_⟩
    · intro k hk
      rcases List.mem_append.mp hk with hk | hk
      · exact hending k hk
      · simp at hk
    · rw [Along, along_append]
      rintro ⟨-, -, hcleanup, -⟩
      refine not_keeps_cleanup hends hstage ?_ hji hcleanup
      rw [hmap]
      simpa only [hcid] using hj
  | _ => exact absurd trivial hunsound

theorem Inv.along_keeps {engine : Engine} (h : Inv engine) {acts : List Act}
    (hsound : Along Sound Engine.step engine acts) : Along Keeps Engine.step engine acts := by
  induction acts generalizing engine with
  | nil => trivial
  | cons act acts ih => exact ⟨h.keeps act, ih (h.step hsound.1) hsound.2⟩

theorem along_sound_of_ending {engine : Engine} {acts : List Act} (hending : Ending acts) :
    Along Sound Engine.step engine acts := by
  induction acts generalizing engine with
  | nil => trivial
  | cons act acts ih =>
    refine ⟨?_, ih fun i hi => hending i (List.mem_cons_of_mem _ hi)⟩
    cases act with
    | install i => exact absurd (List.mem_cons_self) (hending i)
    | _ => trivial

/-- The calls lose nothing to each other, however those under way at some time end, exactly
    in the runs in which no promise is put where another call may still erase. -/
theorem responses_kept_iff (acts : List Act) :
    (∀ n more, Ending more → Along Keeps Engine.step {} (acts.take n ++ more)) ↔
      Along Sound Engine.step {} acts := by
  have hgeneral : ∀ engine, Inv engine →
      ((∀ n more, Ending more → Along Keeps Engine.step engine (acts.take n ++ more)) ↔
        Along Sound Engine.step engine acts) := by
    induction acts with
    | nil =>
      intro engine h
      refine iff_of_true ?_ trivial
      intro n more hending
      rw [List.take_nil]
      exact h.along_keeps (along_sound_of_ending hending)
    | cons act acts ih =>
      intro engine h
      constructor
      · intro hkept
        have hsound : Sound engine act := by
          by_contra hunsound
          obtain ⟨more, hending, hlost⟩ := exists_lost hunsound
          exact hlost (hkept 1 more hending)
        refine ⟨hsound, (ih _ (h.step hsound)).1 ?_⟩
        intro n more hending
        exact (hkept (n + 1) more hending).2
      · rintro ⟨hsound, hrest⟩ n more hending
        cases n with
        | zero => exact h.along_keeps (along_sound_of_ending hending)
        | succ n => exact ⟨h.keeps act, (ih _ (h.step hsound)).2 hrest n more hending⟩
  exact hgeneral {} inv_new

/-- A reset while a microphone is published; the room is back and publishes it again before
    the first call has come to the section that erases. -/
def republishActs : List Act :=
  [.connect, .addTrack "mic", .install 0, .send 0 none, .resetTransport,
   .connect, .addTrack "mic", .install 1, .send 1 none, .wake 0]

/-- The first call erases the promise of the second, and the response to the second call
    finds nobody. -/
theorem republishActs_lose_response :
    (republishActs.foldl Engine.step {}).calls[1]? = some ⟨"mic", .waiting, .pending⟩ ∧
    (republishActs.foldl Engine.step {}).pendingTrackResolvers["mic"]? = some 1 ∧
    ((republishActs ++ [Act.cleanup 0]).foldl Engine.step {}).pendingTrackResolvers["mic"]? = none ∧
    ((republishActs ++ [Act.cleanup 0, Act.onLocalTrackPublished "mic" ⟨"TR_1", "mic", .audio,
      .microphone⟩]).foldl Engine.step {}).calls[1]? = some ⟨"mic", .waiting, .broken⟩ ∧
    ¬ Along Keeps Engine.step {} (republishActs ++ [.cleanup 0]) := by
  have hresolver : (republishActs.foldl Engine.step {}).pendingTrackResolvers["mic"]? = some 1 := by
    decide +kernel
  have hfirst : (republishActs.foldl Engine.step {}).calls[0]? =
      some ⟨"mic", .failed "broken promise", .broken⟩ := by
    decide +kernel
  refine ⟨by decide +kernel, hresolver, by decide +kernel, by decide +kernel, ?_⟩
  rw [along_append]
  rintro ⟨-, hkeeps, -⟩
  exact not_keeps_cleanup hfirst (.inr ⟨_, rfl⟩) hresolver (by decide) hkeeps

end LivekitClient.TrackResolvers
