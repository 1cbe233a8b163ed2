/-
  LivekitClient/Types.lean
  ========================
  **Types that several parts of the client share** (the enumerations of
  `include/livekit/core/option/media_option.h`, and the fixed-width types of C++).
-/
import Mathlib.Tactic.Common

namespace LivekitClient

abbrev Bytes := List UInt8

/-- The greatest `std::size_t`. -/
def sizeMax : Nat := 18446744073709551615

inductive TrackKind where
  | unknown
  | audio
  | video
deriving DecidableEq, Repr

inductive TrackSource where
  | unknown
  | camera
  | microphone
  | screenShare
  | screenShareAudio
deriving DecidableEq

inductive TrackSubscriptionStatus where
  | unsubscribed
  | desired
  | subscribed
deriving DecidableEq

/-- `RemoteTrackPublication::SubscriptionStatus`, from the two flags that it reads. -/
def TrackSubscriptionStatus.of (subscriptionDesired trackAttached : Bool) :
    TrackSubscriptionStatus :=
  if !subscriptionDesired then .unsubscribed
  else if trackAttached then .subscribed else .desired

end LivekitClient
