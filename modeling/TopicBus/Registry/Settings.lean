import TopicBus.Refusal
import TopicBus.Limits

namespace TopicBus

structure RegistrySettings where
  /-- Payload bound of byte topics that are asked for without one. -/
  payloadBound : Nat := Limits.defaultPayload
  maxTopics : Nat := Limits.defaultTopics
  deriving DecidableEq, Repr

namespace RegistrySettings

def check (settings : RegistrySettings) : Except Refusal Unit :=
  if settings.payloadBound = 0 ∨ Limits.slotPayload < settings.payloadBound then
    .error (.sizeOutOfRange "byte_max_payload" Limits.slotPayload)
  else if settings.maxTopics = 0 ∨ Limits.registryTopics < settings.maxTopics then
    .error (.invalidParameter "max_topics" "must be between 1 and u32::MAX")
  else
    .ok ()

def inspect (settings : RegistrySettings) : String :=
  Text.record "RegistryConfig"
    [("byte_max_payload", toString settings.payloadBound),
      ("max_topics", toString settings.maxTopics)]

end RegistrySettings

end TopicBus
