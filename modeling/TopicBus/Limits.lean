namespace TopicBus

structure Version where
  major : Nat
  minor : Nat
  patch : Nat

def Version.text (v : Version) : String :=
  toString v.major ++ "." ++ toString v.minor ++ "." ++ toString v.patch

def version : Version := ⟨0, 1, 0⟩

namespace Limits

def byteHeader : Nat := 12

def typedHeader : Nat := 8

def defaultSlot : Nat := 256

def defaultPayload : Nat := defaultSlot - byteHeader

def slotPayload : Nat := 1048576

/-- Longest topic name, in UTF-8 bytes. -/
def topicName : Nat := 255

def topicCapacity : Nat := 16777216

def defaultCapacity : Nat := 8

def defaultTopics : Nat := 1024

def registryTopics : Nat := 4294967295

def word : Nat := 18446744073709551616

/-- Sizes from here on do not describe a block of memory. -/
def block : Nat := 9223372036854775808

/-- Sizes from here on lie beyond what an address space can provide. -/
def addressSpace : Nat := 140737488355328

/-- Rows of items from this size on lie beyond what a system holds in memory. -/
def memory : Nat := 17179869184

def workers : Nat := 32768

end Limits

end TopicBus
