import TopicBus.Refusal
import TopicBus.Topic.Id

namespace TopicBus

inductive Level
  | trace
  | debug
  | warn
  | error
  deriving DecidableEq, Repr

def Level.text : Level → String
  | trace => "TRACE"
  | debug => "DEBUG"
  | warn => "WARN"
  | error => "ERROR"

inductive LogEntry
  | topicCreated (kind : Kind) (name : String) (capacity slotSize : Nat)
  | topicRegistered (kind : Kind) (name : String) (id : TopicId)
  | topicReleased (kind : Kind) (name : String) (id : TopicId)
  | registryDropped (topics : Nat)
  | registryFull (max : Nat) (name : String)
  | lookupRefused (name : String) (reason : Refusal)
  | unreadOverwritten (name : String) (count epoch : Nat)
  | publishRejected (name : String) (reason : Refusal)
  | faultContained
  deriving DecidableEq, Repr

namespace LogEntry

def level : LogEntry → Level
  | topicCreated _ _ _ _ => .debug
  | topicRegistered _ _ _ => .debug
  | topicReleased _ _ _ => .debug
  | registryDropped _ => .debug
  | registryFull _ _ => .warn
  | lookupRefused _ _ => .warn
  | unreadOverwritten _ _ _ => .trace
  | publishRejected _ _ => .warn
  | faultContained => .error

def text : LogEntry → String
  | topicCreated kind name capacity slotSize =>
    s!"Created {kind.text} topic '{name}' ({capacity} slots of {slotSize} bytes)"
  | topicRegistered kind name id => s!"Registered {kind.text} topic '{name}' as {id.text}"
  | topicReleased kind name id => s!"Released {kind.text} topic '{name}' ({id.text})"
  | registryDropped topics => s!"Registry dropped, released {topics} topics"
  | registryFull max name => s!"Registry full ({max} topics), cannot create '{name}'"
  | lookupRefused name reason => s!"Lookup of '{name}' refused: {reason.message}"
  | unreadOverwritten name count epoch =>
    s!"Topic '{name}' overwrote {count} unread entries at epoch {epoch}"
  | publishRejected name reason => s!"Publish to '{name}' rejected: {reason.message}"
  | faultContained => "Panic caught at the C API boundary"

def line (entry : LogEntry) : String :=
  entry.level.text ++ " " ++ entry.text

end LogEntry

abbrev Log := Array LogEntry

end TopicBus
