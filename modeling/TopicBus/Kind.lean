namespace TopicBus

/-- Whether a topic carries payloads up to a bound, or messages of one fixed size. -/
inductive Kind
  | byte
  | typed
  deriving DecidableEq, Repr

namespace Kind

def text : Kind → String
  | byte => "byte"
  | typed => "typed"

def label : Kind → String
  | byte => "Byte"
  | typed => "Typed"

def sizeParameter : Kind → String
  | byte => "max_payload"
  | typed => "msg_size"

end Kind

end TopicBus
