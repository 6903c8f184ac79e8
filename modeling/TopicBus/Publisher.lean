import TopicBus.Topic.Basic

namespace TopicBus

structure Publisher (kind : Kind) where
  topic : Topic kind
  deriving DecidableEq, Repr

namespace Publisher

variable {kind : Kind}

def publish (publisher : Publisher kind) (payload : Bytes) : Op Bus Nat :=
  publisher.topic.publish payload

def publishMessage (publisher : Publisher .typed) (shape : Shape) (message : shape.Value) :
    Op Bus Nat :=
  publisher.topic.publishMessage shape message

def lastEpoch (publisher : Publisher kind) : Op Bus Nat := publisher.topic.lastEpoch

def inspect (publisher : Publisher kind) : Op Bus String := do
  return Text.record "Publisher" [("topic", ← publisher.topic.inspect)]

end Publisher

end TopicBus
