import TopicBus.Refusal

namespace TopicBus

inductive Status
  | noData
  | success
  | invalidArgument
  | bufferTooSmall
  | notFound
  | kindMismatch
  | capacityMismatch
  | sizeMismatch
  | payloadTooLarge
  | allocationFailure
  | internalFault
  deriving DecidableEq, Repr

namespace Status

def all : List Status :=
  [noData, success, invalidArgument, bufferTooSmall, notFound, kindMismatch, capacityMismatch,
    sizeMismatch, payloadTooLarge, allocationFailure, internalFault]

def code : Status → Int
  | noData => 0
  | success => 1
  | invalidArgument => -1
  | bufferTooSmall => -2
  | notFound => -3
  | kindMismatch => -4
  | capacityMismatch => -5
  | sizeMismatch => -6
  | payloadTooLarge => -7
  | allocationFailure => -8
  | internalFault => -99

def ofCode? (code : Int) : Option Status := all.find? fun status => status.code == code

def label : Status → String
  | noData => "NoData"
  | success => "Success"
  | invalidArgument => "InvalidArgument"
  | bufferTooSmall => "BufferTooSmall"
  | notFound => "NotFound"
  | kindMismatch => "KindMismatch"
  | capacityMismatch => "CapacityMismatch"
  | sizeMismatch => "SizeMismatch"
  | payloadTooLarge => "PayloadTooLarge"
  | allocationFailure => "AllocationFailure"
  | internalFault => "Panic"

def message : Status → String
  | noData => "no data"
  | success => "success"
  | invalidArgument => "invalid argument"
  | bufferTooSmall => "buffer too small"
  | notFound => "topic not found"
  | kindMismatch => "topic kind mismatch"
  | capacityMismatch => "topic capacity mismatch"
  | sizeMismatch => "message size mismatch"
  | payloadTooLarge => "payload too large"
  | allocationFailure => "allocation failure"
  | internalFault => "internal panic"

def messageOfCode (code : Int) : String :=
  ((ofCode? code).map message).getD "unknown status"

def ofRefusal : Refusal → Status
  | .notFound _ => notFound
  | .kindMismatch _ _ _ => kindMismatch
  | .capacityMismatch _ _ _ => capacityMismatch
  | .sizeMismatch _ _ => sizeMismatch
  | .payloadTooLarge _ _ => payloadTooLarge
  | .bufferTooSmall _ _ => bufferTooSmall
  | .allocationFailure _ => allocationFailure
  | .invalidParameter _ _ => invalidArgument

end Status

end TopicBus
