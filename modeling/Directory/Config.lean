/-! Settings of a client. Times are in milliseconds, sizes in octets. -/
namespace Directory

structure Config where
  connectTimeout : Nat := 5000
  noDelay : Bool := true
  protocolVersion : UInt32 := 3
  /-- The longest content of a frame that is accepted. -/
  maxMessageSize : UInt32 := 16777216
  operationTimeout : Nat := 30000
  defaultPageSize : UInt32 := 500
  deriving DecidableEq, Repr

def version : String := "0.1.0"

end Directory
