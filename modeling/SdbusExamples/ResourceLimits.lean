import Mathlib.Init

namespace SdbusExamples.ResourceLimits

def kMaxAdapters : Nat := 64
def kMaxDevices : Nat := 1024
def kMaxGattServices : Nat := 4096
def kMaxGattCharacteristics : Nat := 16384
def kMaxGattDescriptors : Nat := 32768
def kMaxBatteryEntries : Nat := 1024
def kMaxInputEntries : Nat := 1024
def kMaxUPowerClients : Nat := 256
def kMaxUnits : Nat := 16384

def isAtCapacity (currentSize limit : Nat) : Bool := currentSize ≥ limit

end SdbusExamples.ResourceLimits
