import DirectShare.Radio.Uuid

/-!
# The radio service of a receiver

A receiver advertises one service and offers another with two characteristics: from one a sender
reads the device description, and to the other it writes the network description.
-/

namespace DirectShare.Radio

/-- The service that a receiver advertises. -/
def advertisedService : Uuid := 0x00003331_0000_1000_8000_008123456789#128

/-- The service that holds the characteristics. -/
def mainService : Uuid := 0x00009955_0000_1000_8000_00805f9b34fb#128

/-- The characteristic that holds the device description. -/
def deviceCharacteristic : Uuid := 0x00009954_0000_1000_8000_00805f9b34fb#128

/-- The characteristic that takes the network description. -/
def networkCharacteristic : Uuid := 0x00009953_0000_1000_8000_00805f9b34fb#128

end DirectShare.Radio
