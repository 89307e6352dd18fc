/-! Tags of elements: the octet in front of each. -/
namespace Directory.Wire.Tag

def boolean : UInt8 := 0x01
def integer : UInt8 := 0x02
def octetString : UInt8 := 0x04
def enumerated : UInt8 := 0x0a
def sequence : UInt8 := 0x30
def set : UInt8 := 0x31

def controls : UInt8 := 0xa0
def simpleCredentials : UInt8 := 0x80
def saslCredentials : UInt8 := 0xa3
def referrals : UInt8 := 0xa3
def serverCredentials : UInt8 := 0x87
def requestName : UInt8 := 0x80
def requestValue : UInt8 := 0x81
def responseName : UInt8 := 0x8a
def responseValue : UInt8 := 0x8b

def filterAll : UInt8 := 0xa0
def filterAny : UInt8 := 0xa1
def filterNot : UInt8 := 0xa2
def filterEqual : UInt8 := 0xa3
def filterSubstrings : UInt8 := 0xa4
def filterGreaterOrEqual : UInt8 := 0xa5
def filterLessOrEqual : UInt8 := 0xa6
def filterPresent : UInt8 := 0x87
def filterApproximate : UInt8 := 0xa8

def initialPart : UInt8 := 0x80
def middlePart : UInt8 := 0x81
def finalPart : UInt8 := 0x82

end Directory.Wire.Tag
