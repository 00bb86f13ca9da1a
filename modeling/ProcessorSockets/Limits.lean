namespace ProcessorSockets.Limits

def listenBacklog : Int := 16

def cpuSize : Nat := 16

def nameSize : Nat := 32

/-- The family number of the messaging sockets.  No number is assigned to the family, and
vendors pick their own. -/
def addressFamily : Int := 46

def pathSize : Nat := 107

def timeoutOption : Int := 0x1006

def receiveBufferOption : Int := 0x1002

def sendBufferOption : Int := 0x1001

def socketDirectory : String := "/tmp/rpmsg-sockets"

def localCpu : String := "ap"

end ProcessorSockets.Limits
