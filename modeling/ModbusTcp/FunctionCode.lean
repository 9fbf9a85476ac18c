/-!
Function codes and exception codes. A function code is any byte; bit 7 marks the answer that
reports an exception, and the other seven bits name the function.
-/

set_option autoImplicit false

namespace ModbusTcp

namespace FunctionCode

def readCoils : UInt8 := 1
def readDiscreteInputs : UInt8 := 2
def readHoldingRegisters : UInt8 := 3
def readInputRegisters : UInt8 := 4
def writeSingleCoil : UInt8 := 5
def writeSingleRegister : UInt8 := 6
def writeMultipleCoils : UInt8 := 15
def writeMultipleRegisters : UInt8 := 16

/-- The bit that marks an exception. -/
def exceptionBit : UInt8 := 0x80

/-- Whether a byte on the wire carries the mark of an exception. -/
def isException (code : UInt8) : Bool := code &&& exceptionBit ≠ 0

/-- The function that a byte on the wire names, without the mark. -/
def function (code : UInt8) : UInt8 := code &&& 0x7F

/-- The byte of an exception that answers the given function. -/
def marked (code : UInt8) : UInt8 := code ||| exceptionBit

end FunctionCode

namespace ExceptionCode

def none : UInt8 := 0
def illegalFunction : UInt8 := 1
def illegalDataValue : UInt8 := 3

end ExceptionCode

end ModbusTcp
