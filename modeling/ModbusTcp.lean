import ModbusTcp.FrameBuffer.Lemmas
import ModbusTcp.Proofs.Grammar
import ModbusTcp.Proofs.MessageSequence
import ModbusTcp.ReceiveTimeout
import ModbusTcp.Session
import ModbusTcp.Proofs.Reencoding
import ModbusTcp.Proofs.Answer
import ModbusTcp.Proofs.Calls
import ModbusTcp.Proofs.Lifecycle
import ModbusTcp.Proofs.Serving
import ModbusTcp.Proofs.MemoryQueues
import ModbusTcp.Proofs.Sending
import ModbusTcp.Proofs.Independence
import ModbusTcp.Proofs.Accesses
import ModbusTcp.Proofs.Writing
import ModbusTcp.Proofs.Filling
import ModbusTcp.Proofs.Rejection
import ModbusTcp.Proofs.Expiry
import ModbusTcp.Proofs.Forgetting
import ModbusTcp.Proofs.Progress
import ModbusTcp.Proofs.Timing
import ModbusTcp.Proofs.Closing
import ModbusTcp.Proofs.PackedBits
import ModbusTcp.Proofs.DeadlineRange
import ModbusTcp.Proofs.FrameDeadline
import ModbusTcp.Proofs.BufferQueue
import ModbusTcp.Proofs.Registrations
import ModbusTcp.Proofs.Numerals
