import TcplsBasics.Verified.Rust
import TcplsBasics.Verified.Bytes
import TcplsBasics.Verified.Codec
import TcplsBasics.Verified.Appends
import TcplsBasics.Verified.Agree
import TcplsBasics.Verified.Aead
import TcplsBasics.Verified.Digest
import TcplsBasics.Ports.Msgs.Enums
import TcplsBasics.Ports.Error
import TcplsBasics.Ports.Tcpls.Stream
import TcplsBasics.Ports.Tcpls.Connection
import TcplsBasics.Ports.Tcpls.Frames
import TcplsBasics.Ports.Tcpls.Delivery
import TcplsBasics.Ports.Tcpls.Record
import TcplsBasics.Ports.Tcpls.Invariant
import TcplsBasics.Ports.Tcpls.Drain
import TcplsBasics.Ports.Ticketer
import TcplsBasics.Ports.Cache
import TcplsBasics.Ports.Msgs.Persist
import TcplsBasics.Ports.X509
import TcplsBasics.Ports.Msgs.Extensions
import TcplsBasics.Ports.Msgs.Handshake
import TcplsBasics.Ports.Msgs.RoundTrip
import TcplsBasics.Ports.Msgs.Message
import TcplsBasics.Ports.Msgs.Persist.ServerValue
import TcplsBasics.Ports.Msgs.RoundTrip.Extensions
import TcplsBasics.Ports.Msgs.RoundTrip.Handshake
import TcplsBasics.Ports.Msgs.Payload
import TcplsBasics.Ports.Cipher
import TcplsBasics.Ports.Tls12.Prf
import TcplsBasics.Ports.Quic
import TcplsBasics.Ports.HashHs
import TcplsBasics.Ports.Tls13.KeySchedule
import TcplsBasics.Ports.Client.Hello
import TcplsBasics.Ports.Server.Hs
import TcplsBasics.Ports.Server.Negotiation
import TcplsBasics.Ports.Client.Validate
import TcplsBasics.Ports.Client.Tls13
import TcplsBasics.Ports.VecBuf
import TcplsBasics.Ports.Server.EarlyData
import TcplsBasics.Ports.Conn.Send
import TcplsBasics.Ports.Conn.CloseNotify
import TcplsBasics.Ports.RecordLayer
import TcplsBasics.Ports.Msgs.Deframer
import TcplsBasics.Ports.Msgs.Deframer.Queue
import TcplsBasics.Ports.Msgs.Deframer.Refinement
import TcplsBasics.Ports.Msgs.Deframer.Framing
import TcplsBasics.Ports.Msgs.Deframer.Stream
import TcplsBasics.Ports.Msgs.Deframer.Safety
import TcplsBasics.Ports.Msgs.Deframer.Limit
import TcplsBasics.Ports.Conn.Lockstep
import TcplsBasics.Ports.Tls13.Schedule
import TcplsBasics.Ports.Tls13.Rfc8446
import TcplsBasics.Ports.Tls13.Agreement
import TcplsBasics.Ports.Tls13.Refinement
import TcplsBasics.Ports.Tls13.KeyUpdate
import TcplsBasics.Ports.Tls13.Traffic
