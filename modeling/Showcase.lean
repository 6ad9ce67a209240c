import Showcase.Lib.History
import Showcase.Lib.Parts
import Showcase.Lib.Bytes
import Showcase.Lib.Socket
import Showcase.Lib.ReadExact
import Showcase.Lib.Pieces
import Showcase.Lib.CString
import Showcase.OpenSSL
import Showcase.Pair.Setup
import Showcase.Pair.Verify
import Showcase.Pair.SetupSound
import Showcase.Pair.VerifyAuth
import Showcase.Pair.KeyBinding
import Showcase.Pair.SrpComplete
import Showcase.Pair.SrpVerifier
import Showcase.Pair.TlvParse
import Showcase.Pair.KeySeparation
import Showcase.Pair.SetupKey
import Showcase.Services.EncTransport
import Showcase.Services.Segmentation
import Showcase.Services.RoundTrip
import Showcase.Services.AntiReplay
import Showcase.Services.Session
import Showcase.Services.NonceReuse
import Showcase.Services.Http
import Showcase.Services.HttpLocal
import Showcase.Services.ClientRequest
import Showcase.Services.HttpLength
import Showcase.Services.Waiting
import Showcase.Services.Client
import Showcase.Services.EncryptedClient
import Showcase.Services.Switch
import Showcase.Services.Connections
import Showcase.Services.Plaintext
import Showcase.Services.Isolation
import Showcase.Screen.Stream
import Showcase.Screen.Ipc
import Showcase.Screen.AppSock
import Showcase.Bt.Link
import Showcase.Bt.Delivery
import Showcase.Bt.Rfcomm
import Showcase.Lib.Decoder
import Showcase.Lib.Dns
import Showcase.Services.AuthSetup
import Showcase.Services.Mdns
import Showcase.Services.BaaCache
import Showcase.Services.CtrlChannel
import Showcase.Screen.Touch
import Showcase.Bt.Acceptance
import Showcase.Bt.Foreign
import Showcase.Bt.Gating
import Showcase.App.HandBack
import Showcase.App.Transitions
import Showcase.App.Secrecy
import Showcase.Btstack.Security
import Showcase.Btstack.Daemon
import Showcase.Lib.Descriptors
import Showcase.Services.Ports
import Showcase.Services.Headers
import Showcase.Screen.Buffer
import Showcase.Screen.TouchFraming
import Showcase.Services.SetupSession
import Showcase.Services.Handlers
import Showcase.Services.Responses
import Showcase.Screen.Listener
import Showcase.Screen.StreamKey
import Showcase.Screen.TouchReader
import Showcase.Services.DerTimes
import Showcase.Screen.Avcc
import Showcase.Bt.PacketReads
import Showcase.Bt.PostTransport
import Showcase.Services.Timing
import Showcase.Screen.TouchRange
import Showcase.Bt.Builder
import Showcase.Bt.Emission
import Showcase.App.Credentials
import Showcase.Services.MdnsRecords
import Showcase.Lib.Loop
import Showcase.Bt.Chunks
import Showcase.Services.HostName
import Showcase.Services.Args
import Showcase.Services.CtrlSocket
import Showcase.App.Cars
import Showcase.Lib.Ledger
import Showcase.App.IpcDescriptors
import Showcase.Lib.Children
import Showcase.App.Helpers
import Showcase.Lib.Framing
import Showcase.Btstack.SocketConnection
import Showcase.Lib.Crc
import Showcase.Btstack.RfcommFrames
import Showcase.Btstack.RfcommChannel
import Showcase.Btstack.RfcommCredits
import Showcase.Pair.Handshake
import Showcase.Lib.Pointer
import Showcase.Lib.Continuation
import Showcase.Lib.DataElement
import Showcase.Btstack.SdpUtil
import Showcase.Btstack.SdpServer
import Showcase.Btstack.SdpTransfer
import Showcase.Btstack.SdpRecords
import Showcase.Btstack.HciReceive
import Showcase.Btstack.HciSend
