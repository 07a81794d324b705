import WebTransportGos.H3.ResponseWriter
import WebTransportGos.H3.Settings
import WebTransportGos.H3.SettingsGrammar
import WebTransportGos.H3.UnknownFrames
import WebTransportGos.Handshake.FrameLength
import WebTransportGos.Handshake.Connect
import WebTransportGos.Handshake.ResponseTrip
import WebTransportGos.Handshake.RequestTrip
import WebTransportGos.Session.Closing
import WebTransportGos.Session.Datagrams
import WebTransportGos.Session.Reconnects
import WebTransportGos.Helper.Delivery
import WebTransportGos.Helper.BinaryDelivery
import WebTransportGos.Helper.TransportClosing
import WebTransportGos.Helper.TransportSockets
import WebTransportGos.Helper.TransportLoss
import WebTransportGos.Helper.TransportQueue
import WebTransportGos.Helper.TransportOpen
import WebTransportGos.Helper.TransportRounds
import WebTransportGos.H3.RequestFields
import WebTransportGos.H3.ConnectUrl
import WebTransportGos.Session.Timeouts
import WebTransportGos.Session.ByteReader
import WebTransportGos.Helper.RingQueue
import WebTransportGos.Helper.SerializedFrames
import WebTransportGos.Helper.CanonicalFrames
import WebTransportGos.Helper.DuplicateWindow
import WebTransportGos.Util.Base64
import WebTransportGos.Handshake.Agreement
import WebTransportGos.Helper.Ping
import WebTransportGos.Example.Room
import WebTransportGos.Example.Server
import WebTransportGos.Util.Base64Decode
import WebTransportGos.Example.Counter
import WebTransportGos.Helper.TransportNet
import WebTransportGos.Helper.TransportAnswers
import WebTransportGos.Helper.TransportObjects
import WebTransportGos.Helper.Redundancy
