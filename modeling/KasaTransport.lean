import KasaTransport.Bytes
import KasaTransport.Primitives
import KasaTransport.SmartHome.Codec
import KasaTransport.SmartHome.Query
import KasaTransport.SmartHome.Interleaving
import KasaTransport.SmartHome.QueryLock
import KasaTransport.SmartHome.Liveness
import KasaTransport.Klap.Cipher
import KasaTransport.Klap.EncryptionSession
import KasaTransport.Klap.CookieJar
import KasaTransport.Klap.Transport
import KasaTransport.Klap.Handshake
import KasaTransport.Klap.Send
import KasaTransport.Klap.Run
import KasaTransport.Klap.Device
import KasaTransport.Klap.Interleaving
import KasaTransport.Klap.SessionGuard
