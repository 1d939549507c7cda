/-
# Transport options

How connections are pooled and dialled, and through which proxy they go.  The text for a proxy
is a URL with a host, of a web scheme; one without a scheme is taken for the rest of an `http`
URL where that makes it one.
-/
import QueueClient.Duration
import QueueClient.Error
import QueueClient.Url.Parser

namespace QueueClient

/-- How to connect. -/
structure TransportOptions where
  /-- How many idle connections are kept for each host. -/
  maxIdlePerHost : UInt64
  /-- How long an idle connection is kept. -/
  idleTimeout : Duration
  /-- How long connecting may take. -/
  connectTimeout : Duration
  /-- The pause between probes of a silent connection. -/
  keepalive : Duration
  /-- How long the secure handshake is expected to take at most. -/
  handshakeTimeout : Duration
  /-- The proxy to go through. -/
  proxyUrl : Option String
deriving DecidableEq

namespace TransportOptions

/-- The usual options. -/
def default : TransportOptions :=
  ⟨100, .ofSecs 90, .ofSecs 30, .ofSecs 30, .ofSecs 10, none⟩

instance : Inhabited TransportOptions := ⟨default⟩

/-- The time for connecting, handshake included. -/
def effectiveConnectTimeout (o : TransportOptions) : Duration :=
  max o.connectTimeout o.handshakeTimeout

end TransportOptions

namespace Proxy

/-- Why a text names no proxy. -/
inductive Fault where
  /-- It is no URL. -/
  | url (fault : Url.Fault)
  /-- The URL has no host. -/
  | noHost (url : Url)
  /-- The scheme is no web scheme. -/
  | scheme
  /-- The host holds a character that cannot be sent. -/
  | hostCharacter
deriving DecidableEq

/-- The wording of a fault. -/
def Fault.message : Fault → String
  | url fault => "builder error: builder error: " ++ fault.message
  | noHost u => "builder error: builder error for url (" ++ u.text ++ "): URL scheme is not allowed"
  | scheme => "builder error: unknown proxy scheme"
  | hostCharacter => "builder error: invalid uri character"

/-- Whether a URL has a host that is not empty. -/
def hasHost (u : Url) : Bool :=
  match u.host with
  | some h => h != .domain ""
  | none => false

/-- Whether a host can stand in a request. -/
def isSendable (u : Url) : Bool :=
  match u.host with
  | some (.domain name) => name.toList.all fun c => !(['"', '\x60', '\x7b', '\x7d'].contains c)
  | _ => true

/-- The URL with a host that a text is. -/
def readUrl (text : String) : Except Fault Url :=
  match Url.parse text with
  | .error f => .error (.url f)
  | .ok u => if hasHost u then .ok u else .error (.noHost u)

/-- Whether a text that failed may still be a URL without its scheme. -/
def mayLackScheme : Fault → Bool
  | .url .noScheme => true
  | .noHost _ => true
  | _ => false

/-- The URL of the proxy that a text names. -/
def parse (text : String) : Except Fault Url := do
  let u ← match readUrl text with
    | .ok u => .ok u
    | .error f =>
      if mayLackScheme f then
        match readUrl ("http://" ++ text) with
        | .ok u => .ok u
        | .error _ => .error f
      else .error f
  if u.scheme ≠ "http" ∧ u.scheme ≠ "https" then throw .scheme
  if !isSendable u then throw .hostCharacter
  return u

end Proxy

/-- The proxy that options name, if they can be used. -/
def TransportOptions.proxy? (o : TransportOptions) : Option Url :=
  o.proxyUrl.bind fun text => (Proxy.parse text).toOption

/-- Checks that options can be used. -/
def TransportOptions.check (o : TransportOptions) : Except Error Unit :=
  match o.proxyUrl with
  | none => .ok ()
  | some text =>
    match Proxy.parse text with
    | .ok _ => .ok ()
    | .error f =>
      .error (.configuration ("invalid proxy URL: " ++ f.message)
        ⟨some "transport.proxy_url", some text, some "http_sender"⟩)

end QueueClient
