import LiveUpdate.Program
import LiveUpdate.Web.Wire
import Std.Async.DNS
import Std.Async.TCP
import Std.Sync.Mutex
import Std.Time

/-! The command line: it reads the configuration, binds the address, and serves one connection after
the other, each on a thread of its own. All of them work on one session under one lock. -/
namespace LiveUpdate.Main

open Std.Async.TCP.Socket

/-! ### Output -/

def now : IO String := do
  return (Std.Time.DateTime.ofTimestamp (← Std.Time.Timestamp.now)
    Std.Time.TimeZone.ZoneRules.UTC).toISO8601String

def print (line : Output × String) : IO Unit := do
  let text := (← now) ++ " " ++ line.2
  match line.1 with
  | .out => IO.println text
  | .err => IO.eprintln text

def connectionName (c : ConnectionId) : String := Text.naturalText c.number

/-! ### Input -/

def bytes (s : String) : List UInt8 := s.toUTF8.toList

def environment : IO Variables := do
  return (← Std.Internal.UV.System.osEnviron).toList.map fun (name, value) => (name, bytes value)

/-- The file of settings of this directory, or of the nearest one above it. -/
def settingsFile : IO (List Char) := do
  let here ← IO.currentDir
  let depth := (here.toString.toList.filter (· = '/')).length
  for n in List.range (depth + 1) do
    try
      let content ← IO.FS.readBinFile (String.join (List.replicate n "../") ++ ".env")
      return Text.Utf8.decodeLossy content.toList
    catch _ => pure ()
  return []

/-! ### Binding -/

def failure : IO.Error → BindFailure
  | .permissionDenied .. => .permissionDenied
  | .resourceBusy .. => .addressInUse
  | .unsupportedOperation .. => .addressNotAvailable
  | e => .other (toString e)

/-- The numeric address of an interface. -/
def resolve (interface : String) : IO Std.Net.IPAddr := do
  match Std.Net.IPv4Addr.ofString interface, Std.Net.IPv6Addr.ofString interface with
  | some address, _ => return .v4 address
  | _, some address => return .v6 address
  | none, none =>
    let found ← (Std.Async.DNS.getAddrInfo interface "").block
    match found[0]? with
    | some address => return address
    | none => throw (IO.userError "failed to lookup address information")

def bind (server : Server) (config : Config) : IO (Option BindFailure) := do
  try
    let port := UInt16.ofNat config.port
    let address : Std.Net.SocketAddress := match ← resolve config.interface with
      | .v4 address => .v4 ⟨address, port⟩
      | .v6 address => .v6 ⟨address, port⟩
    server.bind address
    server.listen 1024
    return none
  catch e => return some (failure e)

/-! ### Connections -/

/-- What all connections share. -/
structure Service where
  config : Config
  cors : Web.Cors
  session : Std.Mutex Session
  /-- When the clock of the session stood at zero. -/
  epoch : Nat

/-- Acts on the session at the present time, lets it settle, and shows what was reported. -/
def Service.act {α : Type} (service : Service) (f : Session → α × Session) : IO α := do
  let time ← IO.monoMsNow
  service.session.atomically do
    let s ← get
    let (a, s) := f (s.advance (time - service.epoch - s.clock))
    let s := s.settle
    set { s with hub := { s.hub with journal := [] } }
    for entry in s.hub.journal do
      match (Logger.mk service.config.threshold).write? 1 (entry.record connectionName) with
      | some line => print line
      | none => pure ()
    return a

def Service.update (service : Service) (f : Session → Session) : IO Unit :=
  service.act fun s => ((), f s)

def send (client : Client) (content : List UInt8) : IO Unit :=
  (client.send ⟨content.toArray⟩).block

def receive (client : Client) : IO (Option (List UInt8)) := do
  return (← (client.recv? 65536).block).map (·.toList)

/-- How long a connection rests when nothing waits for it, in milliseconds. -/
def pause : UInt32 := 20

/-- Reads on until the client has gone. -/
partial def awaitEnd (client : Client) (gone : IO.Ref Bool) : IO Unit := do
  let more ← try (do return (← receive client).isSome) catch _ => pure false
  if more then awaitEnd client gone else gone.set true

/-- Sends an event stream until it ends or the client has gone. -/
partial def sendEvents (service : Service) (client : Client) (stream : Nat) (gone : IO.Ref Bool) :
    IO Unit := do
  if ← gone.get then service.update (·.closeStream stream)
  else match ← service.act (·.readStream stream none) with
    | none => return
    | some (texts, ended) =>
      for text in texts do
        try send client (bytes (Web.Wire.chunk text)) catch _ => gone.set true
      if ended then send client (bytes (Web.Wire.chunk ""))
      else
        IO.sleep pause
        sendEvents service client stream gone

def serveEvents (service : Service) (client : Client) (stream : Nat) : IO Unit := do
  let gone ← IO.mkRef false
  let _ ← IO.asTask (awaitEnd client gone) .dedicated
  sendEvents service client stream gone

/-- Hands on what the client of a WebSocket session sends. -/
partial def hear (service : Service) (client : Client) (task : Nat) (arrived : List UInt8) :
    IO Unit := do
  service.update (·.feed task arrived)
  match ← try receive client catch _ => pure none with
  | some arrived => hear service client task arrived
  | none => service.update (·.lose task)

/-- Sends what is written to a WebSocket session. -/
partial def tell (service : Service) (client : Client) (task : Nat) : IO Unit := do
  let (frames, last) ← service.act (·.collect task)
  try
    for frame in frames do send client frame.wire
    service.update (·.setReady task true)
  catch e => service.update (·.sever task (toString e))
  if last then client.shutdown.block
  else
    IO.sleep pause
    tell service client task

/-- Greets the client, and lets the pumps take over. -/
def serveWebSocket (service : Service) (client : Client) (student : StudentId)
    (arrived : List UInt8) : IO Unit := do
  let greeting ← service.act (·.beginGreeting student)
  try
    send client (Outgoing.text (Frame.json .hello)).wire
    if let some task ← service.act (·.finishGreeting greeting) then
      let _ ← service.act (·.collect task)
      service.update (·.setReady task true)
      let _ ← IO.asTask (hear service client task arrived) .dedicated
      tell service client task
  catch e => service.update (·.obstructGreeting greeting (toString e))

/-- Answers the requests of a connection one after the other. -/
partial def serveRequests (service : Service) (client : Client) (unread : List UInt8) :
    IO Unit := do
  match Web.Wire.read unread with
  | .incomplete =>
    if let some arrived ← receive client then serveRequests service client (unread ++ arrived)
  | .malformed =>
    send client (bytes (Web.Wire.head 400 [("content-length", "0"), ("connection", "close")]))
  | .request r persists rest =>
    let response ← service.act (service.cors.respond service.config r)
    send client (bytes (response.wire r))
    match response.body with
    | .text _ =>
      if persists then serveRequests service client rest else client.shutdown.block
    | .events stream => serveEvents service client stream
    | .upgrade student => serveWebSocket service client student rest

partial def acceptAll (service : Service) (server : Server) : IO Unit := do
  let client ← server.accept.block
  let _ ← IO.asTask (try serveRequests service client [] catch _ => pure ()) .dedicated
  acceptAll service server

/-- Runs the service that a configuration describes. -/
def run (config : Config) : IO UInt32 := do
  let server ← Server.mk
  let failure ← match Web.Cors.ofOrigins? config.allowedOrigins with
    | .ok _ => bind server config
    | .error _ => pure none
  match Program.start (fun _ _ => failure) config with
  | .error words =>
    IO.eprintln words
    return 101
  | .ok run =>
    for line in run.lines connectionName do print line
    match run.launch with
    | .running cors =>
      let s := run.session
      let session ← Std.Mutex.new { s with hub := { s.hub with journal := [] } }
      acceptAll { config, cors, session, epoch := ← IO.monoMsNow } server
    | .panicked words => IO.eprintln words
    | .unbound _ => pure ()
    return UInt32.ofNat ((Program.exitCode? run.launch).getD 0)

def start (arguments : List String) : IO UInt32 := do
  let invocation : Invocation := ⟨arguments.map bytes, ← environment, ← settingsFile⟩
  match invocation.config with
  | .error .helpRequested =>
    IO.print Program.help
    return 0
  | .error .versionRequested =>
    IO.println Program.version
    return 0
  | .error why =>
    IO.eprintln ("error: " ++ why.message)
    return UInt32.ofNat why.exitCode
  | .ok config => run config

end LiveUpdate.Main

def main (arguments : List String) : IO UInt32 := LiveUpdate.Main.start arguments
