import Intake.Api.Transfer
import Intake.Launch.Run
import Intake.Poll.Attempt
import Intake.Poll.RateLimit
import Intake.Store.Directory
import Intake.Store.Memory
import Std.Async

/-!
# The program

Carries out on a real machine what a run of the program asks for: files, connections, clocks and
signals. What to do is decided elsewhere; here it is only done.
-/

namespace Intake.Main

open Std.Async

/-! ## Bytes and addresses -/

def packed (b : Bytes) : ByteArray := ⟨b.toArray⟩

def socketAddress : Net.SocketAddress → Std.Net.SocketAddress
  | .v4 a port =>
    let o (i : Nat) : UInt8 := (a.octets.getD i 0).toUInt8
    .v4 ⟨.ofParts (o 0) (o 1) (o 2) (o 3), port.toUInt16⟩
  | .v6 a _ port =>
    let g (i : Nat) : UInt16 := (a.groups.getD i 0).toUInt16
    .v6 ⟨.ofParts (g 0) (g 1) (g 2) (g 3) (g 4) (g 5) (g 6) (g 7), port.toUInt16⟩

/-- The same address with the port that a socket got. -/
def withPort (a : Net.SocketAddress) (port : Nat) : Net.SocketAddress :=
  match a with
  | .v4 a _ => .v4 a port
  | .v6 a scope _ => .v6 a scope port

def portOf : Std.Net.SocketAddress → Nat
  | .v4 a => a.port.toNat
  | .v6 a => a.port.toNat

/-! ## The log -/

def timeOfDay : IO Nat := do
  return (← Std.Time.Timestamp.now).toMillisecondsSinceUnixEpoch.val.toNat

def write (format : Log.Format) (e : Log.Event) : IO Unit := do
  let now ← timeOfDay
  let fields := e.fields.map fun (n, f) => " " ++ n ++ "=" ++ f.plain
  let line := match format with
    | .json => Json.write (.object (("timestamp", .nat now) :: ("target", .text e.target)
        :: match e.toJson Log.Field.toJson with
          | .object members => members
          | _ => []))
    | .text => Text.decimal now ++ " " ++ e.level.name ++ " " ++ e.target ++ ": " ++ e.name
        ++ String.join fields
  let out ← IO.getStdout
  out.putStrLn line
  out.flush

/-! ## Files -/

def deviceFault (e : IO.Error) : Store.DeviceFault :=
  match e with
  | .noFileOrDirectory .. => .os .notFound
  | .alreadyExists .. => .os .exists
  | .inappropriateType .. => .os .notDirectory
  | .illegalOperation .. => .os .isDirectory
  | .unsatisfiedConstraints .. => .os .notEmpty
  | e => .other (toString e)

def tried {α : Type} (act : IO α) : IO (Except Store.DeviceFault α) := do
  try return .ok (← act)
  catch e => return .error (deviceFault e)

def onDisk (root : String) : (op : Store.Disk.Op) → IO op.Reply
  | .makeDirectories p => tried (IO.FS.createDirAll (at_ p))
  | .write p content => tried (IO.FS.writeBinFile (at_ p) (packed content))
  | .rename source target => tried (IO.FS.rename (at_ source) (at_ target))
  | .read p => tried ((·.toList) <$> IO.FS.readBinFile (at_ p))
  | .removeFile p => tried (IO.FS.removeFile (at_ p))
  | .removeDirectory p => tried (IO.FS.removeDir (at_ p))
where
  at_ (p : Store.Path) : String := String.intercalate "/" (root :: p)

inductive Place
  | memory (m : IO.Ref Store.Memory)
  | directory (root : String)

namespace Place

def ofSettings (s : Settings) : IO Place :=
  match s.storageDirectory with
  | some root => return directory root
  | none => return memory (← IO.mkRef .empty)

def use {α : Type} (p : Place) (inMemory : Store.Memory → α × Store.Memory)
    (onFiles : Store.Disk.Work α) : IO α :=
  match p with
  | memory m => m.modifyGet inMemory
  | directory root => onFiles.carryOut (onDisk root)

end Place

/-! ## Connections -/

partial def receiveAll (c : TCP.Socket.Client) (got : ByteArray) : IO ByteArray := do
  match ← (c.recv? 65536).block with
  | some more => receiveAll c (got ++ more)
  | none => return got

def resolve (host : Option Url.Host) (port : Nat) : IO Std.Net.SocketAddress := do
  let named (name : String) : IO Std.Net.SocketAddress := do
    let found : Array Std.Net.IPAddr ← (DNS.getAddrInfo name "" none).block
    match found.toList with
    | .v4 a :: _ => return .v4 ⟨a, port.toUInt16⟩
    | .v6 a :: _ => return .v6 ⟨a, port.toUInt16⟩
    | [] => throw (IO.userError "unknown host")
  match host with
  | some (.v4 a) => return socketAddress (.v4 a port)
  | some (.v6 a) => return socketAddress (.v6 a 0 port)
  | some (.name s) => named s
  | none => named ""

def exchange (r : Http.Request) : IO (Option Http.Response) := do
  try
    let client ← TCP.Socket.Client.mk
    (client.connect (← resolve r.url.host (r.url.port.getD 80))).block
    (client.send (packed r.encode)).block
    return Http.Response.decode? (← receiveAll client .empty).toList
  catch _ => return none

partial def receiveRequest (c : TCP.Socket.Client) (got : ByteArray) : IO (Option Api.Request) := do
  match Api.Request.read got.toList with
  | .whole r => return some r
  | .broken => return none
  | .incomplete =>
    match ← (c.recv? 65536).block with
    | some more => receiveRequest c (got ++ more)
    | none => return none

/-! ## The service -/

/-- Everything the service works with. -/
structure Host where
  entrance : Api.Entrance
  place : Place
  transform : Remote.Base
  index : Remote.Base
  rate : Poll.RateLimit
  /-- How far polls have used up their rate. -/
  mark : IO.Ref (Option Nat)
  crew : IO.Ref Poll.Crew
  tally : IO.Ref Metrics.Tally
  /-- The number of the next producer. -/
  producers : IO.Ref Nat
  /-- When the crew began, on the machine's clock. -/
  begunAt : Nat
  report : Log.Event → IO Unit

namespace Host

/-- How long to wait before looking again, in milliseconds. -/
def pause : UInt32 := 5

/-- Makes a move of the crew, if it is possible. -/
def move (h : Host) (m : Poll.Crew.Move) : IO Bool := do
  let now := (← IO.monoMsNow) - h.begunAt
  let (events, moved) ← h.crew.modifyGet fun c =>
    let c := { c with now }
    match c.step m with
    | some next => ((next.events.reverse, true), { next with events := [] })
    | none => (([], false), c)
  events.forM h.report
  return moved

/-- Makes a move as soon as it is possible. -/
partial def insist (h : Host) (m : Poll.Crew.Move) : IO Unit := do
  unless ← h.move m do
    IO.sleep pause
    h.insist m

/-- Makes a move as soon as it is possible, unless the crew is told to stop before. -/
partial def hope (h : Host) (m : Poll.Crew.Move) : IO Bool := do
  if (← h.crew.get).isCancelled then return false
  if ← h.move m then return true
  IO.sleep pause
  h.hope m

partial def awaitRate (h : Host) : IO Unit := do
  let now ← IO.monoNanosNow
  unless ← h.mark.modifyGet fun mark => h.rate.check mark now do
    IO.sleep pause
    h.awaitRate

def send {α : Type} (w : Http.Wire α) : IO α := w.carryOut exchange

def freshName : IO String := do
  let b := (← IO.getRandomBytes 16).toList
  let marked := b.zipIdx.map fun (x, i) =>
    if i = 6 then (x &&& 0x0F) ||| 0x40 else if i = 8 then (x &&& 0x3F) ||| 0x80 else x
  return Text.lower (String.ofList (marked.flatMap Text.Percent.hexPair))

def enqueue (h : Host) (dataset statusUrl : String) : IO Unit := do
  let n ← h.producers.modifyGet fun n => (n, n + 1)
  let now := (← IO.monoMsNow) - h.begunAt
  let _ ← h.move (.send n (.new dataset statusUrl now))
  h.insist (.notice n)

def metrics (h : Host) : IO (List String) := do
  let c ← h.crew.get
  let t ← h.tally.get
  let gauge : Metrics.Gauge → Int
    | .queueDepth => c.line.length
    | .busyWorkers => c.workers.length
  return Metrics.exposition [⟨"ingest", .ingest⟩, ⟨"poller", .polling⟩, ⟨"service", .build⟩]
    (fun k => t k + c.tally k) gauge

def answer (h : Host) : (c : Service.Call) → IO c.Reply
  | .store key u => h.place.use (·.store key u) (Store.Directory.store key u)
  | .retrieve key => h.place.use (fun m => (m.retrieve key, m)) (Store.Directory.retrieve key)
  | .delete key => h.place.use (·.delete key) (Store.Directory.delete key)
  | .setStatus key s => h.place.use (·.setStatus key s) (Store.Directory.setStatus key s)
  | .status key => h.place.use (fun m => (m.status key, m)) (Store.Directory.status key)
  | .submit j => send (Remote.submit h.transform j)
  | .poll url => do
    h.awaitRate
    send (Remote.poll url)
  | .discard url => send (Remote.discard url)
  | .fetch location => send (Remote.fetch h.transform location)
  | .index dataset r => send (Remote.index h.index dataset r)
  | .enqueue dataset url => do
    h.enqueue dataset url
    return .ok ()
  | .freshName => freshName
  | .report e => h.report e
  | .count c => h.tally.modify (·.count c)
  | .deadLetters => return (← h.crew.get).letters.records
  | .metrics => h.metrics

def serve (h : Host) (c : TCP.Socket.Client) : IO Unit := do
  try
    match ← receiveRequest c .empty with
    | none => return
    | some r =>
      let a ← (Api.answer h.entrance r).carryOut h.answer
      (c.send (packed a.encode)).block
      c.shutdown.block
  catch _ => return

partial def work (h : Host) (n : Nat) : IO Unit := do
  let some w := (← h.crew.get).worker? n | return
  if w.phase = .polling then
    let life : Poll.Lifecycle := ⟨Service.promote h.entrance.site, Service.reject⟩
    let outcome ← (Poll.attempt life w.task).carryOut h.answer
    let _ ← h.move (.finish n outcome)
    h.work n
  else
    let hasMoved ← if w.phase.isWaiting then h.hope (.work n) else h.move (.work n)
    if hasMoved then h.work n

/-- Takes tasks out of the line and has workers deal with them, until the crew is told to stop. -/
partial def dispatch (h : Host) : IO Unit := do
  if !(← h.crew.get).isCancelled then
    let n := (← h.crew.get).hired
    if ← h.move .takeSlot then pure ()
    else if ← h.move .takeTask then let _ ← IO.asTask (h.work n) .dedicated
    else IO.sleep pause
    h.dispatch

/-- Accepts connections until the crew is told to stop; answers with those that it has served. -/
partial def accept (h : Host) (server : TCP.Socket.Server)
    (served : List (Task (Except IO.Error Unit))) : IO (List (Task (Except IO.Error Unit))) := do
  if (← h.crew.get).isCancelled then return served
  match ← server.tryAccept with
  | some c => h.accept server ((← IO.asTask (h.serve c) .dedicated) :: served)
  | none =>
    IO.sleep pause
    h.accept server served

end Host

/-! ## A run -/

def awaitSignal : IO Launch.Signal := do
  let terminate ← (← Signal.Waiter.mk .sigterm false).wait
  let interrupt ← (← Signal.Waiter.mk .sigint false).wait
  let first ← IO.waitAny [terminate.map fun _ => Launch.Signal.terminate,
    interrupt.map fun _ => .interrupt] (by simp)
  IO.ofExcept first

/-- The cause for which an address cannot be listened on. -/
def listenFault (e : IO.Error) : Launch.ListenFault :=
  match e with
  | .resourceBusy .. => .inUse
  | e => .other (toString e)

def listen (opened : IO.Ref (Option TCP.Socket.Server)) (a : Net.SocketAddress) :
    IO (Except Launch.ListenFault Net.SocketAddress) := do
  try
    let server ← TCP.Socket.Server.mk
    server.bind (socketAddress a)
    server.listen 1024
    opened.set (some server)
    return .ok (withPort a (portOf (← server.getSockName)))
  catch e => return .error (listenFault e)

/-- Serves requests and lets the crew work, until a signal arrives. -/
def serve (server : Option TCP.Socket.Server) (report : Log.Event → IO Unit) (s : Settings)
    (transform index : Remote.Base) (crew : Poll.Crew) : IO (Launch.Signal × Poll.Crew) := do
  let h : Host := {
    entrance := ⟨.ofAddress s.publicBase, s.maxUploadBytes⟩
    place := ← Place.ofSettings s
    transform, index
    rate := .perSecond s.pollRate
    mark := ← IO.mkRef none
    crew := ← IO.mkRef { crew with events := [] }
    tally := ← IO.mkRef .zero
    producers := ← IO.mkRef 0
    begunAt := ← IO.monoMsNow
    report }
  let dispatcher ← IO.asTask h.dispatch .dedicated
  let door ← IO.asTask (server.elim (pure []) (h.accept · [])) .dedicated
  let signal ← awaitSignal
  let crew ← h.crew.modifyGet fun c => (c, { c with isCancelled := true })
  let _ ← IO.wait dispatcher
  match ← IO.wait door with
  | .ok served => served.forM fun t => discard (IO.wait t)
  | .error e => throw e
  return (signal, crew)

def carryOut (format : Log.Format) (opened : IO.Ref (Option TCP.Socket.Server)) :
    (c : Launch.Call) → IO c.Reply
  | .print line => IO.println line
  | .report e => write format e
  | .listen a => listen opened a
  | .serve s transform index crew => do
    serve (← opened.get) (write format) s transform index crew

/-- The text of the file of variables, if there is one. -/
def envFile : IO (Option String) := do
  try return some (← IO.FS.readFile ".env")
  catch _ => return none

end Intake.Main

open Intake in
def main (arguments : List String) : IO UInt32 := do
  let start : Launch.Start := {
    arguments
    environment := (← Std.Internal.UV.System.osEnviron).toList
    envFile := ← Main.envFile
    pid := (← Std.Internal.UV.System.osGetPid).toNat
    startedAt := ← Main.timeOfDay }
  let code ← (Launch.run start).carryOut (Main.carryOut start.format (← IO.mkRef none))
  return code.toUInt32
