import Netcap.Reassembly.Conversation
import Mathlib.Data.List.Infix

/-!
# A TCP connection and its two reader tasks

A `tcpConnection` is driven by two kinds of party. The reassembler calls `ReassembledSG`
with the in-order bytes of one direction, which `feedData` copies into a fragment and sends
on the channel of the client or the server reader; at the end of the connection it calls
`ReassemblyComplete`. Each reader runs as its own task, taking fragments from its channel and
appending them to its `DataSlice`.

The connection is modelled as an interleaving of these parties: a state `ConnSystem` and one
`Action` per step of a party, run by `ConnSystem.step`. A step is atomic, and
`ReassemblyComplete` is one step: in the source the reader tasks go on while it runs, since
its flip holds only the connection's lock, and every result over runs of `ConnSystem` is a
result about interleavings at this granularity only.

`ReassemblyComplete` may *flip* the connection: when the packet that ends it is older than
the connection's first packet and its flow is not the client's, the two readers change roles.
The flip swaps them, reverses the flows, and rewrites the direction tag of every fragment the
readers have already stored. It then saves the merged conversation of the stored fragments,
saves the server's banner, closes both channels (a second close panics and is recovered), and
lets the decoder, upgraded from the server banner when it is still the raw TCP reader, decode
the two streams.

`ConversationRaw` merges with `append(h.client.DataSlice(), h.server.DataSlice()...)`. When
the array behind the client's slice has room for the server's fragments, Go's `append` writes
them into that array and `sort.Sort` then permutes it in place, so the merge rewrites the
client reader's `DataSlice` (`mergedClientSlice`). Whether there is room depends on the
capacity the reader's appends left, which Go's runtime chooses (`Config.grow`): each reader
carries the capacity of its array.

The reader type `tcpStreamReader` is not part of the source; what the connection calls on it
(`DataChan`, `DataSlice`, `SetClient`, `MarkSaved`, `Network`, ...) reads and writes the
fields of `StreamReader`, and its task is `StreamReader.receive`.
-/
namespace Netcap

/-- `gopacket.Flow`: a source and a destination endpoint. -/
structure Flow where
  src : String
  dst : String
deriving DecidableEq, Repr

/-- `Flow.Reverse`. -/
def Flow.reverse (f : Flow) : Flow := ⟨f.dst, f.src⟩

/-- `Stream`: the network and transport flows of one direction of a connection. -/
structure Stream where
  a : Flow
  b : Flow
deriving DecidableEq, Repr

/-- The concrete type behind the connection's `StreamDecoder`. -/
inductive DecoderKind
  | tcp
  | http
  | ssh
  | pop3
deriving DecidableEq, Repr

/-- Modelled from the spec: one side of a connection, the `StreamReader` the connection holds.
The source's `tcpStreamReader` is not in the repository; that it keeps its own flows, ident
and first packet, rather than reading them from its `parent` connection, is an assumption of
the model. -/
structure StreamReader where
  isClient : Bool
  network : Flow
  transport : Flow
  ident : String
  firstPacket : Nat
  /-- The fragments sent on `DataChan()` and not yet received, oldest first. -/
  dataChan : List StreamData
  /-- `DataChan()` has been closed. -/
  closed : Bool
  dataSlice : List StreamData
  /-- `cap(DataSlice())`: the length of the array behind the slice. -/
  cap : Nat
  saved : Bool
  serviceBanner : List UInt8
deriving DecidableEq

/-- `t.client.DataChan() <- d`: a send on a closed channel panics. -/
def StreamReader.send (d : StreamData) (r : StreamReader) : Option StreamReader :=
  if r.closed then none else some { r with dataChan := r.dataChan ++ [d] }

/-- Modelled from the spec: one step of a reader task, which takes the next fragment from its
channel and appends it to its `DataSlice`; it waits while the channel is empty. Go's `append`
keeps the array while it has room and otherwise moves the slice to an array of capacity
`grow r.cap`. -/
def StreamReader.receive (grow : Nat → Nat) (r : StreamReader) : Option StreamReader :=
  match r.dataChan with
  | d :: rest =>
    some { r with dataChan := rest, dataSlice := r.dataSlice ++ [d],
                  cap := if r.dataSlice.length < r.cap then r.cap else grow r.cap }
  | [] => none

/-- `close(r.DataChan())` under `defer recovery()`: closing twice panics, and the panic is
recovered, so closing is idempotent. -/
def StreamReader.close (r : StreamReader) : StreamReader := { r with closed := true }

theorem StreamReader.send_eq_some {d : StreamData} {r r' : StreamReader} :
    r.send d = some r' ↔ r.closed = false ∧ r' = { r with dataChan := r.dataChan ++ [d] } := by
  unfold StreamReader.send
  cases r.closed <;> simp [eq_comm]

theorem StreamReader.receive_eq_some {grow : Nat → Nat} {r r' : StreamReader} :
    r.receive grow = some r' ↔ ∃ d rest, r.dataChan = d :: rest ∧
      r' = { r with dataChan := rest, dataSlice := r.dataSlice ++ [d],
                    cap := if r.dataSlice.length < r.cap then r.cap else grow r.cap } := by
  unfold StreamReader.receive
  cases r.dataChan with
  | nil => simp
  | cons d rest =>
    simp only [Option.some.injEq, List.cons.injEq]
    exact ⟨fun h => ⟨d, rest, ⟨rfl, rfl⟩, h.symm⟩, fun ⟨_, _, ⟨h1, h2⟩, h⟩ => h1 ▸ h2 ▸ h.symm⟩

/-- The fields of `tcpConnection` that `ReassembledSG` and `ReassemblyComplete` read and
write. -/
structure TcpConnection where
  net : Flow
  transport : Flow
  isHTTP : Bool
  isHTTPS : Bool
  isPOP3 : Bool
  isSSH : Bool
  decoder : Option DecoderKind
  client : StreamReader
  server : StreamReader
  firstPacket : Nat
  conv : Conversation

/-! ### `ReassembledSG` -/

/-- `sg.Stats()`. -/
structure SGStats where
  packets : Int
  chunks : Int
  queuedPackets : Int
  queuedBytes : Int
  overlapBytes : Int
  overlapPackets : Int

/-- The scatter-gather view passed to `ReassembledSG`: `sg.Fetch(length)` is `data`,
`sg.Lengths()` is `(data.length, saved)`, and `sg.Info()` gives `dir` and `skip` (its `start`
and `end` only reach a log line). The numbers are Go `int`s. -/
structure ScatterGather where
  data : List UInt8
  saved : Int
  dir : TCPFlowDirection
  skip : Int
  stats : SGStats

/-- The length `sg.Lengths()` reports. -/
def ScatterGather.length (sg : ScatterGather) : Int := sg.data.length

/-- The counters of `reassemblyStats` that `updateStats` writes, Go `int64`s: two's-complement
words, added modulo `2^64` and compared as signed numbers. -/
structure ReassemblyStats where
  missedBytes : BitVec 64
  sz : BitVec 64
  pkt : BitVec 64
  reassembled : BitVec 64
  outOfOrderPackets : BitVec 64
  outOfOrderBytes : BitVec 64
  biggestChunkBytes : BitVec 64
  biggestChunkPackets : BitVec 64
  overlapBytes : BitVec 64
  overlapPackets : BitVec 64
deriving DecidableEq

/-- `updateStats`; `BitVec.ofInt 64` is Go's conversion `int64(x)` of an `int`. -/
def updateStats (sg : ScatterGather) (st : ReassemblyStats) : ReassemblyStats :=
  { missedBytes := if sg.skip > 0 then st.missedBytes + .ofInt 64 sg.skip else st.missedBytes
    sz := st.sz + .ofInt 64 (sg.length - sg.saved)
    pkt := st.pkt + .ofInt 64 sg.stats.packets
    reassembled := if sg.stats.chunks > 1 then st.reassembled + 1 else st.reassembled
    outOfOrderPackets := st.outOfOrderPackets + .ofInt 64 sg.stats.queuedPackets
    outOfOrderBytes := st.outOfOrderBytes + .ofInt 64 sg.stats.queuedBytes
    biggestChunkBytes :=
      if st.biggestChunkBytes.slt (.ofInt 64 sg.length) then .ofInt 64 sg.length
      else st.biggestChunkBytes
    biggestChunkPackets :=
      if st.biggestChunkPackets.slt (.ofInt 64 sg.stats.packets) then .ofInt 64 sg.stats.packets
      else st.biggestChunkPackets
    overlapBytes := st.overlapBytes + .ofInt 64 sg.stats.overlapBytes
    overlapPackets := st.overlapPackets + .ofInt 64 sg.stats.overlapPackets }

/-- The settings `ReassembledSG` and `ReassemblyComplete` read: `c.AllowMissingInit`, the
`streamFactory` switches, and what `ConversationRaw` reads; and the capacity Go's `append`
gives a full `DataSlice` it grows (`growslice`, from the old capacity). -/
structure Config where
  allowMissingInit : Bool
  decodeSSH : Bool
  decodeHTTP : Bool
  decodePOP3 : Bool
  conv : ConvEnv
  grow : Nat → Nat

/-- `feedData`: copy the bytes into a fragment and send it to the client reader for
`TCPDirClientToServer`, to the server reader otherwise. -/
def feedData (dir : TCPFlowDirection) (data : List UInt8) (ac : AssemblerContext)
    (t : TcpConnection) : Option TcpConnection :=
  let d : StreamData := ⟨data, ac, dir⟩
  match dir with
  | .clientToServer => (t.client.send d).map fun r => { t with client := r }
  | .serverToClient => (t.server.send d).map fun r => { t with server := r }

/-- Whether `ReassembledSG` goes on to feed the data: no missing bytes (or only a missing
start with `AllowMissingInit`), the connection's protocol enabled, not HTTPS, and some bytes. -/
def feeds (cfg : Config) (t : TcpConnection) (sg : ScatterGather) : Bool :=
  ((sg.skip = -1 && cfg.allowMissingInit) || sg.skip = 0) &&
    !(t.isSSH && !cfg.decodeSSH) && !(t.isHTTP && !cfg.decodeHTTP) &&
    !(t.isPOP3 && !cfg.decodePOP3) && !t.isHTTPS && decide (sg.length > 0)

/-! ### `ReassemblyComplete` -/

/-- The flip: `SetClient` on both readers, swap them, reverse the flows, and retag the
fragments both readers have stored. -/
def flip (t : TcpConnection) : TcpConnection :=
  let client := { t.server with
    isClient := true
    dataSlice := t.server.dataSlice.map fun d => { d with dir := .clientToServer } }
  let server := { t.client with
    isClient := false
    dataSlice := t.client.dataSlice.map fun d => { d with dir := .serverToClient } }
  { t with client, server, transport := t.transport.reverse, net := t.net.reverse }

/-- The first block of `ReassemblyComplete`: a packet older than the first one moves
`firstPacket` back, and flips the connection when its flow is not the client's. -/
def checkFlip (ac : AssemblerContext) (flow : Flow) (t : TcpConnection) : TcpConnection :=
  if ac.timestamp < t.firstPacket then
    if t.client.network ≠ flow then flip { t with firstPacket := ac.timestamp }
    else { t with firstPacket := ac.timestamp }
  else t

/-- The decoder sniffed from the server banner when it is still the raw TCP reader. -/
def sniffDecoder (banner : List UInt8) : DecoderKind → DecoderKind
  | .tcp =>
    if "HTTP".toUTF8.toList <:+: banner then .http
    else if "SSH".toUTF8.toList <:+: banner then .ssh
    else if "POP server ready".toUTF8.toList <:+: banner then .pop3
    else .tcp
  | d => d

/-- What a connection does outside itself. -/
inductive Effect
  /-- `saveConnection(raw, colored, ident, firstPacket, transport)`. -/
  | saveConnection (raw colored : List UInt8) (ident : String) (firstPacket : Nat)
      (transport : Flow)
  /-- `saveTCPServiceBanner(t.server)`. -/
  | saveTCPServiceBanner (ident : String) (banner : List UInt8)
  /-- `t.decoder.Decode(s2c, c2s)`. -/
  | decode (decoder : DecoderKind) (s2c c2s : Stream)
deriving DecidableEq

/-- The client reader's `DataSlice` after `ConversationRaw`: a call that merges, on an empty
`conversationRaw`, appends the server's fragments to the client's slice; when the client's
array has room for them, `append` writes them into it and `sort.Sort` permutes it in place,
so the client's slice becomes the first fragments of the sorted merge. Otherwise `append`
copies both into a new array and the client's slice is untouched. -/
def mergedClientSlice (e : ConvEnv) (client server : StreamReader) (c : Conversation) :
    List StreamData :=
  if c.raw.length = 0 ∧ client.dataSlice.length + server.dataSlice.length ≤ client.cap then
    (e.sorter.sort (client.dataSlice ++ server.dataSlice)).take client.dataSlice.length
  else client.dataSlice

/-- The rest of `ReassemblyComplete` after its flip check, on the connection: `MarkSaved` and
the close of both channels, the conversation built by `ConversationRaw` with what its merge
does to the client's slice, and the decoder upgraded by `sniffDecoder`. -/
def completeConnection (cfg : Config) (t : TcpConnection) : TcpConnection :=
  { t with
    client := { t.client with
      saved := true, closed := true
      dataSlice := mergedClientSlice cfg.conv t.client t.server t.conv }
    server := { t.server with saved := true, closed := true }
    conv := (conversationRaw cfg.conv t.client.dataSlice t.server.dataSlice t.conv).2
    decoder := t.decoder.map (sniffDecoder t.server.serviceBanner) }

/-- The rest of `ReassemblyComplete` after its flip check, outside the connection:
`saveConnection` of the conversation, `saveTCPServiceBanner`, and `Decode(s2c, c2s)` when
there is a decoder. -/
def completeEffects (cfg : Config) (t : TcpConnection) : List Effect :=
  let conv := conversationRaw cfg.conv t.client.dataSlice t.server.dataSlice t.conv
  [.saveConnection conv.1 (conversationColored conv.2) t.client.ident t.client.firstPacket
      t.client.transport,
    .saveTCPServiceBanner t.server.ident t.server.serviceBanner] ++
  match t.decoder with
  | some d => [.decode (sniffDecoder t.server.serviceBanner d) ⟨t.net.reverse, t.transport.reverse⟩
      ⟨t.net, t.transport⟩]
  | none => []

/-- **`ReassemblyComplete(ac, flow)`**: the flip check, then `completeConnection` and
`completeEffects`; it always returns `false`. -/
def reassemblyComplete (cfg : Config) (ac : AssemblerContext) (flow : Flow)
    (t : TcpConnection) : (TcpConnection × List Effect) × Bool :=
  ((completeConnection cfg (checkFlip ac flow t), completeEffects cfg (checkFlip ac flow t)),
    false)

/-! ### The interleaving -/

/-- A connection with the reassembly counters and what it has done outside itself, and the
ghost list of every fragment `feedData` sent, in order. -/
structure ConnSystem where
  conn : TcpConnection
  stats : ReassemblyStats
  effects : List Effect
  fed : List StreamData

/-- One step of one party. -/
inductive Action
  /-- The reassembler delivers `sg` with context `ac`. -/
  | reassembledSG (sg : ScatterGather) (ac : AssemblerContext)
  /-- The reassembler ends the connection on a packet with context `ac` and flow `flow`. -/
  | reassemblyComplete (ac : AssemblerContext) (flow : Flow)
  /-- The task of the reader in the client slot receives a fragment. -/
  | readClient
  /-- The task of the reader in the server slot receives a fragment. -/
  | readServer

/-- `ReassembledSG(sg, ac)`: update the counters and, when `feeds` holds, feed the data. -/
def reassembledSG (cfg : Config) (sg : ScatterGather) (ac : AssemblerContext) (s : ConnSystem) :
    Option ConnSystem :=
  let s := { s with stats := updateStats sg s.stats }
  if feeds cfg s.conn sg then
    (feedData sg.dir sg.data ac s.conn).map fun t =>
      { s with conn := t, fed := s.fed ++ [⟨sg.data, ac, sg.dir⟩] }
  else some s

/-- One step of the system: `none` when the party cannot take it (a reader on an empty
channel) or when it panics (a send on a closed channel). -/
def ConnSystem.step (cfg : Config) (s : ConnSystem) : Action → Option ConnSystem
  | .reassembledSG sg ac => reassembledSG cfg sg ac s
  | .reassemblyComplete ac flow =>
    let r := reassemblyComplete cfg ac flow s.conn
    some { s with conn := r.1.1, effects := s.effects ++ r.1.2 }
  | .readClient =>
    (s.conn.client.receive cfg.grow).map fun r => { s with conn := { s.conn with client := r } }
  | .readServer =>
    (s.conn.server.receive cfg.grow).map fun r => { s with conn := { s.conn with server := r } }

/-- A run: the steps of an interleaving, in order. -/
def ConnSystem.run (cfg : Config) : ConnSystem → List Action → Option ConnSystem
  | s, [] => some s
  | s, a :: as => (s.step cfg a).bind fun s' => ConnSystem.run cfg s' as

end Netcap
