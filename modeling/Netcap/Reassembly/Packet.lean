import Netcap.Reassembly.Connection

/-!
# From captured packets to the TCP assembler

`ReassemblePacket` is called once per captured packet, in capture order. It looks for a
decoded TCP layer first: a packet without one is handed to `handleUDP` when it has a UDP
layer and dropped otherwise. A TCP packet is counted; then, unless `c.NoDefrag` is set, its
IPv4 layer goes through the defragmenter, and a packet with no IPv4 layer is dropped. A
packet that survives has its TCP layer handed to `assembler.AssembleWithContext` with its
network flow and capture time, and every `c.FlushEvery` counted packets the assembler is
flushed.

The two lookups read different layers. `packet.Layer(layers.LayerTypeIPv4)` is the first
IPv4 layer gopacket decoded, at any depth (`Packet.ipv4`), while `packet.NetworkLayer()` is
the outermost network layer (`Packet.network`): an IPv4 datagram carried in IPv6 is
defragmented through its inner IPv4 layer and assembled on the flow of the outer IPv6 header.

The order of the two tests decides what the defragmenter can see. gopacket decodes the
payload of an IPv4 fragment as a `Fragment` layer, never as TCP (`Packet.decoded`), so a
fragment leaves `ReassemblePacket` at the first test and never reaches the defragmenter;
only datagrams that are not fragmented reach it, and it hands those back unchanged
(`Defragmenter`). Hence, with defragmentation on, the assembler receives exactly the TCP
layers of the packets with an IPv4 layer, none of them a fragment, on their outermost flows
(`reassemblePackets_segments`): a TCP datagram that arrived in fragments is never assembled,
and neither is TCP over IPv6 that carries no IPv4 layer.

The counters are Go `int`s and `int64`s, two's-complement words added modulo `2^64`. The
defragmenter, the assembler and `handleUDP` are outside the repository. The defragmenter is a
parameter with the contract above; the calls to the assembler and to `handleUDP` are recorded
in the state. A fatal log line or a runtime panic ends the process: it is the error of
`Except`.
-/
namespace Netcap

namespace Reassembly

/-! ### Packets -/

/-- The IPv4 layer, with the header fields `ReassemblePacket` and the defragmenter read. -/
structure IPv4 where
  src : String
  dst : String
  length : Nat
  dontFragment : Bool
  moreFragments : Bool
  fragOffset : Nat
  payload : List UInt8
deriving DecidableEq

/-- gopacket's test for a fragment, which it decodes as `gopacket.Fragment`: `MoreFragments`
set or a non-zero offset. -/
def IPv4.isFragment (ip : IPv4) : Bool := ip.moreFragments || ip.fragOffset != 0

/-- `ip4defrag`'s test for a datagram that needs no defragmentation: `DontFragment` set, or
neither `MoreFragments` nor an offset. -/
def IPv4.dontDefrag (ip : IPv4) : Bool :=
  ip.dontFragment || (!ip.moreFragments && ip.fragOffset == 0)

/-- A network layer of a packet. -/
inductive NetworkLayer
  | ipv4 (ip : IPv4)
  | ipv6 (src dst : String)
deriving DecidableEq

/-- `NetworkFlow()`: source and destination address. -/
def NetworkLayer.networkFlow : NetworkLayer → Flow
  | .ipv4 ip => ⟨ip.src, ip.dst⟩
  | .ipv6 src dst => ⟨src, dst⟩

/-- The layer as a `*layers.IPv4`, if it is one. -/
def NetworkLayer.ipv4? : NetworkLayer → Option IPv4
  | .ipv4 ip => some ip
  | .ipv6 _ _ => none

/-- The layer is an IPv4 fragment. -/
def NetworkLayer.isFragment (n : NetworkLayer) : Bool := n.ipv4?.any IPv4.isFragment

/-- `layers.TCP`, the segment handed to the assembler; `payload` is `tcp.Payload`. -/
structure TCP where
  srcPort : Nat
  dstPort : Nat
  seq : Nat
  payload : List UInt8
deriving DecidableEq

/-- A `gopacket.Packet` as `ReassemblePacket` reads it. -/
structure Packet where
  /-- `packet.Data()`. -/
  data : List UInt8
  /-- The network layers gopacket decoded, outermost first: an IPv4 datagram carried in IPv6
  has both. -/
  networks : List NetworkLayer
  /-- `packet.Layer(layers.LayerTypeTCP)`. -/
  tcp : Option TCP
  /-- Whether `packet.Layer(layers.LayerTypeUDP)` is not `nil`. -/
  udp : Bool
  /-- `packet.Metadata().CaptureInfo.Timestamp`, in nanoseconds. -/
  timestamp : Int
deriving DecidableEq

/-- `packet.NetworkLayer()`: the first network layer decoded, the outermost. -/
def Packet.network (p : Packet) : Option NetworkLayer := p.networks.head?

/-- `packet.Layer(layers.LayerTypeIPv4)`: the first IPv4 layer decoded, at any depth. -/
def Packet.ipv4 (p : Packet) : Option IPv4 := p.networks.findSome? NetworkLayer.ipv4?

/-- What gopacket's decoding guarantees of a packet: a TCP layer sits on a network layer, and
no network layer above it is an IPv4 fragment, whose payload gopacket decodes as a `Fragment`
layer that ends the decoding. -/
def Packet.decoded (p : Packet) : Bool :=
  p.tcp.isNone || (!p.networks.isEmpty && p.networks.all (!·.isFragment))

/-! ### The defragmenter -/

/-- `ip4defrag.IPv4Defragmenter` with state `σ`, and the part of the behaviour of
`DefragIPv4` the model relies on: a datagram that needs no defragmentation is returned as it
is, and nothing is stored. What it does with fragments is left to `defragIPv4`. -/
structure Defragmenter (σ : Type) where
  defragIPv4 : IPv4 → σ → Except String (Option IPv4) × σ
  dontDefrag_eq : ∀ ip d, ip.dontDefrag = true → defragIPv4 ip d = (.ok (some ip), d)

/-! ### `ReassemblePacket` -/

/-- The settings of `c` that `ReassemblePacket` reads. -/
structure PacketConfig where
  noDefrag : Bool
  checksum : Bool
  flushEvery : BitVec 64
  closePendingTimeOut : Int
  closeInactiveTimeOut : Int

/-- What `ReassemblePacket` updates: the counters `count`, `dataBytes`,
`reassemblyStats.ipdefrag` and `reassemblyStats.totalsz`, the defragmenter's state, and the
calls it makes to `handleUDP`, to `assembler.AssembleWithContext` (flow, segment, capture
time) and to `assembler.FlushWithOptions` (`T` and `TC`), in order. -/
structure PacketState (σ : Type) where
  count : BitVec 64
  dataBytes : BitVec 64
  ipdefrag : BitVec 64
  totalsz : BitVec 64
  defrag : σ
  udp : List Packet
  assembled : List (Flow × TCP × Int)
  flushes : List (Int × Int)

variable {σ : Type}

/-- The checksum setup (fatal without a network layer), `totalsz`, and `AssembleWithContext`
on the packet's network flow (a nil pointer without one). -/
def assembleSegment (cfg : PacketConfig) (tcp : TCP) (p : Packet) (s : PacketState σ) :
    Except String (PacketState σ) :=
  match p.network with
  | none =>
    .error (if cfg.checksum then "Failed to set network layer for checksum"
      else "invalid memory address or nil pointer dereference")
  | some net =>
    .ok { s with
      totalsz := s.totalsz + .ofNat 64 tcp.payload.length
      assembled := s.assembled ++ [(net.networkFlow, tcp, p.timestamp)] }

/-- The flush when `count % c.FlushEvery == 0`, a division by zero when `FlushEvery` is `0`. -/
def flushCheck (cfg : PacketConfig) (p : Packet) (s : PacketState σ) :
    Except String (PacketState σ) :=
  if cfg.flushEvery = 0 then .error "integer divide by zero"
  else if s.count.srem cfg.flushEvery = 0 then
    .ok { s with flushes := s.flushes ++
      [(p.timestamp - cfg.closePendingTimeOut, p.timestamp - cfg.closeInactiveTimeOut)] }
  else .ok s

/-- The end of `ReassemblePacket` for a packet to assemble. -/
def assemble (cfg : PacketConfig) (tcp : TCP) (p : Packet) (s : PacketState σ) :
    Except String (PacketState σ) :=
  (assembleSegment cfg tcp p s).bind (flushCheck cfg p)

/-- **`ReassemblePacket`** on one packet. -/
def reassemblePacket (cfg : PacketConfig) (D : Defragmenter σ) (s : PacketState σ)
    (p : Packet) : Except String (PacketState σ) :=
  match p.tcp with
  | none => .ok (if p.udp then { s with udp := s.udp ++ [p] } else s)
  | some tcp =>
    let s := { s with count := s.count + 1, dataBytes := s.dataBytes + .ofNat 64 p.data.length }
    if cfg.noDefrag then assemble cfg tcp p s
    else
      match p.ipv4 with
      | none => .ok s
      | some ip4 =>
        match D.defragIPv4 ip4 s.defrag with
        | (.error e, _) => .error ("Error while de-fragmenting " ++ e)
        | (.ok none, d) => .ok { s with defrag := d }
        | (.ok (some newip4), d) =>
          let s := { s with defrag := d }
          assemble cfg tcp p
            (if newip4.length ≠ ip4.length then { s with ipdefrag := s.ipdefrag + 1 } else s)

/-- `ReassemblePacket` on every packet of a capture, in order, until a fatal error. -/
def reassemblePackets (cfg : PacketConfig) (D : Defragmenter σ) :
    PacketState σ → List Packet → Except String (PacketState σ)
  | s, [] => .ok s
  | s, p :: ps => (reassemblePacket cfg D s p).bind fun s' => reassemblePackets cfg D s' ps

/-! ### A sample capture -/

/-- Defragmentation on, checksums off, a flush every 100 packets. -/
def defragConfig : PacketConfig := ⟨false, false, 100, 60, 120⟩

/-- A TCP segment from port 51000 to port 80 carrying `n` bytes. -/
def sampleSegment (n : Nat) : TCP := ⟨51000, 80, 1, List.replicate n 0x41⟩

/-- An unfragmented TCP packet over IPv6. -/
def ipv6Packet : Packet :=
  ⟨List.replicate 62 0, [.ipv6 "fe80::1" "fe80::2"], some (sampleSegment 2), false, 1⟩

/-- The two fragments of one TCP/IPv4 datagram of 40 bytes: the first carries the 8 bytes at
offset 0, the second the 32 bytes at offset 8 (one unit of 8 bytes). gopacket decodes both
payloads as `Fragment` layers. -/
def fragment₁ : Packet :=
  ⟨List.replicate 42 0, [.ipv4 ⟨"10.0.0.1", "10.0.0.2", 28, false, true, 0,
    List.replicate 8 0⟩], none, false, 2⟩

/-- The last fragment of the datagram. -/
def fragment₂ : Packet :=
  ⟨List.replicate 66 0, [.ipv4 ⟨"10.0.0.1", "10.0.0.2", 52, false, false, 1,
    List.replicate 32 0⟩], none, false, 3⟩

/-- A defragmenter that hands back what needs no defragmentation and keeps every fragment. -/
def keepFragments : Defragmenter (List IPv4) where
  defragIPv4 ip d := if ip.dontDefrag then (.ok (some ip), d) else (.ok none, d ++ [ip])
  dontDefrag_eq ip d h := by simp [h]

/-- The IPv4 header of the unfragmented sample datagram. -/
def sampleIPv4 : IPv4 := ⟨"10.0.0.1", "10.0.0.2", 42, true, false, 0, List.replicate 22 0⟩

/-- An unfragmented TCP packet over IPv4. -/
def ipv4Packet : Packet :=
  ⟨List.replicate 42 0, [.ipv4 sampleIPv4], some (sampleSegment 2), false, 4⟩

/-- The same datagram carried in IPv6. -/
def ipv4InIPv6Packet : Packet :=
  ⟨List.replicate 82 0, [.ipv6 "fe80::1" "fe80::2", .ipv4 sampleIPv4], some (sampleSegment 2),
    false, 5⟩

/-! ### What reaches the assembler -/

/-- The segment a packet contributes to the assembler, as a function of the packet alone: its
TCP layer with the flow of its outermost network layer and its capture time, for a TCP packet
that passes the defragmentation test (any, with `NoDefrag`; one with an IPv4 layer at any
depth, without). -/
def segmentOf (cfg : PacketConfig) (p : Packet) : Option (Flow × TCP × Int) :=
  match p.network, p.tcp with
  | some net, some tcp =>
    if cfg.noDefrag || p.ipv4.isSome then some (net.networkFlow, tcp, p.timestamp) else none
  | _, _ => none

/-- What a run over `ps` did from `s` to `s'`: the defragmenter's state and the `ipdefrag`
counter untouched, one segment per admitted TCP packet, and one count per TCP packet. -/
structure Tracks (cfg : PacketConfig) (ps : List Packet) (s s' : PacketState σ) : Prop where
  defrag : s'.defrag = s.defrag
  ipdefrag : s'.ipdefrag = s.ipdefrag
  assembled : s'.assembled = s.assembled ++ ps.filterMap (segmentOf cfg)
  count : s'.count = s.count + .ofNat 64 (ps.filter (·.tcp.isSome)).length

theorem Tracks.nil (cfg : PacketConfig) (s : PacketState σ) : Tracks cfg [] s s :=
  ⟨rfl, rfl, by simp, by simp⟩

theorem Tracks.cons {cfg : PacketConfig} {p : Packet} {ps : List Packet}
    {s s₁ s' : PacketState σ} (h₁ : Tracks cfg [p] s s₁) (h : Tracks cfg ps s₁ s') :
    Tracks cfg (p :: ps) s s' where
  defrag := h.defrag.trans h₁.defrag
  ipdefrag := h.ipdefrag.trans h₁.ipdefrag
  assembled := by
    rw [h.assembled, h₁.assembled, List.append_assoc, ← List.filterMap_append,
      List.singleton_append]
  count := by
    rw [h.count, h₁.count, BitVec.add_assoc, ← BitVec.ofNat_add, ← List.length_append,
      ← List.filter_append, List.singleton_append]

theorem Tracks.single {cfg : PacketConfig} {p : Packet} {s s' : PacketState σ}
    (hd : s'.defrag = s.defrag) (hi : s'.ipdefrag = s.ipdefrag)
    (ha : s'.assembled = s.assembled ++ (segmentOf cfg p).toList)
    (hc : s'.count = s.count + if p.tcp.isSome then 1 else 0) : Tracks cfg [p] s s' where
  defrag := hd
  ipdefrag := hi
  assembled := by
    rw [ha, List.filterMap_cons, List.filterMap_nil]
    cases segmentOf cfg p <;> rfl
  count := by
    rw [hc]
    simp only [List.filter_cons, List.filter_nil]
    split_ifs <;> rfl

theorem segmentOf_of_tcp_none (cfg : PacketConfig) {p : Packet} (h : p.tcp = none) :
    segmentOf cfg p = none := by
  unfold segmentOf
  split <;> simp_all

/-- A decoded TCP packet has a network layer, and its IPv4 layer, if any, needs no
defragmentation. -/
theorem Packet.decoded_tcp {p : Packet} (hp : p.decoded) (ht : p.tcp.isSome) :
    (∃ net, p.network = some net) ∧ ∀ ip, p.ipv4 = some ip → ip.dontDefrag = true := by
  simp only [Packet.decoded, Option.isNone_iff_eq_none, Bool.or_eq_true, decide_eq_true_eq,
    Bool.and_eq_true, Bool.not_eq_true', List.isEmpty_eq_false, List.all_eq_true,
    Bool.not_eq_true'] at hp
  rcases hp with hn | ⟨hne, hall⟩
  · simp [hn] at ht
  refine ⟨List.head?_isSome.mpr hne |> Option.isSome_iff_exists.mp, fun ip hip => ?_⟩
  obtain ⟨n, hn, hni⟩ := List.exists_of_findSome?_eq_some hip
  have := hall n hn
  simp only [NetworkLayer.isFragment, hni, Option.any_some, IPv4.isFragment, Bool.or_eq_false_iff,
    bne_eq_false_iff_eq] at this
  simp [IPv4.dontDefrag, this]

/-- A packet with an IPv4 layer has a network layer. -/
theorem Packet.network_isSome_of_ipv4 {p : Packet} {ip : IPv4} (h : p.ipv4 = some ip) :
    p.network.isSome := by
  obtain ⟨n, hn, -⟩ := List.exists_of_findSome?_eq_some h
  exact List.head?_isSome.mpr (List.ne_nil_of_mem hn)

/-- The end of `ReassemblePacket` records the segment and leaves the rest alone. -/
theorem assemble_ok (cfg : PacketConfig) (hflush : cfg.flushEvery ≠ 0) (tcp : TCP) {p : Packet}
    {net : NetworkLayer} (hnet : p.network = some net) (s : PacketState σ) :
    ∃ s', assemble cfg tcp p s = .ok s' ∧ s'.defrag = s.defrag ∧ s'.ipdefrag = s.ipdefrag ∧
      s'.count = s.count ∧ s'.assembled = s.assembled ++ [(net.networkFlow, tcp, p.timestamp)] := by
  simp only [assemble, assembleSegment, hnet, Except.bind, flushCheck, hflush, if_false]
  split_ifs <;> exact ⟨_, rfl, rfl, rfl, rfl, rfl⟩

/-- **The step.** On a decoded packet, `ReassemblePacket` does not fail and does what
`Tracks` says. -/
theorem reassemblePacket_tracks (cfg : PacketConfig) (hflush : cfg.flushEvery ≠ 0)
    (D : Defragmenter σ) (s : PacketState σ) {p : Packet} (hp : p.decoded) :
    ∃ s', reassemblePacket cfg D s p = .ok s' ∧ Tracks cfg [p] s s' := by
  unfold reassemblePacket
  cases htcp : p.tcp with
  | none =>
    have hseg := segmentOf_of_tcp_none cfg htcp
    refine ⟨_, rfl, Tracks.single ?_ ?_ ?_ ?_⟩ <;> cases p.udp <;> simp [hseg, htcp]
  | some tcp =>
    obtain ⟨⟨net, hnet⟩, hdd⟩ := Packet.decoded_tcp hp (by simp [htcp])
    let s₁ : PacketState σ :=
      { s with count := s.count + 1, dataBytes := s.dataBytes + .ofNat 64 p.data.length }
    obtain ⟨s', hs', hd, hi, hc, ha⟩ := assemble_ok cfg hflush tcp hnet s₁
    have hc' : s'.count = s.count + if p.tcp.isSome then 1 else 0 := by simp [hc, s₁, htcp]
    cases hnd : cfg.noDefrag
    · cases hip : p.ipv4 with
      | none =>
        refine ⟨s₁, by simp [hip]; rfl, Tracks.single rfl rfl ?_ (by simp [s₁, htcp])⟩
        simp [segmentOf, hnet, htcp, hnd, hip]
      | some ip =>
        refine ⟨s', by simpa [hip, D.dontDefrag_eq ip _ (hdd ip hip)] using hs',
          Tracks.single hd hi ?_ hc'⟩
        simp [ha, segmentOf, hnet, htcp, hip]
    · exact ⟨s', by simpa using hs',
        Tracks.single hd hi (by simp [ha, segmentOf, hnet, htcp, hnd]) hc'⟩

/-- **Every capture, with or without defragmentation.** For every defragmenter and every
capture of decoded packets, with `FlushEvery` non-zero, `ReassemblePacket` never fails, never
changes the defragmenter's state or the `ipdefrag` counter, counts every TCP packet (modulo
`2^64`), and passes to `AssembleWithContext`, in capture order, the segment of every TCP
packet that passes the test, on the flow of its outermost network layer: any packet with
`NoDefrag`, one with an IPv4 layer at any depth without. -/
theorem reassemblePackets_segments (cfg : PacketConfig) (hflush : cfg.flushEvery ≠ 0)
    (D : Defragmenter σ) :
    ∀ (ps : List Packet) (s : PacketState σ), (∀ p ∈ ps, p.decoded) →
      ∃ s', reassemblePackets cfg D s ps = .ok s' ∧ Tracks cfg ps s s'
  | [], s, _ => ⟨s, rfl, Tracks.nil cfg s⟩
  | p :: ps, s, hps => by
    obtain ⟨s₁, h₁, ht₁⟩ :=
      reassemblePacket_tracks cfg hflush D s (hps p (List.mem_cons_self _ _))
    obtain ⟨s', h', ht'⟩ := reassemblePackets_segments cfg hflush D ps s₁
      fun q hq => hps q (List.mem_cons_of_mem _ hq)
    exact ⟨s', by rw [reassemblePackets, h₁]; exact h', ht₁.cons ht'⟩

/-- A capture of an IPv6 packet, a fragmented datagram, an unfragmented IPv4 packet and the
same datagram carried in IPv6. -/
theorem reassemblePackets_segments_sample :
    ∃ s', reassemblePackets defragConfig keepFragments ⟨0, 0, 0, 0, [], [], [], []⟩
        [ipv6Packet, fragment₁, fragment₂, ipv4Packet, ipv4InIPv6Packet] = .ok s' ∧
      Tracks defragConfig [ipv6Packet, fragment₁, fragment₂, ipv4Packet, ipv4InIPv6Packet]
        ⟨0, 0, 0, 0, [], [], [], []⟩ s' :=
  reassemblePackets_segments defragConfig (by decide) keepFragments _ _ (by decide)

/- With defragmentation on, whatever the defragmenter and the state, an unfragmented TCP packet
over IPv6 and the two fragments of a TCP/IPv4 datagram reach neither the assembler nor the
defragmenter. -/
example {σ : Type} (D : Defragmenter σ) (s : PacketState σ) :
    (reassemblePackets defragConfig D s [ipv6Packet, fragment₁, fragment₂]).map
        (fun s' => (s'.assembled, s'.defrag)) =
      .ok (s.assembled, s.defrag) :=
  rfl

/- The IPv4 datagram carried in IPv6 is assembled on the IPv6 flow. -/
example : segmentOf defragConfig ipv4InIPv6Packet =
    some (⟨"fe80::1", "fe80::2"⟩, sampleSegment 2, 5) := rfl

end Reassembly

end Netcap
