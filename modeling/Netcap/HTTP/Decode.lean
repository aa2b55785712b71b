import Netcap.Reassembly.Packet

/-!
# The older packet path: `DecodeHTTP`

`DecodeHTTP` is the per-packet function of the HTTP encoder, older than `ReassemblePacket`
and doing the same work in another order. It counts every packet; then, unless defragmentation
is off, it returns on a packet without an IPv4 layer and hands the IPv4 layer of every other
packet, the first gopacket decoded at any depth, fragment or not, to the defragmenter,
returning when the defragmenter holds it back.
When the defragmenter hands back a datagram of another length, a reassembled one, its payload
is decoded into the packet, so that the TCP layer looked up next is that of the whole datagram
when the packet had none. Only then does it look for a TCP layer to assemble, and every packet
that gets that far is tested for the flush, TCP or not.

Two results set it beside `ReassemblePacket`:

* `decodeHTTPs_defrag`: with defragmentation on and a defragmenter that does not fail, every
  IPv4 layer of a capture reaches the defragmenter, in capture order, and every packet is
  counted, whereas under `ReassemblePacket` no fragment ever reaches it;
* `decodeHTTPs_segments`: on every capture without IPv4 fragments the two functions pass the
  same segments to the assembler, those of `segmentOf`.

`DecodeHTTP` reads its settings from the package's flags, `*nodefrag`, `*checksum`,
`*flushevery`, `timeout` and `closeTimeout`, where `ReassemblePacket` reads the fields of `c`;
the model takes both sets as a `PacketConfig`. Decoding a reassembled payload is gopacket's
work: it is the parameter `decodeTCP`, the TCP layer decoded from a datagram's payload, if any.
-/

namespace Netcap

namespace Reassembly

variable {σ : Type}

/-- The end of `DecodeHTTP` once the packet's TCP layer is known: the segment of a TCP packet
is assembled, then every packet is tested for the flush. -/
def decodeTail (cfg : PacketConfig) (tcp : Option TCP) (p : Packet) (s : PacketState σ) :
    Except String (PacketState σ) :=
  (match tcp with
    | some tcp => assembleSegment cfg tcp p s
    | none => .ok s).bind (flushCheck cfg p)

/-- **`DecodeHTTP`** on one packet. -/
def decodeHTTP (cfg : PacketConfig) (D : Defragmenter σ) (decodeTCP : IPv4 → Option TCP)
    (s : PacketState σ) (p : Packet) : Except String (PacketState σ) :=
  let s := { s with count := s.count + 1, dataBytes := s.dataBytes + .ofNat 64 p.data.length }
  if cfg.noDefrag then decodeTail cfg p.tcp p s
  else
    match p.ipv4 with
    | none => .ok s
    | some ip4 =>
      match D.defragIPv4 ip4 s.defrag with
      | (.error e, _) => .error ("Error while de-fragmenting " ++ e)
      | (.ok none, d) => .ok { s with defrag := d }
      | (.ok (some newip4), d) =>
        let s := { s with defrag := d }
        if newip4.length ≠ ip4.length then
          decodeTail cfg (p.tcp.orElse fun _ => decodeTCP newip4) p
            { s with ipdefrag := s.ipdefrag + 1 }
        else decodeTail cfg p.tcp p s

/-- `DecodeHTTP` on every packet of a capture, in order, until a fatal error. -/
def decodeHTTPs (cfg : PacketConfig) (D : Defragmenter σ) (decodeTCP : IPv4 → Option TCP) :
    PacketState σ → List Packet → Except String (PacketState σ)
  | s, [] => .ok s
  | s, p :: ps => (decodeHTTP cfg D decodeTCP s p).bind fun s' => decodeHTTPs cfg D decodeTCP s' ps

/-! ### The end of the function -/

/-- The segment `decodeTail` assembles: the TCP layer with the network flow. -/
def tailSegment (tcp : Option TCP) (p : Packet) : Option (Flow × TCP × Int) :=
  match tcp, p.network with
  | some tcp, some net => some (net.networkFlow, tcp, p.timestamp)
  | _, _ => none

theorem decodeTail_ok (cfg : PacketConfig) (hflush : cfg.flushEvery ≠ 0) {tcp : Option TCP}
    {p : Packet} (hnet : tcp.isSome → p.network.isSome) (s : PacketState σ) :
    ∃ s', decodeTail cfg tcp p s = .ok s' ∧ s'.defrag = s.defrag ∧ s'.count = s.count ∧
      s'.assembled = s.assembled ++ (tailSegment tcp p).toList := by
  have hf : ∀ s : PacketState σ, ∃ s', flushCheck cfg p s = .ok s' ∧ s'.defrag = s.defrag ∧
      s'.count = s.count ∧ s'.assembled = s.assembled := fun s => by
    unfold flushCheck
    simp only [hflush, if_false]
    split_ifs <;> exact ⟨_, rfl, rfl, rfl, rfl⟩
  cases tcp with
  | none =>
    obtain ⟨s', h, h₁, h₂, h₃⟩ := hf s
    exact ⟨s', h, h₁, h₂, by simp [h₃, tailSegment]⟩
  | some tcp =>
    obtain ⟨net, hn⟩ := Option.isSome_iff_exists.mp (hnet rfl)
    obtain ⟨s', h, h₁, h₂, h₃⟩ := hf { s with
      totalsz := s.totalsz + .ofNat 64 tcp.payload.length
      assembled := s.assembled ++ [(net.networkFlow, tcp, p.timestamp)] }
    exact ⟨s', by simpa [decodeTail, assembleSegment, hn] using h, h₁, h₂,
      by simp [h₃, tailSegment, hn]⟩

/-! ### Every IPv4 layer reaches the defragmenter -/

/-- The state of the defragmenter after it has been handed the IPv4 layers `ips`, in order. -/
def Defragmenter.feed (D : Defragmenter σ) (d : σ) (ips : List IPv4) : σ :=
  ips.foldl (fun d ip => (D.defragIPv4 ip d).2) d

theorem decodeHTTP_defrag (cfg : PacketConfig) (hnd : cfg.noDefrag = false)
    (hflush : cfg.flushEvery ≠ 0) (D : Defragmenter σ)
    (hD : ∀ ip d, ∃ r, (D.defragIPv4 ip d).1 = .ok r) (decodeTCP : IPv4 → Option TCP)
    (s : PacketState σ) (p : Packet) :
    ∃ s', decodeHTTP cfg D decodeTCP s p = .ok s' ∧
      s'.defrag = D.feed s.defrag p.ipv4.toList ∧ s'.count = s.count + 1 := by
  have hnet : ∀ (tcp : Option TCP) ip4, p.ipv4 = some ip4 → tcp.isSome → p.network.isSome :=
    fun _ _ h _ => Packet.network_isSome_of_ipv4 h
  unfold decodeHTTP
  simp only [hnd, Bool.false_eq_true, if_false]
  cases hip : p.ipv4 with
  | none => exact ⟨_, rfl, rfl, rfl⟩
  | some ip4 =>
    obtain ⟨r, hr⟩ := hD ip4 s.defrag
    rcases hres : D.defragIPv4 ip4 s.defrag with ⟨res, d⟩
    simp only [hres] at hr
    subst hr
    have hfeed : D.feed s.defrag [ip4] = d := by simp [Defragmenter.feed, hres]
    dsimp only
    rw [hres]
    rcases r with _ | newip4
    · exact ⟨_, rfl, hfeed.symm, rfl⟩
    · dsimp only
      split_ifs <;>
        exact (decodeTail_ok cfg hflush (hnet _ ip4 hip) _).imp fun _ ⟨h, h₁, h₂, _⟩ =>
          ⟨h, h₁.trans hfeed.symm, h₂⟩

/-- **Every IPv4 layer reaches the defragmenter.** With defragmentation on, `FlushEvery`
non-zero and a defragmenter that does not fail, `DecodeHTTP` never fails on any capture; it
hands to the defragmenter, in capture order, the IPv4 layer `packet.Layer(LayerTypeIPv4)`
finds at any depth of every packet that has one, fragments included, and counts every packet,
TCP or not, modulo `2^64`. -/
theorem decodeHTTPs_defrag (cfg : PacketConfig) (hnd : cfg.noDefrag = false)
    (hflush : cfg.flushEvery ≠ 0) (D : Defragmenter σ)
    (hD : ∀ ip d, ∃ r, (D.defragIPv4 ip d).1 = .ok r) (decodeTCP : IPv4 → Option TCP) :
    ∀ (ps : List Packet) (s : PacketState σ),
      ∃ s', decodeHTTPs cfg D decodeTCP s ps = .ok s' ∧
        s'.defrag = D.feed s.defrag (ps.filterMap Packet.ipv4) ∧
        s'.count = s.count + .ofNat 64 ps.length
  | [], s => ⟨s, rfl, rfl, by simp⟩
  | p :: ps, s => by
    obtain ⟨s₁, h₁, hd₁, hc₁⟩ := decodeHTTP_defrag cfg hnd hflush D hD decodeTCP s p
    obtain ⟨s', h', hd', hc'⟩ := decodeHTTPs_defrag cfg hnd hflush D hD decodeTCP ps s₁
    refine ⟨s', by rw [decodeHTTPs, h₁]; exact h', ?_,
      by rw [hc', hc₁, List.length_cons]; bv_omega⟩
    rw [hd', hd₁, List.filterMap_cons]
    cases p.ipv4 <;> rfl

/-- A capture of an IPv6 packet, a fragmented datagram, an unfragmented IPv4 packet and the
same datagram carried in IPv6, with a defragmenter that keeps fragments. -/
theorem decodeHTTPs_defrag_sample :
    ∃ s', decodeHTTPs defragConfig keepFragments (fun _ => none) ⟨0, 0, 0, 0, [], [], [], []⟩
        [ipv6Packet, fragment₁, fragment₂, ipv4Packet, ipv4InIPv6Packet] = .ok s' ∧
      s'.defrag = keepFragments.feed []
        ([ipv6Packet, fragment₁, fragment₂, ipv4Packet, ipv4InIPv6Packet].filterMap Packet.ipv4) ∧
      s'.count =
        0 + .ofNat 64 [ipv6Packet, fragment₁, fragment₂, ipv4Packet, ipv4InIPv6Packet].length :=
  decodeHTTPs_defrag defragConfig rfl (by decide) keepFragments
    (fun ip d => by by_cases h : ip.dontDefrag <;> simp [keepFragments, h]) _ _ _

/-! ### Agreement with `ReassemblePacket` on unfragmented traffic -/

theorem segmentOf_of_ipv4_none {cfg : PacketConfig} (hnd : cfg.noDefrag = false) {p : Packet}
    (h : p.ipv4 = none) : segmentOf cfg p = none := by
  unfold segmentOf
  split <;> simp [hnd, h]

theorem decodeHTTP_segment (cfg : PacketConfig) (hflush : cfg.flushEvery ≠ 0)
    (D : Defragmenter σ) (decodeTCP : IPv4 → Option TCP) (s : PacketState σ) {p : Packet}
    (hp : p.decoded) (hfrag : ∀ ip, p.ipv4 = some ip → ip.isFragment = false) :
    ∃ s', decodeHTTP cfg D decodeTCP s p = .ok s' ∧ s'.defrag = s.defrag ∧
      s'.assembled = s.assembled ++ (segmentOf cfg p).toList := by
  have hnet : p.tcp.isSome → p.network.isSome := fun ht =>
    Option.isSome_iff_exists.mpr (Packet.decoded_tcp hp ht).1
  have hseg : ∀ s : PacketState σ, tailSegment p.tcp p = segmentOf cfg p →
      ∃ s', decodeTail cfg p.tcp p s = .ok s' ∧ s'.defrag = s.defrag ∧
        s'.assembled = s.assembled ++ (segmentOf cfg p).toList := fun s he =>
    (decodeTail_ok cfg hflush hnet s).imp fun _ ⟨h, h₁, _, h₃⟩ => ⟨h, h₁, he ▸ h₃⟩
  unfold decodeHTTP
  cases hnd : cfg.noDefrag
  · simp only [Bool.false_eq_true, if_false]
    cases hip : p.ipv4 with
    | none => exact ⟨_, rfl, rfl, by simp [segmentOf_of_ipv4_none hnd hip]⟩
    | some ip4 =>
      have hdd : ip4.dontDefrag = true := by
        have := hfrag ip4 hip
        simp only [IPv4.isFragment, Bool.or_eq_false_iff, bne_eq_false_iff_eq] at this
        simp [IPv4.dontDefrag, this]
      simp only [D.dontDefrag_eq ip4 _ hdd, ne_eq, not_true_eq_false, if_false]
      exact hseg _ (by
        cases htcp : p.tcp <;> cases hn : p.network <;>
          simp [tailSegment, segmentOf, htcp, hn, hip])
  · exact hseg _ (by
      cases htcp : p.tcp <;> cases hn : p.network <;> simp [tailSegment, segmentOf, htcp, hn, hnd])

/-- **The two paths agree on unfragmented traffic.** On every capture of decoded packets
without an IPv4 fragment, with `FlushEvery` non-zero, `DecodeHTTP` never fails, leaves the
defragmenter's state alone, and passes to the assembler, in capture order, exactly the
segments `ReassemblePacket` passes: the TCP layer of every TCP packet with an IPv4 layer at any
depth, or of every TCP packet with defragmentation off, on the flow of its outermost network
layer. -/
theorem decodeHTTPs_segments (cfg : PacketConfig) (hflush : cfg.flushEvery ≠ 0)
    (D : Defragmenter σ) (decodeTCP : IPv4 → Option TCP) :
    ∀ (ps : List Packet) (s : PacketState σ),
      (∀ p ∈ ps, p.decoded ∧ ∀ ip, p.ipv4 = some ip → ip.isFragment = false) →
      ∃ s', decodeHTTPs cfg D decodeTCP s ps = .ok s' ∧ s'.defrag = s.defrag ∧
        s'.assembled = s.assembled ++ ps.filterMap (segmentOf cfg)
  | [], s, _ => ⟨s, rfl, rfl, by simp⟩
  | p :: ps, s, hps => by
    obtain ⟨hp, hf⟩ := hps p (List.mem_cons_self _ _)
    obtain ⟨s₁, h₁, hd₁, ha₁⟩ := decodeHTTP_segment cfg hflush D decodeTCP s hp hf
    obtain ⟨s', h', hd', ha'⟩ := decodeHTTPs_segments cfg hflush D decodeTCP ps s₁
      fun q hq => hps q (List.mem_cons_of_mem _ hq)
    refine ⟨s', by rw [decodeHTTPs, h₁]; exact h', hd'.trans hd₁, ?_⟩
    rw [ha', ha₁, List.append_assoc, List.filterMap_cons]
    cases segmentOf cfg p <;> rfl

/-- The IPv6 packet, the unfragmented IPv4 packet and the same datagram carried in IPv6. -/
theorem decodeHTTPs_segments_sample :
    ∃ s', decodeHTTPs defragConfig keepFragments (fun _ => none) ⟨0, 0, 0, 0, [], [], [], []⟩
        [ipv6Packet, ipv4Packet, ipv4InIPv6Packet] = .ok s' ∧ s'.defrag = [] ∧
      s'.assembled =
        [] ++ [ipv6Packet, ipv4Packet, ipv4InIPv6Packet].filterMap (segmentOf defragConfig) :=
  decodeHTTPs_segments defragConfig (by decide) keepFragments _ _ _ (by decide)

end Reassembly

end Netcap
