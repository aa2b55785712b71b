import Netcap.GoMap
import Mathlib.Data.UInt
import Mathlib.Data.List.Dedup

/-!
# The IP profile registry

`getIPProfile` (`encoder/ipProfile.go`) keeps one `types.IPProfile` per source address in the
process-wide map `ipProfiles.Items`. A call with an empty address returns `nil`. A call with a
known address takes the **update branch**: it bumps the packet and byte counters, records the
transport ports, the TLS server name, the JA3 hash and the DPI protocols of the packet in the
profile's maps. A call with a new address takes the **create branch**, which builds the same
maps from scratch for the one packet, resolves geolocation and DNS names, and installs the
profile.

The two branches are written separately in the source and do not do quite the same thing:
the create branch records the SNI of a client hello even when it is empty, and sets
`TimestampFirst` but not `TimestampLast`. `Netcap.Profile.Create` compares them.

The model reads a packet through what the code asks of it (`Packet`): its bytes, its
transport layer, its client hello, its JA3 and JA3S digests and its DPI results. The lookups
into external databases are the fields of `Resolvers`. Each update of the source is one
function here with its projection lemmas, so the invariants of `Netcap.Profile.Summary` never
unfold `getIPProfile`.

A run of calls is the calls one after another (`observe`). `getIPProfile` locks a known
profile while it updates it, but takes no lock on the registry around its lookup and its
insertion of a new profile; that the calls do not overlap is assumed of its callers, which
are outside the repository.

The counters are Go `uint64` (and `int64` for `NumPackets` and the SNI counts, which wrap the
same way); they are `UInt64` here, so every sum is taken modulo `2^64`.
-/

namespace Netcap

open scoped UInt64.CommRing

/-! ### What the registry reads of a packet -/

/-- The layer type of a transport layer, as `getIPProfile` distinguishes them. -/
inductive LayerType
  | tcp
  | udp
  | other
deriving DecidableEq, Repr

/-- `i.p.TransportLayer()`: its type and the string forms of its source and destination
ports (`tl.TransportFlow().Src().String()`, `tl.TransportFlow().Dst().String()`). -/
structure TransportLayer where
  layerType : LayerType
  src : String
  dst : String
deriving DecidableEq, Repr

/-- `tlsx.GetClientHelloBasic(i.p)` when it is not `nil`; the registry reads its `SNI`. -/
structure ClientHelloBasic where
  sni : String
deriving DecidableEq, Repr

/-- A DPI classification of the packet, the value type of `dpi.GetProtocols`. -/
structure DPIResult where
  protocol : String
  category : String
deriving DecidableEq, Repr

/-- The packet as `getIPProfile` reads it. -/
structure Packet where
  /-- `i.p.Data()`. -/
  data : List UInt8
  /-- `i.p.TransportLayer()`. -/
  transportLayer : Option TransportLayer
  /-- `tlsx.GetClientHelloBasic(i.p)`. -/
  clientHello : Option ClientHelloBasic
  /-- `ja3.DigestHexPacket(i.p)`, empty when the packet is no client hello. -/
  ja3 : String
  /-- `ja3.DigestHexPacketJa3s(i.p)`, empty when the packet is no server hello. -/
  ja3s : String
  /-- `dpi.GetProtocols(i.p)`, keyed by protocol name. -/
  protocols : GoMap DPIResult
deriving DecidableEq

/-- The part of `idents` that `getIPProfile` reads: the packet and its timestamp string. -/
structure Idents where
  timestamp : String
  p : Packet
deriving DecidableEq

/-- `uint64(len(i.p.Data()))`. -/
def Packet.dataLen (p : Packet) : UInt64 := (p.data.length : UInt64)

/-- The hash both branches record: `ja3.DigestHexPacket`, or `ja3.DigestHexPacketJa3s` when the
former is empty. -/
def Packet.ja3Hash (p : Packet) : String := if p.ja3 = "" then p.ja3s else p.ja3

/-! ### Profiles -/

/-- `types.Port`: what a profile counts per port. -/
structure Port where
  numTotal : UInt64
  numTCP : UInt64
  numUDP : UInt64
deriving DecidableEq, Repr

/-- `types.Protocol`: what a profile records per DPI protocol. -/
structure Protocol where
  packets : UInt64
  category : String
deriving DecidableEq, Repr

/-- `types.IPProfile`. -/
structure IPProfile where
  addr : String
  numPackets : UInt64
  geolocation : String
  dnsNames : List String
  timestampFirst : String
  timestampLast : String
  ja3 : GoMap String
  protocols : GoMap Protocol
  bytes : UInt64
  srcPorts : GoMap Port
  dstPorts : GoMap Port
  snis : GoMap UInt64
deriving DecidableEq

/-- The lookups of `getIPProfile` into external data: the JA3 description database, the
geolocation database, the DNS resolvers, `dpi.NewProto`, and the package flag `LocalDNS`. -/
structure Resolvers where
  lookupJa3 : String → String
  lookupGeolocation : String → String
  lookupDNSNameLocal : String → String
  lookupDNSNames : String → List String
  newProto : DPIResult → Protocol
  localDNS : Bool

/-! ### The port counters

The source and destination port blocks of each branch are the same code on a different map and
key, so each is one definition here, applied to `TransportLayer.src` and `TransportLayer.dst`. -/

/-- The port a branch adds for a packet of `dataLen` bytes: `&types.Port{NumTotal: dataLen}`,
then `NumTCP++` or `NumUDP++` by the layer type. -/
def newPort (lt : LayerType) (dataLen : UInt64) : Port :=
  { numTotal := dataLen
    numTCP := if lt = .tcp then 1 else 0
    numUDP := if lt = .udp then 1 else 0 }

/-- The update of a known port: `port.NumTotal += dataLen`, then `NumTCP++` or `NumUDP++`. -/
def Port.count (lt : LayerType) (dataLen : UInt64) (port : Port) : Port :=
  { numTotal := port.numTotal + dataLen
    numTCP := if lt = .tcp then port.numTCP + 1 else port.numTCP
    numUDP := if lt = .udp then port.numUDP + 1 else port.numUDP }

/-- A port block of the update branch: count the packet on the port `key tl` of `ports`. -/
def countPorts (key : TransportLayer → String) (i : Idents) (ports : GoMap Port) :
    GoMap Port :=
  match i.p.transportLayer with
  | some tl => ports.upsert (key tl) (Port.count tl.layerType i.p.dataLen)
      (newPort tl.layerType i.p.dataLen)
  | none => ports

/-- A port block of the create branch: a fresh map holding the one port `key tl`. -/
def createPorts (key : TransportLayer → String) (i : Idents) : GoMap Port :=
  match i.p.transportLayer with
  | some tl => GoMap.empty.insert (key tl) (newPort tl.layerType i.p.dataLen)
  | none => GoMap.empty

/-! ### The update branch -/

/-- The TLS block of the update branch: `p.ip.SNIs[ch.SNI]++` for a non-empty SNI. -/
def countSNIs (i : Idents) (snis : GoMap UInt64) : GoMap UInt64 :=
  match i.p.clientHello with
  | some ch => if ch.sni ≠ "" then snis.upsert ch.sni (· + 1) 1 else snis
  | none => snis

/-- The JA3 block of the update branch: a non-empty hash not yet in the map is looked up and
added. Also returns the hashes looked up with `resolvers.LookupJa3`. -/
def addJa3 (r : Resolvers) (i : Idents) (ja3 : GoMap String) : GoMap String × List String :=
  let h := i.p.ja3Hash
  if h ≠ "" ∧ ja3.get? h = none then (ja3.insert h (r.lookupJa3 h), [h]) else (ja3, [])

/-- The DPI loop of the update branch: `prot.Packets++` for a known protocol, else
`p.ip.Protocols[proto] = dpi.NewProto(&res)`. -/
def countProtocols (r : Resolvers) (results : List (String × DPIResult))
    (protos : GoMap Protocol) : GoMap Protocol :=
  results.foldl (fun m e => m.upsert e.1 (fun prot => { prot with packets := prot.packets + 1 })
    (r.newProto e.2)) protos

/-- **The update branch** of `getIPProfile` on a known profile `ip`: the updated profile and the
hashes looked up with `resolvers.LookupJa3`. Each field is updated by its own block. -/
def profileUpdate (r : Resolvers) (i : Idents) (ip : IPProfile) : IPProfile × List String :=
  ({ ip with
     numPackets := ip.numPackets + 1
     timestampLast := i.timestamp
     bytes := ip.bytes + i.p.dataLen
     srcPorts := countPorts TransportLayer.src i ip.srcPorts
     dstPorts := countPorts TransportLayer.dst i ip.dstPorts
     snis := countSNIs i ip.snis
     ja3 := (addJa3 r i ip.ja3).1
     protocols := countProtocols r i.p.protocols.entries ip.protocols },
   (addJa3 r i ip.ja3).2)

section UpdateProjections

variable (r : Resolvers) (i : Idents) (ip : IPProfile)

@[simp] theorem profileUpdate_addr : (profileUpdate r i ip).1.addr = ip.addr := rfl
@[simp] theorem profileUpdate_numPackets :
    (profileUpdate r i ip).1.numPackets = ip.numPackets + 1 := rfl
@[simp] theorem profileUpdate_bytes : (profileUpdate r i ip).1.bytes = ip.bytes + i.p.dataLen := rfl
@[simp] theorem profileUpdate_timestampLast :
    (profileUpdate r i ip).1.timestampLast = i.timestamp := rfl
@[simp] theorem profileUpdate_srcPorts :
    (profileUpdate r i ip).1.srcPorts = countPorts TransportLayer.src i ip.srcPorts := rfl
@[simp] theorem profileUpdate_dstPorts :
    (profileUpdate r i ip).1.dstPorts = countPorts TransportLayer.dst i ip.dstPorts := rfl
@[simp] theorem profileUpdate_snis : (profileUpdate r i ip).1.snis = countSNIs i ip.snis := rfl
@[simp] theorem profileUpdate_ja3 : (profileUpdate r i ip).1.ja3 = (addJa3 r i ip.ja3).1 := rfl
@[simp] theorem profileUpdate_protocols :
    (profileUpdate r i ip).1.protocols = countProtocols r i.p.protocols.entries ip.protocols := rfl
@[simp] theorem profileUpdate_looked : (profileUpdate r i ip).2 = (addJa3 r i ip.ja3).2 := rfl

end UpdateProjections

/-! ### The create branch -/

/-- The DNS names of a new profile: the local hosts file when `LocalDNS`, else the resolver. -/
def dnsNamesOf (r : Resolvers) (ipAddr : String) : List String :=
  if r.localDNS then
    let name := r.lookupDNSNameLocal ipAddr
    if name.length ≠ 0 then [name] else []
  else r.lookupDNSNames ipAddr

/-- `ja3Map` of the create branch and the hashes looked up to build it. -/
def createJa3 (r : Resolvers) (i : Idents) : GoMap String × List String :=
  let h := i.p.ja3Hash
  if h ≠ "" then (GoMap.empty.insert h (r.lookupJa3 h), [h]) else (GoMap.empty, [])

/-- `sniMap` of the create branch: `sniMap[ch.SNI] = 1` for any client hello. -/
def createSNIs (i : Idents) : GoMap UInt64 :=
  match i.p.clientHello with
  | some ch => GoMap.empty.insert ch.sni 1
  | none => GoMap.empty

/-- `protos` of the create branch: `protos[proto] = dpi.NewProto(&res)` for every result. -/
def createProtocols (r : Resolvers) (results : List (String × DPIResult)) : GoMap Protocol :=
  results.foldl (fun m e => m.insert e.1 (r.newProto e.2)) GoMap.empty

/-- **The create branch** of `getIPProfile` for the new address `ipAddr`: the profile it
installs and the hashes looked up with `resolvers.LookupJa3`. -/
def profileCreate (r : Resolvers) (ipAddr : String) (i : Idents) : IPProfile × List String :=
  ({ addr := ipAddr
     numPackets := 1
     geolocation := r.lookupGeolocation ipAddr
     dnsNames := dnsNamesOf r ipAddr
     timestampFirst := i.timestamp
     timestampLast := ""
     ja3 := (createJa3 r i).1
     protocols := createProtocols r i.p.protocols.entries
     bytes := i.p.dataLen
     srcPorts := createPorts TransportLayer.src i
     dstPorts := createPorts TransportLayer.dst i
     snis := createSNIs i },
   (createJa3 r i).2)

section CreateProjections

variable (r : Resolvers) (a : String) (i : Idents)

@[simp] theorem profileCreate_addr : (profileCreate r a i).1.addr = a := rfl
@[simp] theorem profileCreate_numPackets : (profileCreate r a i).1.numPackets = 1 := rfl
@[simp] theorem profileCreate_bytes : (profileCreate r a i).1.bytes = i.p.dataLen := rfl
@[simp] theorem profileCreate_timestampLast : (profileCreate r a i).1.timestampLast = "" := rfl
@[simp] theorem profileCreate_srcPorts :
    (profileCreate r a i).1.srcPorts = createPorts TransportLayer.src i := rfl
@[simp] theorem profileCreate_dstPorts :
    (profileCreate r a i).1.dstPorts = createPorts TransportLayer.dst i := rfl
@[simp] theorem profileCreate_snis : (profileCreate r a i).1.snis = createSNIs i := rfl
@[simp] theorem profileCreate_ja3 : (profileCreate r a i).1.ja3 = (createJa3 r i).1 := rfl
@[simp] theorem profileCreate_protocols :
    (profileCreate r a i).1.protocols = createProtocols r i.p.protocols.entries := rfl
@[simp] theorem profileCreate_looked : (profileCreate r a i).2 = (createJa3 r i).2 := rfl

end CreateProjections

/-! ### The registry -/

/-- `ipProfiles`, with a ghost record of the `resolvers.LookupJa3` calls made so far: the
address whose profile each call was made for, and the hash. -/
structure Registry where
  items : GoMap IPProfile
  ja3Lookups : List (String × String)

/-- The registry at process start. -/
def Registry.init : Registry := ⟨GoMap.empty, []⟩

/-- The branch `getIPProfile` takes on a non-empty address: update when the address has a
profile, create otherwise. -/
def profileStep (r : Resolvers) (ipAddr : String) (i : Idents) :
    Option IPProfile → IPProfile × List String
  | some ip => profileUpdate r i ip
  | none => profileCreate r ipAddr i

/-- **`getIPProfile`**: `nil` for an empty address; otherwise the branch of `profileStep`, and
the resulting profile is (re)installed under `ipAddr`. -/
def getIPProfile (r : Resolvers) (ipAddr : String) (i : Idents) (s : Registry) :
    Option IPProfile × Registry :=
  if ipAddr.length = 0 then (none, s)
  else
    let q := profileStep r ipAddr i (s.items.get? ipAddr)
    (some q.1, ⟨s.items.insert ipAddr q.1, s.ja3Lookups ++ q.2.map (ipAddr, ·)⟩)

/-- A run of `getIPProfile` calls, each an address and an observation, in order. -/
def observe (r : Resolvers) (s : Registry) : List (String × Idents) → Registry
  | [] => s
  | c :: calls => observe r (getIPProfile r c.1 c.2 s).2 calls

/-- The observations made of the address `a` in a run. -/
def obsOf (calls : List (String × Idents)) (a : String) : List Idents :=
  (calls.filter (·.1 = a)).map (·.2)

/-- The hashes looked up with `resolvers.LookupJa3` for the profile of `a`. -/
def lookupsOf (s : Registry) (a : String) : List String :=
  (s.ja3Lookups.filter (·.1 = a)).map (·.2)

/-- The entry of one address and the hashes looked up for it, after the observations `obs`
of that address, from the state `acc`: the per-address machine `getIPProfile` runs. -/
def profileFold (r : Resolvers) (a : String) (acc : Option IPProfile × List String) :
    List Idents → Option IPProfile × List String
  | [] => acc
  | i :: obs =>
    let q := profileStep r a i acc.1
    profileFold r a (some q.1, acc.2 ++ q.2) obs

@[simp] theorem obsOf_nil (a : String) : obsOf [] a = [] := rfl

theorem obsOf_cons (c : String × Idents) (calls : List (String × Idents)) (a : String) :
    obsOf (c :: calls) a = if c.1 = a then c.2 :: obsOf calls a else obsOf calls a := by
  by_cases h : c.1 = a <;> simp [obsOf, List.filter_cons, h]

/-- One call of `getIPProfile` as seen from the address `a`: when the call is for `a`, the
per-address step; otherwise neither the entry of `a` nor its lookups change. -/
theorem getIPProfile_entry (r : Resolvers) (b a : String) (i : Idents) (s : Registry)
    (ha : a.length ≠ 0) :
    (((getIPProfile r b i s).2.items.get? a, lookupsOf (getIPProfile r b i s).2 a) =
      if b = a then
        let q := profileStep r a i (s.items.get? a)
        (some q.1, lookupsOf s a ++ q.2)
      else (s.items.get? a, lookupsOf s a)) := by
  by_cases hb : b = a
  · subst hb
    simp [getIPProfile, ha, lookupsOf, List.filter_append, List.filter_map, Function.comp_def]
  · unfold getIPProfile
    split
    · simp [hb]
    · simp [hb, lookupsOf, GoMap.get?_insert_of_ne _ _ (Ne.symm hb), List.filter_append,
        List.filter_map, Function.comp_def]

/-- **The registry is a family of per-address machines.** After any run, the entry of a
non-empty address and the hashes looked up for it are what `profileFold` computes from the
observations of that address alone. -/
theorem observe_entry (r : Resolvers) (a : String) (ha : a.length ≠ 0) :
    ∀ (calls : List (String × Idents)) (s : Registry),
      ((observe r s calls).items.get? a, lookupsOf (observe r s calls) a) =
        profileFold r a (s.items.get? a, lookupsOf s a) (obsOf calls a)
  | [], s => rfl
  | c :: calls, s => by
    rw [observe, observe_entry r a ha calls, getIPProfile_entry r c.1 a c.2 s ha, obsOf_cons]
    split <;> rfl

/-- The empty address never gets a profile. -/
theorem observe_get?_empty (r : Resolvers) :
    ∀ (calls : List (String × Idents)) (s : Registry), s.items.get? "" = none →
      (observe r s calls).items.get? "" = none
  | [], _, h => h
  | c :: calls, s, h => by
    refine observe_get?_empty r calls _ ?_
    unfold getIPProfile
    split
    · exact h
    · have hc : "" ≠ c.1 := fun he => ‹¬c.1.length = 0› (he ▸ rfl)
      simpa [GoMap.get?_insert_of_ne _ _ hc] using h

/-- A profile in the registry after a run has a non-empty address. -/
theorem observe_length_ne_zero (r : Resolvers) {calls : List (String × Idents)} {a : String}
    {ip : IPProfile} (h : (observe r Registry.init calls).items.get? a = some ip) :
    a.length ≠ 0 := fun h0 => by
  obtain rfl : a = "" := String.ext (List.eq_nil_of_length_eq_zero h0)
  rw [observe_get?_empty r calls Registry.init rfl] at h
  cases h

/-- `AtomicIPProfileMap.Size`: the number of profiles in the registry. -/
def Registry.size (s : Registry) : Nat := s.items.keys.length

theorem profileFold_fst_isSome (r : Resolvers) (a : String) :
    ∀ (obs : List Idents) (acc : Option IPProfile × List String),
      (profileFold r a acc obs).1.isSome = (acc.1.isSome || !obs.isEmpty)
  | [], acc => by simp [profileFold]
  | i :: obs, acc => by simp [profileFold, profileFold_fst_isSome r a obs]

/-- The addresses with a profile after a run from the empty registry: the non-empty addresses
the calls were made for. -/
theorem observe_mem_keys (r : Resolvers) (calls : List (String × Idents)) (a : String) :
    a ∈ (observe r Registry.init calls).items.keys ↔ a ≠ "" ∧ a ∈ calls.map (·.1) := by
  rw [GoMap.mem_keys_iff_get?]
  by_cases ha : a = ""
  · subst ha
    simp [observe_get?_empty r calls Registry.init rfl]
  · have hl : a.length ≠ 0 := fun h0 => ha (String.ext (List.eq_nil_of_length_eq_zero h0))
    have he : (observe r Registry.init calls).items.get? a =
        (profileFold r a (none, []) (obsOf calls a)).1 :=
      congrArg Prod.fst (observe_entry r a hl calls Registry.init)
    rw [he]
    simp [profileFold_fst_isSome, obsOf, ha, List.filter_eq_nil_iff]

/-- **One profile per address.** After any run of `getIPProfile` calls from the empty
registry, the addresses with a profile are exactly the non-empty addresses the calls were made
for, each with one profile (the map has no duplicate key), and `Size` is their number. -/
theorem observe_size (r : Resolvers) (calls : List (String × Idents)) :
    let s := observe r Registry.init calls
    (∀ a, a ∈ s.items.keys ↔ a ≠ "" ∧ a ∈ calls.map (·.1)) ∧ s.items.keys.Nodup ∧
      s.size = ((calls.map (·.1)).filter (· ≠ "")).dedup.length := by
  refine ⟨observe_mem_keys r calls, (observe r Registry.init calls).items.nodup, ?_⟩
  refine ((List.perm_ext_iff_of_nodup (observe r Registry.init calls).items.nodup
    (List.nodup_dedup _)).2 fun a => ?_).length_eq
  rw [List.mem_dedup, List.mem_filter, decide_eq_true_eq, and_comm]
  exact observe_mem_keys r calls a

end Netcap
