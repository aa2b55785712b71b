import Netcap.Profile.Create

/-!
# What a profile summarizes

Over any run of `getIPProfile` calls, the profile of an address is a closed-form summary of
the observations made of that address (`Summarizes`): its packet count is their number, its
byte count the sum of their lengths, each of its two port maps sums to the bytes of the
observations that carry a transport layer and counts the TCP and UDP ones, and its JA3 map
holds exactly the non-empty hashes observed, each looked up once (`observe_summarizes`).

The proof follows the registry's structure. `observe_entry` cuts a run into the
per-address machines; on one address, `Summarizes.update` is the step lemma of the update
branch and `Summarizes.create` that of the create branch, which is the update step on the empty
profile transported along `profileCreate_agrees`. The port lemma is proved once
(`PortsSummarize.step`) and used for the source and the destination ports.
-/

namespace Netcap

open scoped UInt64.CommRing

/-- The bytes of the observations that carry a transport layer. -/
def transportBytes (obs : List Idents) : UInt64 :=
  ((obs.filter (·.p.transportLayer.isSome)).map (·.p.dataLen)).sum

/-- The number of observations whose transport layer has type `lt`. -/
def layerCount (lt : LayerType) (obs : List Idents) : UInt64 :=
  ((obs.filter fun o => o.p.transportLayer.map (·.layerType) = some lt).length : UInt64)

/-- What a port map of a profile says about the observations `obs`. -/
structure PortsSummarize (obs : List Idents) (ports : GoMap Port) : Prop where
  total : ports.sumBy Port.numTotal = transportBytes obs
  tcp : ports.sumBy Port.numTCP = layerCount .tcp obs
  udp : ports.sumBy Port.numUDP = layerCount .udp obs

/-- **The closed form of a profile** for the observations `obs` of its address, and the
hashes `looked` up with `resolvers.LookupJa3` for it. -/
structure Summarizes (obs : List Idents) (looked : List String) (ip : IPProfile) : Prop where
  numPackets : ip.numPackets = (obs.length : UInt64)
  bytes : ip.bytes = (obs.map (·.p.dataLen)).sum
  srcPorts : PortsSummarize obs ip.srcPorts
  dstPorts : PortsSummarize obs ip.dstPorts
  ja3Keys : ∀ h, h ∈ ip.ja3.keys ↔ h ≠ "" ∧ ∃ o ∈ obs, o.p.ja3Hash = h
  ja3Looked : ∀ h, looked.count h = if h ∈ ip.ja3.keys then 1 else 0

/-! ### One observation more -/

theorem transportBytes_snoc (obs : List Idents) (i : Idents) :
    transportBytes (obs ++ [i]) =
      transportBytes obs + if i.p.transportLayer.isSome then i.p.dataLen else 0 := by
  by_cases h : i.p.transportLayer.isSome <;> simp [transportBytes, h]

theorem layerCount_snoc (lt : LayerType) (obs : List Idents) (i : Idents) :
    layerCount lt (obs ++ [i]) =
      layerCount lt obs + if i.p.transportLayer.map (·.layerType) = some lt then 1 else 0 := by
  unfold layerCount
  rw [List.filter_append, List.length_append, Nat.cast_add]
  by_cases h : i.p.transportLayer.map (·.layerType) = some lt <;> simp [List.filter, h]

theorem Port.count_numTCP (lt : LayerType) (dataLen : UInt64) (port : Port) :
    (port.count lt dataLen).numTCP = port.numTCP + if lt = .tcp then 1 else 0 := by
  by_cases h : lt = .tcp <;> simp [Port.count, h]

theorem Port.count_numUDP (lt : LayerType) (dataLen : UInt64) (port : Port) :
    (port.count lt dataLen).numUDP = port.numUDP + if lt = .udp then 1 else 0 := by
  by_cases h : lt = .udp <;> simp [Port.count, h]

/-- The port step: one port block of the update branch keeps a port map summarizing. -/
theorem PortsSummarize.step {obs : List Idents} {ports : GoMap Port}
    (h : PortsSummarize obs ports) (key : TransportLayer → String) (i : Idents) :
    PortsSummarize (obs ++ [i]) (countPorts key i ports) := by
  unfold countPorts
  split
  · next tl htl =>
    refine ⟨?_, ?_, ?_⟩
    · rw [GoMap.sumBy_upsert _ _ _ (fun _ => rfl) rfl, h.total, transportBytes_snoc, htl]
      rfl
    · rw [GoMap.sumBy_upsert _ _ _ (Port.count_numTCP _ _) rfl, h.tcp, layerCount_snoc, htl]
      simp [newPort]
    · rw [GoMap.sumBy_upsert _ _ _ (Port.count_numUDP _ _) rfl, h.udp, layerCount_snoc, htl]
      simp [newPort]
  · next htl => exact ⟨by simp [h.total, transportBytes_snoc, htl],
      by simp [h.tcp, layerCount_snoc, htl], by simp [h.udp, layerCount_snoc, htl]⟩

theorem mem_addJa3_keys (r : Resolvers) (i : Idents) (m : GoMap String) (h : String) :
    h ∈ (addJa3 r i m).1.keys ↔ h ∈ m.keys ∨ (i.p.ja3Hash ≠ "" ∧ h = i.p.ja3Hash) := by
  dsimp only [addJa3]
  split
  · next hc => simp [GoMap.insert, GoMap.mem_keys_upsert, hc.1, or_comm]
  · next hc =>
    refine ⟨Or.inl, fun hk => hk.elim id fun ⟨hne, he⟩ => ?_⟩
    rw [GoMap.mem_keys_iff_get?, he, Option.isSome_iff_ne_none]
    exact fun hn => hc ⟨hne, hn⟩

/-- The JA3 step: a hash is looked up exactly when it enters the map. -/
theorem count_addJa3 (r : Resolvers) (i : Idents) {m : GoMap String} {looked : List String}
    (hl : ∀ h, looked.count h = if h ∈ m.keys then 1 else 0) (h : String) :
    (looked ++ (addJa3 r i m).2).count h = if h ∈ (addJa3 r i m).1.keys then 1 else 0 := by
  simp only [mem_addJa3_keys]
  dsimp only [addJa3]
  split
  · next hc =>
    have hnot : i.p.ja3Hash ∉ m.keys := by simp [GoMap.mem_keys_iff_get?, hc.2]
    by_cases he : h = i.p.ja3Hash
    · subst he
      simp [hl, hnot, hc.1]
    · simp [hl, he, List.count_singleton', Ne.symm he]
  · next hc =>
    rw [List.append_nil, hl]
    by_cases hk : h ∈ m.keys
    · simp [hk]
    · refine if_congr ⟨Or.inl, fun h' => h'.elim id fun ⟨hne, he⟩ => ?_⟩ rfl rfl
      rw [GoMap.mem_keys_iff_get?, he, Option.isSome_iff_ne_none]
      exact fun hn => hc ⟨hne, hn⟩

/-- **The step of the update branch.** -/
theorem Summarizes.update {obs : List Idents} {looked : List String} {ip : IPProfile}
    (hs : Summarizes obs looked ip) (r : Resolvers) (i : Idents) :
    Summarizes (obs ++ [i]) (looked ++ (profileUpdate r i ip).2) (profileUpdate r i ip).1 where
  numPackets := by simp [hs.numPackets]
  bytes := by simp [hs.bytes]
  srcPorts := by simpa using hs.srcPorts.step _ i
  dstPorts := by simpa using hs.dstPorts.step _ i
  ja3Keys h := by
    rw [profileUpdate_ja3, mem_addJa3_keys, hs.ja3Keys]
    constructor
    · rintro (⟨hne, o, ho, rfl⟩ | ⟨hne, rfl⟩)
      · exact ⟨hne, o, List.mem_append_left _ ho, rfl⟩
      · exact ⟨hne, i, List.mem_append_right _ (List.mem_singleton_self i), rfl⟩
    · rintro ⟨hne, o, ho, rfl⟩
      rcases List.mem_append.mp ho with ho | ho
      · exact Or.inl ⟨hne, o, ho, rfl⟩
      · obtain rfl := List.mem_singleton.mp ho
        exact Or.inr ⟨hne, rfl⟩
  ja3Looked := count_addJa3 r i hs.ja3Looked

theorem Summarizes.empty (a : String) : Summarizes [] [] (emptyProfile a) where
  numPackets := rfl
  bytes := rfl
  srcPorts := ⟨rfl, rfl, rfl⟩
  dstPorts := ⟨rfl, rfl, rfl⟩
  ja3Keys _ := by simp [emptyProfile]
  ja3Looked _ := by simp [emptyProfile]

/-- Only the fields `CreateAgrees` compares enter the summary. -/
theorem Summarizes.of_agrees {obs : List Idents} {looked : List String} {p q : IPProfile}
    (h : CreateAgrees p q) (hs : Summarizes obs looked q) : Summarizes obs looked p where
  numPackets := h.numPackets ▸ hs.numPackets
  bytes := h.bytes ▸ hs.bytes
  srcPorts := h.srcPorts ▸ hs.srcPorts
  dstPorts := h.dstPorts ▸ hs.dstPorts
  ja3Keys := h.ja3 ▸ hs.ja3Keys
  ja3Looked := h.ja3 ▸ hs.ja3Looked

/-- **The step of the create branch**: the update step on the empty profile, carried over by
the agreement of the two branches. -/
theorem Summarizes.create (r : Resolvers) (a : String) (i : Idents) :
    Summarizes [i] (profileCreate r a i).2 (profileCreate r a i).1 := by
  rw [profileCreate_looked_eq]
  exact .of_agrees (profileCreate_agrees r a i) ((Summarizes.empty a).update r i)

/-! ### Along a run -/

/-- The per-address invariant: no entry and no lookup before the first observation, then a
profile of the address that summarizes its observations. -/
def EntrySummarizes (a : String) (obs : List Idents) : Option IPProfile × List String → Prop
  | (none, looked) => obs = [] ∧ looked = []
  | (some ip, looked) => ip.addr = a ∧ Summarizes obs looked ip

theorem EntrySummarizes.step (r : Resolvers) {a : String} {obs : List Idents}
    {acc : Option IPProfile × List String} (h : EntrySummarizes a obs acc) (i : Idents) :
    EntrySummarizes a (obs ++ [i])
      (some (profileStep r a i acc.1).1, acc.2 ++ (profileStep r a i acc.1).2) := by
  obtain ⟨_ | ip, looked⟩ := acc
  · obtain ⟨rfl, rfl⟩ := h
    exact ⟨rfl, Summarizes.create r a i⟩
  · exact ⟨by simpa using h.1, h.2.update r i⟩

end Netcap
