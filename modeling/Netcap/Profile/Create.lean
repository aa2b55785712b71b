import Netcap.Profile.Registry

/-!
# The create branch against the update branch

For a new address `getIPProfile` builds the profile in its create branch; for a known one it
updates it in its update branch. The two are written separately. Compared with the update
branch run on an empty profile (`emptyProfile`), the create branch installs the same counters
and the same port, JA3 and protocol maps, and makes the same JA3 lookups
(`profileCreate_agrees`). It differs in two fields:

* `TimestampLast`: the create branch sets `TimestampFirst` only, where the update branch sets
  `TimestampLast`. From the second observation of the address on, the two agree again.
* `SNIs`: the update branch counts only a non-empty SNI (`if ch.SNI != ""`), while the create
  branch stores `sniMap[ch.SNI] = 1` for every client hello, so a first packet whose client
  hello has an empty SNI leaves the entry `"" ↦ 1` (`createSNIs_of_hasEmptySNI`).

Agreement in any field is kept by every further update (`foldl_update_congr`), which lifts the
comparison to whole runs of the registry (`observe_agrees_updateFold`).

The create branch fills the protocol map with plain assignments where the update branch counts
packets of known protocols; the two agree because the DPI results of one packet come in a Go
map, whose keys are distinct (`createProtocols_eq`).
-/

namespace Netcap

open scoped UInt64.CommRing

/-- The empty profile of `a` the update branch is compared on: no packets, no bytes, empty
maps. -/
def emptyProfile (a : String) : IPProfile :=
  { addr := a, numPackets := 0, geolocation := "", dnsNames := [], timestampFirst := "",
    timestampLast := "", ja3 := .empty, protocols := .empty, bytes := 0,
    srcPorts := .empty, dstPorts := .empty, snis := .empty }

/-- The fold of the update branch over the observations `obs`, from the empty profile of `a`. -/
def updateFold (r : Resolvers) (a : String) (obs : List Idents) : IPProfile :=
  obs.foldl (fun ip i => (profileUpdate r i ip).1) (emptyProfile a)

/-- The packet carries a client hello whose SNI is empty. -/
def Idents.HasEmptySNI (i : Idents) : Prop := ∃ ch, i.p.clientHello = some ch ∧ ch.sni = ""

/-- Agreement of two profiles in every field a first observation writes: the counters,
`TimestampLast`, and the port, SNI, JA3 and protocol maps. -/
structure BranchesAgree (p q : IPProfile) : Prop where
  numPackets : p.numPackets = q.numPackets
  bytes : p.bytes = q.bytes
  timestampLast : p.timestampLast = q.timestampLast
  srcPorts : p.srcPorts = q.srcPorts
  dstPorts : p.dstPorts = q.dstPorts
  snis : p.snis = q.snis
  ja3 : p.ja3 = q.ja3
  protocols : p.protocols = q.protocols

/-- Agreement of two profiles in the fields where the two branches agree by design. -/
structure CreateAgrees (p q : IPProfile) : Prop where
  addr : p.addr = q.addr
  numPackets : p.numPackets = q.numPackets
  bytes : p.bytes = q.bytes
  srcPorts : p.srcPorts = q.srcPorts
  dstPorts : p.dstPorts = q.dstPorts
  ja3 : p.ja3 = q.ja3
  protocols : p.protocols = q.protocols

/-! ### Block by block -/

theorem createPorts_eq (key : TransportLayer → String) (i : Idents) :
    createPorts key i = countPorts key i GoMap.empty := by
  unfold createPorts countPorts
  split <;> rfl

theorem createJa3_eq (r : Resolvers) (i : Idents) : createJa3 r i = addJa3 r i GoMap.empty := by
  simp [createJa3, addJa3]

/-- Assigning each result of a map and counting each one agree from a map that has none of
its keys: every key is then new when it is reached. -/
theorem foldl_insert_eq_countProtocols (r : Resolvers) :
    ∀ (es : List (String × DPIResult)) (acc : GoMap Protocol), (es.map Prod.fst).Nodup →
      (∀ e ∈ es, e.1 ∉ acc.keys) →
      es.foldl (fun m e => m.insert e.1 (r.newProto e.2)) acc = countProtocols r es acc
  | [], _, _, _ => rfl
  | e :: es, acc, hnd, hfresh => by
    have hnd' := List.nodup_cons.mp hnd
    have hacc : acc.insert e.1 (r.newProto e.2) =
        acc.upsert e.1 (fun prot => { prot with packets := prot.packets + 1 }) (r.newProto e.2) :=
      GoMap.upsert_eq_of_not_mem (hfresh e (List.mem_cons_self _ _)) _ _ _
    refine (congrArg (fun m => es.foldl _ m) hacc).trans
      (foldl_insert_eq_countProtocols r es _ hnd'.2 fun e' he' hk => ?_)
    rcases (GoMap.mem_keys_upsert _ _ _ _ _).mp hk with h | h
    · exact hnd'.1 (h ▸ List.mem_map_of_mem Prod.fst he')
    · exact hfresh e' (List.mem_cons_of_mem _ he') h

theorem createProtocols_eq (r : Resolvers) (results : GoMap DPIResult) :
    createProtocols r results.entries = countProtocols r results.entries GoMap.empty :=
  foldl_insert_eq_countProtocols r _ _ results.nodup (fun _ _ h => by simp at h)

theorem createSNIs_eq {i : Idents} (h : ¬ i.HasEmptySNI) :
    createSNIs i = countSNIs i GoMap.empty := by
  unfold createSNIs countSNIs
  split
  · next ch hch =>
    have hne : ch.sni ≠ "" := fun he => h ⟨ch, hch, he⟩
    simp only [hne, ne_eq, not_false_eq_true, if_true]
    rfl
  · rfl

/-- **The SNI difference.** On a first packet whose client hello has an empty SNI, the create
branch stores `"" ↦ 1` where the update branch stores nothing. -/
theorem createSNIs_of_hasEmptySNI {i : Idents} (h : i.HasEmptySNI) :
    (createSNIs i).get? "" = some 1 ∧ countSNIs i GoMap.empty = GoMap.empty := by
  obtain ⟨ch, hch, he⟩ := h
  simp [createSNIs, countSNIs, hch, he]

/-- The create branch agrees with the update branch on the empty profile in the counters and
the port, JA3 and protocol maps. -/
theorem profileCreate_agrees (r : Resolvers) (a : String) (i : Idents) :
    CreateAgrees (profileCreate r a i).1 (profileUpdate r i (emptyProfile a)).1 where
  addr := rfl
  numPackets := by simp [emptyProfile]
  bytes := by simp [emptyProfile]
  srcPorts := createPorts_eq _ i
  dstPorts := createPorts_eq _ i
  ja3 := show (createJa3 r i).1 = (addJa3 r i GoMap.empty).1 from
    congrArg Prod.fst (createJa3_eq r i)
  protocols := createProtocols_eq r i.p.protocols

theorem profileCreate_looked_eq (r : Resolvers) (a : String) (i : Idents) :
    (profileCreate r a i).2 = (profileUpdate r i (emptyProfile a)).2 :=
  show (createJa3 r i).2 = (addJa3 r i GoMap.empty).2 from congrArg Prod.snd (createJa3_eq r i)

/-! ### Along a run -/

theorem CreateAgrees.update {p q : IPProfile} (h : CreateAgrees p q) (r : Resolvers)
    (i : Idents) : CreateAgrees (profileUpdate r i p).1 (profileUpdate r i q).1 where
  addr := by simp [h.addr]
  numPackets := by simp [h.numPackets]
  bytes := by simp [h.bytes]
  srcPorts := by simp [h.srcPorts]
  dstPorts := by simp [h.dstPorts]
  ja3 := by simp [h.ja3]
  protocols := by simp [h.protocols]

/-- A relation between profiles that every update keeps is kept by any number of updates. -/
theorem foldl_update_congr (r : Resolvers) (P : IPProfile → IPProfile → Prop)
    (hP : ∀ i p q, P p q → P (profileUpdate r i p).1 (profileUpdate r i q).1) :
    ∀ (obs : List Idents) (p q : IPProfile), P p q →
      P (obs.foldl (fun ip i => (profileUpdate r i ip).1) p)
        (obs.foldl (fun ip i => (profileUpdate r i ip).1) q)
  | [], _, _, h => h
  | i :: obs, p, q, h => foldl_update_congr r P hP obs _ _ (hP i p q h)

/-- Once an address has a profile, the per-address machine only runs the update branch. -/
theorem profileFold_some (r : Resolvers) (a : String) :
    ∀ (obs : List Idents) (p : IPProfile) (looked : List String),
      (profileFold r a (some p, looked) obs).1 =
        some (obs.foldl (fun ip i => (profileUpdate r i ip).1) p)
  | [], _, _ => rfl
  | _ :: obs, _, _ => profileFold_some r a obs _ _

/-- The profile of an address after a run of the registry: the create branch on its first
observation, then the update branch on the others. -/
theorem observe_get?_eq (r : Resolvers) {calls : List (String × Idents)} {a : String}
    {ip : IPProfile} (h : (observe r Registry.init calls).items.get? a = some ip) :
    ∃ o os, obsOf calls a = o :: os ∧
      ip = os.foldl (fun ip i => (profileUpdate r i ip).1) (profileCreate r a o).1 := by
  have he := congrArg Prod.fst (observe_entry r a (observe_length_ne_zero r h) calls Registry.init)
  rw [h] at he
  rcases hobs : obsOf calls a with _ | ⟨o, os⟩
  · rw [hobs] at he
    cases he
  · rw [hobs, profileFold, profileFold_some] at he
    exact ⟨o, os, rfl, Option.some.inj he⟩

/-- **The registry against the update fold.** The profile of an address after any run agrees
with the fold of the update branch over its observations in the counters and the port, JA3
and protocol maps; in `TimestampLast` once it has two observations or more; and in `SNIs` when
its first observation has no client hello with an empty SNI. -/
theorem observe_agrees_updateFold (r : Resolvers) {calls : List (String × Idents)} {a : String}
    {ip : IPProfile} (h : (observe r Registry.init calls).items.get? a = some ip) :
    CreateAgrees ip (updateFold r a (obsOf calls a)) ∧
      (2 ≤ (obsOf calls a).length →
        ip.timestampLast = (updateFold r a (obsOf calls a)).timestampLast) ∧
      (∀ o, (obsOf calls a).head? = some o → ¬ o.HasEmptySNI →
        ip.snis = (updateFold r a (obsOf calls a)).snis) := by
  obtain ⟨o, os, hobs, rfl⟩ := observe_get?_eq r h
  simp only [hobs, updateFold, List.foldl_cons]
  refine ⟨foldl_update_congr r CreateAgrees (fun i _ _ hpq => hpq.update r i) os _ _
      (profileCreate_agrees r a o), fun hlen => ?_, fun o' ho' hsni => ?_⟩
  · obtain ⟨o', os', rfl⟩ : ∃ o' os', os = o' :: os' := List.exists_cons_of_ne_nil
      (fun hnil => by simp [hobs, hnil] at hlen)
    exact foldl_update_congr r (fun p q => p.timestampLast = q.timestampLast)
      (fun i _ _ _ => rfl) os' _ _ rfl
  · obtain rfl : o = o' := by simpa using ho'
    exact foldl_update_congr r (fun p q => p.snis = q.snis) (fun i _ _ hpq => by simp [hpq]) os
      _ _ (by simpa using createSNIs_eq hsni)

/-! ### The two branches on a first observation -/

/-- The create branch does not install what the update branch makes of the empty profile: on
any observation with a non-empty timestamp the two differ in `TimestampLast`. -/
theorem profileCreate_timestampLast_differs :
    ¬ ∀ (r : Resolvers) (a : String) (i : Idents),
      BranchesAgree (profileCreate r a i).1 (profileUpdate r i (emptyProfile a)).1 := fun h =>
  absurd (h ⟨fun _ => "", fun _ => "", fun _ => "", fun _ => [], fun d => ⟨1, d.category⟩, true⟩
    "10.0.0.1" ⟨"1", ⟨[], none, none, "", "", GoMap.empty⟩⟩).timestampLast (by decide)

/-- **Create against update, by design.** The create branch installs what the update branch
makes of the empty profile in the counters, the port, JA3 and protocol maps and the JA3 lookups;
in `SNIs` too unless the packet's client hello has an empty SNI; it leaves `TimestampLast`
empty where the update branch sets it. After any run, the profile of an address agrees in the
same fields with the update fold over its observations, and in `TimestampLast` from the second
observation on. -/
theorem profileCreate_agrees_update (r : Resolvers) (a : String) (i : Idents) :
    CreateAgrees (profileCreate r a i).1 (profileUpdate r i (emptyProfile a)).1 ∧
      (profileCreate r a i).2 = (profileUpdate r i (emptyProfile a)).2 ∧
      (¬ i.HasEmptySNI →
        (profileCreate r a i).1.snis = (profileUpdate r i (emptyProfile a)).1.snis) ∧
      (profileCreate r a i).1.timestampLast = "" ∧
      (profileUpdate r i (emptyProfile a)).1.timestampLast = i.timestamp ∧
      ∀ (calls : List (String × Idents)) (ip : IPProfile),
        (observe r Registry.init calls).items.get? a = some ip →
        CreateAgrees ip (updateFold r a (obsOf calls a)) ∧
          (2 ≤ (obsOf calls a).length →
            ip.timestampLast = (updateFold r a (obsOf calls a)).timestampLast) ∧
          (∀ o, (obsOf calls a).head? = some o → ¬ o.HasEmptySNI →
            ip.snis = (updateFold r a (obsOf calls a)).snis) :=
  ⟨profileCreate_agrees r a i, profileCreate_looked_eq r a i,
    fun h => by simpa using createSNIs_eq h, rfl, rfl, fun _ _ h => observe_agrees_updateFold r h⟩

end Netcap
