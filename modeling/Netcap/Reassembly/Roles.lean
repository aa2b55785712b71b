import Netcap.Reassembly.Race

/-!
# The roles of the two readers

The flip of `ReassemblyComplete` swaps the two readers, marks the new client reader as client
and the new server reader as server, and reverses the connection's flows. It keeps the readers
in their roles (`TcpConnection.RolesAgree`): the client reader is marked client and reads the
connection's flows, the server reader the reversed ones, along every interleaving
(`run_rolesAgree`).

A completion on a packet older than the first one makes the sender of that packet the client,
and every effect of the completion names the readers in their new roles
(`reassemblyComplete_roles`). Along a whole interleaving the flips compose: `firstPacket` ends
as the time of the oldest packet seen and the client reader is the one on that packet's flow
(`run_client_oldest`).
-/

namespace Netcap

/-! ### The roles of the two readers -/

@[simp] theorem Flow.reverse_reverse (f : Flow) : f.reverse.reverse = f := rfl

/-- The readers play the roles of their slots: the client reader is marked client and reads
the connection's flows, the server reader is marked server and reads them reversed. -/
structure TcpConnection.RolesAgree (t : TcpConnection) : Prop where
  client : t.client.isClient = true
  server : t.server.isClient = false
  clientNet : t.client.network = t.net
  clientTransport : t.client.transport = t.transport
  serverNet : t.server.network = t.net.reverse
  serverTransport : t.server.transport = t.transport.reverse

namespace TcpConnection.RolesAgree

variable {t t' : TcpConnection}

/-- The flip swaps the readers, marks them and reverses the flows: the roles still agree. -/
theorem flip (h : t.RolesAgree) : (Netcap.flip t).RolesAgree :=
  ⟨rfl, rfl, h.serverNet, h.serverTransport, h.clientNet, h.clientTransport⟩

theorem checkFlip (h : t.RolesAgree) (ac : AssemblerContext) (flow : Flow) :
    (Netcap.checkFlip ac flow t).RolesAgree := by
  unfold Netcap.checkFlip
  split_ifs
  · exact flip ⟨h.1, h.2, h.3, h.4, h.5, h.6⟩
  · exact ⟨h.1, h.2, h.3, h.4, h.5, h.6⟩
  · exact h

theorem completeConnection (h : t.RolesAgree) (cfg : Config) :
    (Netcap.completeConnection cfg t).RolesAgree :=
  ⟨h.1, h.2, h.3, h.4, h.5, h.6⟩

theorem feedData (h : t.RolesAgree) {dir : TCPFlowDirection} {data : List UInt8}
    {ac : AssemblerContext} (hf : Netcap.feedData dir data ac t = some t') : t'.RolesAgree := by
  cases dir <;> obtain ⟨r, hr, rfl⟩ := Option.map_eq_some'.mp hf <;>
    obtain ⟨-, rfl⟩ := StreamReader.send_eq_some.mp hr <;> exact ⟨h.1, h.2, h.3, h.4, h.5, h.6⟩

/-- **The step.** No step of the system puts a reader in the wrong role. -/
theorem step {cfg : Config} {s s' : ConnSystem} {a : Action} (h : s.conn.RolesAgree)
    (hs : s.step cfg a = some s') : s'.conn.RolesAgree := by
  cases a with
  | reassembledSG sg ac =>
    simp only [ConnSystem.step, reassembledSG] at hs
    split at hs
    · obtain ⟨t, ht, rfl⟩ := Option.map_eq_some'.mp hs
      exact h.feedData ht
    · cases hs
      exact h
  | reassemblyComplete ac flow =>
    cases hs
    exact (h.checkFlip ac flow).completeConnection cfg
  | readClient | readServer =>
    obtain ⟨r, hr, rfl⟩ := Option.map_eq_some'.mp hs
    obtain ⟨_, _, -, rfl⟩ := StreamReader.receive_eq_some.mp hr
    exact ⟨h.1, h.2, h.3, h.4, h.5, h.6⟩

end TcpConnection.RolesAgree

/-- **Roles along every interleaving.** From a connection whose readers play the roles of
their slots, every run keeps them so, across any number of flips: the client reader is marked
client and reads the connection's flows, the server reader the reversed ones. -/
theorem run_rolesAgree (cfg : Config) :
    ∀ (acts : List Action) (s s' : ConnSystem), s.conn.RolesAgree →
      s.run cfg acts = some s' → s'.conn.RolesAgree
  | [], _, _, h, hs => by cases hs; exact h
  | a :: acts, s, s', h, hs => by
    obtain ⟨s₁, h₁, hs'⟩ := Option.bind_eq_some.mp hs
    exact run_rolesAgree cfg acts s₁ s' (h.step h₁) hs'

/-- The new connection of the sample runs: its readers play the roles of their slots. -/
theorem sampleSystem_rolesAgree (fp : Nat) : (sampleSystem fp).conn.RolesAgree :=
  ⟨rfl, rfl, rfl, rfl, rfl, rfl⟩

/-- A completion on an older packet from the server, which flips the connection. -/
theorem run_rolesAgree_flipped :
    ∃ s, (sampleSystem 5).run sampleConfig
        [.reassemblyComplete ⟨3⟩ ⟨"10.0.0.2", "10.0.0.1"⟩] = some s ∧ s.conn.RolesAgree :=
  ⟨_, rfl, run_rolesAgree sampleConfig [.reassemblyComplete ⟨3⟩ ⟨"10.0.0.2", "10.0.0.1"⟩]
    (sampleSystem 5) _ (sampleSystem_rolesAgree 5) rfl⟩

/-- The readers an effect of `ReassemblyComplete` names, in the roles they hold in `t`: the
conversation is saved under the client reader's ident and transport flow, the banner is the
server reader's, and the decoder gets the server reader's flows as `s2c` and the client
reader's as `c2s`. -/
def Effect.NamesRoles (t : TcpConnection) : Effect → Prop
  | .saveConnection _ _ ident _ tr => ident = t.client.ident ∧ tr = t.client.transport
  | .saveTCPServiceBanner ident banner => ident = t.server.ident ∧ banner = t.server.serviceBanner
  | .decode _ s2c c2s =>
    s2c = ⟨t.server.network, t.server.transport⟩ ∧ c2s = ⟨t.client.network, t.client.transport⟩

/-- The client after the flip check: the sender of a packet older than the first one, and the
old client otherwise. -/
theorem checkFlip_client_network {t : TcpConnection} (h : t.RolesAgree) (ac : AssemblerContext)
    {flow : Flow} (hflow : flow = t.net ∨ flow = t.net.reverse) :
    (checkFlip ac flow t).client.network =
      if ac.timestamp < t.firstPacket then flow else t.client.network := by
  unfold checkFlip
  by_cases hts : ac.timestamp < t.firstPacket
  · simp only [if_pos hts]
    by_cases hc : t.client.network = flow
    · rw [if_neg (not_not.mpr hc)]
      exact hc
    · rw [if_pos hc]
      exact h.serverNet.trans (hflow.resolve_left fun he => hc (h.clientNet.trans he.symm)).symm
  · simp only [if_neg hts]

theorem checkFlip_firstPacket (ac : AssemblerContext) (flow : Flow) (t : TcpConnection) :
    (checkFlip ac flow t).firstPacket =
      if ac.timestamp < t.firstPacket then ac.timestamp else t.firstPacket := by
  unfold checkFlip flip
  split_ifs <;> rfl

/-- The flip check keeps the connection on its pair of flows, reversed or not. -/
theorem checkFlip_net (ac : AssemblerContext) (flow : Flow) (t : TcpConnection) :
    (checkFlip ac flow t).net = t.net ∨ (checkFlip ac flow t).net = t.net.reverse := by
  unfold checkFlip flip
  split_ifs <;> simp

/-- **The flip makes the sender of the oldest packet the client.** On a connection whose
readers play their roles, `ReassemblyComplete` on a packet of the connection keeps the roles;
when the packet is older than the first one, the client reader is afterwards the one on the
packet's flow and `firstPacket` is the packet's time, and otherwise the client stays on its
flow; and every effect names the readers in their new roles. -/
theorem reassemblyComplete_roles (cfg : Config) (ac : AssemblerContext) (flow : Flow)
    (t : TcpConnection) (h : t.RolesAgree) (hflow : flow = t.net ∨ flow = t.net.reverse) :
    let t' := (reassemblyComplete cfg ac flow t).1.1
    t'.RolesAgree ∧
      (ac.timestamp < t.firstPacket → t'.client.network = flow ∧ t'.firstPacket = ac.timestamp) ∧
      (¬ac.timestamp < t.firstPacket →
        t'.client.network = t.client.network ∧ t'.firstPacket = t.firstPacket) ∧
      ∀ e ∈ (reassemblyComplete cfg ac flow t).1.2, e.NamesRoles t' := by
  have hu := h.checkFlip ac flow
  have hn := checkFlip_client_network h ac hflow
  have hfp := checkFlip_firstPacket ac flow t
  refine ⟨hu.completeConnection cfg, fun hts => ?_, fun hts => ?_, fun e he => ?_⟩
  · simp only [reassemblyComplete, completeConnection, hn, hfp, if_pos hts, and_self]
  · simp only [reassemblyComplete, completeConnection, hn, hfp, if_neg hts, and_self]
  · simp only [reassemblyComplete, completeEffects, List.cons_append, List.singleton_append,
      List.mem_cons] at he
    rcases he with rfl | rfl | he
    · exact ⟨rfl, rfl⟩
    · exact ⟨rfl, rfl⟩
    · split at he
      · rw [List.mem_singleton.mp he]
        exact ⟨by rw [← hu.serverNet, ← hu.serverTransport]; rfl,
          by rw [← hu.clientNet, ← hu.clientTransport]; rfl⟩
      · cases he

/-- An older packet from the server flips the sample connection: the server side becomes the
client, and the first packet moves back to the packet's time. -/
theorem reassemblyComplete_roles_flip :
    let r := reassemblyComplete sampleConfig ⟨3⟩ ⟨"10.0.0.2", "10.0.0.1"⟩ (sampleSystem 5).conn
    (3 < (sampleSystem 5).conn.firstPacket ∧ r.1.1.RolesAgree) ∧
      r.1.1.client.network = ⟨"10.0.0.2", "10.0.0.1"⟩ ∧ r.1.1.firstPacket = 3 :=
  have h := reassemblyComplete_roles sampleConfig ⟨3⟩ ⟨"10.0.0.2", "10.0.0.1"⟩
    (sampleSystem 5).conn (sampleSystem_rolesAgree 5) (.inr rfl)
  ⟨⟨by decide, h.1⟩, h.2.1 (by decide)⟩

/-! ### The client is the sender of the oldest packet -/

/-- The packet context and flow of an action, if it is a completion. -/
def Action.completion : Action → Option (AssemblerContext × Flow)
  | .reassemblyComplete ac flow => some (ac, flow)
  | _ => none

/-- The oldest packet seen, by design: its time and its sender's flow, moved to a completion's
packet when that packet is older. -/
def oldestSender (acc : Nat × Flow) (c : AssemblerContext × Flow) : Nat × Flow :=
  if c.1.timestamp < acc.1 then (c.1.timestamp, c.2) else acc

/-- The first packet's time and the client reader's flow. -/
def TcpConnection.origin (t : TcpConnection) : Nat × Flow := (t.firstPacket, t.client.network)

theorem ConnSystem.step_origin {cfg : Config} {s s' : ConnSystem} {a : Action}
    (h : s.conn.RolesAgree)
    (hflow : ∀ c ∈ a.completion, c.2 = s.conn.net ∨ c.2 = s.conn.net.reverse)
    (hs : s.step cfg a = some s') :
    s'.conn.origin = a.completion.toList.foldl oldestSender s.conn.origin ∧
      (s'.conn.net = s.conn.net ∨ s'.conn.net = s.conn.net.reverse) := by
  cases a with
  | reassembledSG sg ac =>
    simp only [ConnSystem.step, reassembledSG] at hs
    split at hs
    · obtain ⟨t, ht, rfl⟩ := Option.map_eq_some'.mp hs
      unfold feedData at ht
      split at ht <;> obtain ⟨r, hr, rfl⟩ := Option.map_eq_some'.mp ht <;>
        obtain ⟨-, rfl⟩ := StreamReader.send_eq_some.mp hr <;> exact ⟨rfl, .inl rfl⟩
    · cases hs
      exact ⟨rfl, .inl rfl⟩
  | reassemblyComplete ac flow =>
    cases hs
    refine ⟨?_, checkFlip_net ac flow s.conn⟩
    simp only [TcpConnection.origin, reassemblyComplete, completeConnection,
      checkFlip_client_network h ac (hflow (ac, flow) rfl), checkFlip_firstPacket,
      Action.completion, Option.toList, List.foldl, oldestSender]
    split_ifs <;> rfl
  | readClient | readServer =>
    obtain ⟨r, hr, rfl⟩ := Option.map_eq_some'.mp hs
    obtain ⟨_, _, -, rfl⟩ := StreamReader.receive_eq_some.mp hr
    exact ⟨rfl, .inl rfl⟩

/-- **The client is the sender of the oldest packet.** From a connection whose readers play
their roles, along every interleaving whose completions are on packets of the connection,
`firstPacket` ends as the time of the oldest packet among the first one and those
`ReassemblyComplete` was called with, and the client reader is the one on that packet's flow:
the flips compose, whatever their number and order. -/
theorem run_client_oldest (cfg : Config) :
    ∀ (acts : List Action) (s s' : ConnSystem), s.conn.RolesAgree →
      (∀ c ∈ acts.filterMap Action.completion, c.2 = s.conn.net ∨ c.2 = s.conn.net.reverse) →
      s.run cfg acts = some s' →
      s'.conn.origin = (acts.filterMap Action.completion).foldl oldestSender s.conn.origin
  | [], _, _, _, _, hs => by cases hs; rfl
  | a :: acts, s, s', h, hflow, hs => by
    obtain ⟨s₁, h₁, hs'⟩ := Option.bind_eq_some.mp hs
    obtain ⟨ho, hnet⟩ := ConnSystem.step_origin h
      (fun c hc => hflow c (List.mem_filterMap.mpr ⟨a, List.mem_cons_self _ _, hc⟩)) h₁
    have hflow₁ : ∀ c ∈ acts.filterMap Action.completion,
        c.2 = s₁.conn.net ∨ c.2 = s₁.conn.net.reverse := fun c hc => by
      obtain ⟨b, hb, hbc⟩ := List.mem_filterMap.mp hc
      have := hflow c (List.mem_filterMap.mpr ⟨b, List.mem_cons_of_mem _ hb, hbc⟩)
      rcases hnet with hn | hn <;> rw [hn]
      · exact this
      · simpa [or_comm] using this
    rw [run_client_oldest cfg acts s₁ s' (h.step h₁) hflow₁ hs', ho, List.filterMap_cons]
    cases a.completion <;> rfl

/-- Completions on packets at times 3 (from the server), 4 (from the client) and 1 (from the
client): the first flips the connection, the second is not older, the third flips it back. -/
theorem run_client_oldest_three :
    let acts : List Action := [.reassemblyComplete ⟨3⟩ ⟨"10.0.0.2", "10.0.0.1"⟩,
      .reassemblyComplete ⟨4⟩ ⟨"10.0.0.1", "10.0.0.2"⟩,
      .reassemblyComplete ⟨1⟩ ⟨"10.0.0.1", "10.0.0.2"⟩]
    ∃ s', (sampleSystem 5).run sampleConfig acts = some s' ∧
      s'.conn.origin =
        (acts.filterMap Action.completion).foldl oldestSender (sampleSystem 5).conn.origin :=
  ⟨_, rfl, run_client_oldest sampleConfig [.reassemblyComplete ⟨3⟩ ⟨"10.0.0.2", "10.0.0.1"⟩,
      .reassemblyComplete ⟨4⟩ ⟨"10.0.0.1", "10.0.0.2"⟩,
      .reassemblyComplete ⟨1⟩ ⟨"10.0.0.1", "10.0.0.2"⟩] (sampleSystem 5) _
    (sampleSystem_rolesAgree 5) (by decide) rfl⟩

end Netcap
