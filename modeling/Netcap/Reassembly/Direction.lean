import Netcap.Reassembly.Race

/-!
# Direction tags of the fragments a connection holds

`feedData` tags each fragment with the direction of its segment and sends it to the reader of
that direction, and a reader task stores the fragments it receives in the order it received
them. The flip of `ReassemblyComplete` swaps the two readers and rewrites the tag of every
fragment they have stored: it repairs the stored fragments whatever their tags were, but the
fragments still queued on the channels move with their readers and keep their old tags. The
merge of `ConversationRaw` may write the server's fragments into the client reader's array
(`mergedClientSlice`), and the client's `DataSlice` then holds fragments of the server.

The tags of a connection *agree* (`TcpConnection.TagsAgree`) when every fragment the client
reader holds, stored or queued, is tagged client to server and every fragment of the server
reader server to client. They are *sound* (`TcpConnection.TagsSound`) when this holds but for
fragments in the client's slice that the server reader has stored too, tagged server to client:
what a merge in place leaves behind. Deliveries, reader steps and completions that do not flip
keep the tags sound, and a flip makes them agree whenever both channels are empty, whatever
held before (`TagsAgree.flip`). Hence they stay sound along every interleaving in which each
flipping `ReassemblyComplete` finds both channels empty (`run_tagsSound`); a fragment queued
across a flip is the only way to break them. With sound tags, every fragment a save merges
carries the direction of a reader that stored it, and `ConversationRaw` paints it in that
reader's colour (`reassemblyComplete_merged_tags`).

In the source a fragment is a pointer: after a merge in place, a server fragment in the
client's slice is the object the server's slice holds, and a later flip, which retags the
client's slice and then the server's, leaves it tagged server to client. The model's fragments
are values, and the flip retags each copy; both leave the tags sound.
-/

namespace Netcap

/-- The reader of each direction holds only fragments of that direction, stored or queued. -/
structure TcpConnection.TagsAgree (t : TcpConnection) : Prop where
  client : ∀ d ∈ t.client.dataSlice ++ t.client.dataChan, d.dir = .clientToServer
  server : ∀ d ∈ t.server.dataSlice ++ t.server.dataChan, d.dir = .serverToClient

/-- The server reader holds only server-to-client fragments, and the client reader only
client-to-server ones and server fragments that the server reader has stored too. -/
structure TcpConnection.TagsSound (t : TcpConnection) : Prop where
  client : ∀ d ∈ t.client.dataSlice ++ t.client.dataChan,
    d.dir = .clientToServer ∨ d ∈ t.server.dataSlice ∧ d.dir = .serverToClient
  server : ∀ d ∈ t.server.dataSlice ++ t.server.dataChan, d.dir = .serverToClient

theorem TcpConnection.TagsAgree.sound {t : TcpConnection} (h : t.TagsAgree) : t.TagsSound :=
  ⟨fun d hd => .inl (h.client d hd), h.server⟩

/-- Whether `ReassemblyComplete(ac, flow)` flips `t`: the packet is older than the first one
and its flow is not the client's. -/
def flips (ac : AssemblerContext) (flow : Flow) (t : TcpConnection) : Bool :=
  decide (ac.timestamp < t.firstPacket) && decide (t.client.network ≠ flow)

/-- The readers after the flip check: swapped and retagged when it flips, untouched
otherwise. -/
theorem checkFlip_readers (ac : AssemblerContext) (flow : Flow) (t : TcpConnection) :
    ((checkFlip ac flow t).client, (checkFlip ac flow t).server) =
      if flips ac flow t then ((flip t).client, (flip t).server) else (t.client, t.server) := by
  by_cases h₁ : ac.timestamp < t.firstPacket <;> by_cases h₂ : t.client.network = flow <;>
    simp [checkFlip, flips, flip, h₁, h₂]

/-- A fragment of the client's slice after a merge was stored by one of the two readers. -/
theorem mem_mergedClientSlice {e : ConvEnv} {client server : StreamReader} {c : Conversation}
    {d : StreamData} (h : d ∈ mergedClientSlice e client server c) :
    d ∈ client.dataSlice ∨ d ∈ server.dataSlice := by
  unfold mergedClientSlice at h
  split_ifs at h
  · exact List.mem_append.mp ((e.sorter.perm _).mem_iff.mp (List.mem_of_mem_take h))
  · exact .inl h

/-- **The flip repairs the stored fragments.** With both channels empty, the flipped
connection agrees with its tags, whatever the tags were before. -/
theorem TcpConnection.TagsAgree.flip {t : TcpConnection} (hc : t.client.dataChan = [])
    (hs : t.server.dataChan = []) : (Netcap.flip t).TagsAgree where
  client d hd := by
    simp only [Netcap.flip, hs, List.append_nil, List.mem_map] at hd
    obtain ⟨_, -, rfl⟩ := hd
    rfl
  server d hd := by
    simp only [Netcap.flip, hc, List.append_nil, List.mem_map] at hd
    obtain ⟨_, -, rfl⟩ := hd
    rfl

namespace TcpConnection.TagsSound

variable {t t' : TcpConnection}

/-- Soundness reads the two readers only. -/
theorem of_readers {u : TcpConnection} (h : (t'.client, t'.server) = (u.client, u.server))
    (hu : u.TagsSound) : t'.TagsSound := by
  simp only [Prod.mk.injEq] at h
  obtain ⟨h₁, h₂⟩ := h
  exact ⟨h₁ ▸ h₂ ▸ hu.client, h₂ ▸ hu.server⟩

theorem checkFlip (h : t.TagsSound) (ac : AssemblerContext) (flow : Flow)
    (hd : flips ac flow t → t.client.dataChan = [] ∧ t.server.dataChan = []) :
    (checkFlip ac flow t).TagsSound := by
  have hr := checkFlip_readers ac flow t
  split_ifs at hr with hf
  · obtain ⟨hc, hs⟩ := hd hf
    exact of_readers hr (TagsAgree.flip hc hs).sound
  · exact of_readers hr h

/-- **The merge keeps the tags sound**: what it writes into the client's array comes from the
two slices, and the server's slice is left as it was. -/
theorem completeConnection (h : t.TagsSound) (cfg : Config) :
    (Netcap.completeConnection cfg t).TagsSound where
  client d hd := by
    rcases List.mem_append.mp hd with hd | hd
    · rcases mem_mergedClientSlice hd with hd | hd
      · exact h.client d (List.mem_append_left _ hd)
      · exact .inr ⟨hd, h.server d (List.mem_append_left _ hd)⟩
    · exact h.client d (List.mem_append_right _ hd)
  server := h.server

theorem feedData (h : t.TagsSound) {dir : TCPFlowDirection} {data : List UInt8}
    {ac : AssemblerContext} (hf : Netcap.feedData dir data ac t = some t') : t'.TagsSound := by
  cases dir <;> obtain ⟨r, hr, rfl⟩ := Option.map_eq_some'.mp hf <;>
    obtain ⟨-, rfl⟩ := StreamReader.send_eq_some.mp hr
  · refine { h with client := fun d hd => ?_ }
    rw [← List.append_assoc, List.mem_append] at hd
    rcases hd with hd | hd
    · exact h.client d hd
    · exact .inl (List.mem_singleton.mp hd ▸ rfl)
  · refine ⟨h.client, fun d hd => ?_⟩
    rw [← List.append_assoc, List.mem_append] at hd
    rcases hd with hd | hd
    · exact h.server d hd
    · rw [List.mem_singleton.mp hd]

end TcpConnection.TagsSound

/-! ### Along an interleaving -/

/-- Whether an action, taken in `s`, is not a flip that finds a fragment on a channel. -/
def Action.drainedAt (s : ConnSystem) : Action → Bool
  | .reassemblyComplete ac flow =>
    !flips ac flow s.conn || (s.conn.client.dataChan.isEmpty && s.conn.server.dataChan.isEmpty)
  | _ => true

/-- Every `ReassemblyComplete` of the run from `s` that flips the connection finds both
channels empty. -/
def ConnSystem.flipsDrained (cfg : Config) : ConnSystem → List Action → Bool
  | _, [] => true
  | s, a :: as =>
    a.drainedAt s &&
      match s.step cfg a with
      | some s' => ConnSystem.flipsDrained cfg s' as
      | none => true

/-- **The step.** Every action that is not a flip finding a queued fragment keeps the tags
sound. -/
theorem TcpConnection.TagsSound.step {cfg : Config} {s s' : ConnSystem} {a : Action}
    (h : s.conn.TagsSound) (hd : a.drainedAt s) (hs : s.step cfg a = some s') :
    s'.conn.TagsSound := by
  cases a with
  | reassembledSG sg ac =>
    simp only [ConnSystem.step, reassembledSG] at hs
    split at hs
    · obtain ⟨t, ht, rfl⟩ := Option.map_eq_some'.mp hs
      exact h.feedData ht
    · cases hs
      exact h
  | reassemblyComplete ac flow =>
    cases hs
    exact (h.checkFlip ac flow fun hf => by
      simpa [Action.drainedAt, hf] using hd).completeConnection cfg
  | readClient =>
    obtain ⟨r, hr, rfl⟩ := Option.map_eq_some'.mp hs
    exact { h with client := receive_held hr ▸ h.client }
  | readServer =>
    obtain ⟨r, hr, rfl⟩ := Option.map_eq_some'.mp hs
    obtain ⟨_, _, -, rfl⟩ := StreamReader.receive_eq_some.mp hr
    refine ⟨fun d hd => (h.client d hd).imp_right fun ⟨hm, hdir⟩ =>
      ⟨List.mem_append_left _ hm, hdir⟩, receive_held hr ▸ h.server⟩

theorem TcpConnection.TagsSound.run (cfg : Config) :
    ∀ (acts : List Action) (s s' : ConnSystem), s.conn.TagsSound →
      ConnSystem.flipsDrained cfg s acts → s.run cfg acts = some s' → s'.conn.TagsSound
  | [], _, _, h, _, hs => by cases hs; exact h
  | a :: acts, s, s', h, hd, hs => by
    obtain ⟨s₁, h₁, hs'⟩ := Option.bind_eq_some.mp hs
    simp only [ConnSystem.flipsDrained, h₁, Bool.and_eq_true] at hd
    exact TcpConnection.TagsSound.run cfg acts s₁ s' (h.step hd.1 h₁) hd.2 hs'

/-- **Sound tags along every drained interleaving.** From a connection whose tags are sound,
every run in which each flipping `ReassemblyComplete` finds both channels empty ends with sound
tags: every fragment of the server reader, stored or queued, is tagged server to client, and
every fragment of the client reader is tagged client to server or is a server fragment, tagged
server to client, that a merge wrote into the client's array and the server reader holds too. -/
theorem run_tagsSound (cfg : Config) :
    ∀ (acts : List Action) (s s' : ConnSystem), s.conn.TagsSound →
      ConnSystem.flipsDrained cfg s acts → s.run cfg acts = some s' → s'.conn.TagsSound :=
  TcpConnection.TagsSound.run cfg

/-- The state three client bytes and an older server byte leave once both readers have stored
them: with Go's growth the client's array has capacity four, room for the server byte. -/
def inPlaceSystem : ConnSystem :=
  let s := sampleSystem 5
  let c (ts : Nat) : StreamData := ⟨[0x41], ⟨ts⟩, .clientToServer⟩
  { s with conn := { s.conn with
      client := { s.conn.client with dataSlice := [c 5, c 6, c 7], cap := 4 }
      server := { s.conn.server with dataSlice := [⟨[0x41], ⟨4⟩, .serverToClient⟩] } } }

/-- The completion merges in place: the server byte is written into the client's `DataSlice`,
where it keeps its server-to-client tag. -/
theorem run_tagsSound_merged_in_place :
    ∃ s,
      inPlaceSystem.run sampleConfig [.reassemblyComplete ⟨8⟩ ⟨"10.0.0.1", "10.0.0.2"⟩] = some s ∧
      (⟨[0x41], ⟨4⟩, .serverToClient⟩ : StreamData) ∈ s.conn.client.dataSlice ∧
      s.conn.TagsSound :=
  ⟨_, rfl, by decide, run_tagsSound sampleConfig
    [.reassemblyComplete ⟨8⟩ ⟨"10.0.0.1", "10.0.0.2"⟩] inPlaceSystem _
    ⟨by decide, by decide⟩ (by decide) rfl⟩

/-- A drained run followed by one more action: the run is drained, and so is the action in
the state the run ends in. -/
theorem ConnSystem.flipsDrained_append (cfg : Config) (a : Action) :
    ∀ (acts : List Action) (s₀ s : ConnSystem), s₀.run cfg acts = some s →
      ConnSystem.flipsDrained cfg s₀ (acts ++ [a]) →
        ConnSystem.flipsDrained cfg s₀ acts ∧ a.drainedAt s
  | [], _, _, hs, hd => by
    cases hs
    simp only [List.nil_append, ConnSystem.flipsDrained, Bool.and_eq_true] at hd
    exact ⟨rfl, hd.1⟩
  | b :: acts, s₀, s, hs, hd => by
    obtain ⟨s₁, h₁, hs'⟩ := Option.bind_eq_some.mp hs
    simp only [List.cons_append, ConnSystem.flipsDrained, h₁, Bool.and_eq_true] at hd ⊢
    obtain ⟨hd', ha⟩ := ConnSystem.flipsDrained_append cfg a acts s₁ s hs' hd.2
    exact ⟨⟨hd.1, hd'⟩, ha⟩

/-- **Each saved fragment in its reader's colour.** After a drained interleaving from a
connection whose tags agree, a `ReassemblyComplete` that merges and is drained too saves a
merge in which every fragment was stored by one of the two readers, as the flip check left
them, and carries that reader's direction: `colorFragment` paints it in `ansi.Red` as a
fragment of the client reader and in `ansi.Blue` as one of the server reader. -/
theorem reassemblyComplete_merged_tags (cfg : Config) (acts : List Action) (s₀ s : ConnSystem)
    (ac : AssemblerContext) (flow : Flow) (h₀ : s₀.conn.TagsAgree)
    (hd : ConnSystem.flipsDrained cfg s₀ (acts ++ [.reassemblyComplete ac flow]))
    (hrun : s₀.run cfg acts = some s) (hconv : s.conn.conv.raw = []) :
    let t := checkFlip ac flow s.conn
    ∀ d ∈ (reassemblyComplete cfg ac flow s.conn).1.1.conv.merged,
      d ∈ t.client.dataSlice ∧ d.dir = .clientToServer ∨
        d ∈ t.server.dataSlice ∧ d.dir = .serverToClient := by
  obtain ⟨hdr, hda⟩ := ConnSystem.flipsDrained_append cfg _ acts s₀ s hrun hd
  have ht := (TcpConnection.TagsSound.run cfg acts s₀ s h₀.sound hdr hrun).checkFlip ac flow
    fun hf => by simpa [Action.drainedAt, hf] using hda
  have hc : (checkFlip ac flow s.conn).conv.raw = [] :=
    (checkFlip_conv ac flow s.conn).symm ▸ hconv
  intro t d hd
  simp only [reassemblyComplete, completeConnection, conversationRaw_of_nil _ _ _ hc] at hd
  rcases List.mem_append.mp ((cfg.conv.sorter.perm _).mem_iff.mp hd) with hm | hm
  · exact (ht.client d (List.mem_append_left _ hm)).imp_left fun h => ⟨hm, h⟩
  · exact .inr ⟨hm, ht.server d (List.mem_append_left _ hm)⟩

/-- A server byte received before an older server packet flips the connection: it is saved as
a client fragment. -/
theorem reassemblyComplete_merged_tags_flip :
    let s := ((sampleSystem 5).run sampleConfig
      [.reassembledSG (oneByte .serverToClient) ⟨5⟩, .readServer]).getD (sampleSystem 5)
    let t := checkFlip ⟨3⟩ ⟨"10.0.0.2", "10.0.0.1"⟩ s.conn
    let d : StreamData := ⟨[0x41], ⟨5⟩, .clientToServer⟩
    d ∈ (reassemblyComplete sampleConfig ⟨3⟩ ⟨"10.0.0.2", "10.0.0.1"⟩ s.conn).1.1.conv.merged ∧
      (d ∈ t.client.dataSlice ∧ d.dir = .clientToServer ∨
        d ∈ t.server.dataSlice ∧ d.dir = .serverToClient) :=
  ⟨by decide, reassemblyComplete_merged_tags sampleConfig
    [.reassembledSG (oneByte .serverToClient) ⟨5⟩, .readServer] (sampleSystem 5) _ ⟨3⟩
    ⟨"10.0.0.2", "10.0.0.1"⟩ ⟨by decide, by decide⟩ (by decide) rfl (by decide) _ (by decide)⟩

end Netcap
