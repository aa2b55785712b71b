import Netcap.Reassembly.Connection
import Mathlib.Algebra.BigOperators.Group.List

/-!
# Fragments in flight at `ReassemblyComplete`

`ReassemblyComplete` neither waits for the two reader tasks nor drains their channels before
it merges the conversation and, on a flip, retags the stored fragments; it closes the channels
only afterwards. Until the connection completes, every run keeps each fed fragment exactly
once, stored by a reader or still queued on a channel (`run_conserves`), so what
`ReassemblyComplete` saves is precisely what the readers had stored: the bytes of a merge that,
with the fragments still queued, holds the bytes of every fragment fed exactly once
(`complete_saves_held`). (The completion itself may rewrite the client's `DataSlice` with the
merge, so the readers' slices are no record of what was fed after it.) Two consequences, each
shown on a run of three steps:

* a fragment still queued when the connection completes is missing from the saved
  conversation (`complete_misses_queued_fragment`);
* a fragment still queued for the server reader when a flip makes it the client reader is
  appended to the client's `DataSlice` with its server-to-client tag
  (`flip_misses_queued_fragment`).
-/

namespace Netcap

/-! ### Conservation of fragments -/

/-- The fragments the two readers hold, stored or still queued. -/
def TcpConnection.held (t : TcpConnection) : List StreamData :=
  (t.client.dataSlice ++ t.client.dataChan) ++ (t.server.dataSlice ++ t.server.dataChan)

/-- The bytes of a list of fragments. -/
def byteCount : List StreamData → Nat
  | [] => 0
  | d :: ds => d.raw.length + byteCount ds

/-- Every fragment fed is held exactly once, stored by a reader or still queued. -/
def Conserves (s : ConnSystem) : Prop := s.conn.held.Perm s.fed

theorem flip_held_perm (t : TcpConnection) :
    ((flip t).held.map (·.raw)).Perm (t.held.map (·.raw)) := by
  refine List.perm_iff_count.2 fun x => ?_
  simp only [TcpConnection.held, flip, List.map_append, List.map_map, Function.comp_def,
    List.count_append]
  omega

theorem checkFlip_held_perm (ac : AssemblerContext) (flow : Flow) (t : TcpConnection) :
    ((checkFlip ac flow t).held.map (·.raw)).Perm (t.held.map (·.raw)) := by
  unfold checkFlip
  split_ifs
  · exact flip_held_perm _
  · exact .refl _
  · exact .refl _

theorem checkFlip_conv (ac : AssemblerContext) (flow : Flow) (t : TcpConnection) :
    (checkFlip ac flow t).conv = t.conv := by
  unfold checkFlip flip
  split_ifs <;> rfl

/-- The flip swaps the two channels: together they hold the same fragments. -/
theorem checkFlip_chans_perm (ac : AssemblerContext) (flow : Flow) (t : TcpConnection) :
    ((checkFlip ac flow t).client.dataChan ++ (checkFlip ac flow t).server.dataChan).Perm
      (t.client.dataChan ++ t.server.dataChan) := by
  unfold checkFlip flip
  split_ifs
  · exact List.perm_append_comm
  · exact .refl _
  · exact .refl _

theorem feedData_held {dir : TCPFlowDirection} {data : List UInt8} {ac : AssemblerContext}
    {t t' : TcpConnection} (h : feedData dir data ac t = some t') :
    t'.held.Perm (t.held ++ [⟨data, ac, dir⟩]) := by
  refine List.perm_iff_count.2 fun x => ?_
  cases dir <;> obtain ⟨r, hr, rfl⟩ := Option.map_eq_some'.mp h <;>
    obtain ⟨-, rfl⟩ := StreamReader.send_eq_some.mp hr <;>
    simp only [TcpConnection.held, List.count_append] <;> omega

/-- A reader task's step moves the head of its channel to the end of its `DataSlice`: together
they hold the same fragments, in the same order. -/
theorem receive_held {grow : Nat → Nat} {r r' : StreamReader} (h : r.receive grow = some r') :
    r'.dataSlice ++ r'.dataChan = r.dataSlice ++ r.dataChan := by
  obtain ⟨d, rest, hc, rfl⟩ := StreamReader.receive_eq_some.mp h
  simp [hc]

/-- The actions of a connection before it completes: deliveries and reader steps. -/
def Action.beforeComplete : Action → Bool
  | .reassemblyComplete _ _ => false
  | _ => true

/-- **The conservation step.** A delivery adds the fragment it feeds to what the readers hold,
and a reader step moves one. -/
theorem Conserves.step {cfg : Config} {s s' : ConnSystem} {a : Action} (h : Conserves s)
    (ha : a.beforeComplete) (hs : s.step cfg a = some s') : Conserves s' := by
  unfold Conserves at *
  cases a with
  | reassembledSG sg ac =>
    simp only [ConnSystem.step, reassembledSG] at hs
    split at hs
    · obtain ⟨t, ht, rfl⟩ := Option.map_eq_some'.mp hs
      exact (feedData_held ht).trans (h.append_right _)
    · cases hs
      exact h
  | reassemblyComplete => cases ha
  | readClient | readServer =>
    obtain ⟨r, hr, rfl⟩ := Option.map_eq_some'.mp hs
    simpa only [TcpConnection.held, receive_held hr] using h

/-- **Conservation before the end.** -/
theorem run_conserves (cfg : Config) :
    ∀ (acts : List Action) (s s' : ConnSystem), Conserves s → (∀ a ∈ acts, a.beforeComplete) →
      s.run cfg acts = some s' → Conserves s'
  | [], _, _, h, _, hs => by cases hs; exact h
  | a :: acts, s, s', h, ha, hs => by
    obtain ⟨s₁, h₁, hs'⟩ := Option.bind_eq_some.mp hs
    exact run_conserves cfg acts s₁ s' (h.step (ha a (List.mem_cons_self _ _)) h₁)
      (fun b hb => ha b (List.mem_cons_of_mem _ hb)) hs'

/-! ### What `ReassemblyComplete` saves -/

/-- The conversation the first `ReassemblyComplete` saves holds exactly the fragments the
readers had stored: the bytes of a merge that, with the fragments still queued on the channels,
holds the bytes of every fragment fed exactly once. -/
theorem complete_saves_held (cfg : Config) (s : ConnSystem) (hc : Conserves s)
    (hconv : s.conn.conv.raw = []) (ac : AssemblerContext) (flow : Flow) :
    ∃ merged colored ident fp tr,
      (reassemblyComplete cfg ac flow s.conn).1.2.head? =
        some (.saveConnection (merged.map (·.raw)).flatten colored ident fp tr) ∧
      ((merged ++ s.conn.client.dataChan ++ s.conn.server.dataChan).map (·.raw)).Perm
        (s.fed.map (·.raw)) := by
  obtain ⟨t, ht⟩ : ∃ t, checkFlip ac flow s.conn = t := ⟨_, rfl⟩
  have hconv' : t.conv.raw = [] := ht ▸ (checkFlip_conv ac flow s.conn).symm ▸ hconv
  refine ⟨cfg.conv.sorter.sort (t.client.dataSlice ++ t.server.dataSlice),
    conversationColored (conversationRaw cfg.conv t.client.dataSlice t.server.dataSlice t.conv).2,
    t.client.ident, t.client.firstPacket, t.client.transport, ?_, ?_⟩
  · simp only [reassemblyComplete, completeEffects, ht, conversationRaw_of_nil _ _ _ hconv',
      List.cons_append, List.head?_cons]
  have hm := List.perm_iff_count.1 ((cfg.conv.sorter.perm
    (t.client.dataSlice ++ t.server.dataSlice)).map (·.raw))
  have hq := checkFlip_chans_perm ac flow s.conn
  have hh := checkFlip_held_perm ac flow s.conn
  rw [ht] at hq hh
  replace hq := List.perm_iff_count.1 (hq.map (·.raw))
  replace hh := List.perm_iff_count.1 (hh.trans (hc.map _))
  refine List.perm_iff_count.2 fun x => ?_
  have := hm x
  have := hq x
  have := hh x
  simp only [TcpConnection.held, List.map_append, List.count_append] at *
  omega

/-! ### Runs from a new connection -/

theorem feedData_conv {dir : TCPFlowDirection} {data : List UInt8} {ac : AssemblerContext}
    {t t' : TcpConnection} (h : feedData dir data ac t = some t') : t'.conv = t.conv := by
  cases dir <;> obtain ⟨r, -, rfl⟩ := Option.map_eq_some'.mp h <;> rfl

/-- Deliveries and reader steps leave the conversation buffers alone. -/
theorem step_conv {cfg : Config} {s s' : ConnSystem} {a : Action} (ha : a.beforeComplete)
    (hs : s.step cfg a = some s') : s'.conn.conv = s.conn.conv := by
  cases a with
  | reassembledSG sg ac =>
    simp only [ConnSystem.step, reassembledSG] at hs
    split at hs
    · obtain ⟨t, ht, rfl⟩ := Option.map_eq_some'.mp hs
      exact feedData_conv ht
    · cases hs
      rfl
  | reassemblyComplete => cases ha
  | readClient | readServer =>
    obtain ⟨r, -, rfl⟩ := Option.map_eq_some'.mp hs
    rfl

theorem run_conv (cfg : Config) :
    ∀ (acts : List Action) (s s' : ConnSystem), (∀ a ∈ acts, a.beforeComplete) →
      s.run cfg acts = some s' → s'.conn.conv = s.conn.conv
  | [], _, _, _, hs => by cases hs; rfl
  | a :: acts, s, s', ha, hs => by
    obtain ⟨s₁, h₁, hs'⟩ := Option.bind_eq_some.mp hs
    rw [run_conv cfg acts s₁ s' (fun b hb => ha b (List.mem_cons_of_mem _ hb)) hs',
      step_conv (ha a (List.mem_cons_self _ _)) h₁]

/-- A configuration for concrete runs: every protocol enabled, no debug output, Go's sort, and
Go's growth of a small slice of pointers, which doubles its capacity. -/
def sampleConfig : Config :=
  ⟨false, true, true, true, ⟨false, [0x1b], [0x1b], [0x1b], fun _ => [], goSmallSorter⟩,
    fun c => max (2 * c) 1⟩

/-- A new connection from `10.0.0.1:51000` to `10.0.0.2:80` whose first packet was captured at
`firstPacket`, with a raw TCP decoder. -/
def sampleSystem (firstPacket : Nat) : ConnSystem :=
  let net : Flow := ⟨"10.0.0.1", "10.0.0.2"⟩
  let transport : Flow := ⟨"51000", "80"⟩
  ⟨{ net, transport, isHTTP := false, isHTTPS := false, isPOP3 := false, isSSH := false,
     decoder := some .tcp,
     client := ⟨true, net, transport, "c", firstPacket, [], false, [], 0, false, []⟩,
     server := ⟨false, net.reverse, transport.reverse, "s", firstPacket, [], false, [], 0, false,
       []⟩,
     firstPacket, conv := .empty },
   ⟨0, 0, 0, 0, 0, 0, 0, 0, 0, 0⟩, [], []⟩

/-- A one-byte segment in direction `dir`, with nothing missing. -/
def oneByte (dir : TCPFlowDirection) : ScatterGather :=
  ⟨[0x41], 0, dir, 0, ⟨1, 1, 0, 0, 0, 0⟩⟩

/-- **The first save, over every interleaving.** From a connection with nothing fed, held or
merged, every interleaving of deliveries and reader steps keeps each fed fragment exactly once,
stored by a reader or still queued, and `ReassemblyComplete` then saves the bytes of a merge
that holds, with the fragments still queued, the bytes of every fragment fed exactly once. -/
theorem reassemblyComplete_saves_stored (cfg : Config) (s₀ s : ConnSystem) (acts : List Action)
    (hfed : s₀.fed = []) (hheld : s₀.conn.held = []) (hconv : s₀.conn.conv.raw = [])
    (hacts : ∀ a ∈ acts, a.beforeComplete) (hrun : s₀.run cfg acts = some s)
    (ac : AssemblerContext) (flow : Flow) :
    s.conn.held.Perm s.fed ∧
      ∃ merged colored ident fp tr,
        (reassemblyComplete cfg ac flow s.conn).1.2.head? =
          some (.saveConnection (merged.map (·.raw)).flatten colored ident fp tr) ∧
        ((merged ++ s.conn.client.dataChan ++ s.conn.server.dataChan).map (·.raw)).Perm
          (s.fed.map (·.raw)) := by
  have hc : Conserves s :=
    run_conserves cfg acts s₀ s (by simp [Conserves, hfed, hheld]) hacts hrun
  refine ⟨hc, complete_saves_held cfg s hc ?_ ac flow⟩
  rw [run_conv cfg acts s₀ s hacts hrun]
  exact hconv

/-- A client byte received by its reader before the connection completes is saved. -/
theorem reassemblyComplete_saves_stored_received :
    ∃ s, (sampleSystem 5).run sampleConfig
        [.reassembledSG (oneByte .clientToServer) ⟨5⟩, .readClient] = some s ∧
      s.conn.held.Perm s.fed ∧
      ∃ merged colored ident fp tr,
        (reassemblyComplete sampleConfig ⟨6⟩ ⟨"10.0.0.1", "10.0.0.2"⟩ s.conn).1.2.head? =
          some (.saveConnection (merged.map (·.raw)).flatten colored ident fp tr) ∧
        ((merged ++ s.conn.client.dataChan ++ s.conn.server.dataChan).map (·.raw)).Perm
          (s.fed.map (·.raw)) :=
  ⟨_, rfl, reassemblyComplete_saves_stored sampleConfig (sampleSystem 5) _
    [.reassembledSG (oneByte .clientToServer) ⟨5⟩, .readClient] rfl rfl rfl (by decide) rfl _ _⟩

/-- **A queued fragment is not saved.** The reassembler feeds one client byte and completes
the connection before the client reader has received it: the saved conversation is empty
although one byte was fed. -/
theorem complete_misses_queued_fragment :
    ((sampleSystem 5).run sampleConfig
      [.reassembledSG (oneByte .clientToServer) ⟨5⟩,
       .reassemblyComplete ⟨6⟩ ⟨"10.0.0.1", "10.0.0.2"⟩]).map
      (fun s => (s.effects.head?, byteCount s.fed)) =
      some (some (.saveConnection [] [] "c" 5 ⟨"51000", "80"⟩), 1) := by
  decide

/-- **A queued fragment keeps its old tag across a flip.** The reassembler feeds one
server-to-client byte, then completes the connection on an older packet of the other flow,
which flips it; the reader now in the client slot receives the queued fragment and stores it
tagged server-to-client. -/
theorem flip_misses_queued_fragment :
    ((sampleSystem 5).run sampleConfig
      [.reassembledSG (oneByte .serverToClient) ⟨5⟩,
       .reassemblyComplete ⟨3⟩ ⟨"10.0.0.2", "10.0.0.1"⟩, .readClient]).map
      (fun s => s.conn.client.dataSlice) =
      some [⟨[0x41], ⟨5⟩, .serverToClient⟩] := by
  decide

end Netcap
