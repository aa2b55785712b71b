import Netcap.Reassembly.Race
import Mathlib.Algebra.Ring.Int.Defs

/-!
# The reassembly counters and the end of a connection

Three facts about every interleaving of `ConnSystem`, whatever the reader tasks do.

`ReassembledSG` calls `updateStats` on every delivery, before any of its checks, and no other
step writes `reassemblyStats`. After every run that does not panic the counters are therefore
a function of the delivered scatter-gathers alone (`run_stats`), and `ReassemblyStats.summarize`
gives that function in closed form, in Go's `int64` arithmetic: the missed bytes grow by the
positive skips, the reassembled bytes by `length - saved`, `reassembled` by the number of
deliveries of more than one chunk, and the other sums by the per-delivery statistics, all
modulo `2^64`; the biggest-chunk counters are signed maxima (`smax`). Deliveries the checks
drop count as much as the ones fed.

`ReassemblyComplete` closes both channels and returns `false`, which keeps the connection in
the assembler's pool ("do not remove the connection to allow last ACK"). From then on every
delivery that passes the checks of `ReassembledSG` panics on a closed channel
(`TcpConnection.Ended.step_panics`), and every interleaving that goes on without panicking
feeds no fragment more: each later delivery is one the checks drop (`run_after_complete`).

`ConversationRaw` builds the conversation only while `conversationRaw` is empty. Once it holds
a byte, every later `ReassemblyComplete` saves it again as it is (`run_saves_cached`), so what
the readers store after the first save is never saved.
-/

namespace Netcap

/-! ### The counters -/

/-- The scatter-gather an action delivers, if it is a delivery. -/
def Action.delivery : Action → Option ScatterGather
  | .reassembledSG sg _ => some sg
  | _ => none

/-- The larger of two `int64`s, compared as signed numbers. -/
def smax (a b : BitVec 64) : BitVec 64 := if a.slt b then b else a

/-- `smax` is the maximum of the signed values. -/
theorem toInt_smax (a b : BitVec 64) : (smax a b).toInt = max a.toInt b.toInt := by
  unfold smax BitVec.slt
  split_ifs with h <;> simp only [decide_eq_true_eq] at h <;> omega

/-- The counters `st` after the deliveries `sgs`, in closed form: sums of the per-delivery
numbers converted with `int64(...)`, added modulo `2^64`, and signed maxima. -/
def ReassemblyStats.summarize (st : ReassemblyStats) (sgs : List ScatterGather) :
    ReassemblyStats where
  missedBytes := st.missedBytes + .ofInt 64 (sgs.map fun sg => max sg.skip 0).sum
  sz := st.sz + .ofInt 64 (sgs.map fun sg => sg.length - sg.saved).sum
  pkt := st.pkt + .ofInt 64 (sgs.map (·.stats.packets)).sum
  reassembled := st.reassembled + .ofNat 64 (sgs.countP (·.stats.chunks > 1))
  outOfOrderPackets := st.outOfOrderPackets + .ofInt 64 (sgs.map (·.stats.queuedPackets)).sum
  outOfOrderBytes := st.outOfOrderBytes + .ofInt 64 (sgs.map (·.stats.queuedBytes)).sum
  biggestChunkBytes := (sgs.map fun sg => BitVec.ofInt 64 sg.length).foldl smax st.biggestChunkBytes
  biggestChunkPackets :=
    (sgs.map fun sg => BitVec.ofInt 64 sg.stats.packets).foldl smax st.biggestChunkPackets
  overlapBytes := st.overlapBytes + .ofInt 64 (sgs.map (·.stats.overlapBytes)).sum
  overlapPackets := st.overlapPackets + .ofInt 64 (sgs.map (·.stats.overlapPackets)).sum

section Counters

variable (m : BitVec 64)

theorem add_ofInt_add (x y : Int) :
    m + BitVec.ofInt 64 x + BitVec.ofInt 64 y = m + BitVec.ofInt 64 (x + y) := by
  rw [BitVec.ofInt_add, BitVec.add_assoc]

/-- `if skip > 0 { missedBytes += int64(skip) }` adds the positive part. -/
theorem ite_pos_add (k : Int) :
    (if k > 0 then m + BitVec.ofInt 64 k else m) = m + BitVec.ofInt 64 (max k 0) := by
  split_ifs with h
  · rw [max_eq_left h.le]
  · rw [max_eq_right (not_lt.mp h)]
    simp

/-- `if c { x++ }` adds one when `c` holds. -/
theorem ite_inc_add (p : Prop) [Decidable p] (n : Nat) :
    (if p then m + 1 else m) + BitVec.ofNat 64 n = m + BitVec.ofNat 64 (n + if p then 1 else 0) := by
  split_ifs
  · bv_omega
  · simp

end Counters

/-- `updateStats` on each delivery in turn adds up to the closed form. -/
theorem foldl_updateStats : ∀ (sgs : List ScatterGather) (st : ReassemblyStats),
    sgs.foldl (fun st sg => updateStats sg st) st = st.summarize sgs
  | [], st => by cases st; simp [ReassemblyStats.summarize]
  | sg :: sgs, st => by
    rw [List.foldl_cons, foldl_updateStats sgs]
    simp only [ReassemblyStats.summarize, updateStats, ite_pos_add, add_ofInt_add, ite_inc_add,
      List.map_cons, List.sum_cons, List.countP_cons, List.foldl_cons, decide_eq_true_eq]
    rfl

/-- Every step writes the counters as `updateStats` on what it delivers, and only so. -/
theorem ConnSystem.step_stats {cfg : Config} {s s' : ConnSystem} {a : Action}
    (h : s.step cfg a = some s') :
    s'.stats = a.delivery.toList.foldl (fun st sg => updateStats sg st) s.stats := by
  cases a with
  | reassembledSG sg ac =>
    simp only [ConnSystem.step, reassembledSG] at h
    split at h
    · obtain ⟨t, -, rfl⟩ := Option.map_eq_some'.mp h
      rfl
    · cases h
      rfl
  | reassemblyComplete => cases h; rfl
  | readClient => obtain ⟨r, -, rfl⟩ := Option.map_eq_some'.mp h; rfl
  | readServer => obtain ⟨r, -, rfl⟩ := Option.map_eq_some'.mp h; rfl

theorem ConnSystem.run_stats_eq (cfg : Config) :
    ∀ (acts : List Action) (s s' : ConnSystem), s.run cfg acts = some s' →
      s'.stats = (acts.filterMap Action.delivery).foldl (fun st sg => updateStats sg st) s.stats
  | [], _, _, h => by cases h; rfl
  | a :: acts, s, s', h => by
    obtain ⟨s₁, h₁, h'⟩ := Option.bind_eq_some.mp h
    rw [run_stats_eq cfg acts s₁ s' h', step_stats h₁, List.filterMap_cons]
    cases a.delivery <;> rfl

/-- **The counters over every interleaving.** After every run that does not panic, the
reassembly counters are those of the delivered scatter-gathers alone, in closed form modulo
`2^64`: fed or dropped by the checks, whatever the readers did and however often the
connection completed. -/
theorem run_stats (cfg : Config) (acts : List Action) (s s' : ConnSystem)
    (h : s.run cfg acts = some s') :
    s'.stats = s.stats.summarize (acts.filterMap Action.delivery) := by
  rw [ConnSystem.run_stats_eq cfg acts s s' h, foldl_updateStats]

/-- A delivery with one missing byte is dropped by the checks and counted all the same. -/
theorem run_stats_skipped :
    ∃ s', (sampleSystem 5).run sampleConfig
        [.reassembledSG (oneByte .clientToServer) ⟨5⟩, .readClient,
          .reassembledSG { oneByte .clientToServer with skip := 1 } ⟨6⟩] = some s' ∧
      s'.stats = (sampleSystem 5).stats.summarize
        [oneByte .clientToServer, { oneByte .clientToServer with skip := 1 }] :=
  ⟨_, rfl, run_stats sampleConfig
    [.reassembledSG (oneByte .clientToServer) ⟨5⟩, .readClient,
      .reassembledSG { oneByte .clientToServer with skip := 1 } ⟨6⟩] (sampleSystem 5) _ rfl⟩

/-! ### After `ReassemblyComplete` -/

/-- Both channels of the connection are closed. -/
structure TcpConnection.Ended (t : TcpConnection) : Prop where
  client : t.client.closed = true
  server : t.server.closed = true

/-- The checks of `ReassembledSG` read only the connection's protocol flags. -/
theorem feeds_congr {cfg : Config} {t t' : TcpConnection}
    (h : (t'.isSSH, t'.isHTTP, t'.isPOP3, t'.isHTTPS) = (t.isSSH, t.isHTTP, t.isPOP3, t.isHTTPS)) :
    feeds cfg t' = feeds cfg t := by
  simp only [Prod.mk.injEq] at h
  funext sg
  simp only [feeds, h]

/-- No step changes the protocol flags, hence the checks. -/
theorem ConnSystem.step_feeds {cfg : Config} {s s' : ConnSystem} {a : Action}
    (h : s.step cfg a = some s') : feeds cfg s'.conn = feeds cfg s.conn := by
  apply feeds_congr
  cases a with
  | reassembledSG sg ac =>
    simp only [ConnSystem.step, reassembledSG] at h
    split at h
    · obtain ⟨t, ht, rfl⟩ := Option.map_eq_some'.mp h
      unfold feedData at ht
      split at ht <;> obtain ⟨r, -, rfl⟩ := Option.map_eq_some'.mp ht <;> rfl
    · cases h
      rfl
  | reassemblyComplete ac flow =>
    cases h
    simp only [reassemblyComplete, completeConnection, checkFlip, flip]
    split_ifs <;> rfl
  | readClient => obtain ⟨r, -, rfl⟩ := Option.map_eq_some'.mp h; rfl
  | readServer => obtain ⟨r, -, rfl⟩ := Option.map_eq_some'.mp h; rfl

namespace TcpConnection.Ended

variable {cfg : Config} {s s' : ConnSystem}

/-- `ReassemblyComplete` ends the connection, whatever its flip check does. -/
theorem complete (ac : AssemblerContext) (flow : Flow) (t : TcpConnection) :
    (reassemblyComplete cfg ac flow t).1.1.Ended :=
  ⟨rfl, rfl⟩

/-- **A delivery after the end panics** when it passes the checks: its bytes are sent on a
closed channel. -/
theorem step_panics (h : s.conn.Ended) {sg : ScatterGather} (hf : feeds cfg s.conn sg)
    (ac : AssemblerContext) : s.step cfg (.reassembledSG sg ac) = none := by
  simp only [ConnSystem.step, reassembledSG, hf, if_true, Option.map_eq_none', feedData]
  cases sg.dir <;> simp [StreamReader.send, h.client, h.server]

/-- Every step from an ended connection that does not panic keeps it ended and feeds
nothing; a delivery it makes is one the checks drop. -/
theorem step (h : s.conn.Ended) {a : Action} (hs : s.step cfg a = some s') :
    s'.conn.Ended ∧ s'.fed = s.fed ∧
      ∀ sg, a.delivery = some sg → feeds cfg s.conn sg = false := by
  cases a with
  | reassembledSG sg ac =>
    by_cases hf : feeds cfg s.conn sg
    · rw [h.step_panics hf] at hs
      cases hs
    · rw [Bool.not_eq_true] at hf
      simp only [ConnSystem.step, reassembledSG, hf, Bool.false_eq_true, if_false,
        Option.some.injEq] at hs
      subst hs
      exact ⟨h, rfl, fun _ hd => by cases hd; exact hf⟩
  | reassemblyComplete ac flow =>
    cases hs
    exact ⟨complete ac flow s.conn, rfl, fun _ hd => by cases hd⟩
  | readClient =>
    obtain ⟨r, hr, rfl⟩ := Option.map_eq_some'.mp hs
    obtain ⟨_, _, -, rfl⟩ := StreamReader.receive_eq_some.mp hr
    exact ⟨⟨h.client, h.server⟩, rfl, fun _ hd => by cases hd⟩
  | readServer =>
    obtain ⟨r, hr, rfl⟩ := Option.map_eq_some'.mp hs
    obtain ⟨_, _, -, rfl⟩ := StreamReader.receive_eq_some.mp hr
    exact ⟨⟨h.client, h.server⟩, rfl, fun _ hd => by cases hd⟩

/-- The run from an ended connection: it stays ended, feeds nothing, and each of its
deliveries is one the checks drop. -/
theorem run :
    ∀ (acts : List Action) (s s' : ConnSystem), s.conn.Ended → s.run cfg acts = some s' →
      s'.conn.Ended ∧ s'.fed = s.fed ∧
        ∀ sg ∈ acts.filterMap Action.delivery, feeds cfg s.conn sg = false
  | [], _, _, h, hs => by cases hs; exact ⟨h, rfl, by simp⟩
  | a :: acts, s, s', h, hs => by
    obtain ⟨s₁, h₁, hs'⟩ := Option.bind_eq_some.mp hs
    obtain ⟨he, hfed, hd⟩ := h.step h₁
    obtain ⟨he', hfed', hd'⟩ := run acts s₁ s' he hs'
    refine ⟨he', hfed'.trans hfed, fun sg hsg => ?_⟩
    obtain ⟨b, hb, hbsg⟩ := List.mem_filterMap.mp hsg
    rcases List.mem_cons.mp hb with rfl | hb
    · exact hd sg hbsg
    · exact ConnSystem.step_feeds h₁ ▸ hd' sg (List.mem_filterMap.mpr ⟨b, hb, hbsg⟩)

end TcpConnection.Ended

/-- **Nothing is fed after `ReassemblyComplete`.** In every interleaving that goes on after
`ReassemblyComplete` without panicking, no fragment more reaches a reader, and each later
`ReassembledSG` is one the checks drop: missing bytes, a disabled protocol, HTTPS, or no
bytes. A later delivery that passes the checks panics. -/
theorem run_after_complete (cfg : Config) (s s' : ConnSystem) (ac : AssemblerContext)
    (flow : Flow) (acts : List Action)
    (h : s.run cfg (.reassemblyComplete ac flow :: acts) = some s') :
    s'.fed = s.fed ∧ ∀ sg ∈ acts.filterMap Action.delivery, feeds cfg s.conn sg = false := by
  obtain ⟨s₁, h₁, hs'⟩ := Option.bind_eq_some.mp h
  have he : s₁.conn.Ended := by
    cases h₁
    exact TcpConnection.Ended.complete ac flow s.conn
  obtain ⟨-, hfed, hd⟩ := TcpConnection.Ended.run acts s₁ s' he hs'
  refine ⟨hfed.trans ?_, fun sg hsg => ConnSystem.step_feeds h₁ ▸ hd sg hsg⟩
  cases h₁
  rfl

/-- After the end, a delivery with one missing byte is dropped and the run goes on. -/
theorem run_after_complete_skipped :
    ∃ s', (sampleSystem 5).run sampleConfig
        [.reassemblyComplete ⟨6⟩ ⟨"10.0.0.1", "10.0.0.2"⟩,
          .reassembledSG { oneByte .clientToServer with skip := 1 } ⟨7⟩] = some s' ∧
      s'.fed = (sampleSystem 5).fed ∧
        ∀ sg ∈ [{ oneByte .clientToServer with skip := 1 }],
          feeds sampleConfig (sampleSystem 5).conn sg = false :=
  ⟨_, rfl, run_after_complete sampleConfig (sampleSystem 5) _ ⟨6⟩ ⟨"10.0.0.1", "10.0.0.2"⟩
    [.reassembledSG { oneByte .clientToServer with skip := 1 } ⟨7⟩] rfl⟩

/-! ### The cached conversation -/

/-- `e` saves the buffers of `c`, if it saves a conversation at all. -/
def Effect.SavesConv (c : Conversation) : Effect → Prop
  | .saveConnection raw colored _ _ _ => raw = c.raw ∧ colored = c.colored
  | _ => True

/-- Once `conversationRaw` holds a byte, `ReassemblyComplete` keeps the buffers and saves them
as they are. -/
theorem reassemblyComplete_of_cached (cfg : Config) (ac : AssemblerContext) (flow : Flow)
    {t : TcpConnection} (h : t.conv.raw ≠ []) :
    (reassemblyComplete cfg ac flow t).1.1.conv = t.conv ∧
      ∀ e ∈ (reassemblyComplete cfg ac flow t).1.2, e.SavesConv t.conv := by
  have hc := checkFlip_conv ac flow t
  have hr := conversationRaw_of_ne_nil cfg.conv (checkFlip ac flow t).client.dataSlice
    (checkFlip ac flow t).server.dataSlice h
  simp only [reassemblyComplete, completeConnection, completeEffects, hr, hc]
  refine ⟨trivial, fun e he => ?_⟩
  simp only [List.cons_append, List.singleton_append, List.mem_cons] at he
  rcases he with rfl | rfl | he
  · exact ⟨rfl, rfl⟩
  · trivial
  · split at he
    · rw [List.mem_singleton.mp he]
      trivial
    · cases he

/-- Deliveries and reader steps have no effect outside the connection. -/
theorem ConnSystem.step_effects {cfg : Config} {s s' : ConnSystem} {a : Action}
    (ha : a.beforeComplete) (hs : s.step cfg a = some s') : s'.effects = s.effects := by
  cases a with
  | reassembledSG sg ac =>
    simp only [ConnSystem.step, reassembledSG] at hs
    split at hs
    · obtain ⟨t, -, rfl⟩ := Option.map_eq_some'.mp hs
      rfl
    · cases hs
      rfl
  | reassemblyComplete => cases ha
  | readClient | readServer =>
    obtain ⟨r, -, rfl⟩ := Option.map_eq_some'.mp hs
    rfl

theorem ConnSystem.step_cached {cfg : Config} {s s' : ConnSystem} {a : Action}
    (h : s.conn.conv.raw ≠ []) (hs : s.step cfg a = some s') :
    s'.conn.conv = s.conn.conv ∧
      ∃ new, s'.effects = s.effects ++ new ∧ ∀ e ∈ new, e.SavesConv s.conn.conv := by
  cases a with
  | reassemblyComplete ac flow =>
    cases hs
    obtain ⟨hc, he⟩ := reassemblyComplete_of_cached cfg ac flow h
    exact ⟨hc, _, rfl, he⟩
  | _ =>
    exact ⟨step_conv (by rfl) hs, [], by rw [step_effects (by rfl) hs, List.append_nil],
      by simp⟩

/-- **Later completions save the cached conversation.** From a connection whose
`conversationRaw` holds a byte, as after a first `ReassemblyComplete` that saved one, every run
that does not panic keeps the conversation buffers, and every conversation it saves is that
one: a fragment the readers store afterwards, one queued at the first completion included, is
never saved. -/
theorem run_saves_cached (cfg : Config) :
    ∀ (acts : List Action) (s s' : ConnSystem), s.conn.conv.raw ≠ [] →
      s.run cfg acts = some s' → s'.conn.conv = s.conn.conv ∧
        ∃ new, s'.effects = s.effects ++ new ∧ ∀ e ∈ new, e.SavesConv s.conn.conv
  | [], _, _, _, hs => by cases hs; exact ⟨rfl, [], by simp, by simp⟩
  | a :: acts, s, s', h, hs => by
    obtain ⟨s₁, h₁, hs'⟩ := Option.bind_eq_some.mp hs
    obtain ⟨hc₁, new₁, he₁, hn₁⟩ := ConnSystem.step_cached h h₁
    obtain ⟨hc, new, he, hn⟩ := run_saves_cached cfg acts s₁ s' (hc₁ ▸ h) hs'
    refine ⟨hc.trans hc₁, new₁ ++ new, by rw [he, he₁, List.append_assoc],
      fun e he' => ?_⟩
    rcases List.mem_append.mp he' with he' | he'
    · exact hn₁ e he'
    · exact hc₁ ▸ hn e he'

/-- A client byte received and saved by a first completion: a second completion saves it
again. -/
theorem run_saves_cached_twice :
    let s := ((sampleSystem 5).run sampleConfig
      [.reassembledSG (oneByte .clientToServer) ⟨5⟩, .readClient,
        .reassemblyComplete ⟨6⟩ ⟨"10.0.0.1", "10.0.0.2"⟩]).getD (sampleSystem 5)
    s.conn.conv.raw ≠ [] ∧
      ∃ s', s.run sampleConfig [.reassemblyComplete ⟨7⟩ ⟨"10.0.0.1", "10.0.0.2"⟩] = some s' ∧
        s'.conn.conv = s.conn.conv ∧
        ∃ new, s'.effects = s.effects ++ new ∧ ∀ e ∈ new, e.SavesConv s.conn.conv :=
  ⟨by decide, _, rfl, run_saves_cached sampleConfig
    [.reassemblyComplete ⟨7⟩ ⟨"10.0.0.1", "10.0.0.2"⟩] _ _ (by decide) rfl⟩

end Netcap
