import Netcap.GoSort

/-!
# The merged conversation of a connection

`tcpConnection.ConversationRaw` builds, once per connection, the byte stream that
`ReassemblyComplete` saves: it appends the server reader's fragments to the client reader's,
sorts them with `sort.Sort` by capture timestamp, and writes each fragment's bytes to
`conversationRaw` and, wrapped in `ansi.Red` (client to server) or `ansi.Blue` (server to
client) and `ansi.Reset`, to `conversationColored`. With `c.Debug` each colored fragment is
followed by a timestamp marker. "Once" is implemented by testing whether `conversationRaw` is
still empty.

`sort.Sort` is outside the repository; `Sorter` takes it with its documented contract, a
sorted permutation, and nothing more. Under that contract the merge is a permutation of the
two directions in time order and the buffers are the concatenations of its fragments
(`conversationRaw_merge`). Stability is not in the contract, and the small-slice path of
Go's own `sort.Sort` (`Netcap.GoSort`) breaks it: among fragments that share a timestamp, one
direction's fragments can come out of the merge in another order than the one its reader
stored them in (`conversationRaw_reorders_direction`).

The ANSI codes and the rendering of a timestamp belong to other packages and are parameters
(`ConvEnv`).
-/

namespace Netcap

/-- `reassembly.TCPFlowDirection`. -/
inductive TCPFlowDirection
  | clientToServer
  | serverToClient
deriving DecidableEq, Repr

/-- The assembler context of a fragment; the code reads its capture timestamp (in
nanoseconds). -/
structure AssemblerContext where
  timestamp : Nat
deriving DecidableEq, Repr

/-- `StreamData`: a fragment fed to a reader, with its bytes, context and direction. -/
structure StreamData where
  raw : List UInt8
  ac : AssemblerContext
  dir : TCPFlowDirection
deriving DecidableEq, Repr

/-- Capture time does not decrease from `a` to `b`: the order `sort.Sort` sorts by. -/
def TsLe (a b : StreamData) : Prop := a.ac.timestamp ≤ b.ac.timestamp

instance : DecidableRel TsLe := fun a b => Nat.decLe a.ac.timestamp b.ac.timestamp

instance : IsTotal StreamData TsLe := ⟨fun a b => Nat.le_total a.ac.timestamp b.ac.timestamp⟩

instance : IsTrans StreamData TsLe := ⟨fun _ _ _ => Nat.le_trans⟩

/-- `sort.Sort` on a `StreamDataSlice`, with the contract its documentation gives: a
permutation of the input in non-decreasing capture time. Stability is not promised. -/
structure Sorter where
  sort : List StreamData → List StreamData
  perm : ∀ l, (sort l).Perm l
  sorted : ∀ l, (sort l).Sorted TsLe

/-- What `ConversationRaw` takes from outside the connection: `c.Debug`, the codes
`ansi.Red`, `ansi.Blue` and `ansi.Reset`, `time.Time.String`, and `sort.Sort`. -/
structure ConvEnv where
  debug : Bool
  red : List UInt8
  blue : List UInt8
  reset : List UInt8
  timeString : Nat → List UInt8
  sorter : Sorter

/-- The conversation buffers of a `tcpConnection`: `conversationRaw`, `conversationColored`
and `merged`. In Go `merged` may share its array with the client reader's `DataSlice`
(`Netcap.mergedClientSlice`), and a later append there would overwrite its tail; nothing reads
`merged` after the merge. -/
structure Conversation where
  raw : List UInt8
  colored : List UInt8
  merged : List StreamData
deriving DecidableEq

/-- The buffers of a new connection. -/
def Conversation.empty : Conversation := ⟨[], [], []⟩

/-- What the loop writes to `conversationColored` for one fragment: its bytes in the color of
its direction, `ansi.Reset`, and with `c.Debug` the marker `"\n[" + timestamp + "]\n"`. -/
def colorFragment (e : ConvEnv) (d : StreamData) : List UInt8 :=
  let color := if d.dir = .clientToServer then e.red else e.blue
  if e.debug then
    color ++ d.raw ++ e.reset ++ ([0x0a, 0x5b] ++ e.timeString d.ac.timestamp ++ [0x5d, 0x0a])
  else color ++ d.raw ++ e.reset

/-- One iteration of the loop over `h.merged`. -/
def writeFragment (e : ConvEnv) (c : Conversation) (d : StreamData) : Conversation :=
  { c with raw := c.raw ++ d.raw, colored := c.colored ++ colorFragment e d }

/-- **`ConversationRaw`** on the client and server readers' `DataSlice`s: while
`conversationRaw` is empty, merge, sort and write the fragments; return `conversationRaw`. -/
def conversationRaw (e : ConvEnv) (client server : List StreamData) (c : Conversation) :
    List UInt8 × Conversation :=
  if c.raw.length = 0 then
    let c := (e.sorter.sort (client ++ server)).foldl (writeFragment e)
      { c with merged := e.sorter.sort (client ++ server) }
    (c.raw, c)
  else (c.raw, c)

/-- `ConversationColored`. -/
def conversationColored (c : Conversation) : List UInt8 := c.colored

theorem foldl_writeFragment (e : ConvEnv) :
    ∀ (ds : List StreamData) (c : Conversation), ds.foldl (writeFragment e) c =
      { c with raw := c.raw ++ (ds.map (·.raw)).flatten,
               colored := c.colored ++ (ds.map (colorFragment e)).flatten }
  | [], c => by simp
  | d :: ds, c => by
    rw [List.foldl_cons, foldl_writeFragment e ds]
    simp [writeFragment]

/-- A call while `conversationRaw` is empty merges and writes the fragments, appending their
colored forms to whatever `conversationColored` already holds. A conversation whose fragments
carry no byte is therefore written again by every call, and its colored buffer grows. -/
theorem conversationRaw_of_nil (e : ConvEnv) (client server : List StreamData) {c : Conversation}
    (h : c.raw = []) :
    conversationRaw e client server c =
      let merged := e.sorter.sort (client ++ server)
      ((merged.map (·.raw)).flatten,
        ⟨(merged.map (·.raw)).flatten, c.colored ++ (merged.map (colorFragment e)).flatten,
          merged⟩) := by
  simp [conversationRaw, h, foldl_writeFragment]

/-- The first call on a new connection. -/
theorem conversationRaw_empty (e : ConvEnv) (client server : List StreamData) :
    conversationRaw e client server Conversation.empty =
      let merged := e.sorter.sort (client ++ server)
      ((merged.map (·.raw)).flatten,
        ⟨(merged.map (·.raw)).flatten, (merged.map (colorFragment e)).flatten, merged⟩) :=
  conversationRaw_of_nil e client server rfl

/-- Once `conversationRaw` holds a byte, every later call returns it and changes nothing,
whatever the readers have stored since. -/
theorem conversationRaw_of_ne_nil (e : ConvEnv) (client server : List StreamData)
    {c : Conversation} (h : c.raw ≠ []) : conversationRaw e client server c = (c.raw, c) := by
  simp [conversationRaw, h]

/-! ### A stable merge -/

/-- A stable merge of the stored fragment lists `client` and `server`: a permutation of
`client ++ server` in time order that keeps each direction's stored order, buffers that are
the concatenations of the merge, and a second call that changes nothing. -/
def MergeClaim (e : ConvEnv) (client server : List StreamData) : Prop :=
  let first := conversationRaw e client server Conversation.empty
  let second := conversationRaw e client server first.2
  first.2.merged.Perm (client ++ server) ∧ first.2.merged.Sorted TsLe ∧
    client.Sublist first.2.merged ∧ server.Sublist first.2.merged ∧
    first.1 = (first.2.merged.map (·.raw)).flatten ∧
    (e.debug = false → first.2.colored = (first.2.merged.map (colorFragment e)).flatten) ∧
    second = first

/-- Go's `sort.Sort` on a slice of at most 12 fragments, as a `Sorter`. -/
def goSmallSorter : Sorter :=
  ⟨GoSort.smallSort (fun a b => decide (a.ac.timestamp < b.ac.timestamp)) TsLe,
    GoSort.smallSort_perm _ _, GoSort.smallSort_sorted _ _⟩

/-- **One direction reordered.** Two client fragments and five server fragments, each list in
time order: Go's `sort.Sort` (its gap-6 pass swaps the first client fragment with the last
server one) puts the second client fragment before the first. -/
theorem conversationRaw_reorders_direction :
    ¬ ∀ (e : ConvEnv) (client server : List StreamData),
      client.Sorted TsLe → server.Sorted TsLe → MergeClaim e client server := fun h => by
  let c2s (b : UInt8) : StreamData := ⟨[b], ⟨1⟩, .clientToServer⟩
  let s2c (b : UInt8) : StreamData := ⟨[b], ⟨0⟩, .serverToClient⟩
  have := (h ⟨false, [0x1b], [0x1b], [0x1b], fun _ => [], goSmallSorter⟩ [c2s 1, c2s 2]
    [s2c 3, s2c 4, s2c 5, s2c 6, s2c 7] (by decide) (by decide)).2.2.1
  revert this
  decide

/-- **The merge, by design.** For every sort meeting `sort.Sort`'s contract and all stored
fragment lists, the first call of `ConversationRaw` on a connection merges the two directions
into a permutation of `client ++ server` in non-decreasing capture time; `conversationRaw` is
the concatenation of the merged fragments' bytes and `conversationColored` that of their
colored forms (with Debug off: `ansi.Red` or `ansi.Blue`, the bytes, `ansi.Reset`). Once the
conversation has a byte, every later call returns the same bytes and changes nothing. -/
theorem conversationRaw_merge (e : ConvEnv) (client server : List StreamData) :
    let first := conversationRaw e client server Conversation.empty
    first.2.merged.Perm (client ++ server) ∧ first.2.merged.Sorted TsLe ∧
      first.1 = (first.2.merged.map (·.raw)).flatten ∧ first.2.raw = first.1 ∧
      conversationColored first.2 = (first.2.merged.map (colorFragment e)).flatten ∧
      (e.debug = false → ∀ d, colorFragment e d =
        (if d.dir = .clientToServer then e.red else e.blue) ++ d.raw ++ e.reset) ∧
      (first.1 ≠ [] → ∀ client' server',
        conversationRaw e client' server' first.2 = first) := by
  rw [conversationRaw_empty]
  refine ⟨e.sorter.perm _, e.sorter.sorted _, rfl, rfl, rfl, fun hd d => ?_, fun hne _ _ => ?_⟩
  · simp [colorFragment, hd]
  · exact conversationRaw_of_ne_nil e _ _ hne

end Netcap
