import Mathlib.Algebra.Ring.Int.Defs

/-!
# The audit record writer

`NewWriter` builds, from its switches, the chain of writers a `Writer` hands its records to:
an `io.CSVWriter` in CSV mode, otherwise a length-delimited protobuf writer wrapped in an
`io.AtomicDelimitedWriter`; through a `gzip.Writer` when compressing; through a
`bufio.Writer` when buffering; into the file `out/name` with the extension of the format, or
into an `io.ChanWriter` when `writeChan` is set outside CSV mode. Outside CSV mode `writeChan`
together with buffering or compression panics; in CSV mode it is ignored.

`Writer.design` states the writer by design, one layer of the chain per switch
(`pipeline`), and `newWriter_eq_design` proves that the nested branches of `NewWriter` build
exactly it for every combination of switches. Two details fall out of the comparison: the
CSV buffer has the size the caller asks for (`DefaultBufferSize` when it asks for none) while
the protobuf buffer always has `DefaultBufferSize`, and a CSV writer made with `writeChan`
reports `IsChanWriter` but has no channel.

`Close` closes the gzip writer when compressing, flushes the buffer when buffering, and closes
the file. For every writer `NewWriter` returns these are exactly the buffering stages of its
chain, in the order the records flow through them (`close_flushes_pipeline`): no flush meets
a nil writer, and each stage is drained into one that is drained after it. Hence, whatever
the buffering writers pass on between the writes, `Close` leaves none of them holding a byte
and the file or channel with every byte written, in order (`close_delivers_written`).

`filepath.Join`, `CreateFile` and the writers themselves are outside the repository: a file is
its joined path and extension, a writer is what it writes to, and a buffering writer passes on
in order what it is given.
-/

namespace Netcap

/-- What a writer of the chain writes to. -/
inductive Target
  /-- The file `CreateFile(path, ext)`. -/
  | file (path ext : String)
  /-- The channel of `io.NewChanWriter()`. -/
  | chan
  /-- `bufio.NewWriterSize(inner, size)`. -/
  | bufio (size : Int) (inner : Target)
  /-- `gzip.NewWriter(inner)`. -/
  | gzip (inner : Target)
deriving DecidableEq, Repr

/-- What `NewWriter` takes from outside the repository: `DefaultBufferSize` and
`filepath.Join`. -/
structure WriterEnv where
  defaultBufferSize : Int
  join : String → String → String

/-- The fields of `Writer`. Each writer is what it writes to; `aWriter` is the target of the
delimited writer `dWriter` it wraps, and `cWriter` says whether a channel writer was made. -/
structure Writer where
  name : String
  file : Option Target
  bWriter : Option Target
  gWriter : Option Target
  aWriter : Option Target
  cWriter : Bool
  csvWriter : Option Target
  compress : Bool
  buffer : Bool
  csv : Bool
  out : String
  isChanWriter : Bool
deriving DecidableEq

/-- The extension `NewWriter` gives the file. -/
def fileExt : Bool → Bool → String
  | true, true => ".csv.gz"
  | true, false => ".csv"
  | false, true => ".ncap.gz"
  | false, false => ".ncap"

/-- **`NewWriter(name, buffer, compress, csv, out, writeChan, memBufferSize)`**; the error is
the panic of a channel writer asked to buffer or compress. The protobuf branch builds its
buffer on `w.file`, which is the file there: the panic excludes a buffered channel writer. -/
def newWriter (env : WriterEnv) (name : String) (buffer compress csv : Bool) (out : String)
    (writeChan : Bool) (memBufferSize : Int) : Except String Writer :=
  let memBufferSize := if memBufferSize ≤ 0 then env.defaultBufferSize else memBufferSize
  let w : Writer := ⟨name, none, none, none, none, false, none, compress, buffer, csv, out,
    writeChan⟩
  if csv then
    let file := Target.file (env.join out name) (if compress then ".csv.gz" else ".csv")
    if buffer then
      let b := Target.bufio memBufferSize file
      if compress then
        .ok { w with file := some file, bWriter := some b, gWriter := some (.gzip b)
                     csvWriter := some (.gzip b) }
      else .ok { w with file := some file, bWriter := some b, csvWriter := some b }
    else if compress then
      .ok { w with file := some file, gWriter := some (.gzip file), csvWriter := some (.gzip file) }
    else .ok { w with file := some file, csvWriter := some file }
  else if writeChan && buffer || writeChan && compress then
    .error "buffering or compression cannot be activated when running using writeChan"
  else
    let file := Target.file (env.join out name) (if compress then ".ncap.gz" else ".ncap")
    let w := if writeChan then { w with cWriter := true } else { w with file := some file }
    if buffer then
      let b := Target.bufio env.defaultBufferSize file
      if compress then
        .ok { w with bWriter := some b, gWriter := some (.gzip b), aWriter := some (.gzip b) }
      else .ok { w with bWriter := some b, aWriter := some b }
    else if compress then
      .ok { w with gWriter := some (.gzip file), aWriter := some (.gzip file) }
    else if writeChan then .ok { w with aWriter := some .chan }
    else .ok { w with aWriter := some file }

/-! ### The writer by design -/

/-- The chain by design: the sink, behind a buffer when buffering, behind gzip when
compressing. -/
def pipeline (sink : Target) (size : Int) (buffer compress : Bool) : Target :=
  let t := if buffer then Target.bufio size sink else sink
  if compress then .gzip t else t

/-- The writer by design: the records go to the encoder of the format, through
`pipeline`, into the channel for a channel writer outside CSV mode and into the file
otherwise; the CSV buffer has the requested size and the protobuf buffer the default. -/
def Writer.design (env : WriterEnv) (name : String) (buffer compress csv : Bool) (out : String)
    (writeChan : Bool) (memBufferSize : Int) : Writer :=
  let chan := writeChan && !csv
  let file := Target.file (env.join out name) (fileExt csv compress)
  let sink := if chan then Target.chan else file
  let size := if csv && memBufferSize > 0 then memBufferSize else env.defaultBufferSize
  let enc := pipeline sink size buffer compress
  { name, compress, buffer, csv, out
    isChanWriter := writeChan
    file := if chan then none else some file
    bWriter := if buffer then some (.bufio size sink) else none
    gWriter := if compress then some (.gzip (pipeline sink size buffer false)) else none
    aWriter := if csv then none else some enc
    cWriter := chan
    csvWriter := if csv then some enc else none }

/-- **`NewWriter` builds the writer by design**, for every combination of switches, and
panics exactly for a channel writer outside CSV mode that is asked to buffer or compress. -/
theorem newWriter_eq_design (env : WriterEnv) (name : String) (buffer compress csv : Bool)
    (out : String) (writeChan : Bool) (memBufferSize : Int) :
    newWriter env name buffer compress csv out writeChan memBufferSize =
      if !csv && writeChan && (buffer || compress) then
        .error "buffering or compression cannot be activated when running using writeChan"
      else .ok (Writer.design env name buffer compress csv out writeChan memBufferSize) := by
  have hsize : (if memBufferSize ≤ 0 then env.defaultBufferSize else memBufferSize) =
      if memBufferSize > 0 then memBufferSize else env.defaultBufferSize := by
    split_ifs <;> first | rfl | omega
  cases csv <;> cases buffer <;> cases compress <;> cases writeChan <;>
    simp [newWriter, Writer.design, pipeline, fileExt, hsize]

/-- A CSV writer asked for a channel reports `IsChanWriter` but makes no channel. -/
example (env : WriterEnv) (name : String) (buffer compress : Bool) (out : String)
    (memBufferSize : Int) :
    ∃ w, newWriter env name buffer compress true out true memBufferSize = .ok w ∧
      w.isChanWriter = true ∧ w.cWriter = false ∧ w.file.isSome := by
  rw [newWriter_eq_design]
  exact ⟨_, rfl, rfl, rfl, rfl⟩

/-! ### What the design gives -/

/-- The encoder `Write` and `WriteHeader` use: the CSV writer in CSV mode, the atomic
protobuf writer otherwise; `none` where they would dereference a nil writer. -/
def Writer.encoder (w : Writer) : Option Target := if w.csv then w.csvWriter else w.aWriter

/-- What `Close` does, in order. -/
inductive CloseStep
  /-- `CloseGzipWriters(w.gWriter)`: flush and close the gzip writer. -/
  | closeGzip (g : Option Target)
  /-- `FlushWriters(w.bWriter)`. -/
  | flushBuffer (b : Option Target)
  /-- `CloseFile(w.out, w.file, w.Name)`. -/
  | closeFile (out : String) (file : Option Target) (name : String)
deriving DecidableEq

/-- **`Close`**. -/
def Writer.close (w : Writer) : List CloseStep :=
  (if w.compress then [.closeGzip w.gWriter] else []) ++
    (if w.buffer then [.flushBuffer w.bWriter] else []) ++ [.closeFile w.out w.file w.name]

/-- The buffering writers of a chain, from the encoder towards the sink. -/
def Target.stages : Target → List Target
  | .gzip t => .gzip t :: t.stages
  | .bufio n t => .bufio n t :: t.stages
  | _ => []

/-- Draining one buffering writer: closing a gzip writer, flushing a buffer. -/
def CloseStep.drain : Target → CloseStep
  | .gzip t => .closeGzip (some (.gzip t))
  | t => .flushBuffer (some t)

/-- **`Close` drains the chain.** For every writer `NewWriter` returns, `Write` reaches an
encoder, and `Close` drains exactly the buffering writers of that encoder's chain, in the
order the records flow through them, before it closes the file. -/
theorem close_flushes_pipeline (env : WriterEnv) (name : String) (buffer compress csv : Bool)
    (out : String) (writeChan : Bool) (memBufferSize : Int) (w : Writer)
    (h : newWriter env name buffer compress csv out writeChan memBufferSize = .ok w) :
    ∃ enc, w.encoder = some enc ∧
      w.close = enc.stages.map CloseStep.drain ++ [.closeFile w.out w.file w.name] := by
  rw [newWriter_eq_design] at h
  split_ifs at h
  cases h
  cases csv <;> cases buffer <;> cases compress <;> cases writeChan <;> exact ⟨_, rfl, rfl⟩


/-! ### What `Close` delivers

The buffering writers are outside the repository, and the model takes of them only this: a
`bufio.Writer` or a `gzip.Writer` holds what it is given and passes it on in order to the
writer it wraps, a part at a time when it chooses (a full buffer, a compressed block) and all
of it when it is flushed or closed; the compressor's output is counted as the bytes it
encodes. `Held` is the data in a chain at one moment. Whatever the writers pass on between
the writes, the steps of `Close` leave nothing held and the sink with every byte written, in
order; draining the buffer before the gzip writer would leave the compressor's last block in
the buffer. -/

/-- The data in a chain of writers: what each buffering writer holds, from the encoder
towards the sink, and what the sink has received. -/
inductive Held
  /-- The file or the channel, with what it has received. -/
  | sink (received : List UInt8)
  /-- A buffer or gzip writer holding `holds`, in front of `inner`. -/
  | stage (holds : List UInt8) (inner : Held)
deriving DecidableEq, Repr

/-- The writer a buffering writer wraps. -/
def Target.wrapped : Target → Option Target
  | .bufio _ t | .gzip t => some t
  | _ => none

/-- A new chain of the shape of `t`: nothing held, nothing received. -/
def Target.fresh : Target → Held
  | .bufio _ t | .gzip t => .stage [] t.fresh
  | _ => .sink []

namespace Held

/-- A write into the chain: the outermost writer takes `data`. -/
def write (data : List UInt8) : Held → Held
  | sink r => sink (r ++ data)
  | stage h inner => stage (h ++ data) inner

/-- The buffering writer at depth `d` passes the first `n` bytes it holds to the writer it
wraps; where there is none, nothing happens. -/
def pass : Nat → Nat → Held → Held
  | 0, n, stage h inner => stage (h.drop n) (inner.write (h.take n))
  | d + 1, n, stage h inner => stage h (pass d n inner)
  | _, _, x => x

/-- Flushing or closing the writer `t` of the chain `c` that holds `x`: found by walking the
chain from the encoder, it passes everything it holds to the writer it wraps. -/
def drain (t : Target) : Target → Held → Held
  | .bufio n c, stage h inner =>
    if .bufio n c = t then stage [] (inner.write h) else stage h (drain t c inner)
  | .gzip c, stage h inner =>
    if .gzip c = t then stage [] (inner.write h) else stage h (drain t c inner)
  | _, x => x

/-- What the sink has received. -/
def received : Held → List UInt8
  | sink r => r
  | stage _ inner => inner.received

/-- What the buffering writers hold, from the sink outwards. -/
def pending : Held → List UInt8
  | sink _ => []
  | stage h inner => inner.pending ++ h

/-- `x` is the data of a chain of the shape `c`: one stage per buffering writer of `c`. -/
def Fits : Held → Target → Prop
  | sink _, .file _ _ | sink _, .chan => True
  | stage _ inner, .bufio _ c | stage _ inner, .gzip c => inner.Fits c
  | _, _ => False

theorem fresh_fits : ∀ c : Target, c.fresh.Fits c
  | .file _ _ | .chan => trivial
  | .bufio _ c | .gzip c => fresh_fits c

theorem fresh_received : ∀ c : Target, c.fresh.received = []
  | .file _ _ | .chan => rfl
  | .bufio _ c | .gzip c => fresh_received c

theorem fresh_pending : ∀ c : Target, c.fresh.pending = []
  | .file _ _ | .chan => rfl
  | .bufio _ c | .gzip c => by simp only [Target.fresh, pending, fresh_pending c, List.append_nil]

theorem write_fits (data : List UInt8) : ∀ {x : Held} {c : Target}, x.Fits c →
    (x.write data).Fits c
  | sink _, .file _ _, _ | sink _, .chan, _ => trivial
  | stage _ _, .bufio _ _, h | stage _ _, .gzip _, h => h

theorem pass_fits : ∀ (d n : Nat) {x : Held} {c : Target}, x.Fits c → (x.pass d n).Fits c
  | 0, _, stage _ _, .bufio _ _, h | 0, _, stage _ _, .gzip _, h => write_fits _ h
  | d + 1, n, stage _ _, .bufio _ _, h | d + 1, n, stage _ _, .gzip _, h => pass_fits d n h
  | 0, _, sink _, _, h | _ + 1, _, sink _, _, h => h

/-- A write appends its bytes to the chain's data. -/
theorem flow_write (data : List UInt8) (x : Held) :
    (x.write data).received ++ (x.write data).pending = x.received ++ x.pending ++ data := by
  cases x <;> simp [write, received, pending]

/-- Passing bytes on keeps the chain's data and its order. -/
theorem flow_pass : ∀ (d n : Nat) (x : Held),
    (x.pass d n).received ++ (x.pass d n).pending = x.received ++ x.pending
  | 0, n, stage h inner => by
    simp only [pass, received, pending, ← List.append_assoc, flow_write]
    simp only [List.append_assoc, List.take_append_drop]
  | d + 1, n, stage h inner => by
    simp only [pass, received, pending, ← List.append_assoc, flow_pass d n inner]
  | 0, _, sink _ | _ + 1, _, sink _ => rfl

/-- Draining a writer that is not the outermost one works inside the outermost one. -/
theorem drain_stage_of_ne {t c ci : Target} {h : List UInt8} {y : Held}
    (hc : c.wrapped = some ci) (ht : c ≠ t) :
    (stage h y).drain t c = stage h (y.drain t ci) := by
  cases c <;> simp only [Target.wrapped, reduceCtorEq, Option.some.injEq] at hc <;> subst hc <;>
    simp [drain, ht]

theorem foldl_drain_stage {c ci : Target} (hc : c.wrapped = some ci) :
    ∀ (ts : List Target), (∀ t ∈ ts, c ≠ t) → ∀ (h : List UInt8) (y : Held),
      ts.foldl (fun y t => y.drain t c) (stage h y) =
        stage h (ts.foldl (fun y t => y.drain t ci) y)
  | [], _, _, _ => rfl
  | t :: ts, hts, h, y => by
    rw [List.foldl_cons, drain_stage_of_ne hc (hts t (.head _)),
      foldl_drain_stage hc ts (fun t ht => hts t (.tail _ ht))]
    rfl

end Held

theorem Target.stages_of_wrapped {c ci : Target} (hc : c.wrapped = some ci) :
    c.stages = c :: ci.stages := by
  cases c <;> simp only [wrapped, reduceCtorEq, Option.some.injEq] at hc <;> subst hc <;> rfl

theorem Target.sizeOf_le_of_mem_stages :
    ∀ {c t : Target}, t ∈ c.stages → sizeOf t ≤ sizeOf c
  | .bufio _ c, t, h | .gzip c, t, h => by
    rcases List.mem_cons.1 h with rfl | h
    · exact le_rfl
    · have := sizeOf_le_of_mem_stages h
      simp only [Target.bufio.sizeOf_spec, Target.gzip.sizeOf_spec]
      omega

/-- A writer is none of the writers behind the one it wraps. -/
theorem Target.ne_of_mem_stages {c ci t : Target} (hc : c.wrapped = some ci)
    (ht : t ∈ ci.stages) : c ≠ t := by
  rintro rfl
  have := sizeOf_le_of_mem_stages ht
  cases c <;> simp only [wrapped, reduceCtorEq, Option.some.injEq] at hc <;> subst hc <;>
    simp only [Target.bufio.sizeOf_spec, Target.gzip.sizeOf_spec] at this <;> omega

theorem Held.drain_self {c ci : Target} {h : List UInt8} {y : Held} (hc : c.wrapped = some ci) :
    (stage h y).drain c c = stage [] (y.write h) := by
  cases c <;> simp only [Target.wrapped, reduceCtorEq, Option.some.injEq] at hc <;>
    simp [drain]

/-- Draining at a buffering writer: it passes all it holds to the writer it wraps, whose
chain is then drained. -/
theorem Held.drain_stages_wrapped {c ci : Target} {h : List UInt8} {inner : Held}
    (hc : c.wrapped = some ci)
    (ih : let y := ci.stages.foldl (fun y t => y.drain t ci) (inner.write h)
      y.received = (inner.write h).received ++ (inner.write h).pending ∧ y.pending = []) :
    let y := c.stages.foldl (fun y t => y.drain t c) (stage h inner)
    y.received = (stage h inner).received ++ (stage h inner).pending ∧ y.pending = [] := by
  simp only [Target.stages_of_wrapped hc, List.foldl_cons, drain_self hc,
    foldl_drain_stage hc _ fun _ => Target.ne_of_mem_stages hc]
  simp only [received, pending, ih.1, ih.2, flow_write, List.nil_append, List.append_nil,
    List.append_assoc, and_self]

/-- **Draining a chain.** Draining its buffering writers from the encoder towards the sink
leaves nothing held, the sink having received, after what it had, everything they held. -/
theorem Held.drain_stages : ∀ (c : Target) (x : Held), x.Fits c →
    let y := c.stages.foldl (fun y t => y.drain t c) x
    y.received = x.received ++ x.pending ∧ y.pending = []
  | .file _ _, sink _, _ | .chan, sink _, _ => ⟨(List.append_nil _).symm, rfl⟩
  | .bufio _ c, stage h _, hx | .gzip c, stage h _, hx =>
    drain_stages_wrapped rfl (drain_stages c _ (write_fits h hx))

/-- What happens to the chain between `NewWriter` and `Close`: the encoder writes a record's
bytes, or the buffering writer at a depth passes some of what it holds on. -/
inductive ChainEvent
  | write (data : List UInt8)
  | pass (depth n : Nat)
deriving DecidableEq, Repr

/-- The event on the chain's data. -/
def ChainEvent.apply (x : Held) : ChainEvent → Held
  | .write data => x.write data
  | .pass d n => x.pass d n

/-- The bytes an event writes. -/
def ChainEvent.data : ChainEvent → List UInt8
  | .write data => data
  | .pass _ _ => []

/-- A step of `Close` on the data of the chain `enc`: closing the gzip writer and flushing the
buffer drain them; closing the file moves no data. -/
def CloseStep.apply (enc : Target) (x : Held) : CloseStep → Held
  | .closeGzip (some t) | .flushBuffer (some t) => x.drain t enc
  | _ => x

/-- **The step.** An event keeps the chain's shape and appends the bytes it writes to the
chain's data. -/
theorem ChainEvent.apply_flow {c : Target} {x : Held} (hx : x.Fits c) (e : ChainEvent) :
    (e.apply x).Fits c ∧
      (e.apply x).received ++ (e.apply x).pending = x.received ++ x.pending ++ e.data := by
  cases e with
  | write d => exact ⟨Held.write_fits d hx, Held.flow_write d x⟩
  | pass d n =>
    exact ⟨Held.pass_fits d n hx, (Held.flow_pass d n x).trans (List.append_nil _).symm⟩

/-- **The run.** Every run of events keeps the chain's shape, and appends the bytes written to
its data in order. -/
theorem ChainEvent.run_flow (c : Target) : ∀ (evs : List ChainEvent) (x : Held), x.Fits c →
    let y := evs.foldl ChainEvent.apply x
    y.Fits c ∧ y.received ++ y.pending = x.received ++ x.pending ++ (evs.map data).flatten
  | [], x, hx => ⟨hx, (List.append_nil _).symm⟩
  | e :: evs, x, hx => by
    obtain ⟨h₁, h₂⟩ := apply_flow hx e
    obtain ⟨h₃, h₄⟩ := run_flow c evs _ h₁
    exact ⟨h₃, by rw [List.foldl_cons, h₄, h₂, List.map_cons, List.flatten_cons,
      List.append_assoc]⟩

/-- **`Close` delivers every byte written.** For every writer `NewWriter` returns and every
run of writes and partial passes through its chain, the steps of `Close` leave no buffering
writer holding anything, and the file or channel has received every byte the encoder wrote,
in the order it wrote them. -/
theorem close_delivers_written (env : WriterEnv) (name : String) (buffer compress csv : Bool)
    (out : String) (writeChan : Bool) (memBufferSize : Int) (w : Writer)
    (h : newWriter env name buffer compress csv out writeChan memBufferSize = .ok w)
    (evs : List ChainEvent) :
    ∃ enc, w.encoder = some enc ∧
      let y := w.close.foldl (CloseStep.apply enc) (evs.foldl ChainEvent.apply enc.fresh)
      y.received = (evs.map ChainEvent.data).flatten ∧ y.pending = [] := by
  obtain ⟨enc, henc, hclose⟩ := close_flushes_pipeline env name buffer compress csv out
    writeChan memBufferSize w h
  have hdrain : ∀ x t, CloseStep.apply enc x (CloseStep.drain t) = x.drain t enc := by
    intro x t; cases t <;> rfl
  obtain ⟨hfits, hflow⟩ := ChainEvent.run_flow enc evs enc.fresh (Held.fresh_fits enc)
  have hfile : ∀ x, CloseStep.apply enc x (.closeFile w.out w.file w.name) = x := fun _ => rfl
  obtain ⟨h₁, h₂⟩ := Held.drain_stages enc _ hfits
  refine ⟨enc, henc, ?_⟩
  simp only [hclose, List.foldl_append, List.foldl_map, hdrain, List.foldl_cons, List.foldl_nil,
    hfile]
  refine ⟨?_, h₂⟩
  rw [h₁, hflow, Held.fresh_received, Held.fresh_pending, List.nil_append, List.nil_append]

/-- The switches of a sample run: a 4096-byte default buffer and a slash-joined path. -/
def sampleWriterEnv : WriterEnv := ⟨4096, fun a b => a ++ "/" ++ b⟩

/-- A buffered, compressed protobuf writer to a file, through which three bytes are written
and the buffer passes on one: `Close` delivers the three. -/
theorem close_delivers_written_gzip :
    ∃ w, newWriter sampleWriterEnv "HTTP" true true false "out" false 0 = .ok w ∧
      ∃ enc, w.encoder = some enc ∧
        let y := w.close.foldl (CloseStep.apply enc)
          ([.write [1, 2], .pass 0 2, .pass 1 1, .write [3]].foldl ChainEvent.apply enc.fresh)
        y.received = ([ChainEvent.write [1, 2], .pass 0 2, .pass 1 1, .write [3]].map
          ChainEvent.data).flatten ∧ y.pending = [] :=
  ⟨_, rfl, close_delivers_written sampleWriterEnv "HTTP" true true false "out" false 0 _ rfl _⟩

/-- Flushing the buffer before closing the gzip writer would leave the compressor's last
block in the buffer. -/
example :
    let enc := Target.gzip (.bufio 4096 .chan)
    (([CloseStep.flushBuffer (some (.bufio 4096 .chan)), .closeGzip (some enc)].foldl
      (CloseStep.apply enc) (enc.fresh.write [1])).pending) = [1] := by
  decide

end Netcap
