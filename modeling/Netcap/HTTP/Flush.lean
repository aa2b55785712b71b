import Netcap.Reassembly.Connection

/-!
# The HTTP encoder's final flush

While a capture runs, the HTTP stream decoders park every request in `httpReqMap` and every
response in `httpResMap`, both keyed by `Stream`. When the capture ends, the deinit function
of `httpEncoder` empties them in two passes:

* the response pass visits each response; one with its `Request` set becomes a record, built
  from the response and completed by `setRequest`, which is counted in `d.numRecords` and
  written through the writer `d.csv` selects (`d.csvWriter.WriteRecord` or
  `d.aWriter.PutProto`); one without stays in the map;
* the leftover-request pass visits every request still in `httpReqMap`; a non-nil one becomes
  a record of its own, counted and written with `d.aWriter.PutProto`.

Each record is counted before it is written, and a failed write only has its error counted in
`errorMap`. When both maps have no key at all, the flush does nothing.

The model takes each map as its entries in the order the loop visits them: Go leaves that
order open, so every theorem holds for each order. The writers are outside the repository; a
write is recorded together with the writer it went to, and whether it fails is an oracle
`outcome`, which gives the error of the `n`-th record handed to a writer, if any.

`httpFlush_records` gives the whole effect of the flush in closed form, for every content of
the two maps and every pattern of failures: the records handed to the writers, in order, with
their writers; `numRecords` grown by their number, failed or not; the errors of the failed
ones; the progress counter `total`; and the response map after the pass.
In particular a leftover request goes to the protobuf writer even in CSV mode, and a record
whose write fails is counted all the same.
-/

namespace Netcap

/-! ### Requests, responses and records -/

/-- `textproto.CanonicalMIMEHeaderKey` on a key of token characters: the first letter and
every letter after a hyphen in upper case, the others in lower case. -/
def canonicalKey (k : String) : String :=
  ⟨go true k.data⟩
where
  /-- The characters after one that was (`upper`) or was not a hyphen or the start. -/
  go : Bool → List Char → List Char
    | _, [] => []
    | upper, c :: cs => (if upper then c.toUpper else c.toLower) :: go (c = '-') cs

/-- `http.Header.Get`: the first value stored under the canonical form of `key`, or `""`. The
header holds its keys in canonical form, as `net/http` stores them. -/
def headerGet (header : List (String × String)) (key : String) : String :=
  (header.lookup (canonicalKey key)).getD ""

/-- Go's conversion `int32(x)`: the two's-complement value of the low 32 bits of `x`. -/
def toInt32 (x : Int) : Int := (x + 2147483648) % 4294967296 - 2147483648

/-- `strings.Replace(s, ",", "(comma)", -1)`. -/
def replaceComma (s : String) : String :=
  ⟨s.data.flatMap fun c => if c = ',' then "(comma)".data else [c]⟩

/-- The parts of an `http.Request` that `setRequest` reads; `url` is `req.URL.String()`. -/
structure Request where
  header : List (String × String)
  proto : String
  method : String
  host : String
  contentLength : Int
  url : String
deriving DecidableEq

/-- `Request.UserAgent`. -/
def Request.userAgent (req : Request) : String := headerGet req.header "User-Agent"

/-- `Request.Referer`. -/
def Request.referer (req : Request) : String := headerGet req.header "Referer"

/-- The parts of an `http.Response` the flush reads; `request` is `nil` or the request the
response answers. -/
structure Response where
  contentLength : Int
  header : List (String × String)
  statusCode : Int
  request : Option Request
deriving DecidableEq

/-- The fields of a `types.HTTP` record that the flush sets; the other fields keep their zero
values. -/
structure HTTP where
  timestamp : String
  proto : String
  method : String
  host : String
  userAgent : String
  referer : String
  reqContentLength : Int
  url : String
  srcIP : String
  dstIP : String
  resContentLength : Int
  contentType : String
  statusCode : Int
deriving DecidableEq

/-- `&types.HTTP{}`. -/
def HTTP.zero : HTTP := ⟨"", "", "", "", "", "", 0, "", "", "", 0, "", 0⟩

/-- **`setRequest(h, req)`**: the request's fields into `h`, the three free-text fields with
their commas escaped. -/
def setRequest (h : HTTP) (req : Request) : HTTP :=
  { h with
    timestamp := headerGet req.header "netcap-ts"
    proto := req.proto
    method := req.method
    host := req.host
    userAgent := replaceComma req.userAgent
    referer := replaceComma req.referer
    reqContentLength := toInt32 req.contentLength
    url := replaceComma req.url
    srcIP := headerGet req.header "netcap-clientip"
    dstIP := headerGet req.header "netcap-serverip" }

/-- The record the response pass builds from a response. -/
def responseRecord (res : Response) : HTTP :=
  { HTTP.zero with
    resContentLength := toInt32 res.contentLength
    contentType := headerGet res.header "Content-Type"
    statusCode := toInt32 res.statusCode }

/-! ### The flush -/

/-- The two writers of the encoder. -/
inductive Sink
  /-- `d.csvWriter.WriteRecord`. -/
  | csv
  /-- `d.aWriter.PutProto`. -/
  | proto
deriving DecidableEq, Repr

/-- The writer `if d.csv` selects. -/
def selectedSink (csv : Bool) : Sink := if csv then .csv else .proto

/-- What the flush changes besides `httpResMap`: `d.numRecords`, every record handed to a
writer with that writer, in order, the messages counted with `errorMap.Inc`, and the local
progress counter `total`. The two counters are Go `int64`s, added modulo `2^64`. -/
structure FlushState where
  numRecords : BitVec 64
  writes : List (Sink × HTTP)
  errors : List String
  total : BitVec 64
deriving DecidableEq

/-- Count `h` in `numRecords`, then write it through `sink`; the write's `outcome`, looked up by
its position among all writes, is an error or success, and an error is counted. -/
def FlushState.record (outcome : Nat → Option String) (sink : Sink) (st : FlushState)
    (h : HTTP) : FlushState :=
  { st with
    numRecords := st.numRecords + 1
    writes := st.writes ++ [(sink, h)]
    errors := st.errors ++ (outcome st.writes.length).toList }

/-- One response of the response pass: with a request, its record is counted, written through
the selected writer and counted in `total`; without, it is kept for `newRes`. -/
def flushResponse (csv : Bool) (outcome : Nat → Option String)
    (acc : FlushState × List Response) (res : Response) : FlushState × List Response :=
  match res.request with
  | some req =>
    let st := acc.1.record outcome (selectedSink csv) (setRequest (responseRecord res) req)
    ({ st with total := st.total + 1 }, acc.2)
  | none => (acc.1, acc.2 ++ [res])

/-- The response pass over `httpResMap`: every entry's array is replaced by `newRes`. -/
def flushResponses (csv : Bool) (outcome : Nat → Option String) (st : FlushState) :
    List (Stream × List Response) → FlushState × List (Stream × List Response)
  | [] => (st, [])
  | (s, resArr) :: rest =>
    let r := resArr.foldl (flushResponse csv outcome) (st, [])
    let r' := flushResponses csv outcome r.1 rest
    (r'.1, (s, r.2) :: r'.2)

/-- One request of the leftover-request pass: `total++`, and a non-nil request becomes a
record of its own, counted and written with `d.aWriter.PutProto`. -/
def flushRequest (outcome : Nat → Option String) (st : FlushState) (req : Option Request) :
    FlushState :=
  let st := { st with total := st.total + 1 }
  match req with
  | some req => st.record outcome .proto (setRequest HTTP.zero req)
  | none => st

/-- The leftover-request pass over `httpReqMap`. -/
def flushRequests (outcome : Nat → Option String) (st : FlushState)
    (reqMap : List (Stream × List (Option Request))) : FlushState :=
  reqMap.foldl (fun st e => e.2.foldl (flushRequest outcome) st) st

/-- **The deinit flush**: nothing when both maps have no key (`sum == 0`), else the response
pass and then the leftover-request pass. Returns the state and the new `httpResMap`. -/
def httpFlush (csv : Bool) (outcome : Nat → Option String) (st : FlushState)
    (reqMap : List (Stream × List (Option Request))) (resMap : List (Stream × List Response)) :
    FlushState × List (Stream × List Response) :=
  if resMap.length + reqMap.length = 0 then (st, resMap)
  else
    let r := flushResponses csv outcome st resMap
    (flushRequests outcome r.1 reqMap, r.2)

/-! ### The flush in closed form -/

/-- The record the response pass writes for a response, if it has a request. -/
def Response.flushRecord (res : Response) : Option HTTP :=
  res.request.map (setRequest (responseRecord res))

/-- The records of the response pass, in the order it writes them. -/
def responseRecords (resMap : List (Stream × List Response)) : List HTTP :=
  resMap.flatMap (·.2.filterMap Response.flushRecord)

/-- The records of the leftover-request pass, in the order it writes them. -/
def requestRecords (reqMap : List (Stream × List (Option Request))) : List HTTP :=
  reqMap.flatMap (·.2.filterMap (·.map (setRequest HTTP.zero)))

/-- The state after `recs` are counted and handed to `sink` in order, from `st`. -/
def FlushState.afterWrites (outcome : Nat → Option String) (sink : Sink) (recs : List HTTP)
    (st : FlushState) : FlushState :=
  { st with
    numRecords := st.numRecords + .ofNat 64 recs.length
    writes := st.writes ++ recs.map (sink, ·)
    errors := st.errors ++ (List.range' st.writes.length recs.length).filterMap outcome }

section ClosedForm

variable (outcome : Nat → Option String)

/-- Counting one and then `n` counts `n + 1`. -/
theorem add_one_add_ofNat (x : BitVec 64) (n : Nat) :
    x + BitVec.ofNat 64 1 + BitVec.ofNat 64 n = x + BitVec.ofNat 64 (n + 1) := by
  bv_omega

theorem add_ofNat_add_ofNat (x : BitVec 64) (a b : Nat) :
    x + BitVec.ofNat 64 a + BitVec.ofNat 64 b = x + BitVec.ofNat 64 (a + b) := by
  rw [BitVec.add_assoc, ← BitVec.ofNat_add]

@[simp] theorem FlushState.afterWrites_nil (sink : Sink) (st : FlushState) :
    st.afterWrites outcome sink [] = st := by
  cases st
  simp [afterWrites]

@[simp] theorem FlushState.total_afterWrites (sink : Sink) (recs : List HTTP) (st : FlushState) :
    (st.afterWrites outcome sink recs).total = st.total := rfl

theorem FlushState.afterWrites_cons (sink : Sink) (h : HTTP) (recs : List HTTP)
    (st : FlushState) :
    st.afterWrites outcome sink (h :: recs) =
      (st.record outcome sink h).afterWrites outcome sink recs := by
  cases h' : outcome st.writes.length <;>
    simp [afterWrites, record, List.range'_succ, h', Nat.add_comm 1, add_one_add_ofNat]

theorem FlushState.afterWrites_append (sink : Sink) (a b : List HTTP) (st : FlushState) :
    st.afterWrites outcome sink (a ++ b) =
      (st.afterWrites outcome sink a).afterWrites outcome sink b := by
  have hr : List.range' st.writes.length (a.length + b.length) =
      List.range' st.writes.length a.length ++ List.range' (st.writes.length + a.length) b.length :=
    by rw [List.range'_append_1, Nat.add_comm]
  simp only [afterWrites, List.length_append, List.length_map, hr, List.filterMap_append,
    List.map_append, List.append_assoc, add_ofNat_add_ofNat]

/-- The total counter is not touched by writing. -/
theorem FlushState.afterWrites_total (sink : Sink) (recs : List HTTP) (st : FlushState)
    (t : BitVec 64) :
    { st with total := t }.afterWrites outcome sink recs =
      { st.afterWrites outcome sink recs with total := t } := rfl

/-- **The response loop of one entry.** -/
theorem foldl_flushResponse (csv : Bool) :
    ∀ (resArr : List Response) (st : FlushState) (kept : List Response),
      resArr.foldl (flushResponse csv outcome) (st, kept) =
        let recs := resArr.filterMap Response.flushRecord
        ({ st.afterWrites outcome (selectedSink csv) recs with
            total := st.total + .ofNat 64 recs.length },
          kept ++ resArr.filter (·.request.isNone))
  | [], st, kept => by simp
  | res :: resArr, st, kept => by
    rw [List.foldl_cons, foldl_flushResponse csv resArr]
    cases h : res.request with
    | none => simp [flushResponse, Response.flushRecord, h, List.filterMap_cons]
    | some req =>
      simp only [flushResponse, h, List.filterMap_cons, Response.flushRecord, Option.map_some',
        List.length_cons, FlushState.afterWrites_cons, ← FlushState.afterWrites_total,
        List.filter_cons, Option.isNone_some]
      simp [FlushState.record, add_one_add_ofNat]

/-- **The response pass.** -/
theorem flushResponses_eq (csv : Bool) :
    ∀ (st : FlushState) (resMap : List (Stream × List Response)),
      flushResponses csv outcome st resMap =
        ({ st.afterWrites outcome (selectedSink csv) (responseRecords resMap) with
            total := st.total + .ofNat 64 (responseRecords resMap).length },
          resMap.map fun e => (e.1, e.2.filter (·.request.isNone)))
  | st, [] => by simp [flushResponses, responseRecords]
  | st, (s, resArr) :: rest => by
    simp only [flushResponses, foldl_flushResponse, flushResponses_eq csv _ rest,
      responseRecords, List.flatMap_cons, FlushState.afterWrites_append,
      ← FlushState.afterWrites_total, List.length_append, List.nil_append, List.map_cons]
    simp [add_ofNat_add_ofNat]

/-- **The request loop of one entry.** -/
theorem foldl_flushRequest :
    ∀ (reqArr : List (Option Request)) (st : FlushState),
      reqArr.foldl (flushRequest outcome) st =
        { st.afterWrites outcome .proto (reqArr.filterMap (·.map (setRequest HTTP.zero))) with
          total := st.total + .ofNat 64 reqArr.length }
  | [], st => by simp
  | req :: reqArr, st => by
    rw [List.foldl_cons, foldl_flushRequest reqArr]
    cases req with
    | none => simp [flushRequest, FlushState.afterWrites, add_one_add_ofNat]
    | some req =>
      simp only [flushRequest, List.filterMap_cons, Option.map_some', List.length_cons,
        FlushState.afterWrites_cons, ← FlushState.afterWrites_total]
      simp [FlushState.record, add_one_add_ofNat]

/-- **The leftover-request pass.** -/
theorem flushRequests_eq :
    ∀ (st : FlushState) (reqMap : List (Stream × List (Option Request))),
      flushRequests outcome st reqMap =
        { st.afterWrites outcome .proto (requestRecords reqMap) with
          total := st.total + .ofNat 64 (reqMap.flatMap (·.2)).length }
  | st, [] => by simp [flushRequests, requestRecords]
  | st, e :: rest => by
    have ih := flushRequests_eq (e.2.foldl (flushRequest outcome) st) rest
    simp only [flushRequests, List.foldl_cons] at ih ⊢
    rw [ih, foldl_flushRequest]
    simp only [requestRecords, List.flatMap_cons, FlushState.afterWrites_append,
      ← FlushState.afterWrites_total, List.length_append]
    simp [add_ofNat_add_ofNat]

end ClosedForm

/-! ### What the flush does -/

/-- A request with a URL and no header. -/
def sampleRequest : Request := ⟨[], "HTTP/1.1", "GET", "10.0.0.2", 0, "/"⟩

/- With `d.csv` set and one request left in `httpReqMap` whose write fails, the record goes to
the protobuf writer, and `numRecords` counts it although the write failed. -/
example :
    let r := httpFlush true (fun _ => some "write failed") ⟨0, [], [], 0⟩
      [(⟨⟨"10.0.0.1", "10.0.0.2"⟩, ⟨"51000", "80"⟩⟩, [some sampleRequest])] []
    r.1.writes.map Prod.fst = [.proto] ∧ r.1.numRecords = 1 ∧ r.1.errors = ["write failed"] := by
  decide

/-! ### The records are well formed -/

/-- What every record the flush writes satisfies: the three fields `setRequest` escapes hold
no comma, and the three fields converted with `int32(...)` are in the range of an `int32`. -/
structure HTTP.WellFormed (h : HTTP) : Prop where
  userAgent : ',' ∉ h.userAgent.data
  referer : ',' ∉ h.referer.data
  url : ',' ∉ h.url.data
  reqContentLength : -2147483648 ≤ h.reqContentLength ∧ h.reqContentLength < 2147483648
  resContentLength : -2147483648 ≤ h.resContentLength ∧ h.resContentLength < 2147483648
  statusCode : -2147483648 ≤ h.statusCode ∧ h.statusCode < 2147483648

theorem toInt32_range (x : Int) : -2147483648 ≤ toInt32 x ∧ toInt32 x < 2147483648 := by
  unfold toInt32
  omega

theorem comma_not_mem_replaceComma (s : String) : ',' ∉ (replaceComma s).data := by
  simp only [replaceComma, List.mem_flatMap, not_exists, not_and]
  intro c _
  split_ifs with hc
  · decide
  · simpa [eq_comm] using hc

theorem HTTP.zero_wellFormed : HTTP.zero.WellFormed := by
  refine ⟨?_, ?_, ?_, ?_, ?_, ?_⟩ <;> decide

/-- `setRequest` escapes and converts what it writes and keeps the response fields. -/
theorem HTTP.WellFormed.setRequest {h : HTTP} (hw : h.WellFormed) (req : Request) :
    (Netcap.setRequest h req).WellFormed :=
  { hw with
    userAgent := comma_not_mem_replaceComma _
    referer := comma_not_mem_replaceComma _
    url := comma_not_mem_replaceComma _
    reqContentLength := toInt32_range _ }

theorem responseRecord_wellFormed (res : Response) : (responseRecord res).WellFormed :=
  { HTTP.zero_wellFormed with
    resContentLength := toInt32_range _
    statusCode := toInt32_range _ }

/-- **Every record the flush writes is well formed**, for every content of the two maps and
every pattern of failures: its user agent, referer and URL hold no comma, and its request
content length, response content length and status code fit in an `int32`. -/
theorem httpFlush_writes_wellFormed (csv : Bool) (outcome : Nat → Option String)
    (st : FlushState) (reqMap : List (Stream × List (Option Request)))
    (resMap : List (Stream × List Response)) :
    ∀ w ∈ (httpFlush csv outcome st reqMap resMap).1.writes, w ∈ st.writes ∨ w.2.WellFormed := by
  unfold httpFlush
  split_ifs
  · exact fun w hw => .inl hw
  · simp only [flushRequests_eq, flushResponses_eq, FlushState.afterWrites, List.mem_append,
      List.mem_map, responseRecords, requestRecords, List.mem_flatMap, List.mem_filterMap]
    rintro w ((hw | ⟨h, ⟨_, -, res, -, hres⟩, rfl⟩) | ⟨h, ⟨_, -, req, -, hreq⟩, rfl⟩)
    · exact .inl hw
    · obtain ⟨req, -, rfl⟩ := Option.map_eq_some'.mp hres
      exact .inr ((responseRecord_wellFormed res).setRequest req)
    · obtain ⟨req, -, rfl⟩ := Option.map_eq_some'.mp hreq
      exact .inr (HTTP.zero_wellFormed.setRequest req)

/-- A leftover request whose URL holds a comma: its record is written with the comma
escaped. -/
theorem httpFlush_writes_wellFormed_comma :
    let req := { sampleRequest with url := "/a,b" }
    let r := httpFlush true (fun _ => none) ⟨0, [], [], 0⟩
      [(⟨⟨"10.0.0.1", "10.0.0.2"⟩, ⟨"51000", "80"⟩⟩, [some req])] []
    (Sink.proto, setRequest HTTP.zero req) ∈ r.1.writes ∧
      ((Sink.proto, setRequest HTTP.zero req) ∈ ([] : List (Sink × HTTP)) ∨
        (setRequest HTTP.zero req).WellFormed) :=
  ⟨by decide, httpFlush_writes_wellFormed true (fun _ => none) ⟨0, [], [], 0⟩
    [(⟨⟨"10.0.0.1", "10.0.0.2"⟩, ⟨"51000", "80"⟩⟩,
      [some { sampleRequest with url := "/a,b" }])] []
    _ (by decide)⟩

end Netcap
