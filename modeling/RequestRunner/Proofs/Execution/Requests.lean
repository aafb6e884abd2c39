import RequestRunner.Execution.Executor
import RequestRunner.Proofs.Execution.Completion

/-!
# What is sent for a block, and what its result tells

A block is executed by one exchange with the transport. What is sent is the block as it stands, with
at most one header before its own, and the result is the reply that came, or the error in place of
it. This holds in any monad, so also if the transport keeps a state, fails or has a choice: a
transport that logs its exchanges logs one.

## Main definitions

* `Transport.logged` — the transport with a log of its exchanges.
* `OutgoingRequest.IsOf` — the request that is to be sent for a block.
* `ExecutionResult.Tells` — the result that is to be told of a reply.

## Main results

* `executeBlock_exchanges_once` — the one exchange of a block, and that of its parts alone.
-/

namespace RequestRunner

variable {m : Type → Type} [Monad m]

/-- The transport with a log of its exchanges, the last one at the end. -/
def Transport.logged (transport : Transport m) :
    Transport (StateT (List (OutgoingRequest × Reply)) m) := fun request => do
  let reply ← transport request
  modify (· ++ [(request, reply)])
  return reply

/-- The request has method and address of the block, its body if that is not empty, and its headers
in order. Before them it says that a body is JSON unless a header says what it is. -/
structure OutgoingRequest.IsOf (request : OutgoingRequest) (b : Block) : Prop where
  method_eq : request.method = b.method.name
  url_eq : request.url = b.url
  body_eq_none_iff : request.body = none ↔ b.body = ""
  body_eq_some : b.body ≠ "" → request.body = some b.body
  headers_of_default : b.body ≠ "" →
    (∀ h ∈ b.headers.entries, ¬ Text.sameIgnoringCase h.name "Content-Type") →
    request.headers = ("Content-Type", "application/json") ::
      b.headers.entries.map fun h => (h.name, h.value)
  headers_of_own : b.body = "" ∨
    (∃ h ∈ b.headers.entries, Text.sameIgnoringCase h.name "Content-Type") →
    request.headers = b.headers.entries.map fun h => (h.name, h.value)

/-- The result has a response of whatever status as it came and no error. Without a response it has
the text of the error and nothing else, and no time if nothing was sent. -/
def ExecutionResult.Tells (r : ExecutionResult) (reply : Reply) : Prop :=
  match reply.outcome with
  | .ok response =>
    r.status = response.status ∧ r.headers = response.headers ∧ r.body = response.body ∧
      r.error = none ∧ r.durationMillis = reply.elapsedMillis
  | .error e =>
    r.error = some e.text ∧ r.status = 0 ∧ r.headers = ∅ ∧ r.body = "" ∧
      ((∃ text, e = .invalidRequest text) → r.durationMillis = 0) ∧
      ((∃ text, e = .failed text) → r.durationMillis = reply.elapsedMillis)

variable {b : Block} {transport : Transport m}

/-! ### The request -/

/-- An empty body is not sent at all. -/
lemma OutgoingRequest.payload_eq_none_iff {body : String} : payload body = none ↔ body = "" := by
  rw [payload]
  split <;> simp_all

/-- Any other body is sent as it is. -/
lemma OutgoingRequest.payload_of_ne {body : String} (h : body ≠ "") :
    payload body = some body := by
  have hnot : ¬ body.isEmpty = true := by simpa using h
  rw [payload, if_neg hnot]

/-- A name is looked up in vain if no header has it, whatever its case. -/
lemma Headers.getIgnoringCase?_eq_none_iff {headers : Headers} {name : String} :
    headers.getIgnoringCase? name = none ↔
      ∀ h ∈ headers.entries, ¬ Text.sameIgnoringCase h.name name := by
  rw [getIgnoringCase?, Option.map_eq_none_iff, List.find?_eq_none]

/-- **The request that is built of a block** is the one that is to be sent for it.

**Proof sketch.** All parts but the headers are the definitions. As to the headers: the lookup that
ignores the case of letters fails exactly if no header has the name in any spelling, and only then,
and only for a body that is not empty, is one added. -/
lemma OutgoingRequest.isOf_ofBlock (b : Block) : (ofBlock b).IsOf b where
  method_eq := rfl
  url_eq := rfl
  body_eq_none_iff := payload_eq_none_iff
  body_eq_some h := payload_of_ne h
  headers_of_default hbody hnames := by
    have hlookup : b.headers.getIgnoringCase? contentType = none :=
      Headers.getIgnoringCase?_eq_none_iff.2 hnames
    have hfilled : b.body.isEmpty = false := by simpa using hbody
    have hadded : (!b.body.isEmpty && (b.headers.getIgnoringCase? contentType).isNone) = true := by
      rw [hlookup, hfilled]
      rfl
    simp only [ofBlock, if_pos hadded]
    rfl
  headers_of_own h := by
    have hadded : ¬ (!b.body.isEmpty && (b.headers.getIgnoringCase? contentType).isNone) = true := by
      rcases h with hbody | ⟨h, hh, hname⟩
      · simp [hbody]
      · intro hboth
        obtain ⟨-, hnone⟩ := Bool.and_eq_true_iff.1 hboth
        have hlookup := Option.isNone_iff_eq_none.1 hnone
        exact Headers.getIgnoringCase?_eq_none_iff.1 hlookup h hh hname
    simp only [ofBlock, if_neg hadded]
    rfl

/-- Without headers a block is sent like its method, address and body alone. -/
lemma OutgoingRequest.ofBody_eq_ofBlock (h : b.headers.isEmpty) :
    ofBody b.method.name b.url b.body = ofBlock b := by
  have hentries : b.headers.entries = [] := by simpa [Headers.isEmpty] using h
  have hlookup : b.headers.getIgnoringCase? contentType = none := by
    rw [Headers.getIgnoringCase?, hentries]
    rfl
  cases hbody : b.body.isEmpty <;>
    simp [ofBody, ofBlock, hlookup, hbody, Headers.toPairs, hentries]

/-! ### The result -/

/-- **The result that is made of a reply** tells it. -/
lemma ExecutionResult.tells_ofReply (reply : Reply) : (ofReply reply).Tells reply := by
  obtain ⟨outcome, elapsed⟩ := reply
  rcases outcome with (text | text) | response
  · exact ⟨rfl, rfl, rfl, rfl, fun _ => rfl, fun h => absurd h (by simp)⟩
  · exact ⟨rfl, rfl, rfl, rfl, fun h => absurd h (by simp), fun _ => rfl⟩
  · exact ⟨rfl, rfl, rfl, rfl, rfl⟩

/-! ### The exchange -/

section

variable [LawfulMonad m]

/-- To hand over a request is one exchange: the log grows by the request and its reply, and the
result is made of that reply. -/
lemma run_dispatch_logged (transport : Transport m) (request : OutgoingRequest)
    (log : List (OutgoingRequest × Reply)) :
    (dispatch transport.logged request).run log =
      (fun reply => (ExecutionResult.ofReply reply, log ++ [(request, reply)])) <$>
        transport request := by
  simp [dispatch, Transport.logged]

/-- Up to the time, the result of handing over a request depends on the outcome alone, so that two
transports with the same outcomes cannot be told apart. -/
lemma untimed_dispatch {transport' : Transport m} {request : OutgoingRequest}
    (h : Reply.outcome <$> transport request = Reply.outcome <$> transport' request) :
    ExecutionResult.untimed <$> dispatch transport request =
      ExecutionResult.untimed <$> dispatch transport' request := by
  have hview : ∀ transport : Transport m, ExecutionResult.untimed <$> dispatch transport request =
      (fun outcome => (ExecutionResult.ofReply ⟨outcome, 0⟩).untimed) <$>
        (Reply.outcome <$> transport request) := by
    intro transport
    have hreply : (fun reply : Reply => (ExecutionResult.ofReply reply).untimed) =
        fun reply => (ExecutionResult.ofReply ⟨reply.outcome, 0⟩).untimed :=
      funext fun reply => Actor.untimed_ofReply rfl
    simp [dispatch, hreply]
  rw [hview, hview, h]

/-- **A block is executed by one exchange.** Whatever the transport does, it is handed one request,
which is the one to be sent for the block, and the result is the one to be told of its reply.

A block without headers can be executed by its method, address and body alone: the same request is
sent, and a transport with the same outcomes gives the same result up to the time.

**Proof sketch.** The request is the one that is built of the block
(`OutgoingRequest.isOf_ofBlock`), the result the one that is made of the reply
(`ExecutionResult.tells_ofReply`). Without headers the request that is built of the three parts is
the same (`OutgoingRequest.ofBody_eq_ofBlock`). -/
theorem executeBlock_exchanges_once (transport : Transport m) (b : Block) :
    ∃ (request : OutgoingRequest) (result : Reply → ExecutionResult),
      request.IsOf b ∧ (∀ reply, (result reply).Tells reply) ∧
      executeBlock transport b = result <$> transport request ∧
      (∀ log, (executeBlock transport.logged b).run log =
        (fun reply => (result reply, log ++ [(request, reply)])) <$> transport request) ∧
      (b.headers.isEmpty →
        (∀ log, (execute transport.logged b.method.name b.url b.body).run log =
          (fun reply => (result reply, log ++ [(request, reply)])) <$> transport request) ∧
        ∀ transport' : Transport m,
          (∀ request, Reply.outcome <$> transport request = Reply.outcome <$> transport' request) →
          ExecutionResult.untimed <$> execute transport' b.method.name b.url b.body =
            ExecutionResult.untimed <$> executeBlock transport b) := by
  refine ⟨.ofBlock b, .ofReply, OutgoingRequest.isOf_ofBlock b, ExecutionResult.tells_ofReply, ?_,
    ?_, ?_⟩
  · simp [executeBlock, dispatch]
  · exact run_dispatch_logged transport (.ofBlock b)
  · intro hempty
    have hrequest := OutgoingRequest.ofBody_eq_ofBlock hempty
    refine ⟨?_, fun transport' h => ?_⟩
    · rw [execute, hrequest]
      exact run_dispatch_logged transport (.ofBlock b)
    · rw [execute, hrequest, executeBlock]
      exact (untimed_dispatch (h _)).symm

end

/-- A transport that counts its calls and cannot send anything is called once for a block, which
keeps its own type of body. -/
theorem executeBlock_exchanges_once_of_counting :
    let b : Block := ⟨.post, "http://h/", ⟨[⟨"content-TYPE", "text/plain"⟩]⟩, "x", 0, 3, 1⟩
    let reply : Reply := ⟨.error (.invalidRequest "no"), 7⟩
    let transport : Transport (StateM Nat) := fun _ => do
      modify (· + 1)
      return reply
    ((executeBlock transport.logged b).run []).run 0 =
      ((.failure "no" 0,
        [(⟨"POST", "http://h/", [("content-TYPE", "text/plain")], some "x"⟩, reply)]), 1) := by
  intro b reply transport
  obtain ⟨request, result, hof, htells, -, hrun, -⟩ := executeBlock_exchanges_once transport b
  have hheaders := hof.headers_of_own (.inr ⟨⟨"content-TYPE", "text/plain"⟩, by decide, by decide⟩)
  have hrequest :
      request = ⟨"POST", "http://h/", [("content-TYPE", "text/plain")], some "x"⟩ := by
    obtain ⟨method, url, headers, body⟩ := request
    obtain rfl : method = "POST" := hof.method_eq
    obtain rfl : url = "http://h/" := hof.url_eq
    obtain rfl : headers = [("content-TYPE", "text/plain")] := hheaders
    obtain rfl : body = some "x" := hof.body_eq_some (by decide)
    rfl
  have hresult : result reply = .failure "no" 0 := by
    have htold := htells reply
    generalize result reply = r at htold ⊢
    obtain ⟨status, headers, body, time, error⟩ := r
    obtain ⟨herror, hstatus, hfields, hbody, htime, -⟩ := htold
    obtain rfl : error = some "no" := herror
    obtain rfl : status = 0 := hstatus
    obtain rfl : headers = ∅ := hfields
    obtain rfl : body = "" := hbody
    obtain rfl : time = 0 := htime ⟨"no", rfl⟩
    rfl
  rw [hrun, hrequest]
  show ((result reply, [(_, reply)]), 1) = _
  rw [hresult]

end RequestRunner
