import RequestRunner.Execution.Executor
import RequestRunner.Http.Client
import RequestRunner.Proofs.Text.Utf8
import RequestRunner.Proofs.Url.Readers

/-!
# Requests that are refused

A request is refused before anything is sent unless its method and the names of its headers are
tokens, its address is absolute, with a host, and the values of its headers have no control bytes.
The scheme of the address is looked at last, where a request counts as one under way: with an
address that is not one of the web the request is not refused but fails, and nothing is sent all the
same.

Which texts are addresses is left to the reader that the client is given. All that is relied on is
that addresses of the web have hosts and that an address may have any scheme (`Url.Reader.Lawful`).

## Main definitions

* `OutgoingRequest.Sendable` — the request is one of the web.
* `OutgoingRequest.IsAccepted` — the request passes all checks of its parts.
* `OutgoingRequest.Foreign` — the request passes them, but its address is not one of the web.

## Main results

* `Http.isFieldValue_iff` — values of headers, byte for byte.
* `OutgoingRequest.foreign_of_isScheme` — there are foreign requests of all other schemes.
* `OutgoingRequest.Sendable.transmitWith_eq` — a request of the web is not refused.
* `Http.transmitWith_of_not_sendable` — any other one is refused or foreign.
-/

namespace RequestRunner

open Http

/-! ### Values of headers -/

namespace Http

/-- Whether a byte may stand in the value of a header: a tab or no control character. -/
def isFieldByte (byte : UInt8) : Prop := byte = 9 ∨ (32 ≤ byte ∧ byte ≠ 127)

/-- Whether a byte may stand in the value of a header, by its number. -/
lemma isFieldByte_iff {byte : UInt8} :
    isFieldByte byte ↔ byte.toNat = 9 ∨ (32 ≤ byte.toNat ∧ byte.toNat ≠ 127) := by
  rw [isFieldByte, ← UInt8.toNat_inj, UInt8.le_iff_toNat_le, ne_eq, ← UInt8.toNat_inj]
  rfl

/-- Whether a character may stand in the value of a header, by its number. -/
lemma isFieldChar_iff {c : Char} :
    isFieldChar c ↔ c.toNat = 9 ∨ (32 ≤ c.toNat ∧ c.toNat ≠ 127) := by
  have hchar : ∀ d : Char, c = d ↔ c.toNat = d.toNat := fun d =>
    ⟨congrArg _, fun h => by rw [← Char.ofNat_toNat c, h, Char.ofNat_toNat]⟩
  have hle : ' ' ≤ c ↔ ' '.toNat ≤ c.toNat := Iff.rfl
  simp only [isFieldChar, Bool.or_eq_true, Bool.and_eq_true, beq_iff_eq, decide_eq_true_iff, bne_iff_ne,
    ne_eq, hchar, hle]
  rfl

/-- A character may stand in the value of a header if and only if its bytes may.

**Proof sketch.** A character below 128 is its only byte. The bytes of any other one are 128 or
more, so they may all stand there, and so may the character. -/
lemma isFieldChar_iff_bytes {c : Char} :
    isFieldChar c ↔ ∀ byte ∈ Text.encodeChar c, isFieldByte byte := by
  rw [isFieldChar_iff]
  by_cases hc : c.toNat < 128
  · rw [Text.encodeChar_of_lt hc, List.forall_mem_singleton, isFieldByte_iff,
      Text.toNat_ofNat_of_lt (by omega)]
  · have hbytes : ∀ byte ∈ Text.encodeChar c, isFieldByte byte := fun byte hbyte => by
      have := Text.le_of_mem_encodeChar (Nat.le_of_not_lt hc) byte hbyte
      rw [isFieldByte_iff]
      grind
    exact ⟨fun _ => hbytes, fun _ => by omega⟩

/-- **The value of a header** is a text without control bytes other than tabs. -/
theorem isFieldValue_iff {s : String} :
    isFieldValue s ↔ ∀ byte ∈ Text.encode s.toList, isFieldByte byte := by
  simp only [isFieldValue, List.all_eq_true, isFieldChar_iff_bytes, Text.encode, List.mem_flatMap]
  grind

/-! ### Addresses -/

/-- The schemes of the web are these two. -/
lemma isWebScheme_iff {scheme : String} :
    isWebScheme scheme ↔ scheme = "http" ∨ scheme = "https" := by
  rw [isWebScheme, Bool.or_eq_true, beq_iff_eq, beq_iff_eq]

/-- An address keeps its scheme when its name and password are taken out. -/
@[simp]
lemma scheme_withoutLogin (url : Url) : (withoutLogin url).scheme = url.scheme := by
  rw [withoutLogin]
  split <;> rfl

end Http

namespace OutgoingRequest

/-- The request is one of the web: the method is a token, the address absolute with the scheme `http`
or `https`, and each header has a token for a name and no control bytes but tabs in its value. -/
structure Sendable (reader : Url.Reader) (r : OutgoingRequest) : Prop where
  method : isToken r.method
  address : ∃ url, reader.parse r.url = .ok url ∧ (url.scheme = "http" ∨ url.scheme = "https")
  names : ∀ h ∈ r.headers, isToken h.1
  values : ∀ h ∈ r.headers, ∀ byte ∈ Text.encode h.2.toList, isFieldByte byte

/-- The request passes the checks of its parts, and this is its address. -/
structure IsAccepted (reader : Url.Reader) (r : OutgoingRequest) (url : Url) : Prop where
  method : isToken r.method
  address : reader.parse r.url = .ok url
  host : url.hasHost
  headers : ∀ h ∈ r.headers, isFieldName h.1 ∧ isFieldValue h.2

/-- The request passes the checks of its parts, but its address is not one of the web. -/
def Foreign (reader : Url.Reader) (r : OutgoingRequest) : Prop :=
  ∃ url, r.IsAccepted reader url ∧ ¬ (url.scheme = "http" ∨ url.scheme = "https")

variable {reader : Url.Reader} {r : OutgoingRequest} {url : Url}

/-- A request with an address of the web that passes all checks is one of the web. -/
lemma IsAccepted.sendable (h : r.IsAccepted reader url)
    (hscheme : url.scheme = "http" ∨ url.scheme = "https") : r.Sendable reader where
  method := h.method
  address := ⟨url, h.address, hscheme⟩
  names f hf := (Bool.and_eq_true _ _ ▸ (h.headers f hf).1).1
  values f hf := isFieldValue_iff.1 (h.headers f hf).2

/-- A request of the web passes all checks if no name in it is too long. That its address has a host
is what is relied on of the reader. -/
lemma Sendable.isAccepted (hreader : reader.Lawful) (h : r.Sendable reader)
    (hnames : ∀ f ∈ r.headers, f.1.length ≤ longestName) :
    ∃ url, r.IsAccepted reader url ∧ (url.scheme = "http" ∨ url.scheme = "https") := by
  obtain ⟨url, haddress, hscheme⟩ := h.address
  have hhost : url.hasHost := hreader.hasHost r.url url haddress hscheme
  refine ⟨url, ⟨h.method, haddress, hhost, fun f hf => ?_⟩, hscheme⟩
  refine ⟨?_, isFieldValue_iff.2 (h.values f hf)⟩
  rw [isFieldName, h.names f hf, Bool.true_and, decide_eq_true_iff]
  exact hnames f hf

/-- A request that passes the checks of its parts is one of the web or foreign. -/
lemma IsAccepted.sendable_or_foreign (h : r.IsAccepted reader url) :
    r.Sendable reader ∨ r.Foreign reader := by
  by_cases hscheme : url.scheme = "http" ∨ url.scheme = "https"
  · exact .inl (h.sendable hscheme)
  · exact .inr ⟨url, h, hscheme⟩

/-- **There are foreign requests of any scheme** that is not one of the web: a request without
headers to an address of it that has a host. -/
theorem foreign_of_isScheme {scheme : String} (hreader : reader.Lawful)
    (hscheme : Url.IsScheme scheme) (hhttp : scheme ≠ "http") (hhttps : scheme ≠ "https") :
    (⟨"GET", scheme ++ "://h/", [], none⟩ : OutgoingRequest).Foreign reader := by
  obtain ⟨url, hread, hurl, hhost⟩ := hreader.any_scheme scheme hscheme
  have hget : isToken "GET" := by decide
  refine ⟨url, ⟨hget, hread, hhost, fun f hf => absurd hf List.not_mem_nil⟩, ?_⟩
  rw [hurl]
  exact not_or.2 ⟨hhttp, hhttps⟩

/-! ### The checks -/

/-- The check of the headers looks at the name and the value of each. -/
lemma all_headers_iff : (r.headers.all fun h => isFieldName h.1 && isFieldValue h.2) ↔
    ∀ h ∈ r.headers, isFieldName h.1 ∧ isFieldValue h.2 := by
  simp only [List.all_eq_true, Bool.and_eq_true]

/-- **A request that passes the checks of its parts** is sent if its address is one of the web that
can be written. The scheme is looked at before it is tried to write the address. -/
theorem IsAccepted.prepare_eq (h : r.IsAccepted reader url) :
    prepare reader r =
      if ¬ (url.scheme = "http" ∨ url.scheme = "https") then
        .error (notAccepted (withoutLogin url) "URL scheme is not allowed")
      else if ¬ isWritable (withoutLogin url) then
        .error (notAccepted (withoutLogin url) "Parsed Url is not a valid Uri")
      else .ok ⟨r.method, withoutLogin url, url.credentials.bind login?, r.headers, r.body⟩ := by
  simp only [prepare, h.method, readAddress, h.address, h.host, all_headers_iff.2 h.headers,
    Except.mapError, scheme_withoutLogin, ← isWebScheme_iff, bind, Except.bind, pure, Except.pure,
    throw, throwThe, MonadExceptOf.throw]
  cases isWebScheme url.scheme <;> cases isWritable (withoutLogin url) <;> rfl

/-- **A request that fails a check of its parts is refused.**

**Proof sketch.** The checks are gone through in the order in which the client makes them. Each that
fails gives a refusal with its own text, and a request that passes them all is accepted. -/
theorem exists_prepare_eq_of_not_isAccepted (h : ∀ url, ¬ r.IsAccepted reader url) :
    ∃ text, prepare reader r = .error (.invalidRequest text) := by
  rw [prepare]
  rcases hmethod : isToken r.method with _ | _
  · exact ⟨_, rfl⟩
  rw [readAddress]
  rcases haddress : reader.parse r.url with cause | url
  · exact ⟨_, rfl⟩
  dsimp only [Except.mapError, bind, Except.bind]
  rcases hhost : url.hasHost with _ | _
  · exact ⟨_, rfl⟩
  rcases hheaders : r.headers.all fun h => isFieldName h.1 && isFieldValue h.2 with _ | _
  · exact ⟨_, rfl⟩
  · exact absurd ⟨hmethod, haddress, hhost, all_headers_iff.1 hheaders⟩ (h url)

end OutgoingRequest

/-! ### Outcomes -/

section

variable {m : Type → Type} [Monad m] {reader : Url.Reader} {r : OutgoingRequest}
  {e : TransportError}

/-- Nothing is sent of a request that does not pass the checks. -/
lemma Http.transmitWith_of_prepare_eq_error (dial : Dial m) (seconds : Nat)
    (h : prepare reader r = .error e) : transmitWith reader dial seconds r = pure (.error e) := by
  rw [transmitWith, send, h]

/-- **A request of the web is not refused**, if no name in it is too long. It is sent unless its
address cannot be written.

**Proof sketch.** A request of the web passes the checks of its parts, as names that are not too
long are the only thing it may fail for. Then its scheme is one of the web, and only the address is
left to be written. -/
theorem OutgoingRequest.Sendable.transmitWith_eq (hreader : reader.Lawful) (dial : Dial m)
    (seconds : Nat) (h : r.Sendable reader) (hnames : ∀ f ∈ r.headers, f.1.length ≤ longestName) :
    ∃ url, reader.parse r.url = .ok url ∧ transmitWith reader dial seconds r =
      if isWritable (withoutLogin url) then
        exchange reader dial seconds mostFollowed
          ⟨r.method, withoutLogin url, url.credentials.bind login?, r.headers, r.body⟩
      else pure (.error (notAccepted (withoutLogin url) "Parsed Url is not a valid Uri")) := by
  obtain ⟨url, haccepted, hscheme⟩ := h.isAccepted hreader hnames
  refine ⟨url, haccepted.address, ?_⟩
  rw [transmitWith, send, haccepted.prepare_eq, if_neg (not_not_intro hscheme)]
  cases isWritable (withoutLogin url) <;> rfl

variable [LawfulMonad m]

/-- An outcome that does not wait for a network comes between two looks at the clock. What these
tell is the time of the request if one counts as sent. -/
lemma dispatch_timed_of_eq_pure {α : Type} (clock : m α) (elapsed : α → α → UInt64)
    {network : OutgoingRequest → m Outcome} {outcome : Outcome} (h : network r = pure outcome) :
    dispatch (.timed clock elapsed network) r = do
      let start ← clock
      let stop ← clock
      return .ofReply ⟨outcome, elapsed start stop⟩ := by
  simp only [dispatch, Transport.timed, h, bind_assoc, pure_bind]

/-- **Which requests are refused**, whoever reads their addresses. A request that is not one of the
web is refused, nothing is sent, and no time is told for it, unless it is foreign: with an absolute
address of another scheme, and all else right. A foreign request fails for its scheme, though nothing
is sent either, and the time until then is told. So what fails is of the web or foreign. A request of
the web is not refused, if no name in it is too long. Any scheme but the two of the web has foreign
requests.

**Proof sketch.** A request that passes the checks of its parts is one of the web or foreign
(`OutgoingRequest.IsAccepted.sendable_or_foreign`), and what does not pass them is refused
(`OutgoingRequest.exists_prepare_eq_of_not_isAccepted`). -/
theorem Http.transmitWith_of_not_sendable {reader : Url.Reader} (hreader : reader.Lawful)
    (dial : Dial m) (seconds : Nat) {α : Type} (clock : m α) (elapsed : α → α → UInt64)
    (r : OutgoingRequest) :
    (¬ r.Sendable reader → ¬ r.Foreign reader → ∃ text,
      transmitWith reader dial seconds r = pure (.error (.invalidRequest text)) ∧
      dispatch (.timed clock elapsed (transmitWith reader dial seconds)) r = do
        let _ ← clock
        let _ ← clock
        return .failure text 0) ∧
    (r.Foreign reader → ∃ url text, reader.parse r.url = .ok url ∧
      text = "Request failed: builder error for url (" ++ (withoutLogin url).render ++
        "): URL scheme is not allowed" ∧
      transmitWith reader dial seconds r = pure (.error (.failed text)) ∧
      dispatch (.timed clock elapsed (transmitWith reader dial seconds)) r = do
        let start ← clock
        let stop ← clock
        return .failure text (elapsed start stop)) ∧
    (∀ (σ : Type) (dial : Dial (StateM σ)) (state : σ) (text : String),
      ((transmitWith reader dial seconds r).run state).1 = .error (.failed text) →
      r.Sendable reader ∨ r.Foreign reader) ∧
    (r.Sendable reader → (∀ f ∈ r.headers, f.1.length ≤ longestName) →
      ∃ url, reader.parse r.url = .ok url ∧ transmitWith reader dial seconds r =
        if isWritable (withoutLogin url) then
          exchange reader dial seconds mostFollowed
            ⟨r.method, withoutLogin url, url.credentials.bind login?, r.headers, r.body⟩
        else pure (.error (notAccepted (withoutLogin url) "Parsed Url is not a valid Uri"))) ∧
    ∀ scheme, Url.IsScheme scheme → scheme ≠ "http" → scheme ≠ "https" →
      (⟨"GET", scheme ++ "://h/", [], none⟩ : OutgoingRequest).Foreign reader := by
  have hrefused : ¬ r.Sendable reader → ¬ r.Foreign reader →
      ∃ text, prepare reader r = .error (.invalidRequest text) := by
    intro hsendable hforeign
    refine OutgoingRequest.exists_prepare_eq_of_not_isAccepted fun url haccepted => ?_
    exact haccepted.sendable_or_foreign.elim hsendable hforeign
  refine ⟨fun hsendable hforeign => ?_, fun hforeign => ?_, fun σ dial state text hfailed => ?_,
    OutgoingRequest.Sendable.transmitWith_eq hreader dial seconds,
    fun scheme => OutgoingRequest.foreign_of_isScheme hreader⟩
  · obtain ⟨text, htext⟩ := hrefused hsendable hforeign
    have houtcome := transmitWith_of_prepare_eq_error dial seconds htext
    exact ⟨text, houtcome, dispatch_timed_of_eq_pure clock elapsed houtcome⟩
  · obtain ⟨url, haccepted, hscheme⟩ := hforeign
    have houtcome := transmitWith_of_prepare_eq_error dial seconds
      (haccepted.prepare_eq.trans (if_pos hscheme))
    refine ⟨url, _, haccepted.address, ?_, houtcome, dispatch_timed_of_eq_pure clock elapsed houtcome⟩
    simp only [notBuilt, forAddress, ← String.append_assoc, String.reduceAppend]
    simp only [String.append_assoc, String.reduceAppend]
  · by_contra hnot
    obtain ⟨hsendable, hforeign⟩ := not_or.1 hnot
    obtain ⟨cause, hcause⟩ := hrefused hsendable hforeign
    rw [transmitWith_of_prepare_eq_error dial seconds hcause] at hfailed
    exact TransportError.noConfusion (Except.error.inj hfailed)

/-- The program, with the reader that it has, refuses a line break in a value. -/
theorem Http.transmit_of_line_break :
    let r : OutgoingRequest := ⟨"GET", "http://h/", [("A", "x\ny")], none⟩
    let dial : Dial (StateM (List Prepared)) := fun p => do
      modify (· ++ [p])
      return .silent
    Url.Reader.standard.Lawful ∧ ¬ r.Sendable .standard ∧ ¬ r.Foreign .standard ∧ ∃ text,
      (transmit dial 30 r).run [] = (.error (.invalidRequest text), []) := by
  intro r dial
  have hvalue : ¬ isFieldValue "x\ny" := by decide
  have hsendable : ¬ r.Sendable .standard := fun h =>
    hvalue (isFieldValue_iff.2 (h.values ("A", "x\ny") (List.mem_singleton_self _)))
  have hforeign : ¬ r.Foreign .standard := fun ⟨_, h, _⟩ =>
    hvalue (h.headers ("A", "x\ny") (List.mem_singleton_self _)).2
  obtain ⟨text, htext, -⟩ := (transmitWith_of_not_sendable Url.Reader.lawful_standard dial 30
    (pure ()) (fun _ _ => 0) r).1 hsendable hforeign
  exact ⟨Url.Reader.lawful_standard, hsendable, hforeign, text, by rw [transmit, htext]; rfl⟩

/-- **A foreign request is not refused**: an address of another scheme is not one of the web, but
the request fails as if it had been sent, and some time is told for it. -/
theorem Http.foreign_request_is_not_refused :
    let r : OutgoingRequest := ⟨"GET", "ftp://h/", [], none⟩
    let text := "Request failed: builder error for url (ftp://h/): URL scheme is not allowed"
    let dial : Dial (StateM (UInt64 × List Prepared)) := fun p => do
      modify fun s => (s.1, s.2 ++ [p])
      return .silent
    let clock : StateM (UInt64 × List Prepared) UInt64 :=
      modifyGet fun s => (s.1, s.1 + 7, s.2)
    ¬ r.Sendable .standard ∧
      (transmit dial 30 r).run (0, []) = (.error (.failed text), 0, []) ∧
      ((dispatch (.timed clock (fun start stop => stop - start) (transmit dial 30)) r).run (0, [])) =
        (.failure text 7, 14, []) := by
  intro r text dial clock
  have hscheme : (Url.ofText r.url).toOption.map Url.scheme = some "ftp" := by decide +kernel
  have hprepare : prepare .standard r = .error (.failed text) := by decide +kernel
  have houtcome : transmit dial 30 r = pure (.error (.failed text)) :=
    transmitWith_of_prepare_eq_error dial 30 hprepare
  refine ⟨fun h => ?_, by rw [houtcome]; rfl, ?_⟩
  · obtain ⟨url, hurl, hweb⟩ := h.address
    rw [Url.Reader.standard_parse_eq_ok_iff.1 hurl] at hscheme
    obtain hftp : url.scheme = "ftp" := Option.some.inj hscheme
    rw [hftp] at hweb
    exact absurd hweb (by decide)
  · rw [dispatch_timed_of_eq_pure clock _ houtcome]
    rfl

end

end RequestRunner
