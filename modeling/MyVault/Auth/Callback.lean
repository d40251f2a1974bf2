import MyVault.Auth.Reading

/-!
# Waiting for the browser

`wait_for_callback` serves the connections to its loopback listener one after another.  Times
are counted from the call, in which only waiting for a connection or for bytes takes time.

A connection that neither completes its request nor ends keeps the loop until the deadline, so
a callback behind it is not taken up any more, although it was there in time.  The bytes that
one read brings behind the empty line are part of what must be UTF-8.  What the loop promises
holds exactly when neither happens to a callback, and when the first code in the list is the
one in question (`callback_kept_iff`).

## How the condition is read

`CodeKept` is what the loop promises of the codes that are delivered in time, and
`EndsWithDeadline` what it promises where no connection carries the expected state.  Both are
about what the call returns, so each of the ways to miss them is a predicate on the list of
connections: `TextBehind` on the bytes behind a head, and `FirstCodeReached` on the connections in
front of a code, which have to settle.  That the head alone decides what comes of a connection
(`HeadDecides`) is the same as `TextBehind` (`headDecides_iff`).

The loop is `waitFrom`, by recursion on the connections.  One that it ignores only costs time
(`waitFrom_cons_of_ignored`), and from the deadline on every connection times out
(`waitFrom_late`).  `waitFrom_ok_iff` splits the list at the connection that ends the wait, and
everything else is read from that split.
-/

namespace MyVault.Auth

/-- What `wait_for_callback` uses of a `DesktopOAuth`. -/
structure DesktopOAuth where
  clientId : Text
  redirectUri : Text
  expectedState : Text
  codeVerifier : Text

/-- `TokenExchangeRequest`. -/
structure TokenExchangeRequest where
  clientId : Text
  redirectUri : Text
  code : Text
  codeVerifier : Text
  deriving DecidableEq, Repr

/-- What is made of the code. -/
def DesktopOAuth.exchangeRequest (oauth : DesktopOAuth) (code : Text) : TokenExchangeRequest :=
  { clientId := oauth.clientId, redirectUri := oauth.redirectUri, code,
    codeVerifier := oauth.codeVerifier }

variable (parseUrl : Text → Option Url)

/-- `parse_stream_callback`, and when it returns. -/
def parseStreamCallback (expectedState : Text) (deadline now : ℕ) (connection : Connection) :
    Except AuthError Text × ℕ :=
  match readRequest deadline connection.ending connection.chunks [] now with
  | (.error error, time) => (.error error, time)
  | (.ok request, time) => (parseRequest parseUrl expectedState request, time)

/-- The loop of `wait_for_callback` over the connections it is given.  One that is not there yet
is waited for, but not past the deadline. -/
def waitFrom (oauth : DesktopOAuth) (deadline : ℕ) :
    List Connection → ℕ → Except AuthError TokenExchangeRequest × ℕ
  | [], now => (.error .timedOut, max now deadline)
  | connection :: connections, now =>
      if now < connection.accepted ∧ deadline ≤ connection.accepted then
        (.error .timedOut, max now deadline)
      else
        match parseStreamCallback parseUrl oauth.expectedState deadline
            (max now connection.accepted) connection with
        | (.ok code, time) => (.ok (oauth.exchangeRequest code), time)
        | (.error (.providerRejected code), time) => (.error (.providerRejected code), time)
        -- probes and callbacks with another state are ignored
        | (.error _, time) => waitFrom oauth deadline connections time

/-- `DesktopOAuth::wait_for_callback`. -/
def waitForCallback (oauth : DesktopOAuth) (timeout : ℕ) (connections : List Connection) :
    Except AuthError TokenExchangeRequest × ℕ :=
  waitFrom parseUrl oauth timeout connections 0

/-! ### What is promised -/

/-- The connection delivers in time a request that is accepted, with this code. -/
def Carries (oauth : DesktopOAuth) (deadline : ℕ) (connection : Connection) (code : Text) : Prop :=
  ∃ head rest, connection.Delivers deadline head rest ∧ head.length ≤ maxRequestBytes ∧
    parseRequest parseUrl oauth.expectedState head = .ok code

/-- The connection delivers in time a `GET` for the callback path whose only state is the
expected one, with this code. -/
def DeliversCode (oauth : DesktopOAuth) (deadline : ℕ) (connection : Connection)
    (code : Text) : Prop :=
  ∃ head rest parameters, connection.Delivers deadline head rest ∧
    head.length ≤ maxRequestBytes ∧ IsCallback parseUrl head parameters ∧
    parameters.filter (·.1 = "state".toList) = [("state".toList, oauth.expectedState)] ∧
    getParameter "code" parameters = some code ∧ code ≠ []

/-- No connection carries the expected state with an error. -/
def NoErrorCarried (oauth : DesktopOAuth) (deadline : ℕ) (connections : List Connection) : Prop :=
  ∀ connection ∈ connections, ∀ head rest parameters, connection.Delivers deadline head rest →
    IsCallback parseUrl head parameters →
    getParameter "state" parameters = some oauth.expectedState →
    getParameter "error" parameters = none

/-- A code that is delivered in time is returned, unless an error comes with the state. -/
def CodeKept (oauth : DesktopOAuth) (timeout : ℕ) (connections : List Connection) : Prop :=
  NoErrorCarried parseUrl oauth timeout connections →
    ∀ connection ∈ connections, ∀ code, DeliversCode parseUrl oauth timeout connection code →
      (waitForCallback parseUrl oauth timeout connections).1 = .ok (oauth.exchangeRequest code)

/-- Where no connection carries the expected state, the wait ends with the deadline. -/
def EndsWithDeadline (oauth : DesktopOAuth) (timeout : ℕ) (connections : List Connection) : Prop :=
  (∀ connection ∈ connections, ∀ head rest parameters, connection.Delivers timeout head rest →
      IsCallback parseUrl head parameters →
      getParameter "state" parameters ≠ some oauth.expectedState) →
    waitForCallback parseUrl oauth timeout connections = (.error .timedOut, timeout)

/-- What comes of a connection is decided by its bytes up to the first empty line, whenever it
is served before the deadline. -/
def HeadDecides (oauth : DesktopOAuth) (timeout : ℕ) (connections : List Connection) : Prop :=
  ∀ connection ∈ connections, ∀ head rest, connection.Delivers timeout head rest →
    ∀ now < timeout, (parseStreamCallback parseUrl oauth.expectedState timeout now connection).1 =
      if maxRequestBytes < head.length then
        .error (.invalidRequest "request headers exceeded 16 KiB")
      else parseRequest parseUrl oauth.expectedState head

/-- Behind a head that is UTF-8, the same `read` brings UTF-8. -/
def TextBehind (timeout : ℕ) (connections : List Connection) : Prop :=
  ∀ connection ∈ connections, ∀ head rest, connection.Delivers timeout head rest →
    head.length ≤ maxRequestBytes → (fromUtf8 head).isSome →
    (fromUtf8 (rest.take (maxRequestBytes - head.length))).isSome

/-- A code that is delivered in time is the first one in the list, and the connections in front
of it settle. -/
def FirstCodeReached (oauth : DesktopOAuth) (timeout : ℕ) (connections : List Connection) : Prop :=
  NoErrorCarried parseUrl oauth timeout connections →
    ∀ connection ∈ connections, ∀ code, DeliversCode parseUrl oauth timeout connection code →
      ∃ front taken behind, connections = front ++ taken :: behind ∧
        Carries parseUrl oauth timeout taken code ∧
        ∀ other ∈ front, other.Settles timeout ∧
          ∀ code, ¬ Carries parseUrl oauth timeout other code

variable {parseUrl} {oauth : DesktopOAuth} {expectedState code : Text} {deadline timeout now : ℕ}
  {connection : Connection} {connections : List Connection} {head rest : List UInt8}

/-! ### One connection -/

theorem parseStreamCallback_of_error {error : AuthError} {time : ℕ}
    (h : readRequest deadline connection.ending connection.chunks [] now = (.error error, time)) :
    parseStreamCallback parseUrl expectedState deadline now connection = (.error error, time) := by
  rw [parseStreamCallback, h]

theorem parseStreamCallback_of_ok {request : List UInt8} {time : ℕ}
    (h : readRequest deadline connection.ending connection.chunks [] now = (.ok request, time)) :
    parseStreamCallback parseUrl expectedState deadline now connection =
      (parseRequest parseUrl expectedState request, time) := by
  rw [parseStreamCallback, h]

theorem parseStreamCallback_late (h : deadline ≤ now) :
    parseStreamCallback parseUrl expectedState deadline now connection = (.error .timedOut, now) :=
  parseStreamCallback_of_error (readRequest_late h)

theorem parseStreamCallback_time : (parseStreamCallback parseUrl expectedState deadline now
    connection).2 = (readRequest deadline connection.ending connection.chunks [] now).2 := by
  rw [parseStreamCallback]
  split <;> rename_i heq <;> rw [heq]

/-- A request that arrives is read with what came behind it. -/
theorem parseStreamCallback_of_delivers (h : connection.Delivers deadline head rest)
    (hnow : now < deadline) :
    (parseStreamCallback parseUrl expectedState deadline now connection).1 =
      if maxRequestBytes < head.length then
        .error (.invalidRequest "request headers exceeded 16 KiB")
      else
        parseRequest parseUrl expectedState
          (head ++ rest.take (maxRequestBytes - head.length)) := by
  obtain ⟨-, front, last, behind, hchunks, hfront, hlast, hline, hhead, hbytes⟩ := h
  obtain ⟨time, -, hread⟩ := @readRequest_of_head head rest [] deadline now connection.ending front
    behind last hhead hnow hfront hlast (Nat.zero_le _) hline hbytes
  rw [← hchunks] at hread
  by_cases hlong : maxRequestBytes < head.length
  · rw [if_pos hlong] at hread ⊢
    rw [parseStreamCallback_of_error hread]
  · rw [if_neg hlong] at hread ⊢
    rw [parseStreamCallback_of_ok hread]

/-- Reading itself reports no refusal of the provider. -/
theorem readRequest_ne_rejected {chunks : List Chunk} {received : List UInt8} {ending : Ending} :
    (readRequest deadline ending chunks received now).1 ≠ .error (.providerRejected code) := by
  have hlimit : ∀ received now, readLimit deadline received now ≠
      .error (.providerRejected code) := by
    intro received now h
    rw [readLimit] at h
    split at h
    · cases h
    · split at h <;> cases h
  induction chunks generalizing received now with
  | nil =>
      intro h
      rw [readRequest] at h
      split at h
      · rename_i hlimited
        obtain rfl := Except.error.inj h
        exact hlimit _ _ hlimited
      · cases ending with
        | stalls => cases h
        | closes time =>
            rw [readNothing] at h
            split at h <;> cases h
        | breaks time =>
            rw [readNothing] at h
            split at h <;> cases h
  | cons chunk chunks ih =>
      intro h
      rw [readRequest] at h
      split at h
      · rename_i hlimited
        obtain rfl := Except.error.inj h
        exact hlimit _ _ hlimited
      · split at h
        · cases h
        · split at h
          · cases h
          · exact ih h

/-- What a connection comes to: the request it delivers, or an error that is ignored. -/
theorem parseStreamCallback_cases (hnow : now < deadline)
    (haccepted : connection.accepted < deadline) :
    (∃ head rest, connection.Delivers deadline head rest ∧ head.length ≤ maxRequestBytes ∧
        (parseStreamCallback parseUrl expectedState deadline now connection).1 =
          parseRequest parseUrl expectedState
            (head ++ rest.take (maxRequestBytes - head.length))) ∨
      ∃ error, (parseStreamCallback parseUrl expectedState deadline now connection).1 =
        .error error ∧ ∀ code, error ≠ .providerRejected code := by
  rcases hread : readRequest deadline connection.ending connection.chunks [] now with
    ⟨error | request, time⟩
  · refine Or.inr ⟨error, by rw [parseStreamCallback_of_error hread], ?_⟩
    rintro code rfl
    exact readRequest_ne_rejected (congrArg Prod.fst hread)
  · obtain ⟨front, last, behind, hchunks, hfront, hlast, hline, hsome, rfl⟩ :=
      exists_pieces_of_readRequest (Nat.zero_le _) (by decide) (congrArg Prod.fst hread)
    obtain ⟨head, more, htake, hhead⟩ := exists_head hsome
    have hlength : head.length ≤ maxRequestBytes := by
      have htotal := congrArg List.length htake
      simp only [List.length_take, List.length_append] at htotal
      omega
    have hbytes : bytesOf front ++ last.bytes =
        head ++ (bytesOf front ++ last.bytes).drop head.length := by
      have hinit : head <+: bytesOf front ++ last.bytes :=
        (htake ▸ List.prefix_append head more).trans (List.take_prefix _ _)
      rw [List.prefix_iff_eq_append.mp hinit]
    have hdelivers : connection.Delivers deadline head
        ((bytesOf front ++ last.bytes).drop head.length) :=
      ⟨haccepted, front, last, behind, hchunks, hfront, hlast, hline, hhead, hbytes⟩
    refine Or.inl ⟨head, _, hdelivers, hlength, ?_⟩
    rw [parseStreamCallback_of_delivers hdelivers hnow, if_neg (Nat.not_lt.mpr hlength)]

/-- Bytes behind a head only make the request no text. -/
theorem parseRequest_head_append (h : connection.Delivers deadline head rest) (more : List UInt8) :
    parseRequest parseUrl expectedState (head ++ more) =
      if (fromUtf8 head).isSome ∧ (fromUtf8 more).isNone then
        .error (.invalidRequest "request was not UTF-8")
      else parseRequest parseUrl expectedState head := by
  obtain ⟨-, -, -, -, -, -, -, -, hhead, -⟩ := h
  exact parseRequest_append hhead.ends

/-- What a connection without the expected state comes to is ignored. -/
theorem parseStreamCallback_ignored
    (h : ∀ head rest parameters, connection.Delivers deadline head rest →
      IsCallback parseUrl head parameters → getParameter "state" parameters ≠ some expectedState)
    (hnow : now < deadline) (haccepted : connection.accepted < deadline) :
    ∃ error, (parseStreamCallback parseUrl expectedState deadline now connection).1 =
      .error error ∧ ∀ code, error ≠ .providerRejected code := by
  rcases @parseStreamCallback_cases parseUrl expectedState deadline now connection hnow haccepted
    with ⟨head, rest, hdelivers, hlength, hparse⟩ | hignored
  · rw [hparse, parseRequest_head_append hdelivers]
    split
    · exact ⟨_, rfl, nofun⟩
    · cases hrequest : parseRequest parseUrl expectedState head with
      | ok code =>
          obtain ⟨parameters, hcallback, hstate⟩ :=
            isCallback_of_parseRequest (Or.inl ⟨code, hrequest⟩)
          exact absurd hstate (h _ _ _ hdelivers hcallback)
      | error error =>
          refine ⟨error, rfl, ?_⟩
          rintro code rfl
          obtain ⟨parameters, hcallback, hstate⟩ :=
            isCallback_of_parseRequest (Or.inr ⟨code, hrequest⟩)
          exact absurd hstate (h _ _ _ hdelivers hcallback)
  · exact hignored

/-! ### All of them -/

theorem waitFrom_cons_of_ignored {error : AuthError} {time : ℕ}
    (hserved : ¬ (now < connection.accepted ∧ deadline ≤ connection.accepted))
    (h : parseStreamCallback parseUrl oauth.expectedState deadline (max now connection.accepted)
      connection = (.error error, time)) (hignored : ∀ code, error ≠ .providerRejected code) :
    waitFrom parseUrl oauth deadline (connection :: connections) now =
      waitFrom parseUrl oauth deadline connections time := by
  rw [waitFrom, if_neg hserved, h]
  cases error with
  | providerRejected code => exact absurd rfl (hignored code)
  | _ => rfl

theorem waitFrom_cons_of_ok {time : ℕ}
    (hserved : ¬ (now < connection.accepted ∧ deadline ≤ connection.accepted))
    (h : parseStreamCallback parseUrl oauth.expectedState deadline (max now connection.accepted)
      connection = (.ok code, time)) :
    waitFrom parseUrl oauth deadline (connection :: connections) now =
      (.ok (oauth.exchangeRequest code), time) := by
  rw [waitFrom, if_neg hserved, h]

/-- From the deadline on, whatever connections are there time out one after another. -/
theorem waitFrom_late (h : deadline ≤ now) :
    waitFrom parseUrl oauth deadline connections now = (.error .timedOut, now) := by
  induction connections with
  | nil => rw [waitFrom, max_eq_left h]
  | cons connection connections ih =>
      by_cases hwaits : now < connection.accepted ∧ deadline ≤ connection.accepted
      · rw [waitFrom, if_pos hwaits, max_eq_left h]
      · have hlate : parseStreamCallback parseUrl oauth.expectedState deadline
            (max now connection.accepted) connection = (.error .timedOut, now) := by
          rw [max_eq_left (by omega)]
          exact parseStreamCallback_late h
        rw [waitFrom_cons_of_ignored hwaits hlate nofun, ih]

/-- Reading lasts at most until the deadline. -/
theorem parseStreamCallback_time_le (h : now ≤ deadline) :
    (parseStreamCallback parseUrl expectedState deadline now connection).2 ≤ deadline := by
  rw [parseStreamCallback_time]
  rcases Nat.lt_or_eq_of_le h with hnow | rfl
  · have hroom : ([] : List UInt8).length < maxRequestBytes := by decide
    obtain ⟨hsettles, hlasts⟩ := @readRequest_settles [] deadline now connection.ending
      connection.chunks hnow hroom
    by_cases hsettle : settlesFrom deadline connection.ending connection.chunks []
    · exact (hsettles hsettle).le
    · rw [hlasts hsettle]
  · rw [readRequest_late le_rfl]

theorem waitFrom_of_no_state (hstate : ∀ connection ∈ connections, ∀ head rest parameters,
      connection.Delivers deadline head rest → IsCallback parseUrl head parameters →
      getParameter "state" parameters ≠ some oauth.expectedState) (hnow : now ≤ deadline) :
    waitFrom parseUrl oauth deadline connections now = (.error .timedOut, deadline) := by
  induction connections generalizing now with
  | nil => rw [waitFrom, max_eq_right hnow]
  | cons connection connections ih =>
      rcases Nat.lt_or_eq_of_le hnow with hlt | rfl
      · by_cases haccepted : connection.accepted < deadline
        · have hserve : max now connection.accepted < deadline := by omega
          obtain ⟨error, herror, hignored⟩ :=
            parseStreamCallback_ignored (hstate _ List.mem_cons_self) hserve haccepted
          rw [waitFrom_cons_of_ignored (by omega) (Prod.ext herror rfl) hignored]
          exact ih (fun connection h => hstate connection (List.mem_cons_of_mem _ h))
            (parseStreamCallback_time_le hserve.le)
        · rw [waitFrom, if_pos (by omega), max_eq_right hnow]
      · exact waitFrom_late le_rfl

theorem waitForCallback_endsWithDeadline :
    EndsWithDeadline parseUrl oauth timeout connections :=
  fun h => waitFrom_of_no_state h (Nat.zero_le _)

/-- Where what comes behind a head is text, the connection comes to the code it carries, or to
an error that is ignored. -/
theorem parseStreamCallback_carries (hnow : now < deadline)
    (haccepted : connection.accepted < deadline)
    (htext : ∀ head rest, connection.Delivers deadline head rest →
      head.length ≤ maxRequestBytes → (fromUtf8 head).isSome →
      (fromUtf8 (rest.take (maxRequestBytes - head.length))).isSome)
    (herror : ∀ head rest parameters, connection.Delivers deadline head rest →
      IsCallback parseUrl head parameters →
      getParameter "state" parameters = some oauth.expectedState →
      getParameter "error" parameters = none) :
    (∀ code, Carries parseUrl oauth deadline connection code ↔
        (parseStreamCallback parseUrl oauth.expectedState deadline now connection).1 = .ok code) ∧
      ∀ code, (parseStreamCallback parseUrl oauth.expectedState deadline now connection).1 ≠
        .error (.providerRejected code) := by
  have hread : ∀ head rest, connection.Delivers deadline head rest →
      head.length ≤ maxRequestBytes →
      (parseStreamCallback parseUrl oauth.expectedState deadline now connection).1 =
        parseRequest parseUrl oauth.expectedState head := by
    intro head rest hdelivers hlength
    rw [parseStreamCallback_of_delivers hdelivers hnow, if_neg (Nat.not_lt.mpr hlength),
      parseRequest_head_append hdelivers, if_neg]
    rintro ⟨hsome, hnone⟩
    have hrest := htext _ _ hdelivers hlength hsome
    rw [Option.isNone_iff_eq_none.mp hnone] at hrest
    cases hrest
  have hall := @parseStreamCallback_cases parseUrl oauth.expectedState deadline now connection hnow
    haccepted
  refine ⟨fun code => ⟨?_, fun hcode => ?_⟩, fun code hrejected => ?_⟩
  · rintro ⟨head, rest, hdelivers, hlength, hrequest⟩
    rw [hread _ _ hdelivers hlength, hrequest]
  · rcases hall with ⟨head, rest, hdelivers, hlength, -⟩ | ⟨error, hother, -⟩
    · exact ⟨head, rest, hdelivers, hlength, (hread _ _ hdelivers hlength).symm.trans hcode⟩
    · rw [hother] at hcode
      cases hcode
  · rcases hall with ⟨head, rest, hdelivers, hlength, -⟩ | ⟨error, hother, hignored⟩
    · rw [hread _ _ hdelivers hlength] at hrejected
      obtain ⟨parameters, hcallback, hstate⟩ := isCallback_of_parseRequest (Or.inr ⟨_, hrejected⟩)
      rw [parseRequest_of_isCallback hcallback] at hrejected
      exact (acceptParameters_eq_rejected hrejected).2 (herror _ _ _ hdelivers hcallback hstate)
    · rw [hother] at hrejected
      exact hignored code (Except.error.inj hrejected)

/-- The first code behind a connection without one. -/
theorem exists_front_cons
    (hnone : ∀ code, ¬ Carries parseUrl oauth deadline connection code) :
    (∃ front taken behind, connection :: connections = front ++ taken :: behind ∧
        Carries parseUrl oauth deadline taken code ∧
        ∀ other ∈ front, other.Settles deadline ∧
          ∀ code, ¬ Carries parseUrl oauth deadline other code) ↔
      connection.Settles deadline ∧
        ∃ front taken behind, connections = front ++ taken :: behind ∧
          Carries parseUrl oauth deadline taken code ∧
          ∀ other ∈ front, other.Settles deadline ∧
            ∀ code, ¬ Carries parseUrl oauth deadline other code := by
  constructor
  · rintro ⟨front, taken, behind, hsplit, htaken, hfront⟩
    cases front with
    | nil =>
        obtain ⟨rfl, -⟩ := List.cons.inj hsplit
        exact absurd htaken (hnone code)
    | cons other front =>
        obtain ⟨rfl, rfl⟩ := List.cons.inj hsplit
        exact ⟨(hfront _ List.mem_cons_self).1, front, taken, behind, rfl, htaken,
          fun other h => hfront other (List.mem_cons_of_mem _ h)⟩
  · rintro ⟨hsettles, front, taken, behind, rfl, htaken, hfront⟩
    exact ⟨connection :: front, taken, behind, rfl, htaken,
      List.forall_mem_cons.mpr ⟨⟨hsettles, hnone⟩, hfront⟩⟩

/-- The code that is returned is the first one carried, and it is reached: the connections in
front of it settle. -/
theorem waitFrom_ok_iff (htext : TextBehind deadline connections)
    (herror : NoErrorCarried parseUrl oauth deadline connections) (hnow : now < deadline) :
    (waitFrom parseUrl oauth deadline connections now).1 = .ok (oauth.exchangeRequest code) ↔
      ∃ front taken behind, connections = front ++ taken :: behind ∧
        Carries parseUrl oauth deadline taken code ∧
        ∀ other ∈ front, other.Settles deadline ∧
          ∀ code, ¬ Carries parseUrl oauth deadline other code := by
  induction connections generalizing now with
  | nil =>
      constructor
      · intro h
        cases h
      · rintro ⟨front, taken, behind, hnil, -⟩
        simp at hnil
  | cons connection connections ih =>
      have htext' : TextBehind deadline connections :=
        fun other h => htext other (List.mem_cons_of_mem _ h)
      have herror' : NoErrorCarried parseUrl oauth deadline connections :=
        fun other h => herror other (List.mem_cons_of_mem _ h)
      by_cases haccepted : connection.accepted < deadline
      · have hserved : ¬ (now < connection.accepted ∧ deadline ≤ connection.accepted) := by omega
        have hserve : max now connection.accepted < deadline := by omega
        obtain ⟨hcarries, hrejected⟩ := @parseStreamCallback_carries parseUrl oauth deadline _ _
          hserve haccepted (htext _ List.mem_cons_self) (herror _ List.mem_cons_self)
        rcases hparse : parseStreamCallback parseUrl oauth.expectedState deadline
          (max now connection.accepted) connection with ⟨error | found, time⟩
        · rw [hparse] at hcarries hrejected
          have hnone : ∀ code, ¬ Carries parseUrl oauth deadline connection code := by
            intro code h
            cases (hcarries code).mp h
          rw [waitFrom_cons_of_ignored hserved hparse
            fun code h => hrejected code (congrArg Except.error h), exists_front_cons hnone]
          by_cases hsettles : connection.Settles deadline
          · have htime : time < deadline := by
              have hbefore := (readRequest_settles hserve (by decide)).1 hsettles.2
              rwa [← parseStreamCallback_time, hparse] at hbefore
            rw [ih htext' herror' htime]
            exact (and_iff_right hsettles).symm
          · have htime : time = deadline := by
              have hlasts := (readRequest_settles hserve (by decide)).2
                fun h => hsettles ⟨haccepted, h⟩
              have hboth := congrArg Prod.snd hparse
              rw [parseStreamCallback_time, hlasts] at hboth
              exact hboth.symm
            rw [waitFrom_late htime.ge]
            constructor
            · intro h
              cases h
            · exact fun h => absurd h.1 hsettles
        · rw [hparse] at hcarries
          have hfound : Carries parseUrl oauth deadline connection found := (hcarries found).mpr rfl
          rw [waitFrom_cons_of_ok hserved hparse]
          constructor
          · intro h
            have hcode : found = code :=
              congrArg TokenExchangeRequest.code (Except.ok.inj h)
            exact ⟨[], connection, connections, rfl, hcode ▸ hfound, List.forall_mem_nil _⟩
          · rintro ⟨front, taken, behind, hsplit, htaken, hfront⟩
            cases front with
            | nil =>
                obtain ⟨rfl, -⟩ := List.cons.inj hsplit
                obtain rfl := Except.ok.inj ((hcarries code).mp htaken)
                rfl
            | cons other front =>
                obtain ⟨rfl, -⟩ := List.cons.inj hsplit
                exact absurd hfound ((hfront _ List.mem_cons_self).2 found)
      · have hnone : ∀ code, ¬ Carries parseUrl oauth deadline connection code := by
          rintro code ⟨head, rest, hdelivers, -⟩
          exact haccepted hdelivers.1
        rw [exists_front_cons hnone]
        refine ⟨fun h => ?_, fun h => absurd h.1.1 haccepted⟩
        by_cases hwaits : now < connection.accepted
        · rw [waitFrom, if_pos ⟨hwaits, by omega⟩] at h
          cases h
        · omega

/-- The head decides exactly when what comes behind it is text. -/
theorem headDecides_iff :
    HeadDecides parseUrl oauth timeout connections ↔ TextBehind timeout connections := by
  constructor
  · intro h connection hmem head rest hdelivers hlength hsome
    by_contra hnone
    have htime : 0 < timeout := Nat.zero_lt_of_lt hdelivers.1
    have hparse := h connection hmem head rest hdelivers 0 htime
    have hmore := Option.isNone_iff_eq_none.mpr (Option.not_isSome_iff_eq_none.mp hnone)
    rw [parseStreamCallback_of_delivers hdelivers htime, if_neg (Nat.not_lt.mpr hlength),
      if_neg (Nat.not_lt.mpr hlength), parseRequest_head_append hdelivers,
      if_pos ⟨hsome, hmore⟩] at hparse
    rw [parseRequest_eq_notUtf8 hparse.symm] at hsome
    cases hsome
  · intro h connection hmem head rest hdelivers now hnow
    rw [parseStreamCallback_of_delivers hdelivers hnow]
    by_cases hlong : maxRequestBytes < head.length
    · rw [if_pos hlong, if_pos hlong]
    · rw [if_neg hlong, if_neg hlong, parseRequest_head_append hdelivers, if_neg]
      rintro ⟨hsome, hnone⟩
      have hrest := h connection hmem head rest hdelivers (Nat.le_of_not_lt hlong) hsome
      rw [Option.isNone_iff_eq_none.mp hnone] at hrest
      cases hrest

theorem codeKept_iff (htext : TextBehind timeout connections) :
    CodeKept parseUrl oauth timeout connections ↔
      FirstCodeReached parseUrl oauth timeout connections := by
  refine forall_congr' fun herror => forall₂_congr fun connection hmem =>
    forall₂_congr fun code hdelivers => ?_
  obtain ⟨head, rest, -, hbrings, -⟩ := hdelivers
  exact waitFrom_ok_iff htext herror (Nat.zero_lt_of_lt hbrings.1)

/-- **The callback.**  What the loop promises of a list of connections holds exactly when every
`read` that completes a request brings text, and each code delivered in time is the first one in
the list, behind connections that settle before the deadline. -/
theorem callback_kept_iff (parseUrl : Text → Option Url) (oauth : DesktopOAuth) (timeout : ℕ)
    (connections : List Connection) :
    (CodeKept parseUrl oauth timeout connections ∧
        EndsWithDeadline parseUrl oauth timeout connections ∧
        HeadDecides parseUrl oauth timeout connections) ↔
      TextBehind timeout connections ∧ FirstCodeReached parseUrl oauth timeout connections := by
  constructor
  · rintro ⟨hcode, -, hhead⟩
    have htext := headDecides_iff.mp hhead
    exact ⟨htext, (codeKept_iff htext).mp hcode⟩
  · rintro ⟨htext, hfirst⟩
    exact ⟨(codeKept_iff htext).mpr hfirst, waitForCallback_endsWithDeadline,
      headDecides_iff.mpr htext⟩

/-! ### A connection that says nothing -/

/-- The browser's callback. -/
def sampleRequest : Text :=
  "GET /oauth/callback?code=c&state=s HTTP/1.1\r\nHost: 127.0.0.1\r\n\r\n".toList

/-- The parser at the target of the sample. -/
def sampleUrl (text : Text) : Option Url :=
  if text = "http://127.0.0.1/oauth/callback?code=c&state=s".toList then
    some { path := callbackPath
           queryPairs := [("code".toList, "c".toList), ("state".toList, "s".toList)] }
  else none

/-- A sign-in that waits for the callback of `sampleRequest`. -/
def sampleOAuth : DesktopOAuth :=
  { clientId := "client".toList, redirectUri := "http://127.0.0.1:4000/oauth/callback".toList,
    expectedState := "s".toList, codeVerifier := "verifier".toList }

/-- A connection that is opened and left alone. -/
def silent : Connection := { accepted := 0, chunks := [], ending := .stalls }

/-- The browser, which sends its request at once. -/
def browser : Connection :=
  { accepted := 0
    chunks := [{ time := 1, bytes := utf8Bytes sampleRequest, nonempty := by decide +kernel,
                 fits := by decide +kernel }]
    ending := .closes 2 }

theorem deliversCode_browser :
    DeliversCode sampleUrl sampleOAuth 60 browser "c".toList := by
  refine ⟨utf8Bytes sampleRequest, [], [("code".toList, "c".toList), ("state".toList, "s".toList)],
    ⟨by decide, [], _, [], rfl, List.forall_mem_nil _, by decide, rfl,
      ⟨by decide +kernel, by decide +kernel⟩, (List.append_nil _).symm⟩, by decide +kernel,
    ⟨sampleRequest, _, _, _, fromUtf8_utf8Bytes _, rfl, by decide +kernel, rfl, rfl, rfl, rfl⟩,
    by decide, by decide, by decide⟩

/-- The browser is not heard behind the silent connection. -/
theorem silent_connection_loses_code :
    ¬ (CodeKept sampleUrl sampleOAuth 60 [silent, browser] ∧
        EndsWithDeadline sampleUrl sampleOAuth 60 [silent, browser] ∧
        HeadDecides sampleUrl sampleOAuth 60 [silent, browser]) := by
  rintro ⟨hkept, -, -⟩
  have hnone : NoErrorCarried sampleUrl sampleOAuth 60 [silent, browser] := by
    rintro connection - head rest parameters - ⟨_, _, target, callback, -, -, -, -, hurl, -, rfl⟩ -
    rw [sampleUrl] at hurl
    split at hurl
    · obtain rfl := Option.some.inj hurl
      decide
    · cases hurl
  have hcode := hkept hnone browser (by simp) _ deliversCode_browser
  have htimed : (waitForCallback sampleUrl sampleOAuth 60 [silent, browser]).1 =
      .error .timedOut := rfl
  rw [htimed] at hcode
  cases hcode

end MyVault.Auth
