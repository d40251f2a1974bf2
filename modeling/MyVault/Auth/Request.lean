import MyVault.Core.Utf8

/-!
# The request of the browser

What `desktop-auth` reads out of the request that a browser sends to the loopback listener:
the second field of the request line is a target, and its query carries the state and the
code.  The `Url` of the `url` crate is a parameter: of the text it parses, the path and the
decoded query pairs are used.

Only the request line counts, so bytes behind the empty line change nothing as long as the
request is UTF-8 as a whole (`parseRequest_append`).
-/

namespace MyVault.Auth

/-- `CALLBACK_PATH`. -/
def callbackPath : Text := "/oauth/callback".toList

/-- `AuthError`, as far as waiting for the callback meets it. -/
inductive AuthError where
  | io
  | url
  | timedOut
  | invalidRequest (reason : String)
  | invalidState
  | providerRejected (code : Text)
  deriving DecidableEq, Repr

/-- What is used of a parsed `Url`: `path()` and `query_pairs()`. -/
structure Url where
  path : Text
  queryPairs : List (Text × Text)

/-- `char::is_whitespace`. -/
def isWhitespace (c : Char) : Bool :=
  (0x09 ≤ c.toNat && c.toNat ≤ 0x0d) || c.toNat == 0x20 || c.toNat == 0x85 || c.toNat == 0xa0 ||
    c.toNat == 0x1680 || (0x2000 ≤ c.toNat && c.toNat ≤ 0x200a) || c.toNat == 0x2028 ||
    c.toNat == 0x2029 || c.toNat == 0x202f || c.toNat == 0x205f || c.toNat == 0x3000

/-- `str::split_whitespace`. -/
def splitWhitespace (t : Text) : List Text := (t.splitOnP isWhitespace).filter (· ≠ [])

/-- A line without the carriage return in front of its line feed. -/
def withoutCarriageReturn (line : Text) : Text :=
  if line.getLast? = some '\r' then line.dropLast else line

/-- `lines().next()`. -/
def firstLine (request : Text) : Option Text :=
  if request = [] then none
  else if '\n' ∈ request then some (withoutCarriageReturn (request.takeWhile (· ≠ '\n')))
  else some request

/-- `bounded_provider_error_code`. -/
def boundedProviderErrorCode (code : Text) : Text :=
  if code ≠ [] ∧ utf8Len code ≤ 64 ∧ code.all (fun c => c.isAlphanum || c ∈ ['_', '-', '.']) then
    code
  else "provider_error".toList

/-- `parameters.get(key)`: of several pairs with one name the map keeps the last. -/
def getParameter (key : String) (parameters : List (Text × Text)) : Option Text :=
  (parameters.filter (·.1 = key.toList)).getLast?.map (·.2)

/-- The second half of `parse_callback_target`: the parameters of a request for the callback
path. -/
def acceptParameters (expectedState : Text) (parameters : List (Text × Text)) :
    Except AuthError Text :=
  match getParameter "state" parameters with
  | none => .error (.invalidRequest "state missing")
  | some state =>
      if utf8Bytes state ≠ utf8Bytes expectedState then .error .invalidState
      else
        match getParameter "error" parameters with
        | some code => .error (.providerRejected (boundedProviderErrorCode code))
        | none =>
            match (getParameter "code" parameters).filter (· ≠ []) with
            | none => .error (.invalidRequest "authorization code missing")
            | some code => .ok code

variable (parseUrl : Text → Option Url)

/-- `parse_callback_target`. -/
def parseCallbackTarget (target expectedState : Text) : Except AuthError Text :=
  match parseUrl ("http://127.0.0.1".toList ++ target) with
  | none => .error .url
  | some callback =>
      if callback.path ≠ callbackPath then .error (.invalidRequest "callback path did not match")
      else acceptParameters expectedState callback.queryPairs

/-- What `parse_stream_callback` does with the text it has read. -/
def parseRequestText (expectedState request : Text) : Except AuthError Text :=
  match firstLine request with
  | none => .error (.invalidRequest "request line missing")
  | some line =>
      if (splitWhitespace line)[0]? ≠ some "GET".toList then
        .error (.invalidRequest "only GET is accepted")
      else
        match (splitWhitespace line)[1]? with
        | none => .error (.invalidRequest "request target missing")
        | some target => parseCallbackTarget parseUrl target expectedState

/-- What `parse_stream_callback` does with the bytes it has read. -/
def parseRequest (expectedState : Text) (request : List UInt8) : Except AuthError Text :=
  match fromUtf8 request with
  | none => .error (.invalidRequest "request was not UTF-8")
  | some request => parseRequestText parseUrl expectedState request

/-- A `GET` for the callback path, with these parameters. -/
def IsCallback (request : List UInt8) (parameters : List (Text × Text)) : Prop :=
  ∃ text line target callback, fromUtf8 request = some text ∧ firstLine text = some line ∧
    (splitWhitespace line)[0]? = some "GET".toList ∧ (splitWhitespace line)[1]? = some target ∧
    parseUrl ("http://127.0.0.1".toList ++ target) = some callback ∧
    callback.path = callbackPath ∧ callback.queryPairs = parameters

variable {parseUrl} {request : List UInt8} {parameters : List (Text × Text)}
  {expectedState code : Text}

theorem parseRequest_of_isCallback (h : IsCallback parseUrl request parameters) :
    parseRequest parseUrl expectedState request = acceptParameters expectedState parameters := by
  obtain ⟨text, line, target, callback, htext, hline, hmethod, htarget, hurl, hpath, rfl⟩ := h
  simp only [parseRequest, htext, parseRequestText, hline, hmethod, htarget, parseCallbackTarget,
    hurl, hpath, ne_eq, not_true_eq_false, if_false]

/-- Of anything else the parser makes an error that names no provider. -/
theorem parseRequest_of_not_isCallback
    (h : ∀ parameters, ¬ IsCallback parseUrl request parameters) :
    parseRequest parseUrl expectedState request = .error .url ∨
      ∃ reason, parseRequest parseUrl expectedState request = .error (.invalidRequest reason) := by
  rw [parseRequest]
  cases htext : fromUtf8 request with
  | none => exact Or.inr ⟨_, rfl⟩
  | some text =>
      show parseRequestText parseUrl expectedState text = _ ∨ ∃ reason,
        parseRequestText parseUrl expectedState text = _
      rw [parseRequestText]
      cases hline : firstLine text with
      | none => exact Or.inr ⟨_, rfl⟩
      | some line =>
          by_cases hmethod : (splitWhitespace line)[0]? = some "GET".toList
          · cases htarget : (splitWhitespace line)[1]? with
            | none =>
                refine Or.inr ⟨"request target missing", ?_⟩
                simp only [hmethod, htarget, ne_eq, not_true_eq_false, if_false]
            | some target =>
                simp only [hmethod, htarget, ne_eq, not_true_eq_false, if_false,
                  parseCallbackTarget]
                cases hurl : parseUrl ("http://127.0.0.1".toList ++ target) with
                | none => exact Or.inl rfl
                | some callback =>
                    have hpath : callback.path ≠ callbackPath := fun hpath =>
                      h _ ⟨text, line, target, callback, htext, hline, hmethod, htarget, hurl,
                        hpath, rfl⟩
                    exact Or.inr ⟨_, if_pos hpath⟩
          · exact Or.inr ⟨_, if_pos hmethod⟩

theorem acceptParameters_eq_ok (h : acceptParameters expectedState parameters = .ok code) :
    getParameter "state" parameters = some expectedState := by
  rw [acceptParameters] at h
  split at h
  · cases h
  · rename_i state hstate
    split at h
    · cases h
    · rename_i heq
      rw [hstate, utf8Bytes_injective (not_not.mp heq)]

theorem acceptParameters_eq_rejected
    (h : acceptParameters expectedState parameters = .error (.providerRejected code)) :
    getParameter "state" parameters = some expectedState ∧
      getParameter "error" parameters ≠ none := by
  rw [acceptParameters] at h
  split at h
  · cases h
  · rename_i state hstate
    split at h
    · cases h
    · rename_i heq
      refine ⟨by rw [hstate, utf8Bytes_injective (not_not.mp heq)], fun hnone => ?_⟩
      rw [hnone] at h
      dsimp only at h
      split at h <;> cases h

/-- An accepted code or a refusal by the provider comes with the expected state. -/
theorem isCallback_of_parseRequest (h : (∃ code, parseRequest parseUrl expectedState request =
    .ok code) ∨ ∃ code, parseRequest parseUrl expectedState request =
      .error (.providerRejected code)) :
    ∃ parameters, IsCallback parseUrl request parameters ∧
      getParameter "state" parameters = some expectedState := by
  by_cases hcallback : ∃ parameters, IsCallback parseUrl request parameters
  · obtain ⟨parameters, hcallback⟩ := hcallback
    refine ⟨parameters, hcallback, ?_⟩
    rw [parseRequest_of_isCallback hcallback] at h
    rcases h with ⟨code, h⟩ | ⟨code, h⟩
    · exact acceptParameters_eq_ok h
    · exact (acceptParameters_eq_rejected h).1
  · have hother := @parseRequest_of_not_isCallback parseUrl request expectedState
      (not_exists.mp hcallback)
    rcases h with ⟨code, h⟩ | ⟨code, h⟩ <;> rw [h] at hother <;>
      rcases hother with hother | ⟨reason, hother⟩ <;> cases hother

/-! ### Bytes behind the request line -/

theorem firstLine_append {head rest : Text} (h : '\n' ∈ head) :
    firstLine (head ++ rest) = firstLine head := by
  have hne : head ≠ [] := List.ne_nil_of_mem h
  have htake : (head ++ rest).takeWhile (· ≠ '\n') = head.takeWhile (· ≠ '\n') := by
    obtain ⟨s, r, rfl⟩ := List.append_of_mem h
    clear hne h
    induction s with
    | nil => simp
    | cons c s ih =>
        simp only [List.cons_append, List.takeWhile_cons]
        rw [List.append_assoc, List.cons_append] at ih
        split
        · rw [List.append_assoc, List.cons_append, ih]
        · rfl
  rw [firstLine, firstLine, if_neg (by simp [hne]), if_pos (List.mem_append_left _ h), htake,
    if_neg hne, if_pos h]

/-- Bytes behind a line feed count only in that the whole must be UTF-8. -/
theorem parseRequest_append {head rest : List UInt8} (h : ∃ front, head = front ++ [10]) :
    parseRequest parseUrl expectedState (head ++ rest) =
      if (fromUtf8 head).isSome ∧ (fromUtf8 rest).isNone then
        .error (.invalidRequest "request was not UTF-8")
      else parseRequest parseUrl expectedState head := by
  obtain ⟨front, rfl⟩ := h
  have hsplit : front ++ [10] ++ rest = front ++ 10 :: rest := by simp
  rw [parseRequest, parseRequest, hsplit, fromUtf8_line_append]
  cases hhead : fromUtf8 (front ++ [10]) with
  | none => simp
  | some head =>
      cases hrest : fromUtf8 rest with
      | none => simp
      | some rest =>
          obtain ⟨s, r, rfl, -, -⟩ := exists_lines (fromUtf8_eq_some.mp hhead)
          have hline : '\n' ∈ s ++ '\n' :: r := List.mem_append_right _ List.mem_cons_self
          simp only [Option.bind_some, Option.map_some, parseRequestText, firstLine_append hline,
            Option.isSome_some, Option.isNone_some, Bool.false_eq_true, and_false, if_false]

theorem parseRequest_eq_notUtf8 (h : parseRequest parseUrl expectedState request =
    .error (.invalidRequest "request was not UTF-8")) : fromUtf8 request = none := by
  cases htext : fromUtf8 request with
  | none => rfl
  | some text =>
      exfalso
      simp only [parseRequest, htext, parseRequestText, parseCallbackTarget, acceptParameters] at h
      split at h
      · simp at h
      · split at h
        · simp at h
        · split at h
          · simp at h
          · split at h
            · simp at h
            · split at h
              · simp at h
              · split at h
                · simp at h
                · split at h
                  · simp at h
                  · split at h
                    · simp at h
                    · split at h <;> simp at h

end MyVault.Auth
